import Coercion.Vector.Basic
import Coercion.Proofs.Binary.Rounding
import Coercion.Proofs.VectorType.Standard

/-!
Well-formed vectors: vectors of a standard type, stored in the format of the type, with values that the format and the
type have a place for. These are the vectors that the constructors of the standard types make.
-/

namespace Coercion

/-- What a storage format holds: its own marker of missing values, and values of its kind that fit. -/
inductive Dtype.Holds : Dtype → Value → Prop where
  | any (v : Value) : Holds .object v
  | noTruth : Holds (.nullable .bool) .notAvailable
  | truth (b : Bool) : Holds (.nullable .bool) (.bool b)
  | noInt : Holds (.nullable (.int 64)) .notAvailable
  | int {n : Int} (fits : fitsSigned 64 n = true) : Holds (.nullable (.int 64)) (.int n)
  | double {x : Double} (binary : x.IsBinary64) : Holds (.typed (.float 64)) (.double x)
  | noText : Holds .string .notAvailable
  | text (s : String) : Holds .string (.text s)
  | noLevel (levels : List Value) : Holds (.category (some levels)) (.double .nan)
  | level {levels : List Value} {v : Value} (mem : v ∈ levels) : Holds (.category (some levels)) v
  | noDay (frequency : String) : Holds (.period frequency) .notATime
  | day (frequency : String) (day : Int) : Holds (.period frequency) (.period day)
  | noInstant (unit : String) (zone : Option Zone) : Holds (.instants unit zone) .notATime
  | instant (unit : String) (zone : Option Zone) {t : Int} (range : Reading.inRange t = true) :
    Holds (.instants unit zone) (.instant t zone)

/-- What a type whose vectors are stored openly admits. A null vector has no values, an unspecified one has only
missing values, and the elements of a list vector are lists. -/
def VectorType.Admits : VectorType → Value → Prop
  | .null, _ => False
  | .unspecified, v => v = .absent
  | .list, v => v = .absent ∨ ∃ xs, v = .list xs
  | _, _ => True

/-- A vector of a standard type, stored as the type asks for. -/
structure TypedVector.WellFormed (v : TypedVector) : Prop where
  standard : v.type.IsStandard
  stored : v.column.dtype.same v.type.storage = true
  held : ∀ x ∈ v.values, v.column.dtype.Holds x
  admitted : ∀ x ∈ v.values, v.type.Admits x

namespace TypedVector.WellFormed

variable {v : TypedVector}

lemma values_of_null (h : v.WellFormed) (hs : v.type = .null) : v.values = [] := by
  rw [List.eq_nil_iff_forall_not_mem]
  intro x hx
  have hadmits := h.admitted x hx
  rwa [hs] at hadmits

lemma absent_of_unspecified (h : v.WellFormed) (hs : v.type = .unspecified) {x : Value} (hx : x ∈ v.values) :
    x = .absent := by
  have hadmits := h.admitted x hx
  rwa [hs] at hadmits

end TypedVector.WellFormed

/-! ### Storage formats -/

namespace Dtype

/-- Formats without levels are the same if they are equal. -/
lemma eq_of_same {d e : Dtype} (h : d.same e = true) (he : ∀ levels, e ≠ .category (some levels)) : d = e := by
  cases e with
  | category levels =>
    cases levels with
    | none => cases d with
      | category ls => cases ls <;> simp [same] at h ⊢
      | _ => simp [same] at h
    | some ls => exact absurd rfl (he ls)
  | _ =>
    cases d with
    | category ls => cases ls <;> simp [same] at h
    | _ => simp_all [same]

lemma eq_category_of_same {d : Dtype} {levels : List Value} (h : d.same (.category (some levels)) = true) :
    ∃ ls, d = .category (some ls) ∧ Value.sameAll ls levels = true := by
  cases d with
  | category ls =>
    cases ls with
    | none => simp [same] at h
    | some ls => exact ⟨ls, rfl, by simpa [same] using h⟩
  | _ => simp [same] at h

lemma same_refl {d : Dtype} (hd : ∀ levels, d ≠ .category (some levels)) : d.same d = true := by
  cases d with
  | category levels =>
    cases levels with
    | none => rfl
    | some ls => exact absurd rfl (hd ls)
  | _ => simp [same]

end Dtype

/-! ### Stored levels -/

namespace VectorType

open Value

/-- Only categoricals are stored as levels. -/
lemma storage_ne_category {t : VectorType} (ht : t.IsStandard) (hnot : ∀ levels, t ≠ .categorical levels)
    (levels : List Value) : t.storage ≠ .category (some levels) := by
  cases ht with
  | categorical => exact absurd rfl (hnot _)
  | _ => exact Dtype.noConfusion

/-- What holds of every level as it is stored, and of the floating-point number that an integer is widened to, holds of
all stored levels. -/
lemma forall_storedLevels {P : Value → Prop} {levels : List Value} (h : ∀ v ∈ levels, P (storedLevel v))
    (hwide : ∀ n : Int, P (.double (Double.ofInt n))) : ∀ v ∈ storedLevels levels, P v := by
  have hstored : ∀ v ∈ levels.map storedLevel, P v := by
    intro v hv
    obtain ⟨w, hw, rfl⟩ := List.mem_map.1 hv
    exact h w hw
  simp only [storedLevels]
  split_ifs
  · intro v hv
    obtain ⟨w, hw, rfl⟩ := List.mem_map.1 hv
    have hw := hstored w hw
    revert hw
    fun_cases widenedLevel w
    · intro _
      exact hwide _
    · exact id
  · exact hstored

lemma unhashable?_storedLevel (v : Value) : (storedLevel v).unhashable? = v.unhashable? := by
  fun_cases storedLevel v <;> simp [unhashable?]

lemma isMissing_storedLevel (v : Value) : (storedLevel v).isMissing = v.isMissing := by
  fun_cases storedLevel v <;> simp [isMissing]

lemma meaning?_storedLevel (v : Value) : (storedLevel v).meaning? = v.meaning? := by
  fun_cases storedLevel v <;> simp [meaning?, quantity?, momentOf?]

lemma held?_storedLevel (v : Value) : (storedLevel v).held? = v.held? := by
  fun_cases storedLevel v <;> simp [held?]

/-- A level is equal to the same values in its stored form. -/
lemma same_storedLevel (v w : Value) : (storedLevel v).same w = true ↔ v.same w = true := by
  rw [Value.same_iff, Value.same_iff, meaning?_storedLevel, held?_storedLevel]

/-- Levels are stored one by one unless integers stand beside floating-point numbers. -/
lemma storedLevels_eq_map {levels : List Value}
    (h : ∀ l ∈ levels, ∀ m ∈ levels, isIntLevel (storedLevel l) = true → isDoubleLevel (storedLevel m) = false) :
    storedLevels levels = levels.map storedLevel := by
  rw [storedLevels]
  split_ifs with hnumbers
  · rw [Bool.and_eq_true, List.any_eq_true] at hnumbers
    obtain ⟨-, d, hd, hdouble⟩ := hnumbers
    obtain ⟨m, hm, rfl⟩ := List.mem_map.1 hd
    -- beside a floating-point number no level is an integer, so none is widened
    refine (List.map_congr_left ?_).trans (List.map_id _)
    intro v hv
    obtain ⟨l, hl, rfl⟩ := List.mem_map.1 hv
    have hint : isIntLevel (storedLevel l) = false := by
      by_contra hint
      rw [Bool.not_eq_false] at hint
      rw [h l hl m hm hint] at hdouble
      cases hdouble
    generalize storedLevel l = w at hint
    cases w <;> first | rfl | cases hint
  · rfl

/-- Levels can be members of a set in their stored form too. -/
lemma unhashable?_storedLevels {levels : List Value} (h : ∀ v ∈ levels, v.unhashable? = none) :
    ∀ v ∈ storedLevels levels, v.unhashable? = none := by
  refine forall_storedLevels ?_ fun _ => rfl
  intro v hv
  rw [unhashable?_storedLevel, h v hv]

/-- Levels are present in their stored form too. -/
lemma isMissing_storedLevels {levels : List Value} (h : ∀ v ∈ levels, v.isMissing = false) :
    ∀ v ∈ storedLevels levels, v.isMissing = false := by
  refine forall_storedLevels ?_ Double.isNan_ofInt
  intro v hv
  rw [isMissing_storedLevel, h v hv]

end VectorType

end Coercion
