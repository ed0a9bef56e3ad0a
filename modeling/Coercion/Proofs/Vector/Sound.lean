import Coercion.Proofs.Column.Stored
import Coercion.Proofs.Unify.Order

/-!
Sound vectors. The columns that the constructors make of raw data are of built-in kinds, are in the storage of their
types, and hold nothing else than that does.
-/

namespace Coercion

/-- A type of a built-in kind, with no integers beside floating-point numbers among its levels. -/
structure VectorType.IsPure (t : VectorType) : Prop where
  standard : t.IsStandard
  builtIn : t.isBuiltIn = true
  unmixed : ∀ levels, t = .categorical levels → ∀ l ∈ levels, ∀ m ∈ levels,
    isIntLevel (storedLevel l) = true → isDoubleLevel (storedLevel m) = false

/-- A type of a built-in kind without levels. -/
structure VectorType.IsUnlevelled (t : VectorType) : Prop where
  standard : t.IsStandard
  builtIn : t.isBuiltIn = true
  noLevels : ∀ levels, t ≠ .categorical levels

namespace TypedVector

/-- A well-formed vector of a built-in kind, with no integers beside floating-point numbers among its levels. -/
structure Sound (v : TypedVector) : Prop extends v.WellFormed where
  kind : v.type.IsPure

end TypedVector

open VectorType Column TypedVector

variable {v w : TypedVector} {s t : VectorType} {c : Column}

/-! ### Types -/

lemma VectorType.IsUnlevelled.isPure (h : t.IsUnlevelled) : t.IsPure := by
  refine ⟨h.standard, h.builtIn, ?_⟩
  intro levels ht
  exact absurd ht (h.noLevels levels)

namespace VectorType.IsPure

lemma storedLevels_eq {levels : List Value} (h : (VectorType.categorical levels).IsPure) :
    storedLevels levels = levels.map storedLevel :=
  storedLevels_eq_map (h.unmixed levels rfl)

/-- Every level is equal to its stored form. -/
lemma sameAll_storedLevels {levels : List Value} (h : (VectorType.categorical levels).IsPure) :
    Value.sameAll (storedLevels levels) levels = true := by
  rw [h.storedLevels_eq, Value.sameAll_iff, List.forall₂_map_left_iff, List.forall₂_same]
  intro l hl
  exact (same_storedLevel l l).2 (h.standard.legalLevels.level l hl).self

end VectorType.IsPure

/-- The storage of a type is the same as itself. -/
lemma VectorType.IsPure.same_storage (ht : t.IsPure) : t.storage.same t.storage = true := by
  cases ht.standard with
  | categorical =>
    have hstored := ht.sameAll_storedLevels
    rw [← Value.same_tuple] at hstored
    rw [storage, Dtype.same, ← Value.same_tuple]
    exact Value.same_trans hstored (Value.same_symm hstored)
  | datetime zone => simp [storage, Dtype.same]
  | _ => rfl

/-! ### Vectors -/

namespace TypedVector.Sound

/-- The column of a sound vector is one that can be made over to another type. -/
lemma genuine (h : v.Sound) : v.column.IsGenuine :=
  fun _ _ _ => h.held

lemma of_inFormat (ht : t.IsPure) (hc : c.InFormat t.storage) (hadmits : ∀ x ∈ c.values, t.Admits x) :
    Sound ⟨t, c⟩ where
  kind := ht
  standard := ht.standard
  stored := hc.dtype ▸ ht.same_storage
  held := hc.dtype ▸ hc.held
  admitted := hadmits

/-- The format of a vector without levels is that of its type. -/
lemma inFormat (h : v.Sound) (hnot : ∀ levels, v.type ≠ .categorical levels) : v.column.InFormat v.type.storage := by
  have hdtype : v.column.dtype = v.type.storage := Dtype.eq_of_same h.stored (storage_ne_category h.kind.standard hnot)
  exact ⟨hdtype, hdtype ▸ h.held⟩

end TypedVector.Sound

lemma sound_of_construct {d : Column} (ht : t.IsPure) (hc : c.IsGenuine) (h : t.construct c = .ok d) : Sound ⟨t, d⟩ :=
  .of_inFormat ht (yields_construct ht.standard hc d h) (admits_construct h)

/-! ### What holds of sound vectors -/

/-- A vector whose storage agrees with its type. -/
structure TypedVector.Coherent (v : TypedVector) : Prop where
  stored : v.column.dtype.same v.type.storage = true
  null : v.type = .null → v.values = []
  unspecified : v.type = .unspecified → ∀ x ∈ v.values, x.isMissing = true
  /-- Integers have eight bytes. -/
  integer : v.type = .integer → ∀ x ∈ v.values, x = .notAvailable ∨ ∃ n, x = .int n ∧ -2 ^ 63 ≤ n ∧ n < 2 ^ 63
  /-- The levels in storage are those of the type, in the same order. -/
  levels : ∀ levels, v.type = .categorical levels →
    ∃ stored, v.column.dtype = .category (some stored) ∧ Value.sameAll stored levels = true
  /-- Every value of a categorical is one of its levels. -/
  level : ∀ levels, v.type = .categorical levels → ∀ x ∈ v.values, x.isMissing = false → x.isIn levels = true
  date : v.type = .date → ∀ x ∈ v.values, x = .notATime ∨ ∃ day, x = .period day
  datetime : ∀ zone, v.type = .datetime zone → v.column.dtype = .instants "ns" zone ∧
    ∀ x ∈ v.values, x = .notATime ∨ ∃ t, x = .instant t zone ∧ Reading.inRange t = true
  list : v.type = .list → ∀ x ∈ v.values, x = .absent ∨ ∃ xs, x = .list xs

namespace TypedVector.Sound

/-- The format of a vector of a type without levels. -/
lemma inFormat_of_type (h : v.Sound) (hs : v.type = s) (hnot : ∀ levels, s ≠ .categorical levels) :
    v.column.InFormat s.storage := by
  subst hs
  exact h.inFormat hnot

lemma admitted_of_type (h : v.Sound) (hs : v.type = s) : ∀ x ∈ v.values, s.Admits x := by
  subst hs
  exact h.admitted

lemma storedLevels_of_type (h : v.Sound) {levels : List Value} (hs : v.type = .categorical levels) :
    ∃ stored, v.column.dtype = .category (some stored) ∧ Value.sameAll stored levels = true := by
  have hkind := h.kind
  have hstored := h.stored
  rw [hs] at hkind hstored
  obtain ⟨stored, hdtype, hsame⟩ := Dtype.eq_category_of_same hstored
  refine ⟨stored, hdtype, ?_⟩
  have hlevels := hkind.sameAll_storedLevels
  rw [← Value.same_tuple] at hsame hlevels ⊢
  exact Value.same_trans hsame hlevels

/-- **The storage of a sound vector agrees with its type.** -/
theorem coherent (h : v.Sound) : v.Coherent where
  stored := h.stored
  null hs := List.eq_nil_iff_forall_not_mem.2 fun x hx => h.admitted_of_type hs x hx
  unspecified hs x hx := by
    rw [show x = .absent from h.admitted_of_type hs x hx]
    rfl
  integer hs x hx := by
    have hformat := h.inFormat_of_type hs fun _ => VectorType.noConfusion
    cases hformat.held x hx with
    | noInt => exact .inl rfl
    | int hfits =>
      simp only [fitsSigned, Bool.and_eq_true, decide_eq_true_eq, Nat.pow_eq] at hfits
      exact .inr ⟨_, rfl, by omega⟩
  levels levels hs := h.storedLevels_of_type hs
  level levels hs x hx hm := by
    obtain ⟨stored, hdtype, hsame⟩ := h.storedLevels_of_type hs
    have hheld := h.held x hx
    rw [hdtype] at hheld
    cases hheld with
    | noLevel => cases hm
    | level hmem =>
      obtain ⟨l, hl, hxl⟩ := Value.exists_same_of_mem hsame hmem
      exact (Value.isIn_iff x levels).2 ⟨l, hl, Value.same_symm hxl⟩
  date hs x hx := (h.inFormat_of_type hs fun _ => VectorType.noConfusion).held x hx |>.cases_days
  datetime zone hs := by
    have hformat := h.inFormat_of_type hs fun _ => VectorType.noConfusion
    exact ⟨hformat.dtype, fun x hx => (hformat.held x hx).cases_instants⟩
  list hs x hx := h.admitted_of_type hs x hx

end TypedVector.Sound

/-! ### Constructors -/

/-- Whether what is made, if anything is, is a sound vector of a type. -/
def VectorType.Delivers (t : VectorType) (made : Except Failure TypedVector) : Prop :=
  ∀ w, made = .ok w → w.type = t ∧ w.Sound

/-- **Constructors make sound vectors.** -/
theorem delivers_vectorOf (ht : t.IsPure) (hc : c.IsGenuine) : t.Delivers (t.vectorOf c) := by
  intro w hw
  obtain ⟨d, hd, hw⟩ := bind_eq_ok_iff.1 hw
  cases hw
  exact ⟨rfl, sound_of_construct ht hc hd⟩

/-- An open column, whatever is in it, makes a sound vector. -/
lemma delivers_ofValues (ht : t.IsPure) (xs : List Value) : t.Delivers (t.vectorOf (.ofValues xs)) :=
  delivers_vectorOf ht (isGenuine_of_open rfl)

lemma delivers_empty (ht : t.IsPure) : t.Delivers t.empty :=
  delivers_ofValues ht []

lemma delivers_missingVector (ht : t.IsPure) (n : Nat) : t.Delivers (t.missingVector n) :=
  delivers_ofValues ht _

/-! ### Raw data -/

lemma isUnlevelled_family (f : Family) : f.type.IsUnlevelled := by
  cases f <;> exact ⟨by constructor, rfl, fun _ => VectorType.noConfusion⟩

lemma isUnlevelled_of_detectZone {xs : List Value} (h : detectZone xs = .ok t) : t.IsUnlevelled := by
  obtain ⟨zones, -, h⟩ := bind_eq_ok_iff.1 h
  split at h <;> cases h
  exact ⟨.datetime _, rfl, fun _ => VectorType.noConfusion⟩

/-- The type that is found for open values is a built-in one without levels. -/
lemma isUnlevelled_of_detectElements (h : c.detectElements = .ok t) : t.IsUnlevelled := by
  rw [detectElements] at h
  split_ifs at h
  · cases h
    exact ⟨.null, rfl, fun _ => VectorType.noConfusion⟩
  · cases h
    exact ⟨.unspecified, rfl, fun _ => VectorType.noConfusion⟩
  · obtain ⟨families, -, h⟩ := bind_eq_ok_iff.1 h
    split at h
    · exact isUnlevelled_of_detectZone h
    · cases h
      exact isUnlevelled_family _
    · cases h
      exact isUnlevelled_family .double
    · cases h
      exact isUnlevelled_family .double
    · cases h

lemma type_of_vectorOf (h : t.vectorOf c = .ok v) : v.type = t := by
  obtain ⟨d, -, h⟩ := bind_eq_ok_iff.1 h
  cases h
  rfl

/-- Open values that are read as what they are make a sound vector without levels. -/
lemma sound_of_detect {xs : List Value}
    (h : ((Column.ofValues xs).detect >>= fun t => t.vectorOf (.ofValues xs)) = .ok v) :
    v.Sound ∧ v.type.IsUnlevelled := by
  obtain ⟨t, ht, h⟩ := bind_eq_ok_iff.1 h
  have hunlevelled : t.IsUnlevelled := isUnlevelled_of_detectElements ht
  rw [type_of_vectorOf h]
  exact ⟨(delivers_ofValues hunlevelled.isPure xs v h).2, hunlevelled⟩

end Coercion
