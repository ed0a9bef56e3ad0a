import Coercion.Vector.Detect
import Coercion.Proofs.Vector.Construct

/-!
Vectors that can be read off their own elements. The values of most kinds tell the type of the vector that they come
from, as long as one of them is present; and from its values alone a vector of such a kind is stored again as
it was. The values of a categorical tell the kind of its levels, and those of a null vector or of one that is all
missing tell nothing.
-/

namespace Coercion

/-- The types whose vectors have values of one family. -/
inductive VectorType.OfFamily : VectorType → Family → Prop where
  | logical : OfFamily .logical .logical
  | integer : OfFamily .integer .integer
  | double : OfFamily .double .double
  | character : OfFamily .character .character
  | date : OfFamily .date .date
  | datetime (zone : Option Zone) : OfFamily (.datetime zone) .datetime

/-- Values as an open column has them: the missing ones are absent. -/
def Column.own (xs : List Value) : Column :=
  .ofValues (xs.map fun x => if x.isMissing then .absent else x)

variable {t : VectorType} {f : Family} {xs : List Value} {x : Value}

/-! ### Values in the storage of a type -/

namespace VectorType.OfFamily

lemma isStandard (ht : t.OfFamily f) : t.IsStandard := by
  cases ht <;> constructor

lemma ne_categorical (ht : t.OfFamily f) (levels : List Value) : t ≠ .categorical levels := by
  rintro rfl
  cases ht

lemma family_eq (ht : t.OfFamily f) (hx : t.storage.Holds x) (hm : x.isMissing = false) : x.family = .ok f := by
  cases ht <;> cases hx <;> first | rfl | cases hm

lemma missing_eq (ht : t.OfFamily f) (hx : t.storage.Holds x) (hm : x.isMissing = true) : x = t.storage.missing := by
  cases ht with
  | double =>
    cases hx with
    | @double d _ => cases d <;> first | rfl | cases hm
  | _ => cases hx <;> first | rfl | cases hm

/-- What is stored as a value of one family is a single value. -/
lemma held?_eq (ht : t.OfFamily f) (hx : t.storage.Holds x) : x.held? = none := by
  cases ht <;> cases hx <;> rfl

end VectorType.OfFamily

/-! ### Detection -/

lemma eraseDups_replicate {α : Type} [BEq α] [LawfulBEq α] (a : α) (n : Nat) :
    (List.replicate (n + 1) a).eraseDups = [a] := by
  have hrest : (List.replicate n a).filter (fun b => !b == a) = [] := by
    rw [List.filter_eq_nil_iff]
    intro b hb
    simp [List.eq_of_mem_replicate hb]
  rw [List.replicate_succ, List.eraseDups_cons, hrest]
  rfl

/-- A traversal with one result for all elements, of which there is one at least. -/
lemma mapM_const {α β : Type} [BEq β] [LawfulBEq β] {g : α → Except Failure β} {b : β} {as : List α}
    (h : ∀ a ∈ as, g a = .ok b) (hne : as ≠ []) : ∃ bs, as.mapM g = .ok bs ∧ bs.eraseDups = [b] := by
  refine ⟨as.map fun _ => b, mapM_eq_ok_map h, ?_⟩
  obtain ⟨a, as, rfl⟩ := List.exists_cons_of_ne_nil hne
  rw [List.map_const', List.length_cons, eraseDups_replicate]

namespace Column

variable {c : Column}

lemma detectElements_of_family (h : ∀ v ∈ c.present, v.family = .ok f) (hne : c.present ≠ []) :
    c.detectElements = if f = .datetime then detectZone c.present else .ok f.type := by
  obtain ⟨fs, hfs, hone⟩ := mapM_const h hne
  have hsome : c.present.isEmpty = false := by simpa using hne
  rw [detectElements, hsome]
  simp only [Bool.false_eq_true, if_false, hfs, bind, Except.bind, hone]
  cases f <;> rfl

/-- Without a value there is no type, and without a present one it is not known. -/
lemma detectElements_of_void (h : c.present = []) :
    c.detectElements = .ok (if c.values.isEmpty then .null else .unspecified) := by
  rw [detectElements, h]
  rfl

lemma detectZone_of_zone {zone : Option Zone} {vs : List Value} (h : ∀ v ∈ vs, v.zone = .ok zone) (hne : vs ≠ []) :
    detectZone vs = .ok (.datetime zone) := by
  obtain ⟨zs, hzs, hone⟩ := mapM_const h hne
  rw [detectZone, hzs]
  simp only [bind, Except.bind, hone]
  rfl

/-! ### A vector's own elements -/

lemma present_own (xs : List Value) : (own xs).present = xs.filter fun x => !x.isMissing := by
  induction xs with
  | nil => rfl
  | cons x xs ih =>
    rw [present] at ih ⊢
    cases hx : x.isMissing with
    | true => simpa [own, ofValues, hx, Value.isMissing] using ih
    | false => simpa [own, ofValues, hx] using ih

lemma mem_present_own : x ∈ (own xs).present ↔ x ∈ xs ∧ x.isMissing = false := by
  simp [present_own]

lemma isMissing_of_present_own (h : (own xs).present = []) (hx : x ∈ xs) : x.isMissing = true := by
  by_contra hm
  have hmem : x ∈ (own xs).present := mem_present_own.2 ⟨hx, by simpa using hm⟩
  rw [h] at hmem
  cases hmem

lemma marked_own (xs : List Value) : (own xs).marked = own xs := by
  rw [marked, own, ofValues, List.map_map]
  congr 1
  refine List.map_congr_left fun x _ => ?_
  cases hx : x.isMissing <;> simp [hx, Dtype.missing, Value.isMissing]

/-- **The elements tell the type.** The values of a vector of one family lead back to its type if one of them is
present. -/
theorem detect_own (ht : t.OfFamily f) (h : ∀ x ∈ xs, t.storage.Holds x) (hne : (own xs).present ≠ []) :
    (own xs).detect = .ok t := by
  have hheld : ∀ x ∈ (own xs).present, t.storage.Holds x ∧ x.isMissing = false := by
    intro x hx
    obtain ⟨hx, hm⟩ := mem_present_own.1 hx
    exact ⟨h x hx, hm⟩
  have hfamily : ∀ x ∈ (own xs).present, x.family = .ok f := by
    intro x hx
    exact ht.family_eq (hheld x hx).1 (hheld x hx).2
  change (own xs).detectElements = _
  rw [detectElements_of_family hfamily hne]
  cases ht with
  | datetime zone =>
    refine detectZone_of_zone ?_ hne
    intro x hx
    obtain ⟨hx, hm⟩ := hheld x hx
    cases hx with
    | noInstant => cases hm
    | instant => rfl
  | _ => rfl

/-- Reading own elements one by one gives them back, if every one that is present is read as itself. -/
lemma mapPresent_own (ht : t.OfFamily f) (h : ∀ x ∈ xs, t.storage.Holds x) {g : Value → Except Failure Value}
    (hg : ∀ x ∈ xs, x.isMissing = false → g x = .ok x) : (own xs).mapPresent t.storage g = .ok ⟨t.storage, xs⟩ := by
  have hread : ∀ y ∈ (own xs).values, y.isMissing = false → g y = .ok (id y) := by
    intro y hy hm
    obtain ⟨x, hx, rfl⟩ := List.mem_map.1 hy
    cases hxm : x.isMissing with
    | true => simp [hxm, Value.isMissing] at hm
    | false => simpa [hxm] using hg x hx hxm
  rw [mapPresent_eq_ok hread, own, ofValues, List.map_map]
  congr 2
  refine (List.map_congr_left ?_).trans (List.map_id xs)
  intro x hx
  rw [Function.comp_apply]
  cases hm : x.isMissing with
  | true => exact (ht.missing_eq (h x hx) hm).symm
  | false => simp [hm]

end Column

/-! ### Storage of a vector's own elements -/

namespace Column

lemma all_own {p : Value → Bool} (h : ∀ x ∈ xs, x.isMissing = false → p x = true) : (own xs).present.all p = true := by
  rw [List.all_eq_true]
  intro x hx
  obtain ⟨hx, hm⟩ := mem_present_own.1 hx
  exact h x hx hm

/-- An open column of truth values is read one by one. -/
lemma toBoolean_of_bools (h : (own xs).present.all Value.isBool = true) : (own xs).toBoolean = (own xs).bits := by
  have hcontent : Content.of (own xs).present = .nothing ∨ Content.of (own xs).present = .bools := by
    rw [Content.of]
    split_ifs
    · exact .inl rfl
    · exact .inr rfl
  rw [toBoolean, own, ofValues]
  rcases hcontent with hc | hc <;> rw [own, ofValues] at hc <;> simp only [hc] <;> rfl

/-- Integers alone are not refused for what is beside them. -/
lemma openInts_of_ints {c : Column} (h : c.present.all Value.isInt = true) : c.openInts = c.wholes := by
  have hcontent : Content.of c.present ≠ .mixed := by
    rw [Content.of]
    split_ifs <;> rintro ⟨⟩
  rw [openInts]
  split
  · contradiction
  · rfl

lemma toBoolean_own (h : ∀ x ∈ xs, Dtype.boolean.Holds x) : (own xs).toBoolean = .ok ⟨.boolean, xs⟩ := by
  have hall : (own xs).present.all Value.isBool = true := by
    refine all_own fun x hx hm => ?_
    cases h x hx with
    | noTruth => cases hm
    | truth => rfl
  have hbits : (own xs).bits = .ok ⟨.boolean, xs⟩ := by
    refine mapPresent_own .logical h ?_
    intro x hx hm
    cases h x hx with
    | noTruth => cases hm
    | truth b => cases b <;> rfl
  exact (toBoolean_of_bools hall).trans hbits

lemma wholes_own (h : ∀ x ∈ xs, Dtype.int64.Holds x) : (own xs).wholes = .ok ⟨.int64, xs⟩ := by
  have hints : (own xs).mapPresent .int64 (fun v => do return .int (← checkedInt (← v.toInt))) = .ok ⟨.int64, xs⟩ := by
    refine mapPresent_own .integer h ?_
    intro x hx hm
    cases h x hx with
    | noInt => cases hm
    | @int n fits =>
      have hread : (Value.int n).toInt = .ok n := by simp [Value.toInt, Value.plain, Value.quantity?]
      rw [hread]
      simp [bind, Except.bind, checkedInt, fits, pure, Except.pure]
  -- every integer is equal to itself, so nothing is lost
  have hkept : (((own xs).values.zip xs).all fun p => p.1.isMissing || p.2.same p.1) = true := by
    rw [own, ofValues, List.zip_map_left, List.zip_eq_zipWith, List.zipWith_self, List.map_map, List.all_map,
      List.all_eq_true]
    intro x hx
    cases h x hx with
    | noInt => rfl
    | int => simp [Value.isMissing, Value.same, Value.meaning?, Value.quantity?]
  rw [wholes, hints]
  simp [bind, Except.bind, hkept, pure, Except.pure]

lemma toInt64_own (h : ∀ x ∈ xs, Dtype.int64.Holds x) : (own xs).toInt64 = .ok ⟨.int64, xs⟩ := by
  have hall : (own xs).present.all Value.isInt = true := by
    refine all_own fun x hx hm => ?_
    cases h x hx with
    | noInt => cases hm
    | int => rfl
  have hplain : (own xs).decategorized = own xs := rfl
  rw [toInt64, hplain]
  exact (openInts_of_ints hall).trans (wholes_own h)

lemma toFloat_own (h : ∀ x ∈ xs, Dtype.float64.Holds x) : (own xs).toFloat 64 = .ok ⟨.float64, xs⟩ := by
  refine mapPresent_own .double h ?_
  intro x hx hm
  cases h x hx with
  | @double d binary =>
    have hread : (Value.double d).toStoredDouble = .ok d := rfl
    rw [hread]
    have hnarrow := Double.narrow_eq binary
    exact congrArg (fun x => Except.ok (Value.double x)) hnarrow

lemma toText_own (h : ∀ x ∈ xs, Dtype.string.Holds x) : (own xs).toText = ⟨.string, xs⟩ := by
  have hvalues : (own xs).values.map (fun v => if v.isMissing then .notAvailable else .text (textOf v)) = xs := by
    rw [own, ofValues, List.map_map]
    refine (List.map_congr_left fun x hx => ?_).trans (List.map_id xs)
    cases h x hx <;> rfl
  exact congrArg (Column.mk .string) hvalues

lemma toDays_own (h : ∀ x ∈ xs, Dtype.days.Holds x) : (own xs).toDays = .ok ⟨.days, xs⟩ := by
  refine mapPresent_own .date h ?_
  intro x hx hm
  cases h x hx with
  | noDay => cases hm
  | day => rfl

lemma leadingText_own {zone : Option Zone} (h : ∀ x ∈ xs, (Dtype.instants "ns" zone).Holds x) :
    (own xs).leadingText = none := by
  have hnone : ∀ y ∈ (own xs).values, ∀ s, y ≠ .text s := by
    intro y hy s
    obtain ⟨x, hx, rfl⟩ := List.mem_map.1 hy
    cases h x hx <;> nofun
  rw [leadingText]
  split
  · rename_i s rest heq
    have hmem : Value.text s ∈ (own xs).values := by
      have hhead : Value.text s ∈ Value.text s :: rest := List.mem_cons_self
      rw [← heq] at hhead
      exact (List.dropWhile_sublist _).mem hhead
    exact absurd rfl (hnone _ hmem s)
  · rfl

/-- Instants of one zone are read as themselves, one after the other. -/
lemma readInstants_own {zone : Option Zone} (h : ∀ x ∈ xs, (Dtype.instants "ns" zone).Holds x)
    (seen : Option (Option Provenance)) (hseen : ∀ p ∈ seen, p = zone.map .ofZone) :
    ∃ read, readInstants none seen (own xs).values = .ok read ∧
      ∀ g : Option ReadInstant → Value, g none = .notATime → (∀ r, g (some r) = .instant r.instant zone) →
        read.map g = xs := by
  induction xs generalizing seen with
  | nil => exact ⟨[], rfl, fun _ _ _ => rfl⟩
  | cons x xs ih =>
    have hrest : ∀ y ∈ xs, (Dtype.instants "ns" zone).Holds y := by
      intro y hy
      exact h y (by simp [hy])
    cases h x (by simp) with
    | noInstant =>
      obtain ⟨read, hread, hshown⟩ := ih hrest seen hseen
      refine ⟨none :: read, ?_, fun g hg hsome => by rw [List.map_cons, hg, hshown g hg hsome]⟩
      change (do return none :: (← readInstants none seen (own xs).values)) = _
      rw [hread]
      rfl
    | @instant _ _ t range =>
      obtain ⟨read, hread, hshown⟩ := ih hrest (some (zone.map .ofZone)) (by simp)
      refine ⟨some ⟨t, zone.map .ofZone⟩ :: read, ?_, fun g hg hsome => by
        rw [List.map_cons, hsome, hshown g hg hsome]⟩
      have hagree : (seen.any fun p => decide (p ≠ zone.map .ofZone)) = false := by
        cases seen with
        | none => rfl
        | some p => simp [hseen p rfl]
      change (if (seen.any fun p => decide (p ≠ zone.map .ofZone)) = true then refuse .valueError
        else if (!Reading.inRange t) = true then refuse .outOfBounds
        else do
          return some ⟨t, zone.map .ofZone⟩ :: (← readInstants none (some (zone.map .ofZone)) (own xs).values)) = _
      rw [hagree, range, hread]
      rfl

lemma toInstants_own {zone : Option Zone} (h : ∀ x ∈ xs, (Dtype.instants "ns" zone).Holds x) :
    (own xs).toInstants zone = .ok ⟨.instants "ns" zone, xs⟩ := by
  obtain ⟨read, hread, hshown⟩ := readInstants_own h none nofun
  rw [toInstants_eq]
  change (do
    let read ← readInstants (own xs).leadingText none (own xs).values
    return (⟨.instants "ns" zone, read.map _⟩ : Column)) = _
  rw [leadingText_own h, hread]
  have hvalues := hshown (Value.ofRead zone) rfl fun _ => rfl
  exact congrArg (fun vs => Except.ok (Column.mk (.instants "ns" zone) vs)) hvalues

end Column

namespace VectorType

open Column

/-- **Own elements are stored as they were.** -/
theorem construct_own (ht : t.OfFamily f) (h : ∀ x ∈ xs, t.storage.Holds x) :
    t.construct (own xs) = .ok ⟨t.storage, xs⟩ := by
  have hmarked : (own xs).marked.convert t.storage = (own xs).convert t.storage := by rw [marked_own]
  cases ht with
  | logical => exact hmarked.trans (toBoolean_own h)
  | integer => exact hmarked.trans (toInt64_own h)
  | double => exact hmarked.trans (toFloat_own h)
  | character => exact hmarked.trans (congrArg Except.ok (toText_own h))
  | date => exact toDays_own h
  | datetime zone => exact toInstants_own h

end VectorType

end Coercion
