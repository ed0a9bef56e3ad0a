import Coercion.Proofs.Vector.Construct

/-!
Values made of others one by one. A column whose present values are replaced, or are read, has in each place the marker
of a missing value or what has been made of the present one; and what is made of the same values in two ways is compared
place by place. Instants are read one after the other, but what is read of each does not depend on those before it.
-/

namespace Coercion

/-- Whether a value is made of another one: the marker of a missing one, or what a present one is made. -/
def Value.MadeAs (marker : Value) (made : Value → Value → Prop) (x y : Value) : Prop :=
  if x.isMissing = true then y = marker else made x y

/-- Whether values are made of others one by one. -/
def MadeEach (marker : Value) (made : Value → Value → Prop) (xs ys : List Value) : Prop :=
  List.Forall₂ (Value.MadeAs marker made) xs ys

namespace MadeEach

variable {marker marker' : Value} {made made' : Value → Value → Prop} {image : Value → Value} {xs ys zs : List Value}
  {x : Value}

lemma imp (h : MadeEach marker made xs ys)
    (hmade : ∀ x ∈ xs, x.isMissing = false → ∀ y, made x y → made' x y) : MadeEach marker made' xs ys := by
  refine ((List.forall₂_and_left _ _).2 ⟨hmade, h⟩).imp ?_
  rintro x y ⟨hx, hxy⟩
  rw [Value.MadeAs] at hxy ⊢
  split_ifs at hxy ⊢ with hm
  · exact hxy
  · exact hx (Bool.not_eq_true _ ▸ hm) y hxy

/-- What is made in two steps. -/
lemma map {kept : Value → Prop} (h : MadeEach marker made xs ys) (hkept : ∀ y ∈ ys, kept y)
    (hmarker : image marker = marker') :
    MadeEach marker' (fun x z => ∃ y, made x y ∧ kept y ∧ z = image y) xs (ys.map image) := by
  refine List.forall₂_map_right_iff.2 (((List.forall₂_and_left _ _).2 ⟨hkept, h.flip⟩).flip.imp ?_)
  rintro x y ⟨hy, hxy⟩
  change Value.MadeAs marker made x y at hxy
  rw [Value.MadeAs] at hxy ⊢
  split_ifs at hxy ⊢
  · rw [hxy, hmarker]
  · exact ⟨y, hxy, hy, rfl⟩

lemma of_map (h : ∀ x ∈ xs, Value.MadeAs marker made x (image x)) : MadeEach marker made xs (xs.map image) :=
  List.forall₂_map_right_iff.2 (List.forall₂_same.2 h)

/-- What is made of the same values in two ways is identical where it is for each of the present ones. -/
lemma identicalAll_iff {bad : Value → Prop} (hys : MadeEach marker made xs ys) (hzs : MadeEach marker made' xs zs)
    (hmarker : marker.identical marker = true) (hbad : ∀ x, bad x → x.isMissing = false)
    (h : ∀ x ∈ xs, x.isMissing = false → ∀ y z, made x y → made' x z → (y.identical z = true ↔ ¬ bad x)) :
    Value.identicalAll ys zs = true ↔ ∀ x ∈ xs, ¬ bad x := by
  induction hys generalizing zs with
  | nil =>
    cases hzs
    simp [Value.identicalAll]
  | @cons x y xs ys hxy _ ih =>
    obtain ⟨z, rest, hxz, hrest, rfl⟩ := List.forall₂_cons_left_iff.1 hzs
    have hplace : y.identical z = true ↔ ¬ bad x := by
      rw [Value.MadeAs] at hxy hxz
      split_ifs at hxy hxz with hm
      · rw [hxy, hxz]
        refine iff_of_true hmarker ?_
        intro hx
        exact absurd hm (Bool.not_eq_true _ ▸ hbad x hx)
      · exact h x List.mem_cons_self (Bool.not_eq_true _ ▸ hm) y z hxy hxz
    rw [Value.identicalAll, Bool.and_eq_true, List.forall_mem_cons, hplace,
      ih hrest fun x hx => h x (List.mem_cons_of_mem _ hx)]

end MadeEach

namespace Column

variable {c d : Column}

lemma dtype_mapPresent {e : Dtype} {make : Value → Except Failure Value} (h : c.mapPresent e make = .ok d) :
    d.dtype = e := by
  obtain ⟨_, -, h⟩ := bind_eq_ok_iff.1 h
  cases h
  rfl

/-- The present values of a column are made one by one. -/
lemma madeEach_of_mapPresent {e : Dtype} {make : Value → Except Failure Value} (h : c.mapPresent e make = .ok d) :
    MadeEach e.missing (fun x y => make x = .ok y) c.values d.values := by
  obtain ⟨ys, hys, h⟩ := bind_eq_ok_iff.1 h
  cases h
  refine ((mapM_eq_ok_iff _ _).1 hys).imp ?_
  intro x y hxy
  rw [Value.MadeAs]
  split_ifs at hxy ⊢
  · cases hxy
    rfl
  · exact hxy

section Instants

variable {lead : Option String} {seen : Option (Option Provenance)} {xs : List Value} {read : List (Option ReadInstant)}

end Instants

end Column

end Coercion
