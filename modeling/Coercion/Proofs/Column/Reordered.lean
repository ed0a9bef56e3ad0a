import Coercion.Proofs.Column.Level
import Coercion.Proofs.VectorType.Reordered

/-!
Levels in another order, and the columns that are taken for them. A value is taken for the level that it is equal to,
wherever that stands, and whether a column matches the levels as a whole depends on what they are and not on where they
stand. So two columns of values that are alike are turned into levels side by side.
-/

namespace Coercion

/-! ### Values as levels -/

/-- Whether two values of categoricals are the same: both are missing, or they are equal levels. -/
def Value.SameLevel (x y : Value) : Prop :=
  x = .double .nan ∧ y = .double .nan ∨ x.same y = true

namespace Value.SameLevel

variable {x y z : Value}

lemma symm (h : x.SameLevel y) : y.SameLevel x := by
  rcases h with ⟨hx, hy⟩ | hsame
  · exact .inl ⟨hy, hx⟩
  · exact .inr (same_symm hsame)

lemma alike (h : x.SameLevel y) : x.Alike y := by
  rcases h with ⟨rfl, rfl⟩ | hsame
  · exact .inl rfl
  · exact .inr (.inl hsame)

lemma isMissing_eq (h : x.SameLevel y) : x.isMissing = y.isMissing :=
  h.alike.isMissing_eq

lemma identical (h : x.SameLevel y) : x.identical y = true := by
  rcases h with ⟨rfl, rfl⟩ | hsame
  · rfl
  · exact identical_of_same hsame

end Value.SameLevel

/-- Values that are alike can both be members of a set, or neither can. -/
lemma Value.Alike.unhashable?_eq {x y : Value} (h : x.Alike y) : x.unhashable? = y.unhashable? := by
  rcases h with rfl | hsame | ⟨hx, hy⟩
  · rfl
  · exact same_unhashable? hsame
  · rw [unhashable?_of_held?_eq_none ((isMissing_iff x).1 hx).1, unhashable?_of_held?_eq_none ((isMissing_iff y).1 hy).1]

namespace Column

open Value VectorType

variable {levels levels' : List Value} {c d : Column} {x y : Value}

lemma areNumbers_perm (h : levels.Perm levels') : areNumbers levels = areNumbers levels' := by
  rw [areNumbers, areNumbers, h.isEmpty_eq, h.all_eq]

lemma areBools_perm (h : levels.Perm levels') : areBools levels = areBools levels' := by
  rw [areBools, areBools, h.isEmpty_eq, h.all_eq]

lemma comparable_perm (h : levels.Perm levels') (vs : List Value) : comparable levels vs = comparable levels' vs := by
  rw [comparable, comparable, areNumbers_perm h, areBools_perm h]

/-- A value is taken for equal levels, in whatever order they stand. -/
lemma sameLevel_levelIn_perm (h : levels.Perm levels') (x : Value) :
    (levelIn levels x).SameLevel (levelIn levels' x) := by
  cases hm : x.isMissing with
  | true => exact .inl ⟨levelIn_of_isMissing _ hm, levelIn_of_isMissing _ hm⟩
  | false =>
    have hnot {ls : List Value} (hnan : levelIn ls x = .double .nan) : ¬ (levelIn ls x).same x = true := by
      intro hsame
      have hmissing := same_isMissing hsame
      rw [hnan, hm] at hmissing
      cases hmissing
    rcases levelIn_cases levels x with hl | ⟨hmem, hsame⟩
    · rcases levelIn_cases levels' x with hl' | ⟨hmem', hsame'⟩
      · exact .inl ⟨hl, hl'⟩
      · exact absurd (same_levelIn hm (h.mem_iff.2 hmem') hsame') (hnot hl)
    · have hsame' := same_levelIn hm (h.mem_iff.1 hmem) hsame
      exact .inr (same_trans hsame (same_symm hsame'))

lemma sameLevel_levelIn (h : levels.Perm levels') (hxy : x.Alike y) :
    (levelIn levels x).SameLevel (levelIn levels' y) := by
  rcases hxy with rfl | hsame | ⟨hx, hy⟩
  · exact sameLevel_levelIn_perm h x
  · rw [levelIn_congr levels hsame]
    exact sameLevel_levelIn_perm h y
  · exact .inl ⟨levelIn_of_isMissing _ hx, levelIn_of_isMissing _ hy⟩

/-! ### Columns as levels -/

/-- Whether two columns of levels hold the same values, and match some levels alike. -/
structure SameLevels (levels : List Value) (c d : Column) : Prop where
  values : List.Forall₂ SameLevel c.values d.values
  matched : comparable levels c.present = comparable levels d.present

lemma toLevels_of_hashable (levels : List Value) (h : unhashableIn? c.present = none) :
    c.toLevels levels = .ok ⟨.category (some levels), c.values.map (taken levels c)⟩ := by
  obtain ⟨vs, hvs, -⟩ := toLevels_eq_ok levels h
  rw [hvs, ← values_toLevels hvs]

lemma toLevels_of_unhashable (levels : List Value) (h : unhashableIn? c.present ≠ none) :
    c.toLevels levels = refuse .typeError := by
  rw [toLevels]
  split
  · rfl
  · exact absurd ‹_› h

/-- What is taken for levels matches them. -/
lemma comparable_taken (levels : List Value) (c : Column) :
    comparable levels (Column.ofValues (c.values.map (taken levels c))).present = true := by
  by_contra hnot
  rw [Bool.not_eq_true, comparable_eq_false_iff] at hnot
  obtain ⟨y, hy⟩ := List.exists_mem_of_ne_nil _ hnot.1
  have hopposed := hnot.2 y hy
  obtain ⟨hy, hm⟩ := mem_present.1 hy
  obtain ⟨x, -, rfl⟩ := List.mem_map.1 hy
  rw [taken] at hm hopposed
  split_ifs at hm hopposed
  · rcases levelIn_cases levels x with hnan | ⟨hmem, -⟩
    · rw [hnan] at hm
      cases hm
    · exact not_opposed_of_mem hmem hopposed
  · cases hm

lemma unhashableIn?_present_eq_none (h : List.Forall₂ Alike c.values d.values) (hc : unhashableIn? c.present = none) :
    unhashableIn? d.present = none := by
  rw [unhashableIn?_eq_none_iff] at hc ⊢
  intro y hy
  obtain ⟨hy, hm⟩ := mem_present.1 hy
  obtain ⟨x, hx, hxy⟩ := exists_mem_of_forall₂ h hy
  rw [← hxy.unhashable?_eq]
  exact hc x (mem_present.2 ⟨hx, hxy.isMissing_eq.trans hm⟩)

/-- What is alike in columns that match the levels alike is taken for the same levels. -/
lemma sameLevel_taken (hlevels : levels.Perm levels') (hvalues : List.Forall₂ Alike c.values d.values)
    (hmatched : comparable levels c.present = comparable levels d.present) :
    List.Forall₂ SameLevel (c.values.map (taken levels c)) (d.values.map (taken levels' d)) := by
  rw [List.forall₂_map_left_iff, List.forall₂_map_right_iff]
  refine hvalues.imp ?_
  intro x y hxy
  rw [taken, taken, hmatched, comparable_perm hlevels]
  split_ifs
  · exact sameLevel_levelIn hlevels hxy
  · exact .inl ⟨rfl, rfl⟩

/-- What is not lost when it is taken for a level is a level. -/
lemma alike_taken (h : (taken levels c x).isMissing = x.isMissing) :
    (taken levels c x).Alike x := by
  cases hcomparable : comparable levels c.present with
  | true =>
    rw [taken_of_comparable hcomparable] at h ⊢
    rcases levelIn_cases levels x with hnan | ⟨-, hsame⟩
    · rw [hnan] at h ⊢
      exact .inr (.inr ⟨rfl, h.symm⟩)
    · exact .inr (.inl hsame)
  | false =>
    rw [taken_of_not_comparable hcomparable] at h ⊢
    exact .inr (.inr ⟨rfl, h.symm⟩)

/-- **Columns that are alike are turned into levels side by side**, in whatever order the levels stand. -/
theorem parallel_toLevels (hlevels : levels.Perm levels') (hvalues : List.Forall₂ Alike c.values d.values)
    (hmatched : comparable levels c.present = comparable levels d.present) :
    Parallel (SameLevels levels) (c.toLevels levels) (d.toLevels levels') := by
  by_cases hhash : unhashableIn? c.present = none
  · rw [toLevels_of_hashable levels hhash, toLevels_of_hashable levels' (unhashableIn?_present_eq_none hvalues hhash)]
    refine .ok ⟨sameLevel_taken hlevels hvalues hmatched, ?_⟩
    have hleft := comparable_taken levels c
    have hright := comparable_taken levels' d
    rw [← comparable_perm hlevels] at hright
    exact hleft.trans hright.symm
  · have hhash' : unhashableIn? d.present ≠ none := by
      intro hd
      have halike := hvalues.flip.imp fun _ _ => Alike.symm
      exact hhash (unhashableIn?_present_eq_none halike hd)
    rw [toLevels_of_unhashable levels hhash, toLevels_of_unhashable levels' hhash']
    exact .error rfl

/-! ### Columns that are joined -/

lemma present_flatMap {α : Type} (f : α → List Value) (xs : List α) :
    (Column.ofValues (xs.flatMap f)).present = xs.flatMap fun x => (Column.ofValues (f x)).present :=
  List.filter_flatMap

/-- Lists of values do not match levels just if some of them are not empty, and all that are not empty do not match. -/
lemma comparable_flatMap_eq_false_iff {α : Type} (S : List Value) (f : α → List Value) (xs : List α) :
    comparable S (xs.flatMap f) = false ↔
      (∃ x ∈ xs, f x ≠ []) ∧ ∀ x ∈ xs, f x ≠ [] → comparable S (f x) = false := by
  simp only [comparable_eq_false_iff, ne_eq, List.flatMap_eq_nil_iff, not_forall, List.mem_flatMap, exists_prop]
  refine and_congr_right fun _ => ⟨fun h x hx hne => ⟨hne, fun y hy => h y ⟨x, hx, hy⟩⟩, ?_⟩
  rintro h y ⟨x, hx, hy⟩
  exact (h x hx (List.ne_nil_of_mem hy)).2 y hy

lemma comparable_flatMap_of_forall₂ {α β : Type} {S : List Value} {f : α → List Value} {g : β → List Value}
    {xs : List α} {ys : List β}
    (h : List.Forall₂ (fun x y => (f x = [] ↔ g y = []) ∧ comparable S (f x) = comparable S (g y)) xs ys)
    (hf : comparable S (xs.flatMap f) = false) : comparable S (ys.flatMap g) = false := by
  rw [comparable_flatMap_eq_false_iff] at hf ⊢
  obtain ⟨⟨x, hx, hne⟩, hall⟩ := hf
  constructor
  · obtain ⟨y, hy, hxy⟩ := exists_mem_of_forall₂ h.flip hx
    exact ⟨y, hy, hxy.1.not.1 hne⟩
  · intro y hy hne
    obtain ⟨x, hx, hxy⟩ := exists_mem_of_forall₂ h hy
    rw [← hxy.2]
    exact hall x hx (hxy.1.not.2 hne)

lemma present_eq_nil {c d : Column} (h : List.Forall₂ Value.SameLevel c.values d.values) (hc : c.present = []) :
    d.present = [] := by
  rw [List.eq_nil_iff_forall_not_mem] at hc ⊢
  intro y hy
  obtain ⟨hy, hm⟩ := mem_present.1 hy
  obtain ⟨x, hx, hxy⟩ := exists_mem_of_forall₂ h hy
  exact hc x (mem_present.2 ⟨hx, hxy.isMissing_eq.trans hm⟩)

end Column

end Coercion
