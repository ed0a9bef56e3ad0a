import Coercion.Proofs.Cast.Kept

/-!
Values that are combined into a categorical. Each of them is taken for a level twice: when its vector is cast to the
categorical, unless the levels are listed there in the same way, and once more when the results are joined. Every value
is equal to a level; but truth values alone are not taken for numbers, nor numbers alone for truth values, so a value is
lost if the values around it, in one of the two places, are all opposed to the levels.
-/

namespace Coercion

namespace Engine

open VectorType Registry Column

variable {vs : List TypedVector} {levels : List Value}

/-! ### Matching levels -/

/-- Whether an integer and a floating-point number are among the levels of some vectors. -/
def MixesNumbers (vs : List TypedVector) : Prop :=
  ∃ v ∈ vs, ∃ w ∈ vs, ∃ l ∈ v.type.levels, ∃ m ∈ w.type.levels,
    isIntLevel (storedLevel l) = true ∧ isDoubleLevel (storedLevel m) = true

/-- Whether the values of some vectors match the levels of a categorical that the vectors are combined into. -/
structure MatchesLevels (levels : List Value) (vs : List TypedVector) : Prop where
  /-- The values of a vector whose levels are listed in another way match as a whole. -/
  each : ∀ v ∈ vs, samePayload v.type (.categorical levels) = false →
    comparable (storedLevels levels) v.column.present = true
  /-- So do the values of all vectors together. -/
  together : comparable (storedLevels levels) (vs.flatMap fun v => v.column.present) = true

lemma same_carried {v : TypedVector} {x l : Value}
    (hmatch : samePayload v.type (.categorical levels) = false →
      comparable (storedLevels levels) v.column.present = true)
    (hm : x.isMissing = false) (hl : l ∈ storedLevels levels) (hlx : l.same x = true) :
    (carried levels v x).same x = true := by
  rw [carried]
  cases hpayload : samePayload v.type (.categorical levels) with
  | true => exact Value.same_trans (Value.same_symm hlx) hlx
  | false =>
    rw [taken_of_comparable (hmatch hpayload)]
    exact same_levelIn hm hl hlx

/-- A value that is taken for something is taken for a level. -/
lemma carried_mem {v : TypedVector} {x : Value} (hpayload : samePayload v.type (.categorical levels) = false)
    (hm : (carried levels v x).isMissing = false) : carried levels v x ∈ storedLevels levels := by
  rw [carried, hpayload] at hm ⊢
  simp only [Bool.false_eq_true, if_false, taken] at hm ⊢
  split_ifs at hm ⊢
  · rcases levelIn_cases (storedLevels levels) x with hnan | ⟨hmem, -⟩
    · rw [hnan] at hm
      cases hm
    · exact hmem
  · cases hm

lemma present_of_carried {v : TypedVector} {x : Value} (h : (carried levels v x).isMissing = false) :
    x.isMissing = false := by
  cases hm : x.isMissing with
  | false => rfl
  | true =>
    rw [carried_of_isMissing levels v hm] at h
    cases h

/-- The values of some vectors, each cast to a categorical. -/
def gathered (levels : List Value) (vs : List TypedVector) : List Value :=
  vs.flatMap fun v => v.values.map (carried levels v)

lemma mem_gathered {y : Value} : y ∈ gathered levels vs ↔ ∃ v ∈ vs, ∃ x ∈ v.values, carried levels v x = y := by
  simp only [gathered, List.mem_flatMap, List.mem_map]

/-- Whether every value of some vectors is equal to a level. -/
def HaveLevels (levels : List Value) (vs : List TypedVector) : Prop :=
  ∀ v ∈ vs, ∀ x ∈ v.values, x.isMissing = false → ∃ l ∈ storedLevels levels, l.same x = true

/-- Values that match the levels of a categorical match them after the casts to it. -/
lemma comparable_gathered (hlevels : HaveLevels levels vs) (hmatch : MatchesLevels levels vs) :
    comparable (storedLevels levels) (Column.ofValues (gathered levels vs)).present = true := by
  by_contra hnot
  rw [Bool.not_eq_true, comparable_eq_false_iff] at hnot
  obtain ⟨hsome, hopposed⟩ := hnot
  -- what is cast is not opposed to the levels, so all of it has stayed as it was, and was opposed before
  have hbefore : comparable (storedLevels levels) (vs.flatMap fun v => v.column.present) = false := by
    rw [comparable_eq_false_iff]
    constructor
    · obtain ⟨y, hy⟩ := List.exists_mem_of_ne_nil _ hsome
      obtain ⟨hy, hm⟩ := mem_present.1 hy
      obtain ⟨v, hv, x, hx, rfl⟩ := mem_gathered.1 hy
      have hpresent : x ∈ v.column.present := mem_present.2 ⟨hx, present_of_carried hm⟩
      exact List.ne_nil_of_mem (List.mem_flatMap.2 ⟨v, hv, hpresent⟩)
    · intro x hx
      obtain ⟨v, hv, hx⟩ := List.mem_flatMap.1 hx
      obtain ⟨hx, hm⟩ := mem_present.1 hx
      obtain ⟨l, hl, hlx⟩ := hlevels v hv x hx hm
      have hsame := same_carried (hmatch.each v hv) hm hl hlx
      have hpresent : (carried levels v x).isMissing = false := (Value.same_isMissing hsame).trans hm
      have hout := hopposed _ (mem_present.2 ⟨mem_gathered.2 ⟨v, hv, x, hx, rfl⟩, hpresent⟩)
      cases hpayload : samePayload v.type (.categorical levels) with
      | true =>
        rw [carried, hpayload] at hout
        exact hout
      | false => exact absurd hout (not_opposed_of_mem (carried_mem hpayload hpresent))
  rw [hmatch.together] at hbefore
  cases hbefore

/-- What becomes of a value that is combined into a categorical. -/
def combined (levels : List Value) (vs : List TypedVector) (v : TypedVector) (x : Value) : Value :=
  taken (storedLevels levels) (.ofValues (gathered levels vs)) (carried levels v x)

lemma combined_of_isMissing (levels : List Value) (vs : List TypedVector) (v : TypedVector) {x : Value}
    (h : (carried levels v x).isMissing = true) : (combined levels vs v x).isMissing = true := by
  rw [combined, taken_of_isMissing _ _ h]
  rfl

lemma present_of_combined {v : TypedVector} {x : Value} (h : (combined levels vs v x).isMissing = false) :
    (carried levels v x).isMissing = false := by
  cases hm : (carried levels v x).isMissing with
  | false => rfl
  | true =>
    rw [combined_of_isMissing levels vs v hm] at h
    cases h

/-- If values match the levels of a categorical, each of them becomes the level that it is equal to. -/
lemma kept_combined (hlevels : HaveLevels levels vs) (hmatch : MatchesLevels levels vs) {v : TypedVector} (hv : v ∈ vs)
    {x : Value} (hx : x ∈ v.values) : Kept (.categorical levels) x (combined levels vs v x) := by
  cases hm : x.isMissing with
  | true => exact .missing hm (combined_of_isMissing levels vs v (carried_of_isMissing levels v hm))
  | false =>
    obtain ⟨l, hl, hlx⟩ := hlevels v hv x hx hm
    -- both when it is cast and when it is joined to others, it is taken for a level that it is equal to
    have hcarried := same_carried (hmatch.each v hv) hm hl hlx
    have hpresent : (carried levels v x).isMissing = false := (Value.same_isMissing hcarried).trans hm
    have hsame : (combined levels vs v x).same (carried levels v x) = true := by
      rw [combined, taken_of_comparable (comparable_gathered hlevels hmatch)]
      exact same_levelIn hpresent hl (Value.same_trans hlx (Value.same_symm hcarried))
    refine .level ?_ (Value.same_symm (Value.same_trans hsame hcarried))
    rw [combined, taken_of_comparable (comparable_gathered hlevels hmatch)] at hsame ⊢
    rcases levelIn_cases (storedLevels levels) (carried levels v x) with hnan | ⟨hmem, -⟩
    · rw [← Value.same_isMissing hsame, hnan] at hpresent
      cases hpresent
    · exact hmem

/-- If no value is lost, the values match the levels. -/
lemma matchesLevels_of_present
    (h : ∀ v ∈ vs, ∀ x ∈ v.values, x.isMissing = false → (combined levels vs v x).isMissing = false) :
    MatchesLevels levels vs := by
  have heach : ∀ v ∈ vs, samePayload v.type (.categorical levels) = false →
      comparable (storedLevels levels) v.column.present = true := by
    intro v hv hpayload
    by_contra hnot
    rw [Bool.not_eq_true] at hnot
    obtain ⟨x, hx⟩ := List.exists_mem_of_ne_nil _ ((comparable_eq_false_iff _ _).1 hnot).1
    obtain ⟨hx, hm⟩ := mem_present.1 hx
    have hcarried := present_of_combined (h v hv x hx hm)
    rw [carried, hpayload, taken_of_not_comparable hnot] at hcarried
    cases hcarried
  refine ⟨heach, ?_⟩
  by_contra hnot
  rw [Bool.not_eq_true, comparable_eq_false_iff] at hnot
  obtain ⟨hsome, hopposed⟩ := hnot
  obtain ⟨x, hx⟩ := List.exists_mem_of_ne_nil _ hsome
  obtain ⟨v, hv, hx⟩ := List.mem_flatMap.1 hx
  obtain ⟨hx, hm⟩ := mem_present.1 hx
  have hkept := h v hv x hx hm
  -- all that is cast is still opposed to the levels, so none of it is taken for a level in the end
  have hafter : comparable (storedLevels levels) (Column.ofValues (gathered levels vs)).present = false := by
    rw [comparable_eq_false_iff]
    constructor
    · have hgathered : carried levels v x ∈ gathered levels vs := mem_gathered.2 ⟨v, hv, x, hx, rfl⟩
      exact List.ne_nil_of_mem (mem_present.2 ⟨hgathered, present_of_combined hkept⟩)
    · intro y hy
      obtain ⟨hy, hym⟩ := mem_present.1 hy
      obtain ⟨w, hw, z, hz, rfl⟩ := mem_gathered.1 hy
      have hzpresent : z ∈ w.column.present := mem_present.2 ⟨hz, present_of_carried hym⟩
      cases hpayload : samePayload w.type (.categorical levels) with
      | true =>
        rw [carried, hpayload]
        exact hopposed z (List.mem_flatMap.2 ⟨w, hw, hzpresent⟩)
      | false =>
        have hnone : comparable (storedLevels levels) w.column.present = false := by
          rw [comparable_eq_false_iff]
          exact ⟨List.ne_nil_of_mem hzpresent, fun u hu => hopposed u (List.mem_flatMap.2 ⟨w, hw, hu⟩)⟩
        rw [heach w hw hpayload] at hnone
        cases hnone
  rw [combined, taken_of_not_comparable hafter] at hkept
  cases hkept

/-! ### Levels of the inputs -/

/-- A vector below a categorical has only values that are equal to levels of the categorical, if no integers stand
beside floating-point numbers. -/
lemma exists_level {v : TypedVector} (hv : v.WellFormed) (hbelow : v.type.Below (.categorical levels))
    (hown : storedLevels v.type.levels = v.type.levels.map storedLevel)
    (hall : storedLevels levels = levels.map storedLevel) {x : Value} (hx : x ∈ v.values) (hm : x.isMissing = false) :
    ∃ l ∈ storedLevels levels, l.same x = true := by
  generalize hs : v.type = s at hbelow
  cases hbelow with
  | null =>
    rw [hv.values_of_null hs] at hx
    cases hx
  | unspecified =>
    rw [hv.absent_of_unspecified hs hx] at hm
    cases hm
  | number _ hy => cases hy
  | @categorical a _ covered =>
    rw [hs] at hown
    -- a value is one of the stored levels of its own type, and those are covered
    rcases hv.level_cases hs hx with rfl | ⟨-, hsame⟩
    · cases hm
    · obtain ⟨o, ho, hox⟩ : ∃ o ∈ a, o.same x = true := by
        rcases levelIn_cases (storedLevels a) x with hnan | ⟨hmem, -⟩
        · rw [← Value.same_isMissing hsame, hnan] at hm
          cases hm
        · rw [show storedLevels a = a.map storedLevel from hown] at hmem hsame
          obtain ⟨o, ho, heq⟩ := List.mem_map.1 hmem
          rw [← heq, same_storedLevel] at hsame
          exact ⟨o, ho, hsame⟩
      obtain ⟨l, hl, hlo⟩ := (covers_iff _ _).1 covered o ho
      refine ⟨storedLevel l, ?_, (same_storedLevel l x).2 (Value.same_trans hlo hox)⟩
      rw [hall]
      exact List.mem_map_of_mem hl

/-- The values of vectors that are combined into a categorical are equal to levels of it. -/
lemma haveLevels (hvs : ∀ v ∈ vs, v.WellFormed) (hmix : ¬ MixesNumbers vs)
    (hbelow : ∀ v ∈ vs, v.type.Below (.categorical levels)) (hlevels : ∀ l ∈ levels, ∃ v ∈ vs, l ∈ v.type.levels) :
    HaveLevels levels vs := by
  have hstored : ∀ ls : List Value, (∀ l ∈ ls, ∃ v ∈ vs, l ∈ v.type.levels) → storedLevels ls = ls.map storedLevel := by
    intro ls hls
    refine storedLevels_eq_map ?_
    intro l hl m hm hint
    by_contra hdouble
    obtain ⟨v, hv, hl⟩ := hls l hl
    obtain ⟨w, hw, hm⟩ := hls m hm
    exact hmix ⟨v, hv, w, hw, l, hl, m, hm, hint, Bool.not_eq_false _ ▸ hdouble⟩
  intro v hv x hx hm
  have hown := hstored v.type.levels fun l hl => ⟨v, hv, hl⟩
  exact exists_level (hvs v hv) (hbelow v hv) hown (hstored _ hlevels) hx hm

end Engine

end Coercion
