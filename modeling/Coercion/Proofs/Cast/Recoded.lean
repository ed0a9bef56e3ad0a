import Coercion.Proofs.Combine.Kept

/-!
Texts and levels as the levels of a categorical. A value that is equal to a level becomes that level, and a foreign one, which
is equal to none, becomes missing and is flagged. The exception is made for whole columns, as everywhere where values
are matched with levels: truth values alone do not match numbers alone, so that all of them are dropped, and those
that are equal to a level are dropped as well.
-/

namespace Coercion

open VectorType Column

variable {s : VectorType} {levels own : List Value} {v : TypedVector} {x : Value} {r : CastResult} {decompose : Bool}

/-! ### Foreign values -/

/-- Whether an integer and a floating-point number are among some levels. -/
def MixesLevels (levels : List Value) : Prop :=
  ∃ l ∈ levels, ∃ m ∈ levels, isIntLevel (storedLevel l) = true ∧ isDoubleLevel (storedLevel m) = true

lemma MixesLevels.mono (h : MixesLevels own) (hsub : ∀ l ∈ own, l ∈ levels) : MixesLevels levels := by
  obtain ⟨l, hl, m, hm, hmixed⟩ := h
  exact ⟨l, hsub l hl, m, hsub m hm, hmixed⟩

/-- What is equal to a level of a covered categorical is equal to one of the categorical that covers it. -/
lemma isIn_of_covers (h : covers levels own = true) (hx : x.isIn own = true) : x.isIn levels = true := by
  rw [Value.isIn_iff] at hx ⊢
  obtain ⟨o, ho, hox⟩ := hx
  obtain ⟨l, hl, hlo⟩ := (covers_iff levels own).1 h o ho
  exact ⟨l, hl, Value.same_trans hlo hox⟩

namespace Registry

/-- The vectors that are turned into levels: texts and categoricals. -/
inductive HasLevels : VectorType → Prop where
  | texts : HasLevels .character
  | levels (own : List Value) : HasLevels (.categorical own)

/-- What a cast to a categorical comes to, value by value: each value becomes what it is carried over to, and where the
types differ, those that are dropped are flagged. -/
structure Relevels (levels : List Value) (v : TypedVector) (r : CastResult) : Prop where
  type : r.vector.type = .categorical levels
  values : r.vector.values = v.values.map (carried levels v)
  flagged_iff : ∀ j, j ∈ r.lossy ↔ v.type.same (.categorical levels) = false ∧
    ∃ x, v.values[j]? = some x ∧ x.isMissing = false ∧ (carried levels v x).isMissing = true

lemma hashable_of_hasLevels (hv : v.WellFormed) (htype : HasLevels v.type) : ∀ x ∈ v.values, x.unhashable? = none := by
  generalize hs : v.type = s at htype
  cases htype with
  | texts =>
    intro x hx
    have hheld := hv.held x hx
    rw [hv.dtype_eq (by rw [hs]; exact fun _ => VectorType.noConfusion), hs] at hheld
    cases hheld <;> rfl
  | levels own => exact hv.hashable_of_categorical hs

/-- A type with the same levels in the same order is equal. -/
lemma samePayload_eq_false (htype : HasLevels s) (hsame : s.same (.categorical levels) = false) :
    samePayload s (.categorical levels) = false := by
  cases htype with
  | texts => rfl
  | levels own =>
    cases hpayload : samePayload (.categorical own) (.categorical levels) with
    | false => rfl
    | true =>
      rw [same_of_samePayload hpayload] at hsame
      cases hsame

/-- **Casts to levels.** Texts and levels are carried over to the levels of any categorical. -/
theorem castTo_relevels (decompose : Bool) (hv : v.WellFormed) (htype : HasLevels v.type)
    (hlevels : LegalLevels levels) :
    ∃ r, standard.castTo decompose v (.categorical levels) = .ok r ∧ Relevels levels v r := by
  have ht : (VectorType.categorical levels).IsStandard := .categorical hlevels
  have hhash := unhashableIn?_present (hashable_of_hasLevels hv htype)
  obtain ⟨c, hc, hsize, -⟩ := vectorOf_of_makes (construct_categorical hlevels hhash)
  have hconstruct : v.column.toLevels (storedLevels levels) = .ok c := by
    obtain ⟨d, hd, hw⟩ := bind_eq_ok_iff.1 hc
    cases hw
    exact hd
  cases hsame : v.type.same (.categorical levels) with
  | true =>
    have hunflagged : ∀ j : Nat, j ∈ ([] : List Nat) ↔ v.type.same (.categorical levels) = false ∧
        ∃ x, v.values[j]? = some x ∧ x.isMissing = false ∧ (carried levels v x).isMissing = true := by
      intro j
      rw [hsame]
      refine iff_of_false List.not_mem_nil ?_
      intro h
      exact Bool.noConfusion h.1
    cases hpayload : samePayload v.type (.categorical levels) with
    | true =>
      have hcast : standard.castTo decompose v (.categorical levels) = .ok ⟨⟨.categorical levels, v.column⟩, []⟩ :=
        castTo_unchanged hsame hpayload
      exact ⟨_, hcast, rfl, (carries_unchanged hsame hpayload hcast).values, hunflagged⟩
    | false =>
      have hcast : standard.castTo decompose v (.categorical levels) = .ok ⟨⟨.categorical levels, c⟩, []⟩ := by
        rw [castTo_remade hsame hpayload, hc]
        rfl
      exact ⟨_, hcast, rfl, values_eq_carried hpayload hconstruct, hunflagged⟩
  | false =>
    have hpayload := samePayload_eq_false htype hsame
    have hvalues := values_eq_carried hpayload hconstruct
    obtain ⟨name, hroute⟩ : ∃ name, standard.route decompose v.type (.categorical levels) = .direct (.toLevels name) := by
      have hs := hv.standard
      generalize v.type = s at htype hs hsame
      cases htype with
      | texts => exact ⟨_, route_direct hs ht hsame rfl⟩
      | levels own => exact ⟨_, route_direct hs ht hsame rfl⟩
    have hcast : standard.castTo decompose v (.categorical levels) =
        .ok ⟨⟨.categorical levels, c⟩, sortedPositions (droppedPositions v.values c.values)⟩ := by
      refine castTo_eq_ok ht hroute ?_ hsize
      rw [show construct (.categorical levels) v.column = .ok c from hconstruct]
      rfl
    refine ⟨_, hcast, rfl, hvalues, ?_⟩
    intro j
    rw [hsame]
    simp only [true_and]
    rw [mem_sortedPositions, droppedPositions, hvalues, map_zip_map, mem_positionsOf]
    simp only [Bool.and_eq_true, Bool.not_eq_true']

/-! ### Recoding -/

/-- What a value is carried over to is equal to it. -/
lemma same_of_carried (hpayload : samePayload v.type (.categorical levels) = false)
    (hm : (carried levels v x).isMissing = false) : (carried levels v x).same x = true := by
  rw [carried, hpayload] at hm ⊢
  simp only [Bool.false_eq_true, if_false, taken] at hm ⊢
  split_ifs at hm ⊢
  · rcases levelIn_cases (storedLevels levels) x with hnan | ⟨-, hsame⟩
    · rw [hnan] at hm
      cases hm
    · exact hsame
  · cases hm

section

variable (hmix : ¬ MixesLevels (v.type.levels ++ levels))

include hmix

end

/-- Two texts and a missing one. -/
def twoTexts : TypedVector :=
  ⟨.character, ⟨.string, [.text "a", .text "b", .notAvailable]⟩⟩

end Registry

end Coercion
