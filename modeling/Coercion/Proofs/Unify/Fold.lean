import Coercion.Proofs.Unify.Common

/-!
The common type of a list of standard types, found from the left. Types of vectors that have values are absorbed by
nothing, and absorb the others. Before the first of them, unspecified types are counted: none and one of them leave
no trace, but two or more are taken for truth values, which the types that follow then have to be unified with.
-/

namespace Coercion

namespace VectorType

/-- Whether vectors of a type can have values. -/
def isTyped : VectorType → Bool
  | .null | .unspecified => false
  | _ => true

/-- The common type of what has been found so far and a list of standard types, if there is one. -/
def commonFrom? (strict : Bool) : VectorType → List VectorType → Option VectorType
  | found, [] => some found
  | found, t :: ts =>
    match common? strict found t with
    | some next => commonFrom? strict next ts
    | none => none

lemma commonFrom?_cons_eq_some {strict : Bool} {found t u : VectorType} {us : List VectorType} :
    commonFrom? strict found (u :: us) = some t ↔
      ∃ next, common? strict found u = some next ∧ commonFrom? strict next us = some t := by
  rw [commonFrom?]
  cases common? strict found u <;> simp

theorem commonFrom?_isStandard {strict : Bool} {found t : VectorType} {ts : List VectorType}
    (hfound : found.IsStandard) (hts : ∀ t ∈ ts, t.IsStandard) (h : commonFrom? strict found ts = some t) :
    t.IsStandard := by
  induction ts generalizing found with
  | nil => cases h; exact hfound
  | cons u us ih =>
    obtain ⟨next, hu, h⟩ := commonFrom?_cons_eq_some.1 h
    have hnext := common?_isStandard hfound (hts u List.mem_cons_self) hu
    have hrest : ∀ t ∈ us, t.IsStandard := by
      intro t ht
      exact hts t (List.mem_cons_of_mem u ht)
    exact ih hnext hrest h

/-- The levels of a type; only categoricals have some. -/
def levels : VectorType → List Value
  | .categorical levels => levels
  | _ => []

/-- Every level of a common type is a level of one of the two. -/
lemma mem_levels_common? {strict : Bool} {x y t : VectorType} (h : common? strict x y = some t) {l : Value}
    (hl : l ∈ t.levels) : l ∈ x.levels ∨ l ∈ y.levels := by
  cases x with
  | categorical a =>
    cases y with
    | categorical b =>
      rw [common?] at h
      split_ifs at h <;> cases h
      · exact Or.inl hl
      · exact Or.inr hl
      · rcases (mem_unionLevels a b l).1 hl with hl | ⟨hl, -⟩
        · exact Or.inl hl
        · exact Or.inr hl
    | _ => cases h <;> first | exact Or.inl hl | exact Or.inr hl
  | datetime a =>
    cases y with
    | datetime b =>
      rw [common?] at h
      split_ifs at h <;> cases h <;> cases hl
    | _ => cases h <;> exact Or.inl hl
  | _ => cases y <;> cases h <;> first | exact Or.inl hl | exact Or.inr hl

/-- Every level of what is found from a list is a level of what had been found before or of a type of the list. -/
theorem mem_levels_commonFrom? {strict : Bool} {found t : VectorType} {ts : List VectorType}
    (h : commonFrom? strict found ts = some t) {l : Value} (hl : l ∈ t.levels) :
    l ∈ found.levels ∨ ∃ s ∈ ts, l ∈ s.levels := by
  induction ts generalizing found with
  | nil =>
    cases h
    exact Or.inl hl
  | cons u us ih =>
    obtain ⟨next, hc, h⟩ := commonFrom?_cons_eq_some.1 h
    rcases ih h with hl | ⟨s, hs, hl⟩
    · rcases mem_levels_common? hc hl with hl | hl
      · exact Or.inl hl
      · exact Or.inr ⟨u, by simp, hl⟩
    · exact Or.inr ⟨s, by simp [hs], hl⟩

end VectorType

/-! ### The fold of the registry -/

namespace Registry

open VectorType

/-- What comes of an attempt to find a common type: the type, or a refusal. -/
def Settles (c : Option VectorType) (r : Except Failure VectorType) : Prop :=
  match c with
  | some t => r = .ok t
  | none => ∃ f, r = .error f ∧ f.category = .incompatibleType

lemma unifyFrom_standard (strict : Bool) (index : Nat) {found : VectorType} {ts : List VectorType}
    (hfound : found.IsStandard) (hts : ∀ t ∈ ts, t.IsStandard) :
    Settles (commonFrom? strict found ts) (standard.unifyFrom strict index found ts) := by
  induction ts generalizing found index with
  | nil => rfl
  | cons t ts ih =>
    have ht : t.IsStandard := hts t (by simp)
    rw [unifyFrom, commonFrom?]
    rcases unify_cases strict hfound ht with ⟨next, hc, hunify⟩ | ⟨hc, detail, hunify⟩
    · rw [hc, hunify]
      have hnext := common?_isStandard hfound ht hc
      refine ih (index + 1) hnext ?_
      intro u hu
      exact hts u (List.mem_cons_of_mem t hu)
    · rw [hc, hunify]
      refine ⟨_, rfl, ?_⟩
      rw [refusalAt, Failure.incompatible_standard hfound ht]
      rfl

/-- Several standard types have the common type that is found from the left, or are refused. -/
theorem commonType_standard (strict : Bool) {ts : List VectorType} (hts : ∀ t ∈ ts, t.IsStandard) :
    Settles (commonFrom? strict .null ts) (standard.commonType strict ts) :=
  unifyFrom_standard strict 0 .null hts

end Registry

/-! ### Types without values -/

namespace VectorType

variable {x y t : VectorType}

lemma isTyped_eq_false_iff (t : VectorType) : t.isTyped = false ↔ t = .null ∨ t = .unspecified := by
  cases t <;> simp [isTyped]

/-- A type whose vectors can have values absorbs the others. -/
lemma common?_untyped {strict : Bool} (hx : x.isTyped = true) (hy : y.isTyped = false) :
    common? strict x y = some x := by
  rcases (isTyped_eq_false_iff y).1 hy with rfl | rfl <;> cases x <;> first | rfl | cases hx

/-- A common type has values if one of the two types has. -/
lemma isTyped_common? {strict : Bool} (hx : x.IsStandard) (hy : y.IsStandard)
    (hxy : x.isTyped = true ∨ y.isTyped = true) (h : common? strict x y = some t) : t.isTyped = true := by
  cases hx with
  | null => cases h; simpa [isTyped] using hxy
  | unspecified => cases hy <;> cases h <;> simp [isTyped] at hxy ⊢
  | categorical ha =>
    cases hy with
    | categorical hb => rw [common?] at h; split_ifs at h <;> cases h <;> rfl
    | _ => cases h <;> rfl
  | datetime a =>
    cases hy with
    | datetime b => rw [common?] at h; split_ifs at h <;> cases h <;> rfl
    | _ => cases h <;> rfl
  | _ => cases hy <;> cases h <;> rfl

/-- So does the common type of a list, if a type with values has been found before or is found in the list. -/
lemma isTyped_commonFrom? {strict : Bool} {found : VectorType} {ts : List VectorType} (hfound : found.IsStandard)
    (hts : ∀ t ∈ ts, t.IsStandard) (htyped : found.isTyped = true ∨ ts.any isTyped = true)
    (h : commonFrom? strict found ts = some t) : t.isTyped = true := by
  induction ts generalizing found with
  | nil =>
    cases h
    simpa using htyped
  | cons u us ih =>
    have hu : u.IsStandard := hts u (by simp)
    obtain ⟨next, hc, h⟩ := commonFrom?_cons_eq_some.1 h
    have hnext := common?_isStandard hfound hu hc
    refine ih hnext (fun s hs => hts s (by simp [hs])) ?_ h
    by_cases hmeet : found.isTyped = true ∨ u.isTyped = true
    · exact Or.inl (isTyped_common? hfound hu hmeet hc)
    · obtain ⟨hfound', hu'⟩ := not_or.1 hmeet
      refine Or.inr ?_
      simpa [hfound', hu'] using htyped

/-- Once a type with values has been found, the types without values make no difference. -/
lemma commonFrom?_filter {strict : Bool} {found : VectorType} {ts : List VectorType} (hfound : found.IsStandard)
    (htyped : found.isTyped = true) (hts : ∀ t ∈ ts, t.IsStandard) :
    commonFrom? strict found ts = commonFrom? strict found (ts.filter isTyped) := by
  induction ts generalizing found with
  | nil => rfl
  | cons t ts ih =>
    have ht : t.IsStandard := hts t (by simp)
    have hts' : ∀ u ∈ ts, u.IsStandard := by
      intro u hu
      exact hts u (by simp [hu])
    by_cases h : t.isTyped = true
    · rw [List.filter_cons_of_pos h, commonFrom?, commonFrom?]
      cases hc : common? strict found t with
      | none => rfl
      | some next => exact ih (common?_isStandard hfound ht hc) (isTyped_common? hfound ht (Or.inl htyped) hc) hts'
    · rw [List.filter_cons_of_neg h, commonFrom?, common?_untyped htyped (Bool.not_eq_true _ ▸ h)]
      exact ih hfound htyped hts'

/-- The unspecified types before the first type with values. -/
def leadingUnspecified : List VectorType → Nat
  | .null :: ts => leadingUnspecified ts
  | .unspecified :: ts => leadingUnspecified ts + 1
  | _ => 0

/-- What has been found after some number of unspecified types. -/
def afterUnspecified : Nat → VectorType
  | 0 => .null
  | 1 => .unspecified
  | _ + 2 => .logical

lemma isStandard_afterUnspecified (n : Nat) : (afterUnspecified n).IsStandard := by
  match n with
  | 0 => exact .null
  | 1 => exact .unspecified
  | _ + 2 => exact .logical

/-- Of the types without values, only the unspecified ones before the first type with values matter, and of these
only the number. -/
theorem commonFrom?_afterUnspecified (strict : Bool) (n : Nat) {ts : List VectorType}
    (hts : ∀ t ∈ ts, t.IsStandard) :
    commonFrom? strict (afterUnspecified n) ts =
      commonFrom? strict (afterUnspecified (n + leadingUnspecified ts)) (ts.filter isTyped) := by
  induction ts generalizing n with
  | nil => rfl
  | cons t ts ih =>
    have hts' : ∀ u ∈ ts, u.IsStandard := by
      intro u hu
      exact hts u (by simp [hu])
    by_cases h : t.isTyped = true
    · -- the first type with values: from here on the types without values make no difference
      have hlead : leadingUnspecified (t :: ts) = 0 := by cases t <;> first | rfl | cases h
      rw [hlead, List.filter_cons_of_pos h, commonFrom?, Nat.add_zero, commonFrom?]
      cases hc : common? strict (afterUnspecified n) t with
      | none => rfl
      | some next =>
        have hnext := common?_isStandard (isStandard_afterUnspecified n) (hts t (by simp)) hc
        have htyped := isTyped_common? (isStandard_afterUnspecified n) (hts t (by simp)) (Or.inr h) hc
        exact commonFrom?_filter hnext htyped hts'
    · rw [List.filter_cons_of_neg h]
      rcases (isTyped_eq_false_iff t).1 (Bool.not_eq_true _ ▸ h) with rfl | rfl
      · have hnull : common? strict (afterUnspecified n) .null = some (afterUnspecified n) := by
          rcases n with _ | _ | n <;> rfl
        rw [commonFrom?, hnull]
        exact ih n hts'
      · -- one more unspecified type is counted, also when truth values have been found already
        have hnext : common? strict (afterUnspecified n) .unspecified = some (afterUnspecified (n + 1)) := by
          rcases n with _ | _ | n <;> rfl
        have hlead : n + leadingUnspecified (.unspecified :: ts) = n + 1 + leadingUnspecified ts := by
          rw [leadingUnspecified]
          omega
        rw [commonFrom?, hnext, hlead]
        exact ih (n + 1) hts'

/-- Whether the unspecified types before the first type with values leave no trace: there is at most one of them, or
the first type with values is one that truth values are unified with. -/
def leadingIgnored (ts : List VectorType) : Bool :=
  leadingUnspecified ts ≤ 1 || (ts.find? isTyped).any isNumeric

@[simp] lemma common?_null_left (strict : Bool) (y : VectorType) : common? strict .null y = some y := rfl

lemma common?_logical_of_isNumeric {strict : Bool} (hx : x.IsStandard) (htyped : x.isTyped = true) :
    common? strict .logical x = if x.isNumeric then some x else none := by
  cases hx <;> first | rfl | cases htyped

lemma common?_afterUnspecified_of_le_one {strict : Bool} {n : Nat} (hn : n ≤ 1) (hx : x.isTyped = true) :
    common? strict (afterUnspecified n) x = some x := by
  match n, hn with
  | 0, _ => rfl
  | 1, _ => cases x <;> first | rfl | cases hx

/-- **Types without values.** In a list that has a type with values, the types without make no difference, unless two
or more unspecified ones come before a first type that truth values cannot be unified with; then there is no
common type. -/
theorem commonFrom?_typed (strict : Bool) {ts : List VectorType} (hts : ∀ t ∈ ts, t.IsStandard)
    (h : ts.any isTyped = true) :
    commonFrom? strict .null ts =
      if leadingIgnored ts then commonFrom? strict .null (ts.filter isTyped) else none := by
  have hfold := commonFrom?_afterUnspecified strict 0 hts
  rw [Nat.zero_add] at hfold
  have hfind : ts.find? isTyped = (ts.filter isTyped).head? := List.head?_filter.symm
  have hstandard : ∀ t ∈ ts.filter isTyped, t.IsStandard ∧ t.isTyped = true := by
    intro t ht
    exact ⟨hts t (List.mem_filter.1 ht).1, (List.mem_filter.1 ht).2⟩
  rw [afterUnspecified] at hfold
  rw [hfold, leadingIgnored, hfind]
  cases hus : ts.filter isTyped with
  | nil =>
    rw [List.filter_eq_nil_iff] at hus
    obtain ⟨t, ht, htyped⟩ := List.any_eq_true.1 h
    exact absurd htyped (hus t ht)
  | cons t us =>
    obtain ⟨ht, htyped⟩ := hstandard t (by simp [hus])
    by_cases hk : leadingUnspecified ts ≤ 1
    · rw [commonFrom?, commonFrom?, common?_afterUnspecified_of_le_one hk htyped]
      simp [hk]
    · -- two of them have been taken for truth values before `t` is met
      have hlogical : afterUnspecified (leadingUnspecified ts) = .logical := by
        obtain ⟨k, hk⟩ : ∃ k, leadingUnspecified ts = k + 2 := ⟨leadingUnspecified ts - 2, by omega⟩
        rw [hk, afterUnspecified]
      rw [commonFrom?, hlogical, common?_logical_of_isNumeric ht htyped]
      cases hn : t.isNumeric <;> simp [hk, hn, commonFrom?]

end VectorType

/-! ### Agreement -/

/-- Two attempts with one common type, or with none, agree. -/
lemma Agree.of_settles {c : Option VectorType} {r s : Except Failure VectorType} (hr : Registry.Settles c r)
    (hs : Registry.Settles c s) (hc : ∀ t, c = some t → t.IsStandard) : Agree r s := by
  cases c with
  | some t =>
    rw [hr, hs]
    exact .found (VectorType.same_refl (hc t rfl))
  | none =>
    obtain ⟨f, rfl, hf⟩ := hr
    obtain ⟨g, rfl, hg⟩ := hs
    exact .refused hf hg

end Coercion
