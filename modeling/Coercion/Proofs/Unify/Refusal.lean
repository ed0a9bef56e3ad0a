import Coercion.Proofs.Unify.Fold

/-!
Where a search for a common type ends. Types are unified from the left, so the types before a position have been unified
to one type when the type at the position is looked at. If these two are refused, the search is over: no position is
looked at after that, and the refusal is told again with the two types that met there and with the position. This
holds in any registry. Of the rules of a registry, its casters have no part in the search.
-/

namespace Coercion

namespace Registry

open VectorType

variable {r : Registry} {strict : Bool} {index i j : Nat} {found next x y x' y' t : VectorType} {ts : List VectorType}
  {f f' g : Failure}

/-! ### The refused position -/

/-- Whether types are unified with what has been found so far up to a position, where `x` has been found, `y` stands
and the two are refused. -/
def RefusedFrom (r : Registry) (strict : Bool) (found : VectorType) (ts : List VectorType) (i : Nat)
    (x y : VectorType) (f : Failure) : Prop :=
  r.unifyFrom strict 0 found (ts.take i) = .ok x ∧ ts[i]? = some y ∧ r.unify strict x y = .error f

/-- Whether the types before a position have `x` as their common type, and `y`, the type at the position, is refused
with it. -/
def RefusedAt (r : Registry) (strict : Bool) (ts : List VectorType) (i : Nat) (x y : VectorType) (f : Failure) : Prop :=
  r.commonType strict (ts.take i) = .ok x ∧ ts[i]? = some y ∧ r.unify strict x y = .error f

/-- The index is told only when a refusal is. -/
lemma unifyFrom_eq_ok_index (index j : Nat) :
    r.unifyFrom strict index found ts = .ok t ↔ r.unifyFrom strict j found ts = .ok t := by
  induction ts generalizing index j found with
  | nil => rfl
  | cons u us ih =>
    rw [unifyFrom, unifyFrom]
    cases r.unify strict found u with
    | ok next => exact ih (index + 1) (j + 1)
    | error f => simp

lemma unifyFrom_cons_eq_ok {u : VectorType} {us : List VectorType} :
    r.unifyFrom strict index found (u :: us) = .ok t ↔
      ∃ next, r.unify strict found u = .ok next ∧ r.unifyFrom strict index next us = .ok t := by
  rw [unifyFrom]
  cases r.unify strict found u with
  | ok next => simpa using unifyFrom_eq_ok_index (index + 1) index
  | error f => simp

lemma not_refusedFrom_nil : ¬ r.RefusedFrom strict found [] i x y f := by
  rintro ⟨-, hy, -⟩
  simp at hy

/-- The first position is refused if the first type is refused with what has been found before. -/
lemma refusedFrom_zero_iff :
    r.RefusedFrom strict found (t :: ts) 0 x y f ↔ found = x ∧ t = y ∧ r.unify strict x y = .error f := by
  simp [RefusedFrom, unifyFrom]

/-- A later position is refused if it is in the rest of the types, with what has been found from the first. -/
lemma refusedFrom_succ_iff :
    r.RefusedFrom strict found (t :: ts) (i + 1) x y f ↔
      ∃ next, r.unify strict found t = .ok next ∧ r.RefusedFrom strict next ts i x y f := by
  simp only [RefusedFrom, List.take_succ_cons, unifyFrom_cons_eq_ok, List.getElem?_cons_succ]
  constructor
  · rintro ⟨⟨next, hnext, hfound⟩, hrest⟩
    exact ⟨next, hnext, hfound, hrest⟩
  · rintro ⟨next, hnext, hfound, hrest⟩
    exact ⟨⟨next, hnext, hfound⟩, hrest⟩

/-- No other position is refused: the types up to a later one have no common type. -/
lemma RefusedFrom.position_eq (h : r.RefusedFrom strict found ts i x y f)
    (h' : r.RefusedFrom strict found ts j x' y' f') : i = j := by
  -- along the types, since what has been found so far changes with each of them
  induction ts generalizing found i j with
  | nil => exact absurd h not_refusedFrom_nil
  | cons t ts ih =>
    cases i with
    | zero =>
      cases j with
      | zero => rfl
      | succ j =>
        obtain ⟨rfl, rfl, hrefused⟩ := refusedFrom_zero_iff.1 h
        obtain ⟨next, hnext, -⟩ := refusedFrom_succ_iff.1 h'
        rw [hrefused] at hnext
        cases hnext
    | succ i =>
      obtain ⟨next, hnext, hrest⟩ := refusedFrom_succ_iff.1 h
      cases j with
      | zero =>
        obtain ⟨rfl, rfl, hrefused⟩ := refusedFrom_zero_iff.1 h'
        rw [hrefused] at hnext
        cases hnext
      | succ j =>
        obtain ⟨next', hnext', hrest'⟩ := refusedFrom_succ_iff.1 h'
        rw [hnext] at hnext'
        cases hnext'
        exact congrArg (· + 1) (ih hrest hrest')

lemma RefusedAt.position_eq (h : r.RefusedAt strict ts i x y f) (h' : r.RefusedAt strict ts j x' y' f') : i = j :=
  RefusedFrom.position_eq h h'

/-! ### The failure -/

/-- Unification from some index on fails if and only if a position is refused, and with the refusal there. -/
lemma unifyFrom_eq_error_iff (index : Nat) :
    r.unifyFrom strict index found ts = .error g ↔
      ∃ i x y f, r.RefusedFrom strict found ts i x y f ∧ g = refusalAt (index + i) x y f := by
  induction ts generalizing index found with
  | nil =>
    constructor
    · rintro ⟨⟩
    · rintro ⟨i, x, y, f, h, -⟩
      exact absurd h not_refusedFrom_nil
  | cons t ts ih =>
    rw [unifyFrom]
    cases hunify : r.unify strict found t with
    | ok next =>
      dsimp only
      rw [ih]
      constructor
      · rintro ⟨i, x, y, f, h, rfl⟩
        exact ⟨i + 1, x, y, f, refusedFrom_succ_iff.2 ⟨next, hunify, h⟩, by rw [Nat.add_right_comm, Nat.add_assoc]⟩
      · rintro ⟨i, x, y, f, h, rfl⟩
        cases i with
        | zero =>
          obtain ⟨rfl, rfl, hrefused⟩ := refusedFrom_zero_iff.1 h
          rw [hunify] at hrefused
          cases hrefused
        | succ i =>
          obtain ⟨next', hnext', hrest⟩ := refusedFrom_succ_iff.1 h
          rw [hunify] at hnext'
          cases hnext'
          exact ⟨i, x, y, f, hrest, by rw [Nat.add_right_comm, Nat.add_assoc]⟩
    | error e =>
      -- the search ends here, so no later position can be the refused one
      constructor
      · rintro ⟨⟩
        exact ⟨0, found, t, e, refusedFrom_zero_iff.2 ⟨rfl, rfl, hunify⟩, rfl⟩
      · rintro ⟨i, x, y, f, h, rfl⟩
        cases i with
        | zero =>
          obtain ⟨rfl, rfl, hrefused⟩ := refusedFrom_zero_iff.1 h
          rw [hunify] at hrefused
          cases hrefused
          rfl
        | succ i =>
          obtain ⟨next, hnext, -⟩ := refusedFrom_succ_iff.1 h
          rw [hunify] at hnext
          cases hnext

/-- Types have no common type if and only if a position is refused, and the failure is the refusal there. -/
theorem commonType_eq_error_iff :
    r.commonType strict ts = .error g ↔
      ∃ i x y f, r.RefusedAt strict ts i x y f ∧ g = refusalAt i x y f := by
  have h : r.unifyFrom strict 0 .null ts = .error g ↔
      ∃ i x y f, r.RefusedFrom strict .null ts i x y f ∧ g = refusalAt (0 + i) x y f := unifyFrom_eq_error_iff 0
  simp only [Nat.zero_add] at h
  exact h

/-- What standard types are refused with names the two that met. -/
lemma unify_eq_error (hx : x.IsStandard) (hy : y.IsStandard) (h : standard.unify strict x y = .error f) :
    ∃ detail, f = .incompatibleType (.type x) (.type y) detail none := by
  rcases unify_cases strict hx hy with ⟨t, -, hok⟩ | ⟨-, detail, hrefused⟩
  · rw [hok] at h
    cases h
  · rw [hrefused] at h
    cases h
    exact ⟨detail, rfl⟩

lemma refusalAt_incompatible (hx : x.IsStandard) (hy : y.IsStandard) (i : Nat) (detail : Option String) :
    refusalAt i x y (.incompatibleType (.type x) (.type y) detail none) =
      .incompatibleType (.type x) (.type y) detail (some i) := by
  rw [refusalAt, Failure.incompatible_standard hx hy]

/-- What standard types have in common is a standard type. -/
lemma isStandard_of_commonType (hts : ∀ t ∈ ts, t.IsStandard) (h : standard.commonType strict ts = .ok t) :
    t.IsStandard := by
  have hsettles := commonType_standard strict hts
  cases hc : commonFrom? strict .null ts with
  | none =>
    rw [hc] at hsettles
    obtain ⟨f, hf, -⟩ := hsettles
    rw [h] at hf
    cases hf
  | some u =>
    rw [hc] at hsettles
    rw [show standard.commonType strict ts = .ok u from hsettles] at h
    cases h
    exact commonFrom?_isStandard .null hts hc

/-- The types that meet at a refused position are standard, and the refusal there names them. -/
lemma RefusedAt.incompatible (hts : ∀ t ∈ ts, t.IsStandard) (h : standard.RefusedAt strict ts i x y f) :
    x.IsStandard ∧ y.IsStandard ∧ ∃ detail, f = .incompatibleType (.type x) (.type y) detail none := by
  obtain ⟨hfound, hy, hrefused⟩ := h
  have hx : x.IsStandard := isStandard_of_commonType (fun t ht => hts t (List.mem_of_mem_take ht)) hfound
  have hy : y.IsStandard := hts y (List.mem_of_getElem? hy)
  exact ⟨hx, hy, unify_eq_error hx hy hrefused⟩

/-! ### Casters have no part in it -/

lemma unify_congr {r r' : Registry} (h : r.resolvers = r'.resolvers) : r.unify = r'.unify := by
  funext strict x y
  simp only [unify.eq_def, dispatch?, resolverFor?, h]

lemma unifyFrom_congr {r r' : Registry} (h : r.resolvers = r'.resolvers) (strict : Bool) (index : Nat)
    (found : VectorType) (ts : List VectorType) :
    r.unifyFrom strict index found ts = r'.unifyFrom strict index found ts := by
  induction ts generalizing index found with
  | nil => rfl
  | cons t ts ih => simp only [unifyFrom, unify_congr h, ih]

end Registry

end Coercion
