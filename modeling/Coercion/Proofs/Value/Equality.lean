import Coercion.Value.Basic
import Mathlib.Data.List.Forall2
import Mathlib.Tactic

/-!
Equality of values is symmetric and transitive, and reflexive on every single value that is present. Equal values are
missing together and can be members of a set together, so that a set of levels does not depend on how its
members are written.
-/

namespace Coercion

namespace Value

/-- The ways in which a value can hold others. -/
inductive Shape where
  | list
  | tuple
  | array
  | dict (keys : List String)

/-- The way in which a value holds others, and what it holds. -/
def held? : Value → Option (Shape × List Value)
  | .list xs => some (.list, xs)
  | .tuple xs => some (.tuple, xs)
  | .array _ xs => some (.array, xs)
  | .dict ks xs => some (.dict ks, xs)
  | .scalar _ v => v.held?
  | _ => none

/-- What a value holds is smaller than the value. -/
lemma sizeOf_of_held? {v x : Value} {s : Shape} {xs : List Value} (h : v.held? = some (s, xs))
    (hx : x ∈ xs) : sizeOf x < sizeOf v := by
  have hlt := List.sizeOf_lt_of_mem hx
  fun_induction held? v with
  | case5 e v ih =>
    have := ih h
    simp only [scalar.sizeOf_spec]
    omega
  | case6 => simp at h
  | _ =>
    simp only [Option.some.injEq, Prod.mk.injEq] at h
    obtain ⟨-, rfl⟩ := h
    simp only [list.sizeOf_spec, tuple.sizeOf_spec, array.sizeOf_spec, dict.sizeOf_spec]
    omega

/-- Induction over a value and what it holds. -/
theorem heldInduction {P : Value → Prop}
    (step : ∀ v, (∀ s xs, v.held? = some (s, xs) → ∀ x ∈ xs, P x) → P v) (v : Value) : P v :=
  step v fun _ _ h x hx =>
    have := sizeOf_of_held? h hx
    heldInduction step x
termination_by sizeOf v

/-! ### Equality, by what a value says or holds -/

lemma sameAll_iff (xs ys : List Value) :
    sameAll xs ys = true ↔ List.Forall₂ (fun x y => x.same y = true) xs ys := by
  induction xs generalizing ys with
  | nil => cases ys <;> simp [sameAll]
  | cons x xs ih => cases ys <;> simp [sameAll, ih]

/-- A member of a list has an equal one at its place in an equal list. -/
lemma exists_same_of_mem {xs ys : List Value} (h : sameAll xs ys = true) {x : Value} (hx : x ∈ xs) :
    ∃ y ∈ ys, x.same y = true := by
  rw [sameAll_iff] at h
  induction h with
  | nil => cases hx
  | cons hab _ ih =>
    rcases List.mem_cons.1 hx with rfl | hx
    · exact ⟨_, by simp, hab⟩
    · obtain ⟨y, hy, hxy⟩ := ih hx
      exact ⟨y, by simp [hy], hxy⟩

lemma held?_bare (v : Value) : v.bare.held? = v.held? := by
  fun_induction bare v with
  | case1 e v ih => exact ih
  | case2 v h => rfl

lemma bare_ne_scalar (v : Value) (e : Element) (w : Value) : v.bare ≠ scalar e w := by
  fun_induction bare v with
  | case1 e v ih => exact ih
  | case2 v h => exact h e w

lemma meaning?_of_held? {v : Value} {p : Shape × List Value} (h : v.held? = some p) :
    v.meaning? = none := by
  fun_induction held? v with
  | case5 e v ih => rw [meaning?, ih h]
  | case6 => simp at h
  | _ => simp [meaning?, quantity?, momentOf?]

lemma held?_of_meaning? {v : Value} {m : Meaning} (h : v.meaning? = some m) : v.held? = none := by
  cases hv : v.held? with
  | none => rfl
  | some p => exact absurd h (by simp [meaning?_of_held? hv])

lemma same_of_held? {v : Value} {s : Shape} {xs : List Value} (h : v.held? = some (s, xs)) (w : Value) :
    v.same w = true ↔ ∃ ys, w.held? = some (s, ys) ∧ sameAll xs ys = true := by
  have hw := bare_ne_scalar w
  rw [← held?_bare w]
  fun_induction held? v with
  | case5 e v ih => rw [same]; exact ih h
  | case6 => simp at h
  | case4 ks xs =>
    simp only [Option.some.injEq, Prod.mk.injEq] at h
    obtain ⟨rfl, rfl⟩ := h
    rw [same]
    cases hb : w.bare with
    | scalar e u => exact absurd hb (hw e u)
    | dict ls ys => simp [held?, eq_comm (a := ls)]
    | _ => simp [held?]
  | _ =>
    simp only [Option.some.injEq, Prod.mk.injEq] at h
    obtain ⟨rfl, rfl⟩ := h
    rw [same]
    cases hb : w.bare with
    | scalar e u => exact absurd hb (hw e u)
    | _ => simp [held?]

lemma same_of_held?_eq_none {v : Value} (h : v.held? = none) (w : Value) :
    v.same w = true ↔ ∃ m, v.meaning? = some m ∧ w.meaning? = some m := by
  have key : v.same w = (v.meaning?.isSome && v.meaning? == w.meaning?) := by
    fun_induction held? v with
    | case5 e v ih => rw [same, meaning?, ih h]
    | case6 v hl ht ha hd hs =>
      cases v with
      | list xs => exact absurd rfl (hl xs)
      | tuple xs => exact absurd rfl (ht xs)
      | array e xs => exact absurd rfl (ha e xs)
      | dict ks xs => exact absurd rfl (hd ks xs)
      | scalar e u => exact absurd rfl (hs e u)
      | _ => rfl
    | _ => exact absurd h (by simp)
  rw [key]
  cases v.meaning? with
  | none => simp
  | some m => simp [eq_comm (a := some m)]

lemma same_tuple (xs ys : List Value) : (tuple xs).same (tuple ys) = sameAll xs ys := by
  simp only [same, bare]

/-- Values are equal if they say the same, or hold equal values in the same way. -/
theorem same_iff (v w : Value) :
    v.same w = true ↔ (∃ m, v.meaning? = some m ∧ w.meaning? = some m) ∨
      ∃ s xs ys, v.held? = some (s, xs) ∧ w.held? = some (s, ys) ∧
        List.Forall₂ (fun x y => x.same y = true) xs ys := by
  cases h : v.held? with
  | none => simp [same_of_held?_eq_none h]
  | some p =>
    obtain ⟨s, xs⟩ := p
    simp [same_of_held? h, meaning?_of_held? h, sameAll_iff]

/-- Values that say something are equal to those that say the same. -/
lemma same_iff_of_meaning? {v : Value} {m : Meaning} (h : v.meaning? = some m) (w : Value) :
    v.same w = true ↔ w.meaning? = some m := by
  rw [same_of_held?_eq_none (held?_of_meaning? h), h]
  simp [eq_comm (a := m)]

/-! ### The laws of an equivalence -/

/-- Equality does not depend on the order of its sides. -/
theorem same_symm {v w : Value} (h : v.same w = true) : w.same v = true := by
  induction v using heldInduction generalizing w with
  | step v ih =>
    rw [same_iff] at h ⊢
    rcases h with ⟨m, hv, hw⟩ | ⟨s, xs, ys, hv, hw, hxy⟩
    · exact Or.inl ⟨m, hw, hv⟩
    · refine Or.inr ⟨s, ys, xs, hw, hv, ?_⟩
      -- the lists are turned around pair by pair, which the hypothesis allows for what `v` holds
      have hmem := ih s xs hv
      clear ih hv hw
      induction hxy with
      | nil => exact .nil
      | cons hab _ ihl =>
        have hrest := ihl fun x hx => hmem x (List.mem_cons_of_mem _ hx)
        exact .cons (hmem _ List.mem_cons_self hab) hrest

/-- Values that are equal to one and the same are equal. -/
theorem same_trans {u v w : Value} (huv : u.same v = true) (hvw : v.same w = true) : u.same w = true := by
  induction u using heldInduction generalizing v w with
  | step u ih =>
    rw [same_iff] at huv hvw ⊢
    rcases huv with ⟨m, hu, hv⟩ | ⟨s, xs, ys, hu, hv, hxy⟩
    · rcases hvw with ⟨n, hv', hw⟩ | ⟨s, ys, zs, hv', -, -⟩
      · exact Or.inl ⟨m, hu, by rw [hw, ← hv', hv]⟩
      · rw [meaning?_of_held? hv'] at hv
        exact absurd hv (by simp)
    · rcases hvw with ⟨n, hv', hw⟩ | ⟨s', ys', zs, hv', hw, hyz⟩
      · -- `v` cannot hold something and say something as well
        rw [meaning?_of_held? hv] at hv'
        exact absurd hv' (by simp)
      · rw [hv, Option.some.injEq, Prod.mk.injEq] at hv'
        obtain ⟨rfl, rfl⟩ := hv'
        refine Or.inr ⟨s, xs, zs, hu, hw, ?_⟩
        have hmem := ih s xs hu
        clear ih hu hv hw
        induction hxy generalizing zs with
        | nil => cases hyz; exact .nil
        | cons hab _ ihl =>
          cases hyz with
          | cons hbc hyz =>
            have hrest := ihl _ hyz fun x hx => hmem x (List.mem_cons_of_mem _ hx)
            exact .cons (hmem _ List.mem_cons_self hab hbc) hrest

/-- Equal values are equal to the same values. -/
lemma same_congr_right {v w : Value} (h : v.same w = true) (u : Value) : u.same v = u.same w := by
  rw [Bool.eq_iff_iff]
  constructor
  · intro hu
    exact same_trans hu h
  · intro hu
    exact same_trans hu (same_symm h)

/-! ### Missing values and values that cannot be levels -/

lemma meaning?_bare (v : Value) : v.bare.meaning? = v.meaning? := by
  fun_induction bare v with
  | case1 e v ih => exact ih
  | case2 v h => rfl

lemma isMissing_bare (v : Value) : v.bare.isMissing = v.isMissing := by
  fun_induction bare v with
  | case1 e v ih => exact ih
  | case2 v h => rfl

/-- A value is missing if it holds nothing and says nothing, except that it is absent. -/
theorem isMissing_iff (v : Value) :
    v.isMissing = true ↔ v.held? = none ∧ (v.meaning? = none ∨ v.meaning? = some .absent) := by
  rw [← isMissing_bare, ← held?_bare, ← meaning?_bare]
  have hv := bare_ne_scalar v
  generalize v.bare = w at hv
  cases w with
  | scalar e u => exact absurd rfl (hv e u)
  | double x => cases x <;> simp [held?, meaning?, isMissing, quantity?, Double.quantity, Double.isNan]
  | decimal d =>
    cases d <;>
      simp [held?, meaning?, isMissing, quantity?, WrittenDecimal.quantity, WrittenDecimal.isNan]
  | complex re im =>
    simp only [held?, meaning?, isMissing]
    split_ifs <;> simp_all
  | moment r z => cases z <;> simp [held?, meaning?, isMissing, quantity?, momentOf?]
  | ticks r u => cases r <;> simp [held?, meaning?, isMissing, quantity?, momentOf?]
  | _ => simp [held?, meaning?, isMissing, quantity?, momentOf?]

/-- A single value that is not missing is equal to itself. -/
theorem same_self {v : Value} (hv : v.held? = none) (hm : v.isMissing = false) : v.same v = true := by
  rw [same_iff]
  refine Or.inl ?_
  cases h : v.meaning? with
  | none => exact absurd ((isMissing_iff v).2 ⟨hv, Or.inl h⟩) (by simp [hm])
  | some m => exact ⟨m, rfl, rfl⟩

/-- Equal values are missing together. -/
theorem same_isMissing {v w : Value} (h : v.same w = true) : v.isMissing = w.isMissing := by
  rw [Bool.eq_iff_iff, isMissing_iff, isMissing_iff]
  rcases (same_iff v w).1 h with ⟨m, hv, hw⟩ | ⟨s, xs, ys, hv, hw, -⟩
  · rw [held?_of_meaning? hv, held?_of_meaning? hw, hv, hw]
  · simp [hv, hw]

lemma unhashable?_of_held?_eq_none {v : Value} (h : v.held? = none) : v.unhashable? = none := by
  fun_induction held? v with
  | case5 e v ih => rw [unhashable?]; exact ih h
  | case6 v hl ht ha hd hs =>
    cases v with
    | list xs => exact absurd rfl (hl xs)
    | tuple xs => exact absurd rfl (ht xs)
    | array e xs => exact absurd rfl (ha e xs)
    | dict ks xs => exact absurd rfl (hd ks xs)
    | scalar e u => exact absurd rfl (hs e u)
    | _ => rfl
  | _ => exact absurd h (by simp)

/-- What keeps a value that holds others from being a member of a set. -/
def Shape.unhashable? (s : Shape) (xs : List Value) : Option String :=
  match s with
  | .list => some "list"
  | .tuple => unhashableIn? xs
  | .array => some "numpy.ndarray"
  | .dict _ => some "dict"

lemma unhashable?_of_held? {v : Value} {s : Shape} {xs : List Value} (h : v.held? = some (s, xs)) :
    v.unhashable? = s.unhashable? xs := by
  fun_induction held? v with
  | case5 e v ih => rw [Value.unhashable?]; exact ih h
  | case6 => simp at h
  | _ =>
    simp only [Option.some.injEq, Prod.mk.injEq] at h
    obtain ⟨rfl, rfl⟩ := h
    rfl

/-- Equal values are kept from being members of a set by the same. -/
theorem same_unhashable? {v w : Value} (h : v.same w = true) : v.unhashable? = w.unhashable? := by
  induction v using heldInduction generalizing w with
  | step v ih =>
    rcases (same_iff v w).1 h with ⟨m, hv, hw⟩ | ⟨s, xs, ys, hv, hw, hxy⟩
    · rw [unhashable?_of_held?_eq_none (held?_of_meaning? hv), unhashable?_of_held?_eq_none (held?_of_meaning? hw)]
    · rw [unhashable?_of_held? hv, unhashable?_of_held? hw]
      have hmem := ih s xs hv
      have hin : unhashableIn? xs = unhashableIn? ys := by
        clear ih hv hw
        induction hxy with
        | nil => rfl
        | cons hab _ ihl =>
          rw [unhashableIn?, unhashableIn?, hmem _ (by simp) hab, ihl fun x hx => hmem x (by simp [hx])]
      cases s <;> simp [Shape.unhashable?, hin]

end Value

end Coercion
