import Coercion.Failure
import Mathlib.Data.List.Forall2
import Mathlib.Tactic

/-!
Steps that may fail, and traversals of lists by them. A traversal succeeds if and only if it succeeds at every element,
and the first element at which it fails gives the cause. Traversals of paired lists can be followed side by side.
-/

namespace Coercion

variable {α β : Type}

lemma bind_eq_ok_iff {r : Except Failure α} {k : α → Except Failure β} {b : β} :
    r >>= k = .ok b ↔ ∃ a, r = .ok a ∧ k a = .ok b := by
  cases r with
  | error e =>
    constructor
    · intro h
      exact nomatch h
    · rintro ⟨_, h, _⟩
      cases h
  | ok a =>
    constructor
    · intro h
      exact ⟨a, rfl, h⟩
    · rintro ⟨_, ha, h⟩
      exact Except.ok.inj ha ▸ h

lemma bind_eq_error_iff {r : Except Failure α} {k : α → Except Failure β} {e : Failure} :
    r >>= k = .error e ↔ r = .error e ∨ ∃ a, r = .ok a ∧ k a = .error e := by
  cases r with
  | error e' =>
    constructor
    · intro h
      cases h
      exact Or.inl rfl
    · rintro (h | ⟨_, h, _⟩) <;> cases h
      rfl
  | ok a =>
    constructor
    · intro h
      exact Or.inr ⟨a, rfl, h⟩
    · rintro (h | ⟨_, ha, h⟩)
      · cases h
      · exact Except.ok.inj ha ▸ h

/-! ### Steps that change a state -/

section State

variable {σ : Type} {s t : σ} {x : ExceptT Failure (StateM σ) α}

lemma run_get_bind (f : σ → ExceptT Failure (StateM σ) β) : (get >>= f).run s = (f s).run s := rfl

lemma run_bind_ok {a : α} (f : α → ExceptT Failure (StateM σ) β) (h : x.run s = (.ok a, t)) :
    (x >>= f).run s = (f a).run t := by
  simp only [ExceptT.run, bind, ExceptT.bind, ExceptT.mk, StateT.bind, ExceptT.bindCont] at h ⊢
  rw [h]

/-- What a step has done before it fails stays done. -/
lemma run_bind_error {e : Failure} (f : α → ExceptT Failure (StateM σ) β) (h : x.run s = (.error e, t)) :
    (x >>= f).run s = (.error e, t) := by
  simp only [ExceptT.run, bind, ExceptT.bind, ExceptT.mk, StateT.bind, ExceptT.bindCont] at h ⊢
  rw [h]
  rfl

lemma run_bind_congr {y : ExceptT Failure (StateM σ) α} (f : α → ExceptT Failure (StateM σ) β)
    (h : x.run s = y.run t) : (x >>= f).run s = (y >>= f).run t := by
  simp only [ExceptT.run, bind, ExceptT.bind, ExceptT.mk, StateT.bind, ExceptT.bindCont] at h ⊢
  rw [h]

end State

/-! ### Lists -/

variable {f : α → Except Failure β}

/-- What stands in the second of two paired lists is paired with a member of the first. -/
lemma exists_mem_of_forall₂ {R : α → β → Prop} {xs : List α} {ys : List β} (h : List.Forall₂ R xs ys) {y : β}
    (hy : y ∈ ys) : ∃ x ∈ xs, R x y := by
  induction h with
  | nil => cases hy
  | cons hxy _ ih =>
    rcases List.mem_cons.1 hy with rfl | hy
    · exact ⟨_, List.mem_cons_self, hxy⟩
    · obtain ⟨x, hx, hxy⟩ := ih hy
      exact ⟨x, List.mem_cons_of_mem _ hx, hxy⟩

lemma forall₂_and {R S : α → β → Prop} {xs : List α} {ys : List β} (hr : List.Forall₂ R xs ys)
    (hs : List.Forall₂ S xs ys) : List.Forall₂ (fun x y => R x y ∧ S x y) xs ys := by
  induction hr with
  | nil => exact .nil
  | cons hxy _ ih =>
    cases hs with
    | cons hxy' hrest => exact .cons ⟨hxy, hxy'⟩ (ih hrest)

/-- What holds of the pairs of two lists may be proved of members of the first one only. -/
lemma forall₂_mem_left {R : α → β → Prop} {xs : List α} {ys : List β} (h : List.Forall₂ R xs ys) :
    List.Forall₂ (fun x y => x ∈ xs ∧ R x y) xs ys :=
  (List.forall₂_and_left _ _).2 ⟨fun _ hx => hx, h⟩

/-- What stands in the first of two paired lists is paired with what stands at its place in the second. -/
lemma exists_getElem?_of_forall₂ {R : α → β → Prop} {xs : List α} {ys : List β} (h : List.Forall₂ R xs ys) {i : Nat}
    {x : α} (hx : xs[i]? = some x) : ∃ y, ys[i]? = some y ∧ R x y := by
  induction h generalizing i with
  | nil => cases hx
  | @cons a b as bs hab _ ih =>
    cases i with
    | zero =>
      cases hx
      exact ⟨b, rfl, hab⟩
    | succ i => exact ih hx

/-- A list that is put together from parts has each part where the parts before it end. -/
lemma getElem?_flatMap {γ : Type} (g : α → List γ) {xs : List α} {i j : Nat} {x : α} {z : γ} (hx : xs[i]? = some x)
    (hz : (g x)[j]? = some z) : (xs.flatMap g)[((xs.take i).flatMap g).length + j]? = some z := by
  induction xs generalizing i with
  | nil => cases hx
  | cons a as ih =>
    cases i with
    | zero =>
      cases hx
      obtain ⟨hj, -⟩ := List.getElem?_eq_some_iff.1 hz
      rw [List.take_zero, List.flatMap_nil, List.length_nil, Nat.zero_add, List.flatMap_cons,
        List.getElem?_append_left hj]
      exact hz
    | succ i =>
      have hlength : (g a).length ≤ (g a).length + ((as.take i).flatMap g).length + j := by omega
      rw [List.take_succ_cons, List.flatMap_cons, List.flatMap_cons, List.length_append,
        List.getElem?_append_right hlength, Nat.add_assoc, Nat.add_sub_cancel_left]
      exact ih hx

/-- Lists of the same length are put together from parts of the same lengths. -/
lemma length_flatMap_of_forall₂ {γ δ : Type} {f : α → List γ} {g : β → List δ} {xs : List α} {ys : List β}
    (h : List.Forall₂ (fun x y => (f x).length = (g y).length) xs ys) :
    (xs.flatMap f).length = (ys.flatMap g).length := by
  induction h with
  | nil => rfl
  | cons hxy _ ih => rw [List.flatMap_cons, List.flatMap_cons, List.length_append, List.length_append, hxy, ih]

/-- Lists that have the same parts are put together to the same list. -/
lemma flatMap_eq_of_forall₂ {γ : Type} {f : α → List γ} {g : β → List γ} {xs : List α} {ys : List β}
    (h : List.Forall₂ (fun x y => f x = g y) xs ys) : xs.flatMap f = ys.flatMap g := by
  induction h with
  | nil => rfl
  | cons hxy _ ih => rw [List.flatMap_cons, List.flatMap_cons, hxy, ih]

/-- Without repetitions, a list has everything once. -/
lemma nodup_eraseDups [BEq α] [LawfulBEq α] (xs : List α) : xs.eraseDups.Nodup := by
  cases xs with
  | nil => exact List.nodup_nil
  | cons x xs =>
    rw [List.eraseDups_cons, List.nodup_cons]
    refine ⟨?_, nodup_eraseDups (xs.filter fun y => !y == x)⟩
    simp [List.mem_eraseDups]
termination_by xs.length
decreasing_by exact Nat.lt_succ_of_le (List.length_filter_le _ _)

/-- A traversal succeeds with the results of the single steps. -/
lemma mapM_eq_ok_iff (xs : List α) (ys : List β) :
    xs.mapM f = .ok ys ↔ List.Forall₂ (fun x y => f x = .ok y) xs ys := by
  induction xs generalizing ys with
  | nil =>
    rw [List.mapM_nil, List.forall₂_nil_left_iff]
    constructor
    · intro h
      exact (Except.ok.inj h).symm
    · rintro rfl
      rfl
  | cons x xs ih =>
    simp only [List.mapM_cons, List.forall₂_cons_left_iff, bind_eq_ok_iff, ih]
    constructor
    · rintro ⟨y, hy, zs, hzs, h⟩
      exact ⟨y, zs, hy, hzs, (Except.ok.inj h).symm⟩
    · rintro ⟨y, zs, hy, hzs, rfl⟩
      exact ⟨y, hy, zs, hzs, rfl⟩

/-- A traversal whose steps cannot fail. -/
lemma mapM_eq_ok_map {g : α → β} {xs : List α} (h : ∀ x ∈ xs, f x = .ok (g x)) : xs.mapM f = .ok (xs.map g) := by
  rw [mapM_eq_ok_iff, List.forall₂_map_right_iff, List.forall₂_same]
  exact h

/-- A traversal that succeeds does so at every element, and its results are those of the elements. -/
lemma exists_of_mapM_ok {xs : List α} {ys : List β} (h : xs.mapM f = .ok ys) :
    (∀ x ∈ xs, ∃ y, f x = .ok y) ∧ ∀ y ∈ ys, ∃ x ∈ xs, f x = .ok y := by
  have hpaired := (mapM_eq_ok_iff xs ys).1 h
  clear h
  induction hpaired with
  | nil => exact ⟨by simp, by simp⟩
  | @cons x y xs ys hxy _ ih =>
    obtain ⟨hxs, hys⟩ := ih
    constructor
    · intro z hz
      rcases List.mem_cons.1 hz with rfl | hz
      · exact ⟨y, hxy⟩
      · exact hxs z hz
    · intro z hz
      rcases List.mem_cons.1 hz with rfl | hz
      · exact ⟨x, by simp, hxy⟩
      · obtain ⟨w, hw, hwz⟩ := hys z hz
        exact ⟨w, by simp [hw], hwz⟩

/-- A traversal fails at the first element at which its step fails. -/
lemma mapM_eq_error_iff {xs : List α} {e : Failure} :
    xs.mapM f = .error e ↔
      ∃ before x after, xs = before ++ x :: after ∧ (∀ y ∈ before, ∃ z, f y = .ok z) ∧ f x = .error e := by
  induction xs with
  | nil =>
    refine iff_of_false (by rintro ⟨⟩) ?_
    rintro ⟨before, x, after, hsplit, -⟩
    cases before <;> cases hsplit
  | cons x xs ih =>
    rw [List.mapM_cons, bind_eq_error_iff]
    constructor
    · rintro (hx | ⟨y, hy, hrest⟩)
      · exact ⟨[], x, xs, rfl, by simp, hx⟩
      · rcases bind_eq_error_iff.1 hrest with hrest | ⟨ys, -, hrest⟩
        · obtain ⟨before, z, after, rfl, hbefore, hz⟩ := ih.1 hrest
          exact ⟨x :: before, z, after, rfl, List.forall_mem_cons.2 ⟨⟨y, hy⟩, hbefore⟩, hz⟩
        · cases hrest
    · rintro ⟨before, z, after, hsplit, hbefore, hz⟩
      cases before with
      | nil =>
        cases hsplit
        exact .inl hz
      | cons y before =>
        cases hsplit
        obtain ⟨⟨w, hw⟩, hbefore⟩ := List.forall_mem_cons.1 hbefore
        have hrest := ih.2 ⟨before, z, after, rfl, hbefore, hz⟩
        exact .inr ⟨w, hw, bind_eq_error_iff.2 (.inl hrest)⟩

/-- A traversal fails at one of the elements. -/
lemma exists_of_mapM_error {xs : List α} {e : Failure} (h : xs.mapM f = .error e) : ∃ x ∈ xs, f x = .error e := by
  obtain ⟨before, x, after, rfl, -, hx⟩ := mapM_eq_error_iff.1 h
  exact ⟨x, by simp, hx⟩

/-- A traversal whose steps fail for no other reason before they come to an element that fails. -/
lemma mapM_append_eq_error {before after : List α} {x : α} {e : Failure}
    (hbefore : ∀ y ∈ before, (∃ z, f y = .ok z) ∨ f y = .error e) (hx : f x = .error e) :
    (before ++ x :: after).mapM f = .error e := by
  induction before with
  | nil =>
    rw [List.nil_append, List.mapM_cons, hx]
    rfl
  | cons y before ih =>
    obtain ⟨hy, hbefore⟩ := List.forall_mem_cons.1 hbefore
    rw [List.cons_append, List.mapM_cons]
    rcases hy with ⟨z, hz⟩ | hy
    · rw [hz, ih hbefore]
      rfl
    · rw [hy]
      rfl

/-- A traversal that succeeds at every element succeeds. -/
lemma exists_mapM_ok {xs : List α} (h : ∀ x ∈ xs, ∃ y, f x = .ok y) : ∃ ys, xs.mapM f = .ok ys := by
  cases hm : xs.mapM f with
  | ok ys => exact ⟨ys, rfl⟩
  | error e =>
    obtain ⟨x, hx, he⟩ := exists_of_mapM_error hm
    obtain ⟨y, hy⟩ := h x hx
    rw [he] at hy
    cases hy

/-! ### Two traversals side by side -/

/-- Two attempts that fail for the same kind of reason, or that yield results which belong together. -/
inductive Parallel {α β : Type} (R : α → β → Prop) : Except Failure α → Except Failure β → Prop where
  | ok {a : α} {b : β} (related : R a b) : Parallel R (.ok a) (.ok b)
  | error {f g : Failure} (category : f.category = g.category) : Parallel R (.error f) (.error g)

namespace Parallel

variable {α β γ δ : Type} {R : α → β → Prop} {S : γ → δ → Prop}

lemma imp {R' : α → β → Prop} {r : Except Failure α} {s : Except Failure β} (h : Parallel R r s)
    (himp : ∀ a b, R a b → R' a b) : Parallel R' r s := by
  cases h with
  | ok related => exact .ok (himp _ _ related)
  | error category => exact .error category

lemma refl {R : α → α → Prop} (h : ∀ a, R a a) (r : Except Failure α) : Parallel R r r := by
  cases r with
  | ok a => exact .ok (h a)
  | error f => exact .error rfl

lemma flip {R' : β → α → Prop} {r : Except Failure α} {s : Except Failure β} (h : Parallel R r s)
    (hflip : ∀ a b, R a b → R' b a) : Parallel R' s r := by
  cases h with
  | ok related => exact .ok (hflip _ _ related)
  | error category => exact .error category.symm

lemma bind {r : Except Failure α} {s : Except Failure β} {f : α → Except Failure γ} {g : β → Except Failure δ}
    (h : Parallel R r s) (hfg : ∀ a b, r = .ok a → s = .ok b → R a b → Parallel S (f a) (g b)) :
    Parallel S (r >>= f) (s >>= g) := by
  cases h with
  | ok related => exact hfg _ _ rfl rfl related
  | error category => exact .error category

/-- Paired lists are traversed side by side. -/
lemma mapM {f : α → Except Failure γ} {g : β → Except Failure δ} {xs : List α} {ys : List β}
    (h : List.Forall₂ (fun x y => Parallel S (f x) (g y)) xs ys) :
    Parallel (List.Forall₂ S) (xs.mapM f) (ys.mapM g) := by
  induction h with
  | nil => exact .ok .nil
  | cons hxy _ ih =>
    rw [List.mapM_cons, List.mapM_cons]
    refine hxy.bind ?_
    intro a b _ _ hab
    exact ih.bind fun as bs _ _ hall => .ok (.cons hab hall)

/-- Traversals side by side that both have results have related ones. -/
lemma mapM_ok {f : α → Except Failure γ} {g : β → Except Failure δ} {xs : List α} {ys : List β} {zs : List γ}
    {ws : List δ} (h : List.Forall₂ (fun x y => Parallel S (f x) (g y)) xs ys) (hf : xs.mapM f = .ok zs)
    (hg : ys.mapM g = .ok ws) : List.Forall₂ S zs ws := by
  have hmapM := mapM h
  rw [hf, hg] at hmapM
  cases hmapM with
  | ok related => exact related

end Parallel

end Coercion
