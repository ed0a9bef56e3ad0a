import Coercion.Cast.Basic
import Coercion.Proofs.Traversal

/-!
The search for a route, in any registry. Types that are equal need no cast, null and unspecified vectors carry no
values, and otherwise it is for the casters to find a way: the one for the two kinds, then the two halves of the
decomposed form, and at last the fallback of the source. What a cast does follows from the route that the search ends
with.
-/

namespace Coercion

namespace Registry

variable {r : Registry} {decompose : Bool} {s t : VectorType} {c apart together : Caster} {route : Route}

/-- Whether a vector of one type can become one of another only through casters. -/
structure NeedsCaster (s t : VectorType) : Prop where
  differ : s.same t = false
  sourceNull : s ≠ .null
  sourceUnspecified : s ≠ .unspecified
  targetNull : t ≠ .null

/-- Whether there is a way from one type to another through the decomposed form, with a caster for each half. -/
structure Detour (r : Registry) (decompose : Bool) (s t : VectorType) (apart together : Caster) : Prop where
  allowed : decompose = true
  source : s.tag ≠ .list
  target : t.tag ≠ .list
  apart : r.casterFor? s.tag .list = some apart
  together : r.casterFor? .list t.tag = some together

/-- The order in which routes are looked for, and what makes the search end with each of them. -/
inductive Takes (r : Registry) (decompose : Bool) (s t : VectorType) : Route → Prop where
  | unchanged (equal : s.same t = true) : Takes r decompose s t .unchanged
  | toNull (differ : s.same t = false) (null : t = .null) : Takes r decompose s t .toNull
  | fromNull (differ : s.same t = false) (typed : t ≠ .null) (null : s = .null) : Takes r decompose s t .fromNull
  | fromUnspecified (differ : s.same t = false) (typed : t ≠ .null) (unspecified : s = .unspecified) :
    Takes r decompose s t .fromUnspecified
  | direct {c : Caster} (needed : NeedsCaster s t) (found : r.casterFor? s.tag t.tag = some c) :
    Takes r decompose s t (.direct c)
  | decomposed {c d : Caster} (needed : NeedsCaster s t) (missing : r.casterFor? s.tag t.tag = none)
    (detour : Detour r decompose s t c d) : Takes r decompose s t (.decomposed c d)
  | fallback {c : Caster} (needed : NeedsCaster s t) (missing : r.casterFor? s.tag t.tag = none)
    (noDetour : ∀ c d, ¬ Detour r decompose s t c d) (found : r.casterFor? s.tag .any = some c) :
    Takes r decompose s t (.direct c)
  | impassable (needed : NeedsCaster s t) (missing : r.casterFor? s.tag t.tag = none)
    (noDetour : ∀ c d, ¬ Detour r decompose s t c d) (noFallback : r.casterFor? s.tag .any = none) :
    Takes r decompose s t .impassable

/-! ### The decomposed form -/

/-- The way through the decomposed form, if it is allowed and both halves of it are there. -/
def detour? (r : Registry) (decompose : Bool) (s t : VectorType) : Option Route :=
  if decompose then r.decomposition? s t else none

lemma detour?_of_detour (h : Detour r decompose s t apart together) :
    r.detour? decompose s t = some (.decomposed apart together) := by
  rw [detour?, if_pos h.allowed, decomposition?, if_neg (not_or.2 ⟨h.source, h.target⟩)]
  simp [h.apart, h.together]

lemma exists_detour (h : r.detour? decompose s t = some route) :
    ∃ c d, Detour r decompose s t c d ∧ route = .decomposed c d := by
  rw [detour?] at h
  split_ifs at h with hdecompose
  rw [decomposition?] at h
  split_ifs at h with hlist
  · cases h
  · rw [not_or] at hlist
    obtain ⟨c, hc, h⟩ := Option.bind_eq_some_iff.1 h
    obtain ⟨d, hd, h⟩ := Option.bind_eq_some_iff.1 h
    exact ⟨c, d, ⟨hdecompose, hlist.1, hlist.2, hc, hd⟩, (Option.some.inj h).symm⟩

lemma detour?_eq_none (h : ∀ c d, ¬ Detour r decompose s t c d) : r.detour? decompose s t = none := by
  rw [Option.eq_none_iff_forall_ne_some]
  intro route hroute
  obtain ⟨c, d, hdetour, -⟩ := exists_detour hroute
  exact h c d hdetour

lemma not_detour (h : r.detour? decompose s t = none) (c d : Caster) : ¬ Detour r decompose s t c d := by
  intro hdetour
  rw [detour?_of_detour hdetour] at h
  cases h

/-! ### The search -/

/-- The route among those that lead through casters. -/
def casterRoute (r : Registry) (decompose : Bool) (s t : VectorType) : Route :=
  match r.casterFor? s.tag t.tag with
  | some c => .direct c
  | none =>
    match r.detour? decompose s t with
    | some route => route
    | none =>
      match r.casterFor? s.tag .any with
      | some c => .direct c
      | none => .impassable

lemma route_of_needed (needed : NeedsCaster s t) : r.route decompose s t = r.casterRoute decompose s t := by
  unfold route casterRoute
  rw [if_neg (show ¬ (s == t) = true from Bool.not_eq_true _ ▸ needed.differ)]
  split
  · exact absurd rfl needed.targetNull
  · exact absurd rfl needed.sourceNull
  · exact absurd rfl needed.sourceUnspecified
  · rfl

/-- The route is the one that the search ends with. -/
theorem Takes.route_eq (h : Takes r decompose s t route) : r.route decompose s t = route := by
  cases h with
  | unchanged equal =>
    unfold Registry.route
    exact if_pos equal
  | toNull differ null =>
    subst null
    unfold Registry.route
    rw [if_neg (show ¬ (s == .null) = true from Bool.not_eq_true _ ▸ differ)]
  | fromNull differ typed null =>
    subst null
    unfold Registry.route
    rw [if_neg (show ¬ (.null == t) = true from Bool.not_eq_true _ ▸ differ)]
    cases t <;> first | rfl | exact absurd rfl typed
  | fromUnspecified differ typed unspecified =>
    subst unspecified
    unfold Registry.route
    rw [if_neg (show ¬ (.unspecified == t) = true from Bool.not_eq_true _ ▸ differ)]
    cases t <;> first | rfl | exact absurd rfl typed
  | direct needed found => rw [route_of_needed needed, casterRoute, found]
  | decomposed needed missing detour => rw [route_of_needed needed, casterRoute, missing, detour?_of_detour detour]
  | fallback needed missing noDetour found =>
    rw [route_of_needed needed, casterRoute, missing, detour?_eq_none noDetour, found]
  | impassable needed missing noDetour noFallback =>
    rw [route_of_needed needed, casterRoute, missing, detour?_eq_none noDetour, noFallback]

lemma takes_casterRoute (needed : NeedsCaster s t) : Takes r decompose s t (r.casterRoute decompose s t) := by
  rw [casterRoute]
  cases hfound : r.casterFor? s.tag t.tag with
  | some c => exact .direct needed hfound
  | none =>
    cases hdetour : r.detour? decompose s t with
    | some route =>
      obtain ⟨c, d, hway, rfl⟩ := exists_detour hdetour
      exact .decomposed needed hfound hway
    | none =>
      cases hfallback : r.casterFor? s.tag .any with
      | some c => exact .fallback needed hfound (not_detour hdetour) hfallback
      | none => exact .impassable needed hfound (not_detour hdetour) hfallback

/-- **The search for a route always ends for one of the reasons that there are.** -/
theorem takes_route (r : Registry) (decompose : Bool) (s t : VectorType) :
    Takes r decompose s t (r.route decompose s t) := by
  have hends : ∃ route, Takes r decompose s t route := by
    cases hsame : s.same t with
    | true => exact ⟨_, .unchanged hsame⟩
    | false =>
      by_cases htarget : t = .null
      · exact ⟨_, .toNull hsame htarget⟩
      by_cases hnull : s = .null
      · exact ⟨_, .fromNull hsame htarget hnull⟩
      by_cases hunspecified : s = .unspecified
      · exact ⟨_, .fromUnspecified hsame htarget hunspecified⟩
      exact ⟨_, takes_casterRoute ⟨hsame, hnull, hunspecified, htarget⟩⟩
  obtain ⟨route, h⟩ := hends
  rw [h.route_eq]
  exact h

end Registry

end Coercion
