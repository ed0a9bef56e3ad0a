import Coercion.Proofs.Cast.Contract
import Coercion.Proofs.Law.Instances
import Coercion.Proofs.Unify.Protocol

/-!
What a check of the laws may rely on. The kinds that it meets have names and empty vectors, and the rules that it calls
return something well-formed or refuse. Then every attempt to unify and every cast that the check makes comes to a
result or is refused, whatever route it takes: nothing else can end the check.
-/

namespace Coercion

/-- Whether an attempt comes to a result or is refused. -/
def Completes {α : Type} (outcome : Except Failure α) : Prop :=
  ∀ f, outcome = .error f → f.isRefusal = true

lemma completes_ok {α : Type} (a : α) : Completes (.ok a) := by
  intro f h
  cases h

lemma completes_error {α : Type} {f : Failure} (h : f.isRefusal = true) : Completes (.error f : Except Failure α) := by
  intro g hg
  cases hg
  exact h

lemma Completes.bind {α β : Type} {outcome : Except Failure α} {k : α → Except Failure β} (h : Completes outcome)
    (hk : ∀ a, outcome = .ok a → Completes (k a)) : Completes (outcome >>= k) := by
  cases outcome with
  | ok a => exact hk a rfl
  | error f => exact completes_error (h f rfl)

/-- What a resolver may come to: a type that has a name, or a refusal. -/
def Resolution.Proper (outcome : Except Failure Resolution) : Prop :=
  (∃ t : VectorType, outcome = .ok (.type t) ∧ t.unnamedClass? = none) ∨
    ∃ f, outcome = .error f ∧ f.isRefusal = true

/-! ### Unification -/

namespace Registry

variable {r : Registry} {strict : Bool} {x y : VectorType}

lemma isRefusal_incompatible (hx : x.unnamedClass? = none) (hy : y.unnamedClass? = none) (detail : Option String)
    (index : Option Nat) : (Failure.incompatible x y detail index).isRefusal = true := by
  rw [Failure.incompatible, hx, hy]
  rfl

lemma isRefusal_refusalFor (hx : x.unnamedClass? = none) (hy : y.unnamedClass? = none) {f : Failure}
    (h : f.isRefusal = true) : (refusalFor x y f).isRefusal = true := by
  rw [refusalFor.eq_def]
  split
  · split_ifs
    · exact h
    · exact isRefusal_incompatible hx hy _ none
  · exact h

/-- Where the resolver that is asked is proper, unification completes. -/
lemma completes_unify (hx : x.unnamedClass? = none) (hy : y.unnamedClass? = none)
    (h : ∀ d, r.dispatch? x y = some d → Resolution.Proper (d.rule.run d.left d.right strict)) :
    Completes (r.unify strict x y) := by
  by_cases hxn : x = .null
  · rw [hxn, unify_null_left]
    exact completes_ok y
  by_cases hyn : y = .null
  · rw [hyn, unify_null_right]
    exact completes_ok x
  rw [unify_eq_verdict r strict hxn hyn, verdict]
  cases hd : r.dispatch? x y with
  | none => exact completes_error (isRefusal_refusalFor hx hy (isRefusal_incompatible hx hy none none))
  | some d =>
    dsimp only
    rcases h d hd with ⟨t, ht, -⟩ | ⟨f, hf, hrefusal⟩
    · rw [ht]
      exact completes_ok t
    · rw [hf]
      exact completes_error (isRefusal_refusalFor hx hy hrefusal)

lemma isRefusal_noCast (hx : x.unnamedClass? = none) (hy : y.unnamedClass? = none) (detail : Option String) :
    (Failure.noCast x y detail).isRefusal = true := by
  rw [Failure.noCast, hx, hy]
  rfl

lemma isRefusal_refusalThrough (hx : x.unnamedClass? = none) (hy : y.unnamedClass? = none) {f : Failure}
    (h : f.isRefusal = true) : (refusalThrough x y f).isRefusal = true := by
  rw [refusalThrough.eq_def]
  split
  · exact isRefusal_noCast hx hy _
  · exact h

end Registry

/-! ### Casts -/

namespace Making

open Registry

variable {m : Making} {r : Registry} {decompose : Bool} {v : TypedVector} {t : VectorType}

/-- Where the casters that are called keep to results and refusals, and the vectors that are asked for without any
caster can be made, a cast completes. -/
lemma completes_castTo (hv : v.type.unnamedClass? = none) (ht : t.unnamedClass? = none)
    (hcalls : ∀ {c source target}, Calls m r decompose v t c source target →
      Completes (c.call (m.executor r v) source target))
    (hequal : v.type.same t = true → samePayload v.type t = true)
    (hempty : v.type.same t = false → t = .null ∨ v.type = .null → Completes (m.empty t))
    (hmissing : v.type.same t = false → v.type = .unspecified → Completes (m.missing t v.size)) :
    Completes (m.castTo r decompose v t) := by
  have htakes := takes_route r decompose v.type t
  rw [castTo_eq_attempt, attempt.eq_def]
  generalize r.route decompose v.type t = route at htakes
  cases htakes with
  | unchanged equal =>
    dsimp only
    rw [if_pos (hequal equal)]
    exact completes_ok _
  | toNull differ null =>
    dsimp only
    split_ifs
    · exact completes_error (isRefusal_noCast hv ht _)
    · exact (hempty differ (.inl null)).bind fun w _ => completes_ok _
  | fromNull differ typed null => exact (hempty differ (.inr null)).bind fun w _ => completes_ok _
  | fromUnspecified differ typed unspecified => exact (hmissing differ unspecified).bind fun w _ => completes_ok _
  | direct needed found => exact hcalls (.direct needed found)
  | decomposed needed missing detour =>
    refine (hcalls (.apart needed missing detour)).bind ?_
    intro parts hparts
    have htogether := hcalls (.together needed missing detour hparts)
    split
    · exact completes_ok _
    · rename_i f hf
      exact completes_error (isRefusal_refusalThrough hv ht (htogether f hf))
  | fallback needed missing noDetour found => exact hcalls (.fallback needed missing noDetour found)
  | impassable => exact completes_error (isRefusal_noCast hv ht none)

/-! ### Payloads -/

/-- A type that is equal to itself has a payload of values that are equal to themselves. -/
lemma same_self_of_mem_params (h : t.same t = true) {p : String × Value} (hp : p ∈ t.params) :
    p.2.same p.2 = true := by
  have hboth (hparts : (t.tag == t.tag && Value.sameAll (t.params.map (·.2)) (t.params.map (·.2))) = true) :
      p.2.same p.2 = true := by
    rw [Bool.and_eq_true, Value.sameAll_iff, List.forall₂_same] at hparts
    exact hparts.2 _ (List.mem_map_of_mem hp)
  cases t with
  | categorical levels =>
    rw [VectorType.same, Bool.and_self] at h
    rw [List.mem_singleton.1 hp, Value.same_tuple, Value.sameAll_iff, List.forall₂_same]
    intro v hv
    obtain ⟨w, -, hw⟩ := (VectorType.covers_iff levels levels).1 h v hv
    exact Value.same_trans (Value.same_symm hw) hw
  | datetime zone =>
    rw [List.mem_singleton.1 hp]
    rcases zone with _ | (_ | _) <;> simp [VectorType.zoneValue, Value.same, Value.meaning?]
  | _ => exact hboth h

lemma samePayload_self (h : t.same t = true) : samePayload t t = true := by
  rw [samePayload, beq_self_eq_true, Bool.true_and, List.all_eq_true]
  intro p hp
  obtain ⟨name, w⟩ := p
  exact List.any_eq_true.2
    ⟨(name, w), hp, Bool.and_eq_true_iff.2 ⟨beq_self_eq_true name, same_self_of_mem_params h hp⟩⟩

/-- Equal types are of the same kind, and have as many values in their payloads. -/
lemma of_same {s t : VectorType} (h : s.same t = true) : s.tag = t.tag ∧ s.params.length = t.params.length := by
  have hboth (hparts : (s.tag == t.tag && Value.sameAll (s.params.map (·.2)) (t.params.map (·.2))) = true) :
      s.tag = t.tag ∧ s.params.length = t.params.length := by
    rw [Bool.and_eq_true, beq_iff_eq, Value.sameAll_iff] at hparts
    exact ⟨hparts.1, by simpa using hparts.2.length_eq⟩
  cases s with
  | categorical a =>
    cases t with
    | categorical b => exact ⟨rfl, rfl⟩
    | _ => cases h
  | datetime a =>
    cases t with
    | categorical b => cases h
    | datetime b => exact ⟨rfl, rfl⟩
    | _ => exact hboth h
  | _ =>
    cases t with
    | categorical b => cases h
    | _ => exact hboth h

/-- Types that are equal to the list type are of its kind, and have no payload either. -/
lemma of_same_list (h : t.same .list = true) : t.tag = .list ∧ t.params = [] :=
  ⟨(of_same h).1, List.eq_nil_of_length_eq_zero (of_same h).2⟩

/-! ### What the check relies on -/

/-- Whether the list type makes its vectors in the usual way. -/
structure MakesLists (m : Making) : Prop where
  construct : m.construct .list = standard.construct .list
  empty : m.empty .list = standard.empty .list
  missing : m.missing .list = standard.missing .list

/-- The casts by which the laws are checked on a vector. -/
inductive Trial (m : Making) (r : Registry) (v : TypedVector) : TypedVector → VectorType → Prop where
  | own : Trial m r v v v.type
  | apart (supported : (r.casterFor? v.type.tag .list).isSome) : Trial m r v v .list
  | together {parts : CastResult} (supported : (r.casterFor? v.type.tag .list).isSome)
    (parted : m.castTo r true v .list = .ok parts) : Trial m r v parts.vector v.type

/-- What a check of the laws relies on. -/
structure Checkable (m : Making) (r : Registry) (samples : List TypedVector) (partners : List VectorType) :
    Prop where
  /-- The kinds have names. -/
  named : ∀ t ∈ samples.map TypedVector.type ++ partners, t.unnamedClass? = none
  /-- A resolver that is asked about two types returns a type or refuses. -/
  resolvers : ∀ x ∈ samples.map TypedVector.type, ∀ y ∈ samples.map TypedVector.type ++ partners,
    ∀ d, r.dispatch? x y = some d ∨ r.dispatch? y x = some d →
      ∀ strict, Resolution.Proper (d.rule.run d.left d.right strict)
  /-- A caster that is called returns a well-formed result or refuses. -/
  casters : ∀ v ∈ samples, ∀ {w t}, Trial m r v w t → ∀ {c source target}, Calls m r true w t c source target →
    Completes (c.call (m.executor r w) source target)
  /-- The types of samples have vectors without elements. -/
  probes : ∀ v ∈ samples, ∃ w, m.empty v.type = .ok w
  lists : m.MakesLists

variable {samples : List TypedVector} {partners : List VectorType}

lemma Checkable.completes_unify (h : Checkable m r samples partners) {x y : VectorType}
    (hx : x ∈ samples.map TypedVector.type) (hy : y ∈ samples.map TypedVector.type ++ partners) (strict : Bool) :
    Completes (r.unify strict x y) ∧ Completes (r.unify strict y x) := by
  have hxnamed := h.named x (List.mem_append_left _ hx)
  have hynamed := h.named y hy
  constructor
  · refine Registry.completes_unify hxnamed hynamed ?_
    intro d hd
    exact h.resolvers x hx y hy d (.inl hd) strict
  · refine Registry.completes_unify hynamed hxnamed ?_
    intro d hd
    exact h.resolvers x hx y hy d (.inr hd) strict

lemma MakesLists.exists_empty (h : m.MakesLists) : ∃ w, m.empty .list = .ok w :=
  ⟨_, h.empty.trans rfl⟩

lemma MakesLists.exists_missing (h : m.MakesLists) (n : Nat) : ∃ w, m.missing .list n = .ok w := by
  have hvoid := VectorType.construct_eq_voided .list (VectorType.isVoid_absences n) fun h => by cases h
  refine ⟨⟨.list, (Column.ofValues (List.replicate n .absent)).voided .object⟩, ?_⟩
  rw [h.missing]
  change VectorType.missingVector .list n = _
  rw [VectorType.missingVector, VectorType.vectorOf, hvoid]
  rfl

lemma MakesLists.fits_list (h : m.MakesLists) : m.Fits .list where
  construct c := by
    rw [h.construct]
    exact (standard_fits .list).construct c
  empty w hw := (standard_fits .list).empty w (h.empty ▸ hw)
  missing n w hw := (standard_fits .list).missing n w (h.missing ▸ hw)

/-- What a vector is taken apart into is of a type that is equal to the list type. -/
lemma type_of_parted (h : m.MakesLists) {parts : CastResult} (hparts : m.castTo r decompose v .list = .ok parts) :
    parts.vector.type.same .list = true := by
  have hequals : parts.vector.type.Equals .list := by
    by_cases hnull : v.type = .null
    · have hroute : r.route decompose v.type .list = .fromNull :=
        (Takes.fromNull (by rw [hnull]; rfl) VectorType.noConfusion hnull).route_eq
      rw [castTo_eq_attempt, attempt.eq_def, hroute] at hparts
      obtain ⟨w, hw, hparts⟩ := bind_eq_ok_iff.1 hparts
      cases hparts
      exact (h.fits_list.empty w hw).1
    · exact (castTo_returned (fun hv => absurd hv hnull) h.fits_list hparts).1
  rcases hequals with heq | hsame
  · rw [heq]
    exact VectorType.same_refl .list
  · exact hsame

/-! ### Trials complete -/

namespace Checkable

lemma named_of_mem (h : Checkable m r samples partners) (hv : v ∈ samples) : v.type.unnamedClass? = none :=
  h.named v.type (List.mem_append_left _ (List.mem_map_of_mem hv))

/-- The cast of a sample to its own type comes to a result or is refused. -/
lemma completes_own (h : Checkable m r samples partners) (hv : v ∈ samples) :
    Completes (m.castTo r true v v.type) := by
  have hnamed := h.named_of_mem hv
  refine completes_castTo hnamed hnamed (h.casters v hv .own) samePayload_self ?_ ?_
  · intro _ _ f hf
    obtain ⟨w, hw⟩ := h.probes v hv
    rw [hw] at hf
    cases hf
  · intro hdiffer hunspecified
    rw [hunspecified] at hdiffer
    cases hdiffer

lemma completes_apart (h : Checkable m r samples partners) (hv : v ∈ samples)
    (hsupported : (r.casterFor? v.type.tag .list).isSome) : Completes (m.castTo r true v .list) := by
  refine completes_castTo (h.named_of_mem hv) rfl (h.casters v hv (.apart hsupported)) ?_ ?_ ?_
  · intro hsame
    rw [samePayload, (of_same_list hsame).2]
    rfl
  · intro _ _ f hf
    obtain ⟨w, hw⟩ := h.lists.exists_empty
    rw [hw] at hf
    cases hf
  · intro _ _ f hf
    obtain ⟨w, hw⟩ := h.lists.exists_missing v.size
    rw [hw] at hf
    cases hf

lemma completes_together (h : Checkable m r samples partners) (hv : v ∈ samples)
    (hsupported : (r.casterFor? v.type.tag .list).isSome) {parts : CastResult}
    (hparts : m.castTo r true v .list = .ok parts) : Completes (m.castTo r true parts.vector v.type) := by
  obtain ⟨htag, hparams⟩ := of_same_list (type_of_parted h.lists hparts)
  have hnamed : parts.vector.type.unnamedClass? = none := by
    rw [VectorType.unnamedClass?, htag]
    rfl
  refine completes_castTo hnamed (h.named_of_mem hv) (h.casters v hv (.together hsupported hparts)) ?_ ?_ ?_
  · intro hsame
    have hlength := (of_same hsame).2
    rw [hparams, List.length_nil] at hlength
    rw [samePayload, hparams, ← hlength]
    rfl
  · intro _ _ f hf
    obtain ⟨w, hw⟩ := h.probes v hv
    rw [hw] at hf
    cases hf
  · intro _ hunspecified
    rw [hunspecified] at htag
    exact absurd htag (by decide)

end Checkable

end Making

end Coercion
