import Coercion.Proofs.Law.Trials

/-!
The check of the laws is complete and exact. Each of its parts ends with as many violations as there are violated
instances of its law, because a refusal is taken for a result; the parts are added up over the samples, of which every
two meet once. So the check passes if and only if all laws hold, and otherwise its failure counts the violated
instances.
-/

namespace Coercion

/-! ### Counting the violations of parts -/

/-- Whether a check ends with a number of violations. -/
def Counts (outcome : Except Failure (List String)) (n : ℕ) : Prop :=
  ∃ violations, outcome = .ok violations ∧ violations.length = n

section Traversals

variable {α : Type} {xs : List α}

/-- The violations that are found one element after the other. -/
lemma counts_flatten {f : α → Except Failure (List String)} {n : α → ℕ} (h : ∀ x ∈ xs, Counts (f x) (n x)) :
    ∃ parts, xs.mapM f = .ok parts ∧ parts.flatten.length = (xs.map n).sum := by
  induction xs with
  | nil => exact ⟨[], rfl, rfl⟩
  | cons x xs ih =>
    obtain ⟨violations, hx, hlength⟩ := h x List.mem_cons_self
    obtain ⟨parts, hxs, hsum⟩ := ih fun y hy => h y (List.mem_cons_of_mem _ hy)
    refine ⟨violations :: parts, ?_, ?_⟩
    · rw [List.mapM_cons, hx, hxs]
      rfl
    · rw [List.flatten_cons, List.length_append, List.map_cons, List.sum_cons, hlength, hsum]

/-- Whether a test ends with a violation unless a law holds. -/
def Tests (outcome : Except Failure (Option String)) (p : Prop) : Prop :=
  ∃ violation?, outcome = .ok violation? ∧ violation?.toList.length = cost p

/-- The violations among the outcomes of some tests. -/
lemma counts_tests {f : α → Except Failure (Option String)} {p : α → Prop} (h : ∀ x ∈ xs, Tests (f x) (p x)) :
    Counts (do let found ← xs.mapM f; return found.filterMap id) (xs.map fun x => cost (p x)).sum := by
  suffices ∃ found, xs.mapM f = .ok found ∧ (found.filterMap id).length = (xs.map fun x => cost (p x)).sum by
    obtain ⟨found, hfound, hlength⟩ := this
    exact ⟨found.filterMap id, by rw [hfound]; rfl, hlength⟩
  induction xs with
  | nil => exact ⟨[], rfl, rfl⟩
  | cons x xs ih =>
    obtain ⟨violation?, hx, hlength⟩ := h x List.mem_cons_self
    obtain ⟨found, hxs, hsum⟩ := ih fun y hy => h y (List.mem_cons_of_mem _ hy)
    refine ⟨violation? :: found, ?_, ?_⟩
    · rw [List.mapM_cons, hx, hxs]
      rfl
    · rw [List.map_cons, List.sum_cons, ← hlength, ← hsum]
      cases violation? with
      | none => simp
      | some violation => simp [Nat.add_comm]

end Traversals

lemma tests_of {outcome : Except Failure (Option String)} {p : Prop} {b : Bool} (hb : b = true ↔ p)
    (h : ∃ violation, outcome = .ok (if b then none else some violation)) : Tests outcome p := by
  obtain ⟨violation, h⟩ := h
  refine ⟨_, h, ?_⟩
  cases b with
  | true => exact (cost_of (hb.1 rfl)).symm
  | false =>
    have hnot : ¬ p := by
      intro hp
      exact Bool.false_ne_true (hb.2 hp)
    exact (cost_of_not hnot).symm

lemma counts_of {outcome : Except Failure (List String)} {p : Prop} {b : Bool} (hb : b = true ↔ p)
    (h : ∃ violation, outcome = .ok (if b then [] else [violation])) : Counts outcome (cost p) := by
  obtain ⟨violation, h⟩ := h
  refine ⟨_, h, ?_⟩
  cases b with
  | true => exact (cost_of (hb.1 rfl)).symm
  | false =>
    have hnot : ¬ p := by
      intro hp
      exact Bool.false_ne_true (hb.2 hp)
    exact (cost_of_not hnot).symm

lemma counts_refused {f : Failure} {p : Prop} (hf : f.isRefusal = true) (hp : ¬ p) (violation : String) :
    Counts (if f.isRefusal then .ok [violation] else .error f) (cost p) :=
  ⟨[violation], if_pos hf, (cost_of_not hp).symm⟩

lemma exists_eq_ok_iff {α : Type} {outcome : Except Failure α} {a : α} {p : α → Prop} (h : outcome = .ok a) :
    (∃ b, outcome = .ok b ∧ p b) ↔ p a := by
  constructor
  · rintro ⟨b, hb, hp⟩
    rw [h] at hb
    cases hb
    exact hp
  · intro hp
    exact ⟨a, h, hp⟩

lemma not_exists_eq_ok {α : Type} {outcome : Except Failure α} {f : Failure} {p : α → Prop} (h : outcome = .error f) :
    ¬ ∃ b, outcome = .ok b ∧ p b := by
  rintro ⟨b, hb, -⟩
  rw [h] at hb
  cases hb

/-! ### Unification -/

namespace Attempt

variable {outcome outcome' : Except Failure VectorType} {a b : Attempt} {t : VectorType}

lemma exists_of (h : Completes outcome) : ∃ a, Attempt.of outcome = .ok a := by
  cases outcome with
  | ok t => exact ⟨_, rfl⟩
  | error f =>
    obtain ⟨className, hclass⟩ := Option.isSome_iff_exists.1 (h f rfl)
    exact ⟨.refusal className, by rw [Attempt.of, hclass]⟩

/-- What an attempt says about the outcome that it was made of. -/
lemma of_eq_ok (h : Attempt.of outcome = .ok a) :
    (∃ t, outcome = .ok t ∧ a = .type t) ∨
      ∃ f className, outcome = .error f ∧ f.refusalClass? = some className ∧ a = .refusal className := by
  cases outcome with
  | ok t =>
    cases h
    exact .inl ⟨t, rfl, rfl⟩
  | error f =>
    rw [Attempt.of] at h
    split at h
    · rename_i className hclass
      cases h
      exact .inr ⟨f, className, rfl, hclass, rfl⟩
    · cases h

/-- Attempts are the same if and only if the outcomes agree. -/
lemma same_iff_sameOutcome (h : Attempt.of outcome = .ok a) (h' : Attempt.of outcome' = .ok b) :
    a.same b = true ↔ SameOutcome outcome outcome' := by
  rcases of_eq_ok h with ⟨t, rfl, rfl⟩ | ⟨f, c, rfl, hc, rfl⟩ <;>
    rcases of_eq_ok h' with ⟨u, rfl, rfl⟩ | ⟨g, d, rfl, hd, rfl⟩
  · constructor
    · intro hsame
      exact .types hsame
    · rintro ⟨equal⟩
      exact equal
  · exact ⟨fun hsame => (Bool.false_ne_true hsame).elim, fun hsame => by cases hsame⟩
  · exact ⟨fun hsame => (Bool.false_ne_true hsame).elim, fun hsame => by cases hsame⟩
  · constructor
    · intro hsame
      rw [Attempt.same, beq_iff_eq] at hsame
      subst hsame
      exact .refusals hc hd
    · intro hsame
      cases hsame with
      | refusals left right =>
        rw [hc] at left
        rw [hd] at right
        rw [Attempt.same, beq_iff_eq, Option.some.inj left, Option.some.inj right]

lemma same_type_iff (h : Attempt.of outcome = .ok a) :
    a.same (.type t) = true ↔ ∃ u, outcome = .ok u ∧ u.same t = true := by
  rcases of_eq_ok h with ⟨u, rfl, rfl⟩ | ⟨f, c, rfl, -, rfl⟩
  · constructor
    · intro hsame
      exact ⟨u, rfl, hsame⟩
    · rintro ⟨_, heq, hsame⟩
      cases heq
      exact hsame
  · constructor
    · intro hsame
      exact (Bool.false_ne_true hsame).elim
    · rintro ⟨_, heq, -⟩
      cases heq

end Attempt

namespace Registry

variable {r : Registry} {x y : VectorType}

/-- The violations by a pair of types are as many as there are modes in which the order of the two matters. -/
lemma counts_commutativity (h : ∀ strict, Completes (r.unify strict x y) ∧ Completes (r.unify strict y x)) :
    Counts (r.commutativityViolations x y) (∑ strict, cost (r.Commutes strict x y)) := by
  have hsum : ∑ strict, cost (r.Commutes strict x y) =
      ([true, false].map fun strict => cost (r.Commutes strict x y)).sum := by
    rw [Fintype.sum_bool]
    rfl
  rw [hsum, commutativityViolations]
  refine counts_tests ?_
  intro strict _
  obtain ⟨forward, hforward⟩ := Attempt.exists_of (h strict).1
  obtain ⟨backward, hbackward⟩ := Attempt.exists_of (h strict).2
  refine tests_of (Attempt.same_iff_sameOutcome hforward hbackward) ?_
  rw [hforward, hbackward]
  exact ⟨_, (apply_ite Except.ok ..).symm⟩

/-- The violations of the identity by a type, on either side. -/
lemma counts_identity (r : Registry) (x : VectorType) :
    Counts (r.identityViolations x) (cost (r.UnifiesTo x .null x) + cost (r.UnifiesTo .null x x)) := by
  have hsum : cost (r.UnifiesTo x .null x) + cost (r.UnifiesTo .null x x) =
      ([(x, VectorType.null), (VectorType.null, x)].map fun p => cost (r.UnifiesTo p.1 p.2 x)).sum :=
    rfl
  rw [hsum, identityViolations]
  refine counts_tests ?_
  intro p hp
  have hcompletes : Completes (r.unify true p.1 p.2) := by
    rcases List.mem_pair.1 hp with rfl | rfl
    · rw [unify_null_right]
      exact completes_ok x
    · rw [unify_null_left]
      exact completes_ok x
  obtain ⟨found, hfound⟩ := Attempt.exists_of hcompletes
  refine tests_of (Attempt.same_type_iff hfound) ?_
  dsimp only
  rw [hfound]
  exact ⟨_, (apply_ite Except.ok ..).symm⟩

/-! #### Over all samples and partners -/

/-- The violations of commutativity by a pair of types. -/
noncomputable def pairCost (r : Registry) (p : Sym2 VectorType) : ℕ :=
  ∑ strict, cost (r.CommutesOn strict p)

/-- The violations of commutativity by a type with partners, and of the identity by the type. -/
noncomputable def ownCost (r : Registry) (partners : List VectorType) (x : VectorType) : ℕ :=
  (partners.map fun t => ∑ strict, cost (r.Commutes strict x t)).sum +
    (cost (r.UnifiesTo x .null x) + cost (r.UnifiesTo .null x x))

lemma pairCost_mk : r.pairCost s(x, y) = ∑ strict, cost (r.Commutes strict x y) := by
  simp only [pairCost, commutesOn_mk]

/-- Every two types meet once, and each type meets every partner. -/
lemma counts_unification {types partners : List VectorType}
    (h : ∀ x ∈ types, ∀ y ∈ types ++ partners, ∀ strict,
      Completes (r.unify strict x y) ∧ Completes (r.unify strict y x)) :
    Counts (r.unificationViolations partners types)
      ((types.sym2.map r.pairCost).sum + (types.map (r.ownCost partners)).sum) := by
  induction types with
  | nil => exact ⟨[], rfl, rfl⟩
  | cons x xs ih =>
    obtain ⟨pairs, hpairs, hpairsLength⟩ := counts_flatten fun y hy =>
      counts_commutativity (h x List.mem_cons_self y hy)
    obtain ⟨identity, hidentity, hidentityLength⟩ := r.counts_identity x
    obtain ⟨rest, hrest, hrestLength⟩ := ih fun y hy z hz =>
      h y (List.mem_cons_of_mem _ hy) z (List.mem_cons_of_mem _ hz)
    refine ⟨pairs.flatten ++ identity ++ rest, ?_, ?_⟩
    · rw [unificationViolations, hpairs, hidentity, hrest]
      rfl
    · have hsym2 : (x :: xs).sym2.map r.pairCost =
          ((x :: xs).map fun y => ∑ strict, cost (r.Commutes strict x y)) ++ xs.sym2.map r.pairCost := by
        rw [List.sym2, List.map_append, List.map_map]
        simp only [Function.comp_def, pairCost_mk]
      have hown : ((x :: xs).map (r.ownCost partners)).sum =
          (partners.map fun t => ∑ strict, cost (r.Commutes strict x t)).sum +
            (cost (r.UnifiesTo x .null x) + cost (r.UnifiesTo .null x x)) + (xs.map (r.ownCost partners)).sum := by
        rw [List.map_cons, List.sum_cons, ownCost]
      rw [List.length_append, List.length_append, hpairsLength, hidentityLength, hrestLength, hsym2, hown,
        List.map_append, List.sum_append, List.sum_append]
      omega

end Registry

/-! ### Casts -/

namespace Making

variable {m : Making} {r : Registry} {v : TypedVector} {samples : List TypedVector} {partners : List VectorType}

/-- A cast that is refused is a violation, and so is one that does not preserve what was cast. -/
lemma counts_selfCast (h : Completes (m.castTo r true v v.type)) :
    Counts (m.selfCastViolations r v) (cost (m.SelfCasts r v)) := by
  rw [selfCastViolations]
  cases hcast : m.castTo r true v v.type with
  | ok result =>
    refine counts_of ?_ ⟨_, rfl⟩
    rw [Bool.and_eq_true, List.isEmpty_iff, SelfCasts, exists_eq_ok_iff hcast]
  | error f => exact counts_refused (h f hcast) (not_exists_eq_ok hcast) _

lemma counts_empty {t : VectorType} (h : ∃ w, m.empty t = .ok w) :
    Counts (m.emptyViolations t) (cost (m.Probes t)) := by
  obtain ⟨w, hw⟩ := h
  rw [emptyViolations, hw]
  refine counts_of ?_ ⟨_, rfl⟩
  rw [Bool.and_eq_true, decide_eq_true_eq, Probes, exists_eq_ok_iff hw]
  exact Iff.rfl

section Supported

variable (hsupported : (r.casterFor? v.type.tag .list).isSome)

include hsupported

lemma not_roundTrips_of_error {f : Failure} (h : m.castTo r true v .list = .error f) : ¬ m.RoundTrips r v := by
  intro hlaw
  obtain ⟨parts, whole, hok, -⟩ := hlaw hsupported
  rw [h] at hok
  cases hok

/-- A vector that can be taken apart survives the round trip if its parts are put together to an equal one. -/
lemma roundTrips_iff_of_parts {parts : CastResult} (h : m.castTo r true v .list = .ok parts) :
    m.RoundTrips r v ↔ ∃ whole, m.castTo r true parts.vector v.type = .ok whole ∧
      parts.lossy = [] ∧ whole.lossy = [] ∧ whole.vector.same v = true := by
  constructor
  · intro hlaw
    obtain ⟨parts', whole, hok, hrest⟩ := hlaw hsupported
    rw [h] at hok
    cases hok
    exact ⟨whole, hrest⟩
  · rintro ⟨whole, hrest⟩ -
    exact ⟨parts, whole, h, hrest⟩

end Supported

/-- A refusal on the way through the decomposed form is a violation too, whichever half is refused. -/
lemma counts_roundTrip (hapart : (r.casterFor? v.type.tag .list).isSome → Completes (m.castTo r true v .list))
    (htogether : (r.casterFor? v.type.tag .list).isSome → ∀ parts, m.castTo r true v .list = .ok parts →
      Completes (m.castTo r true parts.vector v.type)) :
    Counts (m.roundTripViolations r v) (cost (m.RoundTrips r v)) := by
  rw [roundTripViolations]
  cases hcaster : r.casterFor? v.type.tag .list with
  | none =>
    have hvacuous : m.RoundTrips r v := by
      intro hsupported
      rw [hcaster] at hsupported
      cases hsupported
    exact ⟨[], rfl, (cost_of hvacuous).symm⟩
  | some c =>
    have hsupported : (r.casterFor? v.type.tag .list).isSome := Option.isSome_iff_exists.2 ⟨c, hcaster⟩
    dsimp only
    cases hparts : m.castTo r true v .list with
    | error f => exact counts_refused (hapart hsupported f hparts) (not_roundTrips_of_error hsupported hparts) _
    | ok parts =>
      have hiff := roundTrips_iff_of_parts hsupported hparts
      dsimp only [bind, Except.bind]
      cases hwhole : m.castTo r true parts.vector v.type with
      | error f =>
        have hcounts := htogether hsupported parts hparts f hwhole
        refine counts_refused hcounts ?_ _
        intro h
        exact not_exists_eq_ok hwhole (hiff.1 h)
      | ok whole =>
        refine counts_of ?_ ⟨_, rfl⟩
        rw [Bool.and_eq_true, Bool.and_eq_true, List.isEmpty_iff, List.isEmpty_iff, and_assoc, hiff,
          exists_eq_ok_iff hwhole]

/-! ### All laws -/

/-- The violations of the laws of casts by a vector. -/
noncomputable def castCost (m : Making) (r : Registry) (v : TypedVector) : ℕ :=
  cost (m.SelfCasts r v) + cost (m.Probes v.type) + cost (m.RoundTrips r v)

lemma counts_casts (h : Checkable m r samples partners) (hv : v ∈ samples) :
    Counts (m.castViolations r v) (m.castCost r v) := by
  obtain ⟨own, hown, hownLength⟩ := counts_selfCast (h.completes_own hv)
  obtain ⟨empty, hempty, hemptyLength⟩ := counts_empty (h.probes v hv)
  obtain ⟨round, hround, hroundLength⟩ := counts_roundTrip (h.completes_apart hv)
    fun hsupported parts hparts => h.completes_together hv hsupported hparts
  refine ⟨own ++ empty ++ round, ?_, ?_⟩
  · rw [castViolations, hown, hempty, hround]
    rfl
  · rw [List.length_append, List.length_append, hownLength, hemptyLength, hroundLength, castCost]

open LawInstance in
/-- The violated instances, added up in the order of the check. -/
lemma ncard_violated (m : Making) (r : Registry) (samples : List TypedVector) (partners : List VectorType) :
    (violated m r samples partners).ncard = ((samples.map TypedVector.type).sym2.map r.pairCost).sum +
      (((samples.map TypedVector.type).map (r.ownCost partners)).sum + (samples.map (m.castCost r)).sum) := by
  have hpairs : ∑ q : Sym2 (Fin samples.length), ∑ strict, cost (Holds m r samples partners (.commutes strict q)) =
      ((samples.map TypedVector.type).sym2.map r.pairCost).sum := by
    rw [List.sym2_map, List.map_map, ← sum_places]
    refine Finset.sum_congr rfl ?_
    intro q _
    rw [Function.comp_apply, Registry.pairCost, Sym2.map_map]
    rfl
  have hpartners : ∀ i : Fin samples.length,
      ∑ j, ∑ strict, cost (Holds m r samples partners (.commutesWith strict i j)) =
        (partners.map fun t => ∑ strict, cost (r.Commutes strict (samples.get i).type t)).sum := by
    intro i
    exact Fin.sum_univ_fun_getElem partners fun t => ∑ strict, cost (r.Commutes strict (samples.get i).type t)
  have hsamples : ((samples.map TypedVector.type).map (r.ownCost partners)).sum + (samples.map (m.castCost r)).sum =
      ∑ i : Fin samples.length, (r.ownCost partners (samples.get i).type + m.castCost r (samples.get i)) := by
    rw [List.map_map, ← List.sum_map_add]
    exact (Fin.sum_univ_fun_getElem samples fun v => r.ownCost partners v.type + m.castCost r v).symm
  rw [violated, ncard_not_holds, hpairs, hsamples]
  refine congrArg _ (Finset.sum_congr rfl ?_)
  intro i _
  rw [hpartners i]
  rfl

/-- The check finds as many violations as there are violated instances. -/
theorem counts_lawViolations (h : Checkable m r samples partners) :
    Counts (m.lawViolations r samples partners) (LawInstance.violated m r samples partners).ncard := by
  obtain ⟨unification, hunification, hunificationLength⟩ := Registry.counts_unification
    fun x hx y hy strict => h.completes_unify hx hy strict
  obtain ⟨casts, hcasts, hcastsLength⟩ := counts_flatten fun v hv => counts_casts h hv
  refine ⟨unification ++ casts.flatten, ?_, ?_⟩
  · rw [lawViolations, hunification, hcasts]
    rfl
  · rw [List.length_append, hunificationLength, hcastsLength, ncard_violated, add_assoc]

lemma checkLaws_eq {e : Engine} {violations : List String}
    (h : m.lawViolations e.registry samples partners = .ok violations) :
    m.checkLaws e (samples.map .vector) (partners.map .type) =
      if violations.isEmpty then .ok () else .error (.brokenLaws violations) := by
  have hsamples : (samples.map Data.vector).mapM (fun d => e.vector d none) = .ok samples :=
    (mapM_eq_ok_iff _ _).2 (List.forall₂_map_left_iff.2 (List.forall₂_same.2 fun v _ => rfl))
  have hpartners : (partners.map Specifier.type).mapM e.resolve = .ok partners :=
    (mapM_eq_ok_iff _ _).2 (List.forall₂_map_left_iff.2 (List.forall₂_same.2 fun t _ => rfl))
  rw [checkLaws, hsamples, hpartners]
  dsimp only [bind, Except.bind]
  rw [h]
  rfl

open LawInstance in
/-- **The check of the laws is complete and exact.** Where the rules that are called return something well-formed or
refuse, the check passes if and only if all laws hold for the samples and partners, and otherwise it fails with the
number of violated instances. -/
theorem checkLaws_exact (e : Engine) (h : Checkable m e.registry samples partners) :
    (m.checkLaws e (samples.map .vector) (partners.map .type) = .ok () ↔ m.Lawful e.registry samples partners) ∧
      (¬ m.Lawful e.registry samples partners → ∃ violations,
        m.checkLaws e (samples.map .vector) (partners.map .type) = .error (.brokenLaws violations) ∧
        violations.length = (violated m e.registry samples partners).ncard ∧
        ∃ lines, (Failure.brokenLaws violations).message =
          some (toString (violated m e.registry samples partners).ncard ++ " law violation(s) found:\n" ++ lines)) := by
  obtain ⟨violations, hviolations, hlength⟩ := counts_lawViolations h
  -- nothing is found if and only if no instance is violated
  have hnone : violations.isEmpty = true ↔ m.Lawful e.registry samples partners := by
    rw [List.isEmpty_iff_length_eq_zero, hlength, Set.ncard_eq_zero, lawful_iff_violated_eq_empty]
  rw [checkLaws_eq hviolations, ← hnone]
  constructor
  · split_ifs with hempty
    · exact iff_of_true rfl hempty
    · refine iff_of_false (fun hok => ?_) hempty
      cases hok
  · intro hfound
    exact ⟨violations, if_neg hfound, hlength, _, by rw [← hlength]; rfl⟩

/-! ### Numbers with a tag -/

/-- A kind of numbers with a tag. -/
def tagged (tag : String) : VectorType :=
  .custom ⟨"TaggedType", .name "tagged", .float64, .double .nan⟩ [("tag", .text tag)]

/-- A single number with a tag. -/
def taggedOne (tag : String) : TypedVector :=
  ⟨tagged tag, ⟨.float64, [.double (Double.ofInt 1)]⟩⟩

/-- Of two tags the first is kept, and there is no way to a tag from a number that has none. -/
def taggedRegistry : Registry :=
  ⟨[((.name "tagged", .name "tagged"), .ofTypes "keep_left" fun x _ _ => .ok x)],
    [((.name "tagged", .list), .anyToList), ((.list, .name "tagged"), .listToAny)], false, []⟩

lemma castTo_taggedOne {tag : String} (h : tag = "a" ∨ tag = "b") :
    Making.standard.castTo taggedRegistry true (taggedOne tag) .list =
      .ok ⟨⟨.list, ⟨.object, [.list [.double (Double.ofInt 1)]]⟩⟩, sortedPositions []⟩ := by
  rcases h with rfl | rfl <;> rfl

/-- Taking a tagged number apart goes well, and putting it together is refused. -/
lemma completes_taggedOne {tag : String} (h : tag = "a" ∨ tag = "b") {w : TypedVector} {t : VectorType}
    (htrial : Trial .standard taggedRegistry (taggedOne tag) w t) {c : Caster} {source : TypedVector}
    {target : VectorType} (hcalls : Calls .standard taggedRegistry true w t c source target) :
    Completes (c.call (Making.standard.executor taggedRegistry w) source target) := by
  cases htrial with
  | own =>
    -- the cast to the own type calls no caster
    have hself : (taggedOne tag).type.same (taggedOne tag).type = true := by rcases h with rfl | rfl <;> rfl
    cases hcalls with
    | direct needed | apart needed | together needed | fallback needed =>
      rw [needed.differ] at hself
      cases hself
  | apart =>
    cases hcalls with
    | direct _ found =>
      cases found
      rcases h with rfl | rfl <;> exact completes_ok _
    | apart _ missing | together _ missing | fallback _ missing => cases missing
  | together _ parted =>
    rw [castTo_taggedOne h] at parted
    cases parted
    cases hcalls with
    | direct _ found =>
      cases found
      rcases h with rfl | rfl <;> exact completes_error rfl
    | apart _ missing | together _ missing | fallback _ missing => cases missing

lemma checkable_tagged : Checkable .standard taggedRegistry [taggedOne "a", taggedOne "b"] [tagged "b"] where
  named := by
    intro t ht
    simp only [List.map_cons, List.map_nil, List.cons_append, List.nil_append, List.mem_cons, List.not_mem_nil,
      or_false] at ht
    rcases ht with rfl | rfl | rfl <;> rfl
  resolvers := by
    intro x hx y hy d hd strict
    simp only [List.map_cons, List.map_nil, List.cons_append, List.nil_append, List.mem_cons, List.not_mem_nil,
      or_false] at hx hy
    rcases hx with rfl | rfl <;> rcases hy with rfl | rfl | rfl <;> rcases hd with hd | hd <;> cases hd <;>
      exact .inl ⟨_, rfl, rfl⟩
  casters := by
    intro v hv w t htrial c source target hcalls
    simp only [List.mem_cons, List.not_mem_nil, or_false] at hv
    rcases hv with rfl | rfl
    · exact completes_taggedOne (.inl rfl) htrial hcalls
    · exact completes_taggedOne (.inr rfl) htrial hcalls
  probes := by
    intro v hv
    simp only [List.mem_cons, List.not_mem_nil, or_false] at hv
    rcases hv with rfl | rfl <;> exact ⟨_, rfl⟩
  lists := ⟨rfl, rfl, rfl⟩

open LawInstance in
/-- Two tags do not commute in either mode, be the second that of a sample or that of a partner, and neither number is
put together again: six instances are violated. -/
theorem checkLaws_exact_tagged :
    Checkable .standard taggedRegistry [taggedOne "a", taggedOne "b"] [tagged "b"] ∧
      (∃ violations, Making.standard.checkLaws ⟨.standard, taggedRegistry⟩
        [.vector (taggedOne "a"), .vector (taggedOne "b")] [.type (tagged "b")] = .error (.brokenLaws violations) ∧
          violations.length = 6) ∧
      (violated .standard taggedRegistry [taggedOne "a", taggedOne "b"] [tagged "b"]).ncard = 6 := by
  have hexact := checkLaws_exact ⟨.standard, taggedRegistry⟩ checkable_tagged
  have hfails : ∃ violations, Making.standard.checkLaws ⟨.standard, taggedRegistry⟩
      [.vector (taggedOne "a"), .vector (taggedOne "b")] [.type (tagged "b")] = .error (.brokenLaws violations) ∧
        violations.length = 6 := ⟨_, rfl, rfl⟩
  refine ⟨checkable_tagged, hfails, ?_⟩
  obtain ⟨violations, hviolations, hsix⟩ := hfails
  have hbroken : ¬ Lawful .standard taggedRegistry [taggedOne "a", taggedOne "b"] [tagged "b"] := by
    intro hlawful
    cases hviolations.symm.trans (hexact.1.2 hlawful)
  obtain ⟨violations', hviolations', hlength, -⟩ := hexact.2 hbroken
  cases hviolations.symm.trans hviolations'
  rw [← hlength, hsix]

end Making

end Coercion
