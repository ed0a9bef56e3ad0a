import Coercion.Proofs.Law.Trials

/-!
What the check of the laws knows of the casters from a kind to itself. A vector that has the type already is given to
no caster, so its cast to its own type goes well whatever caster there is. Registries that differ only in what their
casters do with such vectors cast alike, and the check finds the same violations in all of them: it is never a passing
check that vouches for one of these casters.
-/

namespace Coercion

/-! ### Casters that differ on vectors that have the type already -/

namespace Caster

/-- Whether two casters do the same with vectors that have not the type that is asked for. -/
def AlikeElsewhere (c d : Caster) : Prop :=
  ∀ (execute : Executor) (v : TypedVector) (t : VectorType), v.type.same t = false →
    c.run execute v t = d.run execute v t

/-- Whether a caster gives back a vector of which it is asked the type that it has. -/
def Keeps (c : Caster) (execute : Executor) (v : TypedVector) : Prop :=
  ∃ w, c.run execute v v.type = .ok (.result w []) ∧ w.same v = true

/-- The caster that refuses vectors that have the type already. -/
def mute (c : Caster) : Caster :=
  ⟨c.name, fun execute v t => if v.type.same t then .error (.noCast v.type t none) else c.run execute v t⟩

lemma run_mute (c : Caster) (execute : Executor) (v : TypedVector) (t : VectorType) :
    c.mute.run execute v t = if v.type.same t then .error (.noCast v.type t none) else c.run execute v t :=
  rfl

lemma alikeElsewhere_mute (c : Caster) : c.AlikeElsewhere c.mute := by
  intro execute v t hdiffer
  rw [run_mute, hdiffer]
  rfl

lemma not_keeps_mute {c : Caster} {execute : Executor} {v : TypedVector} (h : v.type.same v.type = true) :
    ¬ c.mute.Keeps execute v := by
  rintro ⟨w, hrun, -⟩
  rw [run_mute, if_pos h] at hrun
  cases hrun

end Caster

namespace Registry

variable {r r' : Registry} {a b : Tag} {s t : VectorType} {c : Caster} {decompose : Bool}

/-- Whether two registries differ at most in what their casters do with vectors that have the type already. -/
structure AlikeElsewhere (r r' : Registry) : Prop where
  resolvers : ∀ a b, r.resolverFor? a b = r'.resolverFor? a b
  casters : ∀ a b, Option.Rel Caster.AlikeElsewhere (r.casterFor? a b) (r'.casterFor? a b)

lemma AlikeElsewhere.exists_caster (h : r.AlikeElsewhere r') (found : r.casterFor? a b = some c) :
    ∃ c', r'.casterFor? a b = some c' ∧ c.AlikeElsewhere c' := by
  have hrel := h.casters a b
  rw [found] at hrel
  generalize r'.casterFor? a b = other at hrel
  cases hrel with
  | some halike => exact ⟨_, rfl, halike⟩

lemma AlikeElsewhere.eq_none_iff (h : r.AlikeElsewhere r') :
    r.casterFor? a b = none ↔ r'.casterFor? a b = none := by
  have hrel := h.casters a b
  generalize r.casterFor? a b = one at hrel
  generalize r'.casterFor? a b = other at hrel
  cases hrel with
  | some => exact iff_of_false (Option.some_ne_none _) (Option.some_ne_none _)
  | none => exact Iff.rfl

/-- A way through the decomposed form leads through it in both registries. -/
lemma AlikeElsewhere.not_detour (h : r.AlikeElsewhere r') (hnot : ∀ c d, ¬ Detour r decompose s t c d) (c d : Caster) :
    ¬ Detour r' decompose s t c d := by
  intro detour
  have hapart : r.casterFor? s.tag .list ≠ none := by
    rw [Ne, h.eq_none_iff, detour.apart]
    exact Option.some_ne_none c
  have htogether : r.casterFor? .list t.tag ≠ none := by
    rw [Ne, h.eq_none_iff, detour.together]
    exact Option.some_ne_none d
  obtain ⟨c', hc'⟩ := Option.ne_none_iff_exists'.1 hapart
  obtain ⟨d', hd'⟩ := Option.ne_none_iff_exists'.1 htogether
  exact hnot c' d' ⟨detour.allowed, detour.source, detour.target, hc', hd'⟩

/-- The registry whose casters refuse vectors that have the type already. -/
def mute (r : Registry) : Registry :=
  { r with casters := r.casters.map fun entry => (entry.1, entry.2.mute) }

lemma casterFor?_mute (r : Registry) (a b : Tag) : r.mute.casterFor? a b = (r.casterFor? a b).map Caster.mute := by
  rw [casterFor?, casterFor?, ruleFor?, ruleFor?, mute, List.find?_map, Option.map_map, Option.map_map]
  rfl

lemma alikeElsewhere_mute (r : Registry) : r.AlikeElsewhere r.mute where
  resolvers _ _ := rfl
  casters a b := by
    rw [casterFor?_mute]
    cases r.casterFor? a b with
    | none => exact .none
    | some c => exact .some c.alikeElsewhere_mute

/-! ### Unification does not ask casters -/

lemma unify_alike (h : r.AlikeElsewhere r') : r.unify = r'.unify := by
  have hdispatch : r.dispatch? = r'.dispatch? := by
    funext x y
    simp only [dispatch?, h.resolvers]
  funext strict x y
  rw [unify.eq_def, unify.eq_def, hdispatch]

lemma unificationViolations_alike (h : r.AlikeElsewhere r') (partners types : List VectorType) :
    r.unificationViolations partners types = r'.unificationViolations partners types := by
  have hpair : r.commutativityViolations = r'.commutativityViolations := by
    funext x y
    rw [commutativityViolations, commutativityViolations, unify_alike h]
  have hidentity : r.identityViolations = r'.identityViolations := by
    funext x
    rw [identityViolations, identityViolations, unify_alike h]
  induction types with
  | nil => rfl
  | cons x xs ih => rw [unificationViolations, unificationViolations, hpair, hidentity, ih]

end Registry

/-! ### Casts -/

namespace Making

open Registry

variable {m : Making} {r r' : Registry} {execute : Executor} {decompose : Bool} {v : TypedVector} {t : VectorType}
  {c d : Caster}

lemma call_alike (h : c.AlikeElsewhere d) (hdiffer : v.type.same t = false) :
    c.call execute v t = d.call execute v t := by
  rw [Caster.call, Caster.call, h execute v t hdiffer]

/-- Types of different kinds differ. -/
lemma same_eq_false_of_tag {s : VectorType} (h : s.tag ≠ t.tag) : s.same t = false := by
  rw [← Bool.not_eq_true]
  intro hsame
  exact h (of_same hsame).1

/-- On every route, casters are only called with vectors that have not the type that is asked for. -/
lemma attempt_alike (h : r.AlikeElsewhere r') :
    m.attempt r execute decompose v t = m.attempt r' execute decompose v t := by
  have htakes := takes_route r decompose v.type t
  rw [attempt.eq_def, attempt.eq_def]
  generalize r.route decompose v.type t = route at htakes
  cases htakes with
  | unchanged equal => rw [(Takes.unchanged equal).route_eq]
  | toNull differ null => rw [(Takes.toNull differ null).route_eq]
  | fromNull differ typed null => rw [(Takes.fromNull differ typed null).route_eq]
  | fromUnspecified differ typed unspecified => rw [(Takes.fromUnspecified differ typed unspecified).route_eq]
  | direct needed found =>
    obtain ⟨c', found', halike⟩ := h.exists_caster found
    rw [(Takes.direct needed found').route_eq]
    exact call_alike halike needed.differ
  | decomposed needed missing detour =>
    obtain ⟨c', apart', hapart⟩ := h.exists_caster detour.apart
    obtain ⟨d', together', htogether⟩ := h.exists_caster detour.together
    rw [(Takes.decomposed needed (h.eq_none_iff.1 missing)
      ⟨detour.allowed, detour.source, detour.target, apart', together'⟩).route_eq]
    dsimp only
    rw [call_alike hapart (same_eq_false_of_tag detour.source)]
    cases hparts : c'.call execute v .list with
    | error f => rfl
    | ok parts =>
      -- what the vector was taken apart into is of the list kind, and the target is not
      have htag : parts.vector.type.tag = .list := by
        rcases (call_eq_ok hparts).1 with heq | hsame
        · rw [heq]
          rfl
        · exact (of_same_list hsame).1
      dsimp only [bind, Except.bind]
      rw [call_alike htogether (same_eq_false_of_tag (htag ▸ Ne.symm detour.target))]
  | fallback needed missing noDetour found =>
    obtain ⟨c', found', halike⟩ := h.exists_caster found
    rw [(Takes.fallback needed (h.eq_none_iff.1 missing) (h.not_detour noDetour) found').route_eq]
    exact call_alike halike needed.differ
  | impassable needed missing noDetour noFallback =>
    rw [(Takes.impassable needed (h.eq_none_iff.1 missing) (h.not_detour noDetour)
      (h.eq_none_iff.1 noFallback)).route_eq]

lemma castWithin_alike (m : Making) (h : r.AlikeElsewhere r') (fuel : Nat) :
    m.castWithin r fuel = m.castWithin r' fuel := by
  induction fuel with
  | zero => rfl
  | succ fuel ih =>
    funext decompose v t
    rw [castWithin, castWithin, ih]
    exact attempt_alike h

/-- No cast notices what casters do with vectors that have the type already, nor does any cast within it. -/
theorem castTo_alike (m : Making) (h : r.AlikeElsewhere r') : m.castTo r = m.castTo r' := by
  funext decompose v t
  rw [castTo, castTo, castWithin_alike m h]

/-- A cast to the own type gives the vector back, whatever caster there is. -/
theorem castTo_own (m : Making) (r : Registry) (decompose : Bool) (h : v.type.same v.type = true) :
    m.castTo r decompose v v.type = .ok ⟨v, []⟩ := by
  rw [castTo_eq_attempt, attempt.eq_def, (Takes.unchanged h).route_eq]
  exact if_pos (samePayload_self h)

/-! ### The check -/

variable {e : Engine}

/-- The law that a cast to the own type changes nothing is never found to be violated. -/
theorem selfCastViolations_eq_nil (m : Making) (r : Registry) (h : v.same v = true) :
    m.selfCastViolations r v = .ok [] := by
  have htype : v.type.same v.type = true := (Bool.and_eq_true_iff.1 h).1
  rw [selfCastViolations, castTo_own m r true htype]
  dsimp only
  rw [h]
  rfl

lemma roundTripViolations_alike (m : Making) (h : r.AlikeElsewhere r') (v : TypedVector) :
    m.roundTripViolations r v = m.roundTripViolations r' v := by
  rw [roundTripViolations, roundTripViolations, castTo_alike m h]
  cases hcaster : r.casterFor? v.type.tag .list with
  | none => rw [h.eq_none_iff.1 hcaster]
  | some c =>
    obtain ⟨c', hcaster', -⟩ := h.exists_caster hcaster
    rw [hcaster']

lemma lawViolations_alike (m : Making) (h : r.AlikeElsewhere r') (samples : List TypedVector)
    (partners : List VectorType) : m.lawViolations r samples partners = m.lawViolations r' samples partners := by
  have hcasts : m.castViolations r = m.castViolations r' := by
    funext v
    rw [castViolations, castViolations, selfCastViolations, selfCastViolations, castTo_alike m h,
      roundTripViolations_alike m h]
  rw [lawViolations, lawViolations, unificationViolations_alike h, hcasts]

/-- **The check is blind to casters from a kind to itself.** It ends in the same way, with the same violations,
whatever casters do with vectors that have the type already. -/
theorem checkLaws_alike (m : Making) (h : e.registry.AlikeElsewhere r') (samples : List Data)
    (partners : List Specifier) :
    m.checkLaws ⟨e.types, r'⟩ samples partners = m.checkLaws e samples partners := by
  rw [checkLaws, checkLaws]
  simp only [lawViolations_alike m h]
  rfl

/-- Whether the casters of the samples' kinds to themselves give back the samples. -/
def SelfCastersKeep (m : Making) (r : Registry) (samples : List TypedVector) : Prop :=
  ∀ v ∈ samples, ∀ c, r.casterFor? v.type.tag v.type.tag = some c → c.Keeps (m.executor r v) v

/-- Whether a passing check vouches for the casters of the samples' kinds to themselves. -/
def Vouches (m : Making) (e : Engine) (samples : List TypedVector) (partners : List VectorType) : Prop :=
  m.checkLaws e (samples.map .vector) (partners.map .type) = .ok () → m.SelfCastersKeep e.registry samples

/-- **When a passing check vouches for the casters from a kind to itself.** It does so only where one of the other
laws is broken, which shows already in the registry whose casters refuse such casts, or where the casters keep the
samples anyway. So nothing but a failing check, or that there are no such casters, assures it whatever they do. -/
theorem vouches_iff (m : Making) (e : Engine) {samples : List TypedVector} (partners : List VectorType)
    (hself : ∀ v ∈ samples, v.type.same v.type = true) :
    (m.Vouches e samples partners ↔
      m.checkLaws ⟨e.types, e.registry.mute⟩ (samples.map .vector) (partners.map .type) ≠ .ok () ∨
        m.SelfCastersKeep e.registry samples) ∧
    ((∀ r', e.registry.AlikeElsewhere r' → m.Vouches ⟨e.types, r'⟩ samples partners) ↔
      m.checkLaws e (samples.map .vector) (partners.map .type) ≠ .ok () ∨
        ∀ v ∈ samples, e.registry.casterFor? v.type.tag v.type.tag = none) := by
  have hmute := e.registry.alikeElsewhere_mute
  constructor
  · rw [checkLaws_alike m hmute, Vouches, imp_iff_not_or]
  · constructor
    · intro hvouches
      rw [or_iff_not_imp_left, not_not]
      intro hpasses v hv
      by_contra hcaster
      obtain ⟨c, hc⟩ := Option.ne_none_iff_exists'.1 hcaster
      -- the check passes as well where this caster refuses
      have hpasses' := (checkLaws_alike m hmute _ _).trans hpasses
      have hmuted : e.registry.mute.casterFor? v.type.tag v.type.tag = some c.mute := by
        rw [casterFor?_mute, hc, Option.map_some]
      exact Caster.not_keeps_mute (hself v hv) (hvouches _ hmute hpasses' v hv _ hmuted)
    · rintro (hfails | hnone) r' halike hpasses v hv c hc
      · rw [checkLaws_alike m halike] at hpasses
        exact absurd hpasses hfails
      · rw [halike.eq_none_iff.1 (hnone v hv)] at hc
        cases hc

/-! ### A kind whose caster to itself refuses -/

/-- A kind of one's own, without a payload. -/
def widget : VectorType :=
  .custom ⟨"Widget", .name "widget", .object, .notAvailable⟩ []

/-- A vector of that kind. -/
def widgets : TypedVector :=
  ⟨widget, ⟨.object, [.int 1]⟩⟩

/-- The registry of that kind alone, which has a given caster to itself and cannot be taken apart. -/
def widgetRegistry (selfCast : Caster) : Registry :=
  (Registration.runOn .empty do
    Registration.pair "widget" "widget" .sameType
    Registration.kind (.word "widget") (.rule selfCast) false).2

/-- A caster that refuses every vector. -/
def refusing : Caster :=
  .plain "fail" fun v target => .error (.noCast v.type target (some "custom detail"))

/-- Even where the caster to itself rebuilds every vector rightly, the check does not vouch for it. -/
theorem vouches_iff_widget :
    (∀ v ∈ [widgets], v.type.same v.type = true) ∧
      ¬ ∀ r', (widgetRegistry .reconstruct).AlikeElsewhere r' → standard.Vouches ⟨.standard, r'⟩ [widgets] [] := by
  have hself : ∀ v ∈ [widgets], v.type.same v.type = true := by
    intro v hv
    rw [List.mem_singleton.1 hv]
    rfl
  refine ⟨hself, ?_⟩
  rw [(vouches_iff standard ⟨.standard, widgetRegistry .reconstruct⟩ [] hself).2]
  rintro (hfails | hnone)
  · exact hfails rfl
  · have hcaster := hnone widgets List.mem_cons_self
    cases hcaster

/-- The check passes although the caster from the kind to itself refuses what it is given. -/
theorem not_vouches : ¬ standard.Vouches ⟨.standard, widgetRegistry refusing⟩ [widgets] [] := by
  intro h
  obtain ⟨w, hrun, -⟩ := h rfl widgets List.mem_cons_self refusing rfl
  cases hrun

end Making

end Coercion
