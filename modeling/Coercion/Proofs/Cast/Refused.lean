import Coercion.Proofs.Cast.Rounds
import Coercion.Proofs.Cast.Unfit
import Coercion.Proofs.Cast.Unstorable

/-!
Refusals of casts that open lists. What is found in lists may not be readable, and what is read may have no way to the
target. Either way it is the whole cast that is refused, in terms of the types that it was asked for, at whatever depth it
came to an end. Values that cannot be stored together are not refused like this, and neither are dates out of range:
they break the cast off.
-/

namespace Coercion

open VectorType Column

variable {s t : VectorType} {v w : TypedVector} {f : Failure} {decompose : Bool} {outcome : Except Failure CastResult}
  {c d : Caster}

namespace Failure

lemma noCast_standard (hs : s.IsStandard) (ht : t.IsStandard) (detail : Option String) :
    noCast s t detail = .incompatibleCast s t detail := by
  rw [noCast, unnamedClass?_standard hs, unnamedClass?_standard ht]

end Failure

namespace TypedVector

end TypedVector

namespace Registry

/-- Whether a cast from a type to another gives a result, or is refused as a cast between these two types. -/
def IsDecided (s t : VectorType) (outcome : Except Failure CastResult) : Prop :=
  (∃ r, outcome = .ok r) ∨ ∃ detail, outcome = .error (.incompatibleCast s t detail)

/-- Whether what a cast comes to is a failure, but not one of types, nor of how deep casts may be inside each other. -/
def IsBroken (outcome : Except Failure CastResult) : Prop :=
  ∃ f, outcome = .error f ∧ f.isTypeFailure = false ∧ f ≠ .tooDeep

lemma isDecided_noCast (hs : s.IsStandard) (ht : t.IsStandard) (detail : Option String) :
    IsDecided s t (.error (.noCast s t detail)) :=
  .inr ⟨detail, congrArg Except.error (Failure.noCast_standard hs ht detail)⟩

/-! ### Vectors that are no lists -/

/-- A vector that is no list vector has a way to the target, or is refused, if it has no dates out of range. -/
lemma isDecided_last (hv : v.WellFormed) (hbuilt : v.type.isBuiltIn = true) (ht : t.IsStandard)
    (hbuilt' : t.isBuiltIn = true) (hdec : Decomposable t) (hlist : v.type ≠ .list) (hrange : ¬ OutOfRange v t) :
    IsDecided v.type t (standard.castTo false v t) := by
  have hs := hv.standard
  have htakes := takes_route standard false v.type t
  generalize hroute : standard.route false v.type t = route at htakes
  cases htakes with
  | unchanged equal =>
    obtain ⟨c, lossy, hr, -⟩ := arrives_unchanged hv ht equal
    exact .inl ⟨_, hr⟩
  | toNull _ null =>
    subst null
    exact hdec.elim
  | fromNull differ _ null => exact .inl ⟨_, castTo_fromNull hv ht null differ⟩
  | fromUnspecified differ typed unspecified => exact .inl ⟨_, castTo_fromUnspecified ht unspecified differ typed⟩
  | direct _ found =>
    rw [casterFor?_standard hs ht] at found
    have htarget : t ≠ .list := by
      rintro rfl
      exact hdec.elim
    exact .inl (exists_castTo_of_caster? false hv hbuilt ht hbuilt' hlist htarget found hrange)
  | decomposed _ _ detour => exact absurd detour.allowed Bool.false_ne_true
  | fallback _ _ _ found =>
    rw [casterFor?_any hs] at found
    split_ifs at found
    cases found
    rw [castTo_direct hroute]
    exact isDecided_noCast hs ht none
  | impassable =>
    rw [castTo, castFuel, castWithin, hroute]
    exact isDecided_noCast hs ht none

/-! ### Rounds that are broken off -/

/-- Whether the rounds of a cast lead to values that cannot be stored together, or at last to dates out of the range of the
datetimes that they are to become. -/
def BreaksOff (t : VectorType) (v : TypedVector) : Prop :=
  ∃ w, Unwraps v w ∧ (w.type = .list ∧ Unstorable w.inside ∨ OutOfRange w t)

/-- The rounds of a vector are the first one, if there is one, and those of what comes of it. -/
lemma unwraps_iff {last : TypedVector} (h : Round v w) : Unwraps v last ↔ last = v ∨ Unwraps w last := by
  constructor
  · intro hlast
    rcases Relation.ReflTransGen.cases_head hlast with rfl | ⟨u, hfirst, hrest⟩
    · exact .inl rfl
    · obtain rfl := h.unique hfirst
      exact .inr hrest
  · rintro (rfl | hrest)
    · exact .refl
    · exact .head h hrest

lemma unwraps_of_not_round {last : TypedVector} (h : ∀ w, ¬ Round v w) : Unwraps v last ↔ last = v := by
  constructor
  · intro hlast
    rcases Relation.ReflTransGen.cases_head hlast with rfl | ⟨u, hfirst, -⟩
    · rfl
    · exact absurd hfirst (h u)
  · rintro rfl
    exact .refl

lemma unstorable_inside_iff :
    Unstorable v.inside ↔ ∃ f, readOpen (.ofValues v.inside) = .error f ∧ f.isTypeFailure = false := by
  rw [readOpen_ofValues]
  exact readOpen_untyped_iff.symm

lemma not_outOfRange_of_list (hlist : v.type = .list) : ¬ OutOfRange v t := by
  rintro ⟨hdate, -⟩
  rw [hlist] at hdate
  cases hdate

lemma breaksOff_of_last (hlist : v.type ≠ .list) : BreaksOff t v ↔ OutOfRange v t := by
  have hlast : ∀ w, ¬ Round v w := by
    intro w h
    exact hlist h.list
  simp [BreaksOff, unwraps_of_not_round hlast, hlist]

lemma breaksOff_of_unread (hlist : v.type = .list) (hread : readOpen (.ofValues v.inside) = .error f) :
    BreaksOff t v ↔ f.isTypeFailure = false := by
  have hlast : ∀ w, ¬ Round v w := by
    intro w h
    exact h.readable hread
  simp [BreaksOff, unwraps_of_not_round hlast, hlist, not_outOfRange_of_list hlist, unstorable_inside_iff, hread]

lemma breaksOff_of_round (h : Round v w) : BreaksOff t v ↔ BreaksOff t w := by
  have hstorable : ¬ Unstorable v.inside := by
    rw [unstorable_inside_iff]
    rintro ⟨f, hf, -⟩
    exact h.readable hf
  simp [BreaksOff, unwraps_iff h, or_and_right, exists_or, hstorable, not_outOfRange_of_list h.list]

/-! ### All rounds -/

/-- What a cast comes to: it is broken off if the rounds are, and decided otherwise. -/
structure Concludes (s t : VectorType) (breaks : Prop) (outcome : Except Failure CastResult) : Prop where
  broken : breaks → IsBroken outcome
  decided : ¬ breaks → IsDecided s t outcome

lemma refusalInside_of_untyped (h : f.isTypeFailure = false) : Caster.refusalInside s t f = f := by
  rw [Caster.refusalInside.eq_def]
  split
  · cases h
  · rfl

/-- What a cast inside the lists comes to, in terms of the lists: a refusal is told for their type, a failure that is not
one of types stays what it is, and so does a result, but for what is flagged. -/
lemma Concludes.retold {breaks : Prop} {u : VectorType} (h : Concludes u t breaks outcome) (hs : s.IsStandard)
    (ht : t.IsStandard) (g : CastResult → CastResult) :
    Concludes s t breaks ((outcome.mapError (Caster.refusalInside s t)).map g) := by
  cases outcome with
  | ok r =>
    refine ⟨?_, fun _ => .inl ⟨g r, rfl⟩⟩
    intro hbreaks
    obtain ⟨f, ⟨⟩, -⟩ := h.broken hbreaks
  | error f =>
    constructor
    · intro hbreaks
      obtain ⟨f, ⟨⟩, htype, hne⟩ := h.broken hbreaks
      exact ⟨f, congrArg Except.error (refusalInside_of_untyped htype), htype, hne⟩
    · intro hnot
      rcases h.decided hnot with ⟨r, ⟨⟩⟩ | ⟨detail, ⟨⟩⟩
      exact isDecided_noCast hs ht _

/-- What is read is of a built-in kind. -/
lemma Round.isBuiltIn (h : Round v w) : w.type.isBuiltIn = true := by
  cases h.reads.2.2 with
  | void _ type => rcases type with h | h <;> rw [h] <;> rfl
  | lists type => rw [type]; rfl
  | family _ type =>
    generalize w.type = s at type
    cases type <;> rfl

/-- **The rounds come to a result or a refusal, unless they are broken off.** -/
theorem Yields.concludes (h : Yields t v outcome) (hv : v.WellFormed) (hbuilt : v.type.isBuiltIn = true)
    (ht : t.IsStandard) (hbuilt' : t.isBuiltIn = true) (hdec : Decomposable t) :
    Concludes v.type t (BreaksOff t v) outcome := by
  induction h with
  | @last v noList =>
    have hcast : standard.castWithin 1 false v t = standard.castTo false v t :=
      (castWithin_last hv.standard ht noList _).symm
    rw [hcast, breaksOff_of_last noList]
    refine ⟨fun hrange => ⟨_, castTo_of_outOfRange false hrange, rfl, by rintro ⟨⟩⟩, ?_⟩
    exact isDecided_last hv hbuilt ht hbuilt' hdec noList
  | @unread v f list read =>
    rw [breaksOff_of_unread list read, refusalReading]
    cases htype : f.isTypeFailure with
    | false =>
      refine ⟨fun _ => ⟨f, rfl, htype, ?_⟩, fun hnot => absurd rfl hnot⟩
      rintro rfl
      rw [readOpen_ofValues] at read
      exact readOpen_ne_tooDeep read
    | true => exact ⟨by rintro ⟨⟩, fun _ => isDecided_noCast hv.standard ht f.message⟩
  | @refused v w f round rest ih =>
    rw [breaksOff_of_round round]
    exact (ih round.reads.1 round.isBuiltIn).retold hv.standard ht id
  | @returned v w r round rest ih =>
    rw [breaksOff_of_round round]
    exact (ih round.reads.1 round.isBuiltIn).retold hv.standard ht fun r =>
      ⟨r.vector, sortedPositions (v.unevenPositions ++ r.lossy)⟩

/-! ### The decomposed form -/

/-- Lists are never taken apart. -/
lemma Detour.ne_list {r : Registry} (h : Detour r decompose s t c d) : s ≠ .list := by
  rintro rfl
  exact h.source rfl

lemma route_list_null (decompose : Bool) (hlist : v.type = .list) :
    standard.route decompose v.type .null = .toNull := by
  rw [hlist]
  rfl

lemma route_list_unspecified (decompose : Bool) (hlist : v.type = .list) :
    standard.route decompose v.type .unspecified = .direct .noCast := by
  rw [hlist]
  exact route_refused .list .unspecified rfl (by rintro ⟨⟩) rfl rfl (.inr rfl)

/-- A list vector has a way to a list type, and to types without values it has one or is refused. -/
lemma isDecided_of_not_decomposable (decompose : Bool) (hv : v.WellFormed) (ht : t.IsStandard) (hlist : v.type = .list)
    (hdec : ¬ Decomposable t) : IsDecided v.type t (standard.castTo decompose v t) := by
  cases ht with
  | null =>
    rw [castTo, castFuel, castWithin, route_list_null decompose hlist]
    dsimp only
    split_ifs
    · exact isDecided_noCast hv.standard .null _
    · exact .inl ⟨_, rfl⟩
  | unspecified =>
    rw [castTo_direct (route_list_unspecified decompose hlist)]
    exact isDecided_noCast hv.standard .unspecified none
  | list =>
    obtain ⟨c, lossy, hr, -⟩ := arrives_unchanged hv .list (by rw [hlist]; rfl)
    exact .inl ⟨_, hr⟩
  | _ => exact absurd trivial hdec

/-- A list vector that is cast to a kind with values of its own. -/
lemma concludes_list (decompose : Bool) (hv : v.WellFormed) (ht : t.IsStandard) (hbuilt : t.isBuiltIn = true)
    (hdec : Decomposable t) (hlist : v.type = .list) {fuel : Nat} (hfuel : v.nesting < fuel) :
    Concludes v.type t (BreaksOff t v) (standard.castWithin fuel decompose v t) := by
  have hyields : Yields t v (standard.castWithin fuel decompose v t) :=
    yields_castWithin ht hdec hv hfuel fun hnot => absurd hlist hnot
  exact hyields.concludes hv (by rw [hlist]; rfl) ht hbuilt hdec

lemma nesting_lt_castFuel (v : TypedVector) : v.nesting < castFuel v := by
  rw [TypedVector.nesting, castFuel]
  split <;> omega

end Registry

end Coercion
