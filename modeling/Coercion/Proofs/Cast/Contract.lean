import Coercion.Cast.Making
import Coercion.Proofs.Cast.Routes
import Coercion.Proofs.Cast.Search
import Coercion.Proofs.Column.Size

/-!
What a cast guarantees in any registry. Casters are entered by whoever owns a kind, and may return anything. A cast that
gives a result nevertheless gives one of the type that was asked for, with as many values as there were, because every
answer of a caster is checked against the vector that the caster was given. An answer that is malformed is refused with
a type error, on whichever route the caster was called.
-/

namespace Coercion

/-! ### Ways to make vectors -/

namespace Making

lemma castTo_eq_attempt (m : Making) (r : Registry) (decompose : Bool) (v : TypedVector) (t : VectorType) :
    m.castTo r decompose v t = m.attempt r (m.executor r v) decompose v t :=
  rfl

/-- Where no kind has another way to make its vectors, these are the casts of the registry. -/
theorem castWithin_standard (r : Registry) (fuel : Nat) : standard.castWithin r fuel = r.castWithin fuel := by
  induction fuel with
  | zero => rfl
  | succ fuel ih =>
    funext decompose v target
    rw [castWithin, attempt.eq_def, Registry.castWithin.eq_def, ih]
    dsimp only
    cases r.route decompose v.type target with
    | unchanged =>
      dsimp only
      split_ifs
      · rfl
      · rw [VectorType.vectorOf, bind_assoc]
        rfl
    | _ => rfl

theorem castTo_standard (r : Registry) (decompose : Bool) (v : TypedVector) (target : VectorType) :
    standard.castTo r decompose v target = r.castTo decompose v target := by
  rw [castTo, castWithin_standard, Registry.castTo]

/-- Whether the vectors that are made of a type are of that type, and as long as they have to be. -/
structure Fits (m : Making) (t : VectorType) : Prop where
  construct : ∀ c : Column, c.SizedAs (m.construct t c)
  empty : ∀ w, m.empty t = .ok w → w.type.Equals t ∧ w.size = 0
  missing : ∀ n w, m.missing t n = .ok w → w.type.Equals t ∧ w.size = n

lemma fits_vectorOf {t : VectorType} {c : Column} {w : TypedVector} (h : t.vectorOf c = .ok w) :
    w.type.Equals t ∧ w.size = c.size := by
  obtain ⟨d, hd, h⟩ := bind_eq_ok_iff.1 h
  cases h
  exact ⟨.refl t, VectorType.sizedAs_construct t c d hd⟩

/-- Unless the owner of a kind has another way, vectors are made as they have to be. -/
theorem standard_fits (t : VectorType) : standard.Fits t where
  construct c := VectorType.sizedAs_construct t c
  empty _ h := fits_vectorOf h
  missing n w h := by
    obtain ⟨htype, hsize⟩ := fits_vectorOf h
    exact ⟨htype, hsize.trans (List.length_replicate ..)⟩

end Making

/-! ### Answers of casters -/

namespace CasterOutput

variable {source : TypedVector} {target : VectorType}

/-- Whether what came of calling a caster is malformed: it has not the form of a result, not the type that was asked
for, or not as many values as the vector that was given. -/
inductive Malformed (source : TypedVector) (target : VectorType) : Except Failure CasterOutput → Prop where
  | form (quoted : String) : Malformed source target (.ok (.other quoted))
  | noVector (quoted : String) : Malformed source target (.ok (.noVector quoted))
  | type {w : TypedVector} (lossy : List Nat) (h : ¬ w.type.Equals target) :
    Malformed source target (.ok (.result w lossy))
  | length {w : TypedVector} (lossy : List Nat) (h : w.size ≠ source.size) :
    Malformed source target (.ok (.result w lossy))
  /-- A pair whose second part holds no positions. -/
  | positions {d : Data} {lossy : Value} {f : Failure} (h : ofData d lossy = .error f) :
    Malformed source target (.error f)

/-- Data with something else in the place of positions is no result. -/
lemma category_of_ofData {d : Data} {lossy : Value} {f : Failure} (h : ofData d lossy = .error f) :
    f.category = .typeError := by
  rw [ofData] at h
  cases hlossy : lossy.iterate with
  | ok xs =>
    rw [hlossy] at h
    cases d with
    | value => cases h
    | _ => cases h
  | error g =>
    rw [hlossy] at h
    cases h
    rw [Value.iterate.eq_def] at hlossy
    split at hlossy <;> cases hlossy
    rfl

/-- What passes the checks is of the type that was asked for, and as long as the vector that was given. -/
lemma checked_eq_ok {output : CasterOutput} {result : CastResult} (h : output.checked source target = .ok result) :
    result.vector.type.Equals target ∧ result.vector.size = source.size := by
  cases output with
  | result w lossy =>
    rw [checked] at h
    split at h
    · split at h <;> cases h
    · rename_i htype
      split_ifs at h with hsize
      cases h
      have hsame : (w.type == target) = true := by simpa using htype
      exact ⟨.inr hsame, not_not.1 hsize⟩
  | noVector => cases h
  | other => cases h

/-- The checks refuse with type errors only. -/
lemma category_of_checked {output : CasterOutput} {f : Failure} (h : output.checked source target = .error f) :
    f.category = .typeError := by
  cases output with
  | result w lossy =>
    rw [checked] at h
    split at h
    · split at h <;> cases h <;> rfl
    · split_ifs at h
      cases h
      rfl
  | noVector =>
    cases h
    rfl
  | other =>
    cases h
    rfl

end CasterOutput

namespace Making

open CasterOutput Registry

variable {m : Making} {r : Registry} {execute : Executor} {decompose : Bool} {c : Caster}
  {v source : TypedVector} {t target : VectorType} {result : CastResult}

lemma call_eq_ok (h : c.call execute source target = .ok result) :
    result.vector.type.Equals target ∧ result.vector.size = source.size := by
  obtain ⟨output, -, h⟩ := bind_eq_ok_iff.1 h
  exact checked_eq_ok h

/-- Whether a cast, or a part of one, fails with a type error. -/
def Rejected (cast : Except Failure CastResult) : Prop :=
  ∃ f, cast = .error f ∧ f.category = .typeError

/-- A malformed answer never passes the checks. -/
lemma rejected_call (h : Malformed source target (c.run execute source target)) :
    Rejected (c.call execute source target) := by
  cases hcall : c.call execute source target with
  | ok result =>
    exfalso
    obtain ⟨output, hrun, hchecked⟩ := bind_eq_ok_iff.1 hcall
    obtain ⟨htype, hsize⟩ := call_eq_ok hcall
    rw [hrun] at h
    cases h with
    | form => cases hchecked
    | noVector => cases hchecked
    | type lossy hne => exact hne (vector_of_checked hchecked ▸ htype)
    | length lossy hne => exact hne (vector_of_checked hchecked ▸ hsize)
  | error f =>
    refine ⟨f, rfl, ?_⟩
    rw [Caster.call] at hcall
    cases hrun : c.run execute source target with
    | ok output =>
      rw [hrun] at hcall
      exact category_of_checked hcall
    | error g =>
      rw [hrun] at hcall h
      cases hcall
      cases h with
      | positions hdata => exact category_of_ofData hdata

/-! ### Where casters are called -/

/-- The calls of casters in a cast: which one is called, with which vector and for which type. -/
inductive Calls (m : Making) (r : Registry) (decompose : Bool) (v : TypedVector) (t : VectorType) :
    Caster → TypedVector → VectorType → Prop where
  | direct {c : Caster} (needed : NeedsCaster v.type t) (found : r.casterFor? v.type.tag t.tag = some c) :
    Calls m r decompose v t c v t
  | apart {c d : Caster} (needed : NeedsCaster v.type t) (missing : r.casterFor? v.type.tag t.tag = none)
    (detour : Detour r decompose v.type t c d) : Calls m r decompose v t c v .list
  /-- The second half starts from what came of the first. -/
  | together {c d : Caster} {parts : CastResult} (needed : NeedsCaster v.type t)
    (missing : r.casterFor? v.type.tag t.tag = none) (detour : Detour r decompose v.type t c d)
    (parted : c.call (m.executor r v) v .list = .ok parts) : Calls m r decompose v t d parts.vector t
  | fallback {c : Caster} (needed : NeedsCaster v.type t) (missing : r.casterFor? v.type.tag t.tag = none)
    (noDetour : ∀ c d, ¬ Detour r decompose v.type t c d) (found : r.casterFor? v.type.tag .any = some c) :
    Calls m r decompose v t c v t

/-! ### The contract -/

/-- What comes back along any route is of the type that was asked for, and as long as the vector that was cast. -/
lemma attempt_returned (hv : v.type = .null → v.size = 0) (hm : m.Fits t)
    (h : m.attempt r execute decompose v t = .ok result) :
    result.vector.type.Equals t ∧ result.vector.size = v.size := by
  have htakes := takes_route r decompose v.type t
  rw [attempt.eq_def] at h
  generalize r.route decompose v.type t = route at h htakes
  cases htakes with
  | unchanged =>
    dsimp only at h
    split_ifs at h
    · cases h
      exact ⟨.refl t, rfl⟩
    · obtain ⟨d, hd, h⟩ := bind_eq_ok_iff.1 h
      cases h
      exact ⟨.refl t, hm.construct _ d hd⟩
  | toNull =>
    dsimp only at h
    split_ifs at h with hsize
    obtain ⟨w, hw, h⟩ := bind_eq_ok_iff.1 h
    cases h
    obtain ⟨htype, hempty⟩ := hm.empty w hw
    exact ⟨htype, hempty.trans (not_not.1 hsize).symm⟩
  | fromNull _ _ null =>
    obtain ⟨w, hw, h⟩ := bind_eq_ok_iff.1 h
    cases h
    obtain ⟨htype, hempty⟩ := hm.empty w hw
    exact ⟨htype, hempty.trans (hv null).symm⟩
  | fromUnspecified =>
    obtain ⟨w, hw, h⟩ := bind_eq_ok_iff.1 h
    cases h
    exact hm.missing _ w hw
  | direct => exact call_eq_ok h
  | decomposed =>
    obtain ⟨parts, hparts, h⟩ := bind_eq_ok_iff.1 h
    split at h
    · rename_i whole hwhole
      cases h
      -- the second half is checked against the parts, which are as long as the vector
      obtain ⟨htype, hsize⟩ := call_eq_ok hwhole
      exact ⟨htype, hsize.trans (call_eq_ok hparts).2⟩
    · cases h
  | fallback => exact call_eq_ok h
  | impassable => cases h

lemma castTo_returned (hv : v.type = .null → v.size = 0) (hm : m.Fits t)
    (h : m.castTo r decompose v t = .ok result) :
    result.vector.type.Equals t ∧ result.vector.size = v.size :=
  attempt_returned hv hm h

/-- A type error of the second half is not turned into a refusal to cast. -/
lemma refusalThrough_of_typeError {s : VectorType} {f : Failure} (h : f.category = .typeError) :
    refusalThrough s t f = f := by
  rw [refusalThrough.eq_def]
  split
  · cases h
  · rfl

/-- Wherever in a cast a caster is called, a malformed answer of it ends the cast. -/
lemma castTo_rejected (hcall : Calls m r decompose v t c source target)
    (hbad : Malformed source target (c.run (m.executor r v) source target)) :
    Rejected (m.castTo r decompose v t) := by
  obtain ⟨f, hf, htype⟩ := rejected_call hbad
  refine ⟨f, ?_, htype⟩
  rw [castTo_eq_attempt, attempt.eq_def]
  cases hcall with
  | direct needed found =>
    rw [(Takes.direct needed found).route_eq]
    exact hf
  | apart needed missing detour =>
    rw [(Takes.decomposed needed missing detour).route_eq]
    dsimp only
    rw [hf]
    rfl
  | together needed missing detour parted =>
    rw [(Takes.decomposed needed missing detour).route_eq]
    dsimp only [bind, Except.bind]
    rw [parted]
    dsimp only
    rw [hf]
    exact congrArg Except.error (refusalThrough_of_typeError htype)
  | fallback needed missing noDetour found =>
    rw [(Takes.fallback needed missing noDetour found).route_eq]
    exact hf

/-- What a cast of a vector to a type guarantees, whatever the casters do. -/
structure Contract (m : Making) (r : Registry) (decompose : Bool) (v : TypedVector) (t : VectorType) : Prop where
  /-- Where no kind has another way to make its vectors, it is the cast of the registry that is spoken of. -/
  plain : m = .standard → m.castTo r decompose v t = r.castTo decompose v t
  /-- A result is of the type that was asked for, and as long as the vector that was cast. -/
  returned : ∀ {result}, m.castTo r decompose v t = .ok result →
    result.vector.type.Equals t ∧ result.vector.size = v.size
  /-- A malformed answer of a caster makes the cast fail with a type error, wherever the caster was called. -/
  rejected : ∀ {c source target}, Calls m r decompose v t c source target →
    Malformed source target (c.run (m.executor r v) source target) → Rejected (m.castTo r decompose v t)

/-- **Casts keep their contract in any registry.** Whatever casters there are and however the owners of kinds make their
vectors, as long as these fit, a cast gives a vector of the type that was asked for and of the same length, or fails;
and no malformed answer of a caster gets through. -/
theorem castTo_contract (m : Making) (r : Registry) (decompose : Bool) {v : TypedVector} {t : VectorType}
    (hv : v.type = .null → v.size = 0) (hm : m.Fits t) : Contract m r decompose v t where
  plain := by
    rintro rfl
    exact castTo_standard r decompose v t
  returned := castTo_returned hv hm
  rejected := castTo_rejected

/-- A caster that drops the last value. -/
def shortening : Caster :=
  .plain "shortening" fun v t => .ok (.exact ⟨t, ⟨v.column.dtype, v.values.dropLast⟩⟩)

/-- A registry in which truth values are taken apart rightly, and put together to integers with one of them lost. -/
def shorteningRegistry : Registry :=
  ⟨[], [((.name "logical", .list), .anyToList), ((.list, .name "integer"), shortening)], false, []⟩

/-- The second half of a decomposed cast gives too few values, and the cast says so. -/
theorem castTo_contract_shortening :
    let truths : TypedVector := ⟨.logical, ⟨.boolean, [.bool true, .bool false]⟩⟩
    Contract .standard shorteningRegistry true truths .integer ∧
      shorteningRegistry.castTo true truths .integer =
        .error (.changedLength (.name "list") (.name "integer") 2 1) :=
  ⟨castTo_contract .standard shorteningRegistry true (fun h => by cases h) (standard_fits .integer), rfl⟩

end Making

end Coercion
