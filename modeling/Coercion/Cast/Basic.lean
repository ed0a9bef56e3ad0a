import Coercion.Unify.Basic

/-!
Casts. A vector is cast along the first route that there is: it may have the target's type already, or carry no values,
or there is a caster for the pair of kinds; failing that it is taken apart into one-element lists and put together
again, and at last the kind's own fallback is asked. Whatever a caster returns is checked.
-/

namespace Coercion

/-! ## Positions -/

/-- Positions in ascending order, each once. -/
def sortedPositions (positions : List Nat) : List Nat :=
  (positions.mergeSort (· ≤ ·)).eraseDups

/-- The positions at which a value that is not missing is replaced by a missing or a different one. The
shorter list ends the comparison. -/
def lossyPositions (old restored : List Value) : List Nat :=
  Column.positionsOf ((old.zip restored).map fun (x, y) =>
    !x.isMissing && (y.isMissing || !x.same y))

/-- The positions at which a value that is not missing becomes missing. -/
def droppedPositions (old restored : List Value) : List Nat :=
  Column.positionsOf ((old.zip restored).map fun (x, y) => !x.isMissing && y.isMissing)

/-! ## Results -/

namespace CasterOutput

/-- A vector in which every value was preserved. -/
def exact (v : TypedVector) : CasterOutput :=
  .result v []

/-- Data with some positions in the place of a result. -/
def ofData (d : Data) (lossy : Value) : Except Failure CasterOutput := do
  let positions := (← lossy.iterate).filterMap fun
    | .int n => some n.toNat
    | _ => none
  match d with
  | .vector v => return .result v positions
  | .value v => return .noVector v.quoted
  | d => return .noVector (Value.list d.toColumn.values).quoted

/-- A value in the place of a result. A pair is taken for data with positions. -/
def ofValue : Value → Except Failure CasterOutput
  | .tuple [x, positions] => ofData (.value x) positions
  | v => .ok (.other v.quoted)

/-- The result that a caster returned for a source and a target, if it is one. -/
def checked (source : TypedVector) (target : VectorType) : CasterOutput → Except Failure CastResult
  | .other q => .error (.notACastResult source.type.tag target.tag q)
  | .noVector q => .error (.wrongTypeResult source.type.tag target.tag q)
  | .result v lossy =>
    if !(v.type == target) then
      match v.type.unnamedClass? with
      | some c => .error (.unnamedType c)
      | none => .error (.wrongTypeResult source.type.tag target.tag v.quoted)
    else if v.size ≠ source.size then
      .error (.changedLength source.type.tag target.tag source.size v.size)
    else .ok ⟨v, sortedPositions lossy⟩

end CasterOutput

/-! ## Routes -/

/-- How a vector gets to a type. -/
inductive Route where
  /-- It has the type already. -/
  | unchanged
  /-- Only an empty vector can become a null one. -/
  | toNull
  /-- A null vector has no values. -/
  | fromNull
  /-- An unspecified vector has only missing values. -/
  | fromUnspecified
  /-- There is a caster for the pair of kinds, or a fallback. -/
  | direct (c : Caster)
  /-- The vector is taken apart and put together again. -/
  | decomposed (apart together : Caster)
  | impassable

namespace Registry

/-- Two payloads are the same in storage, where the order of levels matters. -/
def samePayload (x y : VectorType) : Bool :=
  x.params.length == y.params.length && x.params.all fun (k, v) =>
    y.params.any fun (l, w) => k == l && v.same w

/-- The way through the decomposed form, if both halves of it are there. -/
def decomposition? (r : Registry) (source target : VectorType) : Option Route := do
  if source.tag = .list ∨ target.tag = .list then failure
  let apart ← r.casterFor? source.tag .list
  let together ← r.casterFor? .list target.tag
  return .decomposed apart together

/-- The first route from a type to another. -/
def route (r : Registry) (decompose : Bool) (source target : VectorType) : Route :=
  if source == target then .unchanged
  else
    match source, target with
    | _, .null => .toNull
    | .null, _ => .fromNull
    | .unspecified, _ => .fromUnspecified
    | source, target =>
      match r.casterFor? source.tag target.tag with
      | some c => .direct c
      | none =>
        match if decompose then r.decomposition? source target else none with
        | some route => route
        | none =>
          match r.casterFor? source.tag .any with
          | some c => .direct c
          | none => .impassable

/-- What is noted down about a cast. -/
def castJournal (r : Registry) (decompose : Bool) (source target : VectorType) : List String :=
  match r.route decompose source target with
  | .decomposed .. =>
    ["casting '" ++ source.display ++ "' to '" ++ target.display ++ "' through decomposed form"]
  | _ => []

/-- A failure of the second half of a decomposed cast, in terms of the whole. -/
def refusalThrough (source target : VectorType) (f : Failure) : Failure :=
  match f with
  | .incompatibleCast .. => .noCast source target f.message
  | f => f

/-- Casts a vector along the first route. Casters may cast in turn, but not through the decomposed form and
only as often as the fuel allows. -/
def castWithin (r : Registry) : Nat → Bool → TypedVector → VectorType → Except Failure CastResult
  | 0, _, _, _ => .error .tooDeep
  | fuel + 1, decompose, v, target =>
    let run (c : Caster) (v : TypedVector) (target : VectorType) : Except Failure CastResult := do
      (← c.run (r.castWithin fuel false) v target).checked v target
    match r.route decompose v.type target with
    | .unchanged =>
      if samePayload v.type target then .ok ⟨⟨target, v.column⟩, []⟩
      else do return ⟨← target.vectorOf v.column, []⟩
    | .toNull =>
      if v.size ≠ 0 then .error (.noCast v.type target (some "null vectors are empty"))
      else do return ⟨← target.empty, []⟩
    | .fromNull => do return ⟨← target.empty, []⟩
    | .fromUnspecified => do return ⟨← target.missingVector v.size, []⟩
    | .direct c => run c v target
    | .decomposed apart together => do
      let parts ← run apart v .list
      match run together parts.vector target with
      | .ok whole => return ⟨whole.vector, sortedPositions (parts.lossy ++ whole.lossy)⟩
      | .error f => throw (refusalThrough v.type target f)
    | .impassable => .error (.noCast v.type target none)

/-- Enough fuel for a vector: each cast within a cast looks one level deeper into lists. -/
def castFuel (v : TypedVector) : Nat :=
  Value.depthOfAll v.values + 4

/-- Casts a vector to a type. -/
def castTo (r : Registry) (decompose : Bool) (v : TypedVector) (target : VectorType) :
    Except Failure CastResult :=
  r.castWithin (castFuel v) decompose v target

end Registry

end Coercion
