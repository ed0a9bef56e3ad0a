import Coercion.Cast.Basic

/-!
Casts to kinds that make their vectors in their own way. The owner of a kind may say how storage is made of a column,
and what its vectors without elements and of missing elements are; the routes of casts and what is checked on them are
the same for every kind.
-/

namespace Coercion

/-- What a caster makes of a vector, once it has passed the checks. -/
def Caster.call (c : Caster) (execute : Executor) (source : TypedVector) (target : VectorType) :
    Except Failure CastResult := do
  (← c.run execute source target).checked source target

/-- How vectors of every type are made. -/
structure Making where
  /-- The storage of a column. -/
  construct : VectorType → Column → Except Failure Column
  /-- The vector without elements. -/
  empty : VectorType → Except Failure TypedVector
  /-- The vector of a number of missing elements. -/
  missing : VectorType → Nat → Except Failure TypedVector

namespace Making

/-- The way in which vectors are made unless the owner of a kind has another. -/
def standard : Making := ⟨VectorType.construct, VectorType.empty, VectorType.missingVector⟩

/-- Casts a vector along the first route, with a way for the casters to cast in turn. -/
def attempt (m : Making) (r : Registry) (execute : Executor) (decompose : Bool) (v : TypedVector)
    (target : VectorType) : Except Failure CastResult :=
  match r.route decompose v.type target with
  | .unchanged =>
    if Registry.samePayload v.type target then .ok ⟨⟨target, v.column⟩, []⟩
    else do return ⟨⟨target, ← m.construct target v.column⟩, []⟩
  | .toNull =>
    if v.size ≠ 0 then .error (.noCast v.type target (some "null vectors are empty"))
    else do return ⟨← m.empty target, []⟩
  | .fromNull => do return ⟨← m.empty target, []⟩
  | .fromUnspecified => do return ⟨← m.missing target v.size, []⟩
  | .direct c => c.call execute v target
  | .decomposed apart together => do
    let parts ← apart.call execute v .list
    match together.call execute parts.vector target with
    | .ok whole => return ⟨whole.vector, sortedPositions (parts.lossy ++ whole.lossy)⟩
    | .error f => throw (Registry.refusalThrough v.type target f)
  | .impassable => .error (.noCast v.type target none)

/-- Casts a vector along the first route, and casts within that cast as often as the fuel allows. -/
def castWithin (m : Making) (r : Registry) : Nat → Bool → TypedVector → VectorType → Except Failure CastResult
  | 0, _, _, _ => .error .tooDeep
  | fuel + 1, decompose, v, target => m.attempt r (m.castWithin r fuel false) decompose v target

/-- Casts a vector to a type. -/
def castTo (m : Making) (r : Registry) (decompose : Bool) (v : TypedVector) (target : VectorType) :
    Except Failure CastResult :=
  m.castWithin r (Registry.castFuel v) decompose v target

/-- How the casters in a cast of a vector cast in turn. -/
def executor (m : Making) (r : Registry) (v : TypedVector) : Executor :=
  m.castWithin r (Value.depthOfAll v.values + 3) false

end Making

end Coercion
