import Coercion.Cast.Making
import Coercion.Engine

/-!
The laws that the rules of a kind have to obey: unification is commutative and has the null type as its identity, a cast
to the type that a vector has changes nothing, the empty vector is empty, and a vector survives being taken apart and
put together. The engine relies on them but does not enforce them; here they are checked on samples.
-/

namespace Coercion

/-- What came of an attempt to unify: a type, or a refusal with the name of its class. -/
inductive Attempt where
  | type (t : VectorType)
  | refusal (className : String)

namespace Attempt

/-- An attempt, where a failure that is no refusal is passed on. -/
def of (outcome : Except Failure VectorType) : Except Failure Attempt :=
  match outcome with
  | .ok t => .ok (.type t)
  | .error f =>
    match f.refusalClass? with
    | some className => .ok (.refusal className)
    | none => .error f

/-- Whether two attempts have the same outcome. -/
def same : Attempt → Attempt → Bool
  | .type x, .type y => x == y
  | .refusal a, .refusal b => a == b
  | _, _ => false

/-- An outcome in a message. -/
def describe : Attempt → String
  | .type t => "'" ++ t.display ++ "'"
  | .refusal name => name

end Attempt

namespace Registry

/-- Violations of commutativity by two types. -/
def commutativityViolations (r : Registry) (x y : VectorType) : Except Failure (List String) := do
  let violations ← [true, false].mapM fun strict => do
    let forward ← Attempt.of (r.unify strict x y)
    let backward ← Attempt.of (r.unify strict y x)
    if forward.same backward then return none
    else return some ("not commutative (strict=" ++ (if strict then "True" else "False") ++ "): '" ++
      x.display ++ "' + '" ++ y.display ++ "' -> " ++ forward.describe ++ ", but '" ++ y.display ++
      "' + '" ++ x.display ++ "' -> " ++ backward.describe)
  return violations.filterMap id

/-- Violations by a type of the law that null is an identity. -/
def identityViolations (r : Registry) (x : VectorType) : Except Failure (List String) := do
  let violations ← [(x, VectorType.null), (VectorType.null, x)].mapM fun (left, right) => do
    let found ← Attempt.of (r.unify true left right)
    if found.same (.type x) then return none
    else return some ("null is not an identity: '" ++ left.display ++ "' + '" ++ right.display ++
      "' -> " ++ found.describe)
  return violations.filterMap id

/-- Violations of the laws of unification: by each type with itself, with the ones after it and with
the partners. -/
def unificationViolations (r : Registry) (partners : List VectorType) :
    List VectorType → Except Failure (List String)
  | [] => .ok []
  | x :: xs => do
    let pairs ← (x :: xs ++ partners).mapM (r.commutativityViolations x)
    let identity ← r.identityViolations x
    return pairs.flatten ++ identity ++ (← r.unificationViolations partners xs)

/-- The wording of a refusal in a list of violations. -/
def refusalText (f : Failure) : String :=
  f.message.getD ""

end Registry

namespace Making

/-- Violations of the law that a cast to the own type changes nothing. -/
def selfCastViolations (m : Making) (r : Registry) (v : TypedVector) : Except Failure (List String) :=
  match m.castTo r true v v.type with
  | .ok result =>
    .ok (if result.lossy.isEmpty && result.vector.same v then []
      else ["self-cast of '" ++ v.type.display ++ "' did not preserve " ++ v.quoted])
  | .error f =>
    if f.isRefusal then
      .ok ["self-cast of '" ++ v.type.display ++ "' failed: " ++ Registry.refusalText f]
    else .error f

/-- Violations of the law that the empty vector of a type is empty and has the type. -/
def emptyViolations (m : Making) (t : VectorType) : Except Failure (List String) := do
  let v ← m.empty t
  return if v.size = 0 && v.type == t then []
    else ["empty probe for '" ++ t.display ++ "' is invalid: " ++ v.quoted]

/-- Violations of the law that a vector survives being taken apart and put together, if its kind can
be taken apart. -/
def roundTripViolations (m : Making) (r : Registry) (v : TypedVector) : Except Failure (List String) :=
  match r.casterFor? v.type.tag .list with
  | none => .ok []
  | some _ =>
    let outcome : Except Failure (CastResult × CastResult) := do
      let parts ← m.castTo r true v .list
      let whole ← m.castTo r true parts.vector v.type
      return (parts, whole)
    match outcome with
    | .ok (parts, whole) =>
      .ok (if parts.lossy.isEmpty && whole.lossy.isEmpty && whole.vector.same v then []
        else ["round trip of '" ++ v.type.display ++ "' through list did not preserve " ++ v.quoted ++
          " (got " ++ whole.vector.quoted ++ ")"])
    | .error f =>
      if f.isRefusal then
        .ok ["round trip of '" ++ v.type.display ++ "' through list failed: " ++ Registry.refusalText f]
      else .error f

/-- Violations of the laws of casts by one vector. -/
def castViolations (m : Making) (r : Registry) (v : TypedVector) : Except Failure (List String) := do
  return (← m.selfCastViolations r v) ++ (← m.emptyViolations v.type) ++ (← m.roundTripViolations r v)

/-- All violations of the laws by some samples, with some other types to unify them with. -/
def lawViolations (m : Making) (r : Registry) (samples : List TypedVector) (partners : List VectorType) :
    Except Failure (List String) := do
  let unification ← r.unificationViolations partners (samples.map TypedVector.type)
  let casts ← samples.mapM (m.castViolations r)
  return unification ++ casts.flatten

/-- Checks the laws on samples. All violations are named together. -/
def checkLaws (m : Making) (e : Engine) (samples : List Data) (partners : List Specifier) :
    Except Failure Unit := do
  let vectors ← samples.mapM fun d => e.vector d none
  let partners ← partners.mapM e.resolve
  let violations ← m.lawViolations e.registry vectors partners
  if violations.isEmpty then return () else throw (.brokenLaws violations)

end Making

/-- Checks the laws on samples of kinds that make their vectors in the usual way. -/
def Engine.checkLaws (e : Engine) (samples : List Data) (partners : List Specifier) : Except Failure Unit :=
  Making.standard.checkLaws e samples partners

end Coercion
