import Coercion.Cast.Moment

/-!
The decomposed form, in which every element of a vector is a list of one value. Taking a vector apart is always exact. To
put one together, the lists are opened, the type of what is inside is found anew, and the rest is a cast of its own,
which may not go through the decomposed form again.
-/

namespace Coercion

namespace Caster

/-- An element as a list of one. -/
def wrapped (v : Value) : Value :=
  if v.isMissing then .absent else .list [v]

/-- Takes a vector apart. -/
def anyToList : Caster :=
  plain "any_to_list" fun v target => do
    return .exact ⟨target, ← target.construct (.ofValues (v.values.map wrapped))⟩

/-- The value in a list of one, with a flag that tells whether something else was there. What has no
length cannot be opened. -/
def opened (v : Value) : Except Failure (Value × Bool) :=
  match v with
  | .absent => .ok (.absent, false)
  | .text s => match s.toList with
    | [c] => .ok (.text (String.singleton c), false)
    | _ => .ok (.absent, true)
  | v =>
    match v.members? with
    | some [x] => .ok (x, false)
    | some _ => .ok (.absent, true)
    | none => .error (.noLength v.className)

/-- A failure of the cast of what was in the lists, in terms of the lists. -/
def refusalInside (source target : VectorType) (f : Failure) : Failure :=
  match f with
  | .incompatibleCast .. => .noCast source target f.message
  | f => f

/-- Puts a vector together. -/
def listToAny : Caster :=
  ⟨"list_to_any", fun execute v target => do
    let elements ← v.values.mapM opened
    let column := Column.ofValues (elements.map (·.1))
    let inner ←
      match (column.detect >>= fun t => t.vectorOf column) with
      | .ok inner => pure inner
      | .error f => if f.isTypeFailure then throw (.noCast v.type target f.message) else throw f
    match execute inner target with
    | .ok result =>
      return .result result.vector (Column.positionsOf (elements.map (·.2)) ++ result.lossy)
    | .error f => throw (refusalInside v.type target f)⟩

end Caster

end Coercion
