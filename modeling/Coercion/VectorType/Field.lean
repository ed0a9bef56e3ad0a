import Coercion.VectorType.Build

/-!
What a type says about itself. Every type has a kind and a marker for missing values; numeric types have a rank and, if
they are bounded, a greatest and a least integer; and every part of a payload can be asked for by its name. Nothing of it
can be changed.
-/

namespace Coercion

namespace Tag

/-- The tag as a value. -/
def value : Tag → Value
  | .name s => .text s
  | .other _ _ => .absent

end Tag

/-- What a type says about itself: a value, a set of values, or several such things in a row. -/
inductive FieldValue where
  | one (v : Value)
  | set (vs : List Value)
  | row (fields : List FieldValue)
  deriving Inhabited

namespace VectorType

/-- The least and the greatest integer up to which all integers have a value of the type. -/
def bounds? : VectorType → Option (Int × Int)
  | .integer => some (-(Nat.pow 2 63 : Int), (Nat.pow 2 63 : Int) - 1)
  | .double => some (-(Nat.pow 2 53 : Int), (Nat.pow 2 53 : Int))
  | _ => none

/-- The rank of a numeric type as a value; the family of them has none. -/
def rankValue? (t : VectorType) : Option Value :=
  if t.isNumeric then some ((t.rank?.map fun n => Value.int n).getD .absent) else none

/-- What tells types apart: the kind, and the payload without regard to the order of levels. -/
def key : VectorType → FieldValue
  | .categorical levels => .row [.one (.text "categorical"), .set levels]
  | t => .row ((t.tag.value :: t.params.map (·.2)).map .one)

/-- What a type says about itself under a name. -/
def field? (t : VectorType) (name : String) : Option FieldValue :=
  if name = "kind" then some (.one t.tag.value)
  else if name = "missing" then some (.one t.missing)
  else if name = "key" then some t.key
  else if name = "rank" then t.rankValue?.map .one
  else if name = "min" then t.bounds?.map fun b => .one (.int b.1)
  else if name = "max" then t.bounds?.map fun b => .one (.int b.2)
  else
    match t with
    | .custom _ _ => none
    | .categorical levels =>
      if name = "level_set" then some (.set levels)
      else if name = "levels" then some (.one (.tuple levels))
      else none
    | t => (t.params.lookup name).map .one

/-- The value of a field, or the failure that there is none. -/
def field (t : VectorType) (name : String) : Except Failure FieldValue :=
  match t.field? name with
  | some v => .ok v
  | none => .error (.noAttribute t.className name)

/-- Changing or removing a field fails, whether there is one or not. -/
def refuseChange {α : Type} (t : VectorType) : Except Failure α :=
  .error (.immutable t.className)

/-- Whether `x` can represent every value of `y`; the family of numeric types has no place among its members. -/
def covering (x y : VectorType) : Except Failure Bool :=
  match x.rankFault? y with
  | some (left, right) => .error (.unordered left right)
  | none => .ok (x.finerThan y)

/-- The categorical with the levels of two others. -/
def union? (x y : VectorType) : Option (Except Failure VectorType) :=
  match x, y with
  | .categorical a, .categorical b => some (ofLevels (unionLevels a b))
  | _, _ => none

/-- How many of two types are left in a set of both. A payload that cannot be hashed has no place in a set. -/
def setSize (x y : VectorType) : Except Failure Nat :=
  match Value.unhashableIn? (x.params.map (·.2)), Value.unhashableIn? (y.params.map (·.2)) with
  | some c, _ => .error (.unhashable c)
  | none, some c => .error (.unhashable c)
  | none, none => .ok (if x == y then 1 else 2)

end VectorType

end Coercion
