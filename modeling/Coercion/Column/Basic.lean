import Coercion.VectorType.Build

/-!
Columns. A column is a list of values in one storage format. The values of an open column may be of any kind and its
missing ones may carry any marker; in every other format they are of the kind that the format says, and the missing
ones carry its own marker.
-/

namespace Coercion

/-- A list of values in a storage format. -/
structure Column where
  dtype : Dtype
  values : List Value
  deriving Inhabited

namespace Value

/-- A value without the mark of the typed array that it comes from. -/
def plain : Value → Value
  | .scalar .bool v | .scalar .text v | .scalar (.int _) v | .scalar (.uint _) v
  | .scalar (.float _) v => v
  | v => v

/-- Whether a value is a truth value. -/
def isBool (v : Value) : Bool :=
  match v.plain with
  | .bool _ => true
  | _ => false

/-- Whether a value is an integer. -/
def isInt (v : Value) : Bool :=
  match v.plain with
  | .int _ => true
  | _ => false

/-- Whether a value is a floating-point number. -/
def isDouble (v : Value) : Bool :=
  match v.plain with
  | .double _ => true
  | _ => false

/-- Whether a value is a text. -/
def isText (v : Value) : Bool :=
  match v.plain with
  | .text _ => true
  | _ => false

/-- A length of time without its array: it is a mere number if its unit is too fine for a length of time. -/
def ofSpan (unit : String) : Value → Value
  | .span s =>
    match Element.secondsIn? unit with
    | some q => if q < mkRat 1 (Nat.pow 10 6) then .int (s / q).floor else .span s
    | none => .span s
  | v => v

/-- An element of a typed array as it is on its own. -/
def ofElement (e : Element) (v : Value) : Value :=
  match e with
  | .object => v
  | .moment _ => v
  | .span unit => .scalar e (ofSpan unit v)
  | e => .scalar e v

/-- The members of a collection, on their own. -/
def members? : Value → Option (List Value)
  | .list xs | .tuple xs => some xs
  | .array e xs => some (xs.map (ofElement e))
  | _ => none

mutual

/-- Whether two stored values are the same: equal, or missing with the same marker. -/
def identical : Value → Value → Bool
  | .absent, .absent | .notAvailable, .notAvailable | .notATime, .notATime => true
  | .double .nan, .double .nan => true
  | .list xs, .list ys => identicalAll xs ys
  | .tuple xs, .tuple ys => identicalAll xs ys
  | v, w => v.same w

/-- Whether two lists of stored values are the same. -/
def identicalAll : List Value → List Value → Bool
  | [], [] => true
  | x :: xs, y :: ys => identical x y && identicalAll xs ys
  | _, _ => false

end

end Value

namespace Column

/-- An open column. -/
def ofValues (values : List Value) : Column :=
  ⟨.object, values⟩

/-- The number of values. -/
def size (c : Column) : Nat :=
  c.values.length

/-- The values that are not missing. -/
def present (c : Column) : List Value :=
  c.values.filter fun v => !v.isMissing

/-- Whether all values are missing. -/
def allMissing (c : Column) : Bool :=
  c.values.all Value.isMissing

/-- The same values as an open column. -/
def opened (c : Column) : Column :=
  ⟨.object, c.values⟩

/-- The column with one marker for all of its missing values. -/
def marked (c : Column) : Column :=
  ⟨c.dtype, c.values.map fun v => if v.isMissing then c.dtype.missing else v⟩

/-- Whether two columns hold the same values, whatever their formats. -/
def same (c d : Column) : Bool :=
  Value.identicalAll c.values d.values

/-- The column of format `d` whose present values are made by `f`. -/
def mapPresent (d : Dtype) (f : Value → Except Failure Value) (c : Column) :
    Except Failure Column := do
  return ⟨d, ← c.values.mapM fun v => if v.isMissing then pure d.missing else f v⟩

/-- The positions of some flags that are set. -/
def positionsOf (flags : List Bool) : List Nat :=
  (flags.zipIdx.filter fun p => p.1).map (·.2)

end Column

end Coercion
