import Coercion.Failure

/-!
Types from their payloads, with the checks that a payload has to pass: the levels of a categorical are present and
distinct, a zone has a normal form, and boundaries are numbers.
-/

namespace Coercion

namespace Value

/-- The name of the class of a value. -/
def className : Value → String
  | .absent => "NoneType"
  | .notAvailable => "NAType"
  | .notATime => "NaTType"
  | .bool _ => "bool"
  | .int _ => "int"
  | .double _ => "float"
  | .text _ => "str"
  | .list _ => "list"
  | .tuple _ => "tuple"
  | .array .. => "numpy.ndarray"
  | .dict .. => "dict"
  | .date _ => "datetime.date"
  | .moment .. => "datetime.datetime"
  | .instant .. => "Timestamp"
  | .period _ => "Period"
  | .ticks .. => "numpy.datetime64"
  | .span _ => "datetime.timedelta"
  | .scalar .text _ => "numpy.str_"
  | .scalar (.span _) _ => "numpy.timedelta64"
  | .scalar e _ => "numpy." ++ e.name
  | .bytes _ => "bytes"
  | .decimal .. => "decimal.Decimal"
  | .fraction _ => "Fraction"
  | .complex .. => "complex"
  | .offset _ => "pytz._FixedOffset"
  | .alien => "Opaque"

/-- The nearest floating-point number to an exact one; no number beyond the range of the format has
one. -/
def nearest? (q : Rat) : Option Double :=
  match Double.ofRatio q.num q.den with
  | .infinite _ => none
  | x => some x

/-- A value read as a floating-point number. -/
def toDouble : Value → Except Failure Double
  | .double x => .ok x
  | .decimal d => .ok d.toDouble
  | .text s =>
    match Text.readDouble s with
    | some x => .ok x
    | none => .error (.notANumeral (Text.quoted s))
  | .scalar _ (.double x) => .ok x
  | .complex .. => .error (.notANumber "complex")
  | v =>
    match v.quantity? with
    | some (.finite q) =>
      match nearest? q, v with
      | some x, _ => .ok x
      | none, .fraction _ => .error (.refused .overflow)
      | none, _ => .error .beyondDouble
    | some (.infinite s) => .ok (.infinite s)
    | some .nan => .ok .nan
    | none => .error (.notANumber v.className)

/-- The values that a value runs through. -/
def iterate : Value → Except Failure (List Value)
  | .list xs | .tuple xs | .array _ xs => .ok xs
  | .text s => .ok (s.toList.map fun c => .text (String.singleton c))
  | .dict ks _ => .ok (ks.map .text)
  | .bytes bs => .ok (bs.map fun b => .int (Int.ofNat b))
  | v => .error (.notIterable v.className)

end Value

namespace VectorType

/-- Whether a level counts as missing. A list in place of a level is looked into, and has to have
exactly one element for that. -/
def levelIsMissing : Value → Except Failure Bool
  | .list [x] | .array _ [x] => .ok x.isMissing
  | .list xs | .array _ xs => .error (.ambiguousTruth xs.isEmpty)
  | v => .ok v.isMissing

/-- Whether one of some levels is missing, looking no further than the first that is. -/
def anyMissing : List Value → Except Failure Bool
  | [] => .ok false
  | v :: vs => do if ← levelIsMissing v then return true else anyMissing vs

/-- The levels that occur more than once, each by its displayed form, in order. -/
def repeatedNames (levels : List Value) : List String :=
  let names := (levels.filter fun v => 1 < levels.countP fun w => w.same v).map Value.display
  names.eraseDups.mergeSort (· ≤ ·)

/-- The categorical type with given levels. -/
def ofLevels (levels : List Value) : Except Failure VectorType := do
  if ← anyMissing levels then throw .missingLevel
  match Value.unhashableIn? levels with
  | some c => throw (.unhashable c)
  | none => pure ()
  let names := repeatedNames levels
  if names.isEmpty then return .categorical levels else throw (.repeatedLevels names)

/-- The datetime type with a given zone. -/
def ofZone : Option ZoneSource → Except Failure VectorType
  | none => .ok (.datetime none)
  | some source =>
    match Zone.normalize source with
    | .ok z => .ok (.datetime (some z))
    | .error fault => .error (.badZone fault)

/-- Inserts a boundary in ascending order, unless an equal one is there. -/
def insertBoundary (b : Double) : List Double → List Double
  | [] => [b]
  | c :: cs => if b.less c then b :: c :: cs else if b.same c then c :: cs else c :: insertBoundary b cs

/-- The binned type with given boundaries. -/
def ofBoundaries (boundaries : List Double) : VectorType :=
  .binned (boundaries.foldl (fun bs b => insertBoundary b bs) [])

/-- The binned type with boundaries given as values. -/
def ofBoundaryValues (values : List Value) : Except Failure VectorType := do
  return ofBoundaries (← values.mapM Value.toDouble)

end VectorType

end Coercion
