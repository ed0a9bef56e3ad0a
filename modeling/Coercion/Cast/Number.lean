import Coercion.Cast.Basic
import Coercion.VectorType.Field

/-!
Casts between truth values, integers and floating-point numbers. A value that the target has no equal for is flagged;
what becomes of it depends on the target: any number but zero is true, a fraction is cut off, and what is out of
range becomes missing. Each caster finds those values in its own way, by the bounds of the target where it has any.
-/

namespace Coercion

namespace Caster

/-- A caster that does no casts on its way. -/
def plain (name : String) (f : TypedVector → VectorType → Except Failure CasterOutput) : Caster :=
  ⟨name, fun _ v target => f v target⟩

/-- Rebuilds the vector under the target. A value that becomes missing is flagged. -/
def reconstruct : Caster :=
  plain "reconstruct" fun v target => do
    let c ← target.construct v.column
    return .result ⟨target, c⟩ (droppedPositions v.values c.values)

/-- Refuses every cast. -/
def noCast : Caster :=
  plain "no_cast" fun v target => .error (.noCast v.type target none)

/-- Converts the storage, which preserves every value. -/
def converted (name : String) : Caster :=
  plain name fun v target => do
    return .exact ⟨target, ← v.column.convert target.storage⟩

def logicalToInteger : Caster := converted "logical_to_integer"

def logicalToDouble : Caster := converted "logical_to_double"

/-- The truth value of a number. -/
def truthOf (d : Dtype) (v : Value) : Value :=
  if v.isMissing then d.missing else .bool v.isNonzero

/-- Numbers as truth values; all but zero and one are flagged. -/
def toLogical (name : String) : Caster :=
  plain name fun v target => do
    let c : Column := ⟨target.storage, v.values.map (truthOf target.storage)⟩
    return .result ⟨target, c⟩
      (Column.positionsOf (v.values.map fun x => !x.isMissing && x.bit?.isNone))

def integerToLogical : Caster := toLogical "integer_to_logical"

def doubleToLogical : Caster := toLogical "double_to_logical"

/-- The bounds up to which a type has a value for every integer. A type without bounds has no field for the one that is
asked for. -/
def boundsOf (t : VectorType) (asked : String) : Except Failure (Int × Int) :=
  match t.bounds? with
  | some bounds => .ok bounds
  | none => .error (.noAttribute t.className asked)

/-- Whether an integer lies beyond some bounds. A missing one does not. -/
def isBeyond (bounds : Int × Int) : Value → Bool
  | .int n => bounds.2 < n || n < bounds.1
  | _ => false

/-- Whether an integer beyond some bounds is replaced by a number that is a different integer. Within the bounds there is
an equal number for every integer, and nothing is compared. -/
def isRounded (bounds : Int × Int) (old new : Value) : Except Failure Bool := do
  if isBeyond bounds old then return (← new.toInt) != (← old.toInt) else return false

/-- Integers as floating-point numbers; one that has to be rounded is flagged. -/
def integerToDouble : Caster :=
  plain "integer_to_double" fun v target => do
    let c ← v.column.convert target.storage
    let bounds ← boundsOf target "max"
    let flags ← (v.values.zip c.values).mapM fun p => isRounded bounds p.1 p.2
    return .result ⟨target, c⟩ (Column.positionsOf flags)

/-- Whether a floating-point number is an integer of the target once its fraction is cut off. The test is made before
that: the greatest of these integers is not a floating-point number, but the power of two behind it is one. -/
def hasRoom (least : Int) (x : Double) : Bool :=
  (Double.ofInt least).atMost x && x.less (Double.ofInt (Nat.pow 2 63)) && !x.isNan

/-- A floating-point number without its fraction, or zero if there is no room for it. -/
def wholePart (least : Int) (x : Double) : Double :=
  (if hasRoom least x then x else .zero).trunc

/-- A floating-point number in eight bytes: its integer part, or the least integer if that takes more. -/
def asInt64 (x : Double) : Int :=
  match x.truncate? with
  | some n => if fitsSigned 64 n then n else Column.leastInt
  | none => Column.leastInt

/-- A floating-point number as an integer, missing if there is no room for it. -/
def wholeValue (least : Int) : Value → Value
  | .double x => if hasRoom least x then .int (asInt64 (wholePart least x)) else .notAvailable
  | _ => .notAvailable

/-- Whether there is no room for a floating-point number, or it has a fraction. -/
def isCut (least : Int) : Value → Bool
  | .double x => !x.isNan && (!hasRoom least x || !(wholePart least x).same x)
  | _ => false

/-- Floating-point numbers as integers. -/
def doubleToInteger : Caster :=
  plain "double_to_integer" fun v target => do
    let numbers ← v.column.convert .float64
    let bounds ← boundsOf target "min"
    let c : Column := ⟨target.storage, numbers.values.map (wholeValue bounds.1)⟩
    return .result ⟨target, c⟩ (Column.positionsOf (numbers.values.map (isCut bounds.1)))

/-! ## Boundaries -/

/-- Whether a number lies outside the boundaries. Nothing lies inside if there are none. -/
def isOutside (boundaries : List Double) (x : Double) : Bool :=
  match boundaries.head?, boundaries.getLast? with
  | some low, some high => x.less low || high.less x
  | _, _ => true

/-- A number within boundaries, or a missing one. -/
def binnedValue (boundaries : List Double) : Value → Value
  | .double x => .double (if isOutside boundaries x then .nan else x)
  | v => v

/-- Numbers within boundaries; those outside become missing and are flagged. -/
def rebin : Caster :=
  plain "rebin" fun v target =>
    match target with
    | .binned boundaries => do
      let values ← v.column.convert .float64
      let c : Column := ⟨.float64, values.values.map (binnedValue boundaries)⟩
      return .result ⟨target, c⟩ (droppedPositions values.values c.values)
    | target => .error (.noAttribute target.className "boundaries")

/-- Numbers within boundaries as plain ones. -/
def binnedToDouble : Caster := converted "binned_to_double"

end Caster

end Coercion
