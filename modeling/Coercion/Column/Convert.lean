import Coercion.Column.Moment

/-!
Columns in other storage formats. `convert` turns a whole column into another format, and `stored` makes a column of
a format out of single values.
-/

namespace Coercion

namespace Column

/-- The column as one of spans of the calendar, each known by a day in it. A number is none. -/
def toSpans (frequency : String) (c : Column) : Except Failure Column :=
  c.mapPresent (.period frequency) fun v => if v.isInt then refuse .typeError else v.toDay

/-- The midnights at which the days of a column begin, on the clock of a zone. -/
def toMidnights (zone : Option Zone) (c : Column) : Except Failure Column :=
  c.mapPresent (.instants "ns" zone) fun
    | .period day =>
      if Reading.inRange (Reading.ofDay day) then Value.stampReading (Reading.ofDay day) zone
      else refuse .outOfBounds
    | v => .ok v

/-- The column in another format. -/
def convert (target : Dtype) (c : Column) : Except Failure Column :=
  if c.dtype.same target then .ok c
  else
    match target with
    | .object => .ok c.opened
    | .nullable .bool => c.toBoolean
    | .nullable (.int 64) => c.toInt64
    | .nullable (.int w) => c.toNarrowInt target (fitsSigned w)
    | .nullable (.uint w) => c.toNarrowInt target (fitsUnsigned w)
    | .nullable (.float w) => c.toNullableFloat w
    | .nullable _ => refuse .typeError
    | .string => .ok c.toText
    | .category levels => c.toLevels (levels.getD c.ownLevels)
    | .period frequency => c.toSpans frequency
    | .instants _ zone =>
      match c.dtype with
      | .instants _ current =>
        if current.isSome == zone.isSome then do return ⟨target, (← c.localize zone).values⟩
        else refuse .typeError
      | .period _ => c.toMidnights zone
      | _ => c.toInstants zone
    | .typed .bool => c.mapPresent target fun v => .ok (.bool v.isNonzero)
    | .typed (.int w) => c.toPlainInt target (fitsSigned w)
    | .typed (.uint w) => c.toPlainInt target (fitsUnsigned w)
    | .typed (.float w) => c.toFloat w
    | .typed .text => .ok ⟨target, c.values.map fun v => .text (textOf v)⟩
    | .typed _ => .ok ⟨target, c.values⟩

/-- A clock reading without a zone, taken as one of the zone's own clock. -/
def placed (zone : Zone) : Value → Value
  | .moment r none => .moment r (some zone.source)
  | .instant r none => .moment r (some zone.source)
  | v => v

/-- The column of a format that holds some values. Plain integers are not made out of fractions, and texts are held
open beside missing values. -/
def stored (d : Dtype) (values : List Value) : Except Failure Column :=
  let c := (ofValues values).marked
  match d with
  | .object => .ok (ofValues values)
  | .typed .text => .ok (ofValues (values.map fun v => if v.isMissing then v else .text (textOf v)))
  | .typed (.int _) | .typed (.uint _) =>
    if values.any fun v => v.isDouble && !v.isMissing && (v.toInt.toOption.all fun n => !(Value.int n).same v) then
      refuse .valueError
    else c.convert d
  | .category none => c.convert (.category (some c.ownLevels))
  | .instants unit (some zone) => do
    let c ← (ofValues (values.map (placed zone))).toInstants (some zone)
    return ⟨.instants unit (some zone), c.values⟩
  | .instants unit none => do
    let c ← c.toInstants none
    return ⟨.instants unit none, c.values⟩
  | d => c.convert d

end Column

end Coercion
