import Coercion.Column.Number

/-!
Columns of texts. Every value has a displayed form, so every column can be turned into texts. The clock readings of a
column are shown alike: as days if all of them are midnights, and otherwise with as many digits as the finest of them
needs.
-/

namespace Coercion

namespace Column

/-- The digits below a second that a reading needs: none, three, six or nine. -/
def fractionDigits (r : Reading) : Nat :=
  let n := Reading.nanos r
  if n = 0 then 0 else if n % 1000000 = 0 then 3 else if n % 1000 = 0 then 6 else 9

/-- A reading with a given number of digits below a second. -/
def renderReading (digits : Nat) (r : Reading) : String :=
  (CivilDate.ofDay (Reading.day r)).renderWith 4 ++ " " ++ Reading.timeText r ++
    (if digits = 0 then ""
    else "." ++ paddedNat digits (Reading.nanos r / Nat.pow 10 (9 - digits)))

/-- The readings in a column. -/
def readings (c : Column) : List Reading :=
  c.values.filterMap fun
    | .instant t none => some t
    | _ => none

/-- Clock readings without a zone as texts. -/
def readingTexts (c : Column) : List Value :=
  let onlyDays := c.readings.all fun r => Reading.timeOfDay r = 0
  let digits := (c.readings.map fractionDigits).foldl max 0
  c.values.map fun
    | .instant r none =>
      .text (if onlyDays then (CivilDate.ofDay (Reading.day r)).renderWith 4
        else renderReading digits r)
    | v => if v.isMissing then .notAvailable else .text v.display

/-- The text of a value in storage. -/
def textOf : Value → String
  | .bytes bs => Value.decoded bs
  | v => v.display

/-- The column as one of texts. -/
def toText (c : Column) : Column :=
  let c := c.decategorized
  match c.dtype with
  | .instants _ none => ⟨.string, c.readingTexts⟩
  | _ => ⟨.string, c.values.map fun v => if v.isMissing then .notAvailable else .text (textOf v)⟩

end Column

end Coercion
