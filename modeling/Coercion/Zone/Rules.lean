import Coercion.Zone.Basic

/-!
Offsets from universal time. The rules of a zone are the offset that it starts with and a finite list of changes in
ascending order. Each instant has exactly one reading in a zone, while a reading belongs to no
instant if the clock was set forward over it, and to two if the clock was set back over it.
-/

namespace Coercion

/-- The offsets of a zone, in minutes. A change is the second, counted from 1970 in universal time,
from which the offset beside it is in force. -/
structure ZoneRules where
  initial : Int
  changes : List (Int × Int)
  deriving Inhabited

namespace ZoneRules

/-- Nanoseconds of an offset in minutes. -/
def nanosOf (minutes : Int) : Int :=
  minutes * 60 * nanosPerSecond

/-- The offset in force at an instant. -/
def offsetAt (z : ZoneRules) (instant : Int) : Int :=
  z.changes.foldl (fun o (t, next) => if t * nanosPerSecond ≤ instant then next else o) z.initial

/-- The reading of the zone's clock at an instant. -/
def reading (z : ZoneRules) (instant : Int) : Reading :=
  instant + nanosOf (z.offsetAt instant)

/-- All offsets of a zone, each once. -/
def offsets (z : ZoneRules) : List Int :=
  (z.initial :: z.changes.map (·.2)).eraseDups

/-- The instants at which the zone's clock shows a reading, the earliest first. -/
def instants (z : ZoneRules) (r : Reading) : List Int :=
  ((z.offsets.map fun o => r - nanosOf o).filter fun t => z.reading t == r).mergeSort (· ≤ ·)

/-- The offset of the zone from the first change after an instant onwards. -/
def offsetAfter (z : ZoneRules) (instant : Int) : Int :=
  match z.changes.find? fun (t, _) => instant < t * nanosPerSecond with
  | some (_, next) => next
  | none => z.offsetAt instant

/-- The offset before the first change at or after an instant. -/
def offsetBefore (z : ZoneRules) (instant : Int) : Int :=
  z.changes.foldl (fun o (t, next) => if t * nanosPerSecond < instant then next else o) z.initial

/-- The instant that stands in for a reading that the clock skipped: the next full hour of the clock. That number
taken as an instant, the offset in force there is the one to go by if it is not to the west of universal time, or the
zone started to the east of it; in the west the change is still to come, and the offset after it counts. -/
def shiftForward (z : ZoneRules) (r : Reading) : Int :=
  let full := r + (nanosPerHour - r.fmod nanosPerHour)
  let current := z.offsetAt full
  let offset := if 0 ≤ current ∨ 0 < z.initial then current else z.offsetAfter full
  full - nanosOf offset

end ZoneRules

namespace Zone

/-- Reads the changes of a row of the table, given the offsets that its letters number. -/
def readChanges (offsets : List Int) : Int → Int → List Char → List (Int × Int)
  | _, _, [] => []
  | last, acc, c :: rest =>
    if c.isUpper then
      let t := last + acc
      (t, offsets[c.toNat - 65]?.getD 0) :: readChanges offsets t 0 rest
    else
      let digit : Int := if c.isDigit then c.toNat - 48 else c.toNat - 87
      readChanges offsets last (36 * acc + digit) rest

/-- The rules of a row of the table. -/
def readRules (offsets changes : String) : ZoneRules :=
  let offsets := (offsets.toList.splitOn ' ').filterMap fun cs => (String.ofList cs).toInt?
  ⟨offsets.headD 0, readChanges offsets (-4000000000) 0 changes.toList⟩

/-- The name under which the table has a zone. -/
def tableName (name : String) : String :=
  match links.find? (·.1 == name) with
  | some (_, target) => target
  | none => name

/-- The rules of a zone. A name that the table does not have keeps universal time. -/
def rules : Zone → ZoneRules
  | .fixed m => ⟨m, []⟩
  | .named name =>
    let key := tableName name
    match table.find? (·.1 == key) with
    | some (_, offsets, changes) => readRules offsets changes
    | none => ⟨0, []⟩

end Zone

end Coercion
