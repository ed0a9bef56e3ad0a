import Coercion.Cast.Level

/-!
Casts between dates and datetimes. A date becomes the midnight at which it begins on the target's clock. A midnight that
the clock shows twice is missing, and one that it skips moves forward; both are flagged. A datetime becomes the
date on its clock, and is flagged unless it is a midnight. The casters ask the clocks that they are given both for what
is shown at an instant and for the place of a midnight.
-/

namespace Coercion

namespace ZoneRules

/-- The instant that stands for a reading: the one at which the clock shows it, a later one if it shows it at
none, and no instant if it shows it twice. -/
def place? (z : ZoneRules) (r : Reading) : Option Int :=
  match z.instants r with
  | [] => some (z.shiftForward r)
  | [t] => some t
  | _ => none

end ZoneRules

/-- The clocks of all zones: the rules by which they run, and the instants at which readings are placed on them. -/
structure Clocks where
  rules : Zone → ZoneRules
  place? : Zone → Reading → Option Int

namespace Clocks

/-- The clocks of the database. -/
def standard : Clocks := ⟨Zone.rules, fun zone => zone.rules.place?⟩

/-- The reading that the clock of a zone shows at an instant. -/
def shown (k : Clocks) (t : Int) : Option Zone → Reading
  | none => t
  | some zone => (k.rules zone).reading t

end Clocks

namespace Caster

/-- Instants in another zone, or their readings in universal time. -/
def datetimeToDatetime : Caster :=
  plain "datetime_to_datetime" fun v target =>
    match target with
    | .datetime zone => do
      return .exact ⟨target, ← (← v.column.localize zone).convert target.storage⟩
    | target => .error (.noAttribute target.className "tz")

/-- The midnight of a date, or an error if it has no place in eight bytes. -/
def midnight (v : Value) : Except Failure Value :=
  match v with
  | .period day =>
    if Reading.inRange (Reading.ofDay day) then .ok (.instant (Reading.ofDay day) none)
    else .error (.refused .outOfBounds)
  | _ => .ok .notATime

/-- A midnight on the clock of a zone, at the place that it has there. -/
def placedMidnight (zone : Zone) (place? : Reading → Option Int) : Value → Value
  | .instant r none =>
    match place? r with
    | some t => .stamp t (some zone)
    | none => .notATime
  | v => v

/-- Whether a clock shows another reading than the one that was asked for. -/
def isMisplaced (k : Clocks) (asked placed : Value) : Bool :=
  match asked, placed.offClock k.rules with
  | .instant r none, .instant s none => s ≠ r
  | .instant _ none, _ => true
  | _, _ => false

/-- Dates as midnights on the given clocks. -/
def dateToDatetimeOn (k : Clocks) : Caster :=
  plain "date_to_datetime" fun v target =>
    match target with
    | .datetime zone => do
      let midnights ← v.values.mapM midnight
      match zone with
      | none => return .exact ⟨target, ⟨target.storage, midnights⟩⟩
      | some z =>
        let placed := midnights.map (placedMidnight z (k.place? z))
        return .result ⟨target, ⟨target.storage, placed⟩⟩
          (Column.positionsOf ((midnights.zip placed).map fun (r, t) => isMisplaced k r t))
    | target => .error (.noAttribute target.className "tz")

/-- Dates as midnights. -/
def dateToDatetime : Caster := dateToDatetimeOn .standard

/-- The reading of a datetime on its own clock. -/
def readingOf? (k : Clocks) (v : Value) : Option Reading :=
  match v.offClock k.rules with
  | .instant r _ => some r
  | _ => none

/-- Datetimes as dates, by the given clocks. -/
def datetimeToDateOn (k : Clocks) : Caster :=
  plain "datetime_to_date" fun v target =>
    let readings := v.values.map (readingOf? k)
    let c : Column := ⟨target.storage, readings.map fun
      | some r => .period (Reading.day r)
      | none => .notATime⟩
    .ok (.result ⟨target, c⟩ (Column.positionsOf (readings.map fun r =>
      r.any fun r => Reading.timeOfDay r ≠ 0)))

/-- Datetimes as dates. -/
def datetimeToDate : Caster := datetimeToDateOn .standard

end Caster

end Coercion
