import Coercion.Column.Level

/-!
Columns of days and of instants. A day is read off the date of a value, on the clock that the value carries. An instant
is found from the value's own zone, and a clock reading without a zone is taken as one of universal time. The values
of an open column either all have the same zone or none at all, and if the first of them is a text then its format
is the format of all.
-/

namespace Coercion

/-- What tells one zone object from another, beyond the zone that it stands for: two zones of the same
provenance are the same if they have the same name, or the same offset. -/
inductive Provenance where
  | universal
  | named (name : String)
  | keyed (key : String)
  | shifted (seconds : Int)
  | counted (minutes : Int)
  | unplaced
  deriving DecidableEq

namespace Provenance

/-- The provenance of a zone in normal form. -/
def ofZone : Zone → Provenance
  | .named name => if name = "UTC" then .universal else .named name
  | .fixed m => .shifted (60 * m)

/-- The provenance of a zone as its caller gave it. -/
def ofSource : ZoneSource → Provenance
  | .text s =>
    match Zone.ofText s with
    | .ok (.fixed m) => .counted m
    | .ok z => ofZone z
    | .error _ => .unplaced
  | .entry name => ofZone (.named name)
  | .keyed key => if key = "UTC" then .universal else .keyed key
  | .universal => .universal
  | .offset s => if s = 0 then .universal else .shifted s
  | .labelled _ s => .shifted s
  | .minutes m => if m = 0 then .universal else .counted m
  | .unplaced | .invalid _ => .unplaced

end Provenance

/-- An instant as it was read, with the provenance of its zone if it has one. -/
structure ReadInstant where
  instant : Int
  provenance : Option Provenance

namespace Value

/-- Whether a text stands for a missing date or time. -/
def isNullText (s : String) : Bool :=
  s.isEmpty || ["NaT", "nat", "NAT", "nan", "NaN", "NAN"].contains s

/-- The shape of a text: digits are all alike, and so are fractions of a second. -/
def shape (s : String) : String :=
  let parts := s.splitOn "."
  (parts.headD "").map (fun c => if c.isDigit then '0' else c) ++ (if parts.length = 1 then "" else ".")

/-- The day of a value. An integer of four digits is a year, which stands for its first day. -/
def toDay : Value → Except Failure Value
  | .period day => .ok (.period day)
  | .date day => .ok (.period day)
  | .moment r _ => .ok (.period (Reading.day r))
  | .instant t zone => .ok (.period (Reading.day (shownReading t zone)))
  | .ticks (some r) _ => .ok (.period (Reading.day r))
  | v =>
    match v.text? with
    | some s =>
      if isNullText s then .ok .notATime
      else
        match readMoment s with
        | some r => .ok (.period (Reading.day r))
        | none => .error (.refused .unreadableDate)
    | none =>
      match v.plain with
      | .int n =>
        if 1000 ≤ n ∧ n ≤ 9999 then .ok (.period (CivilDate.toDay ⟨n, 1, 1⟩))
        else .error (.refused .unreadableDate)
      | _ => .error (.refused .valueError)

/-- The instant at which a zone's clock shows a reading; it has to show it once. -/
def onlyInstant (r : Reading) (z : Zone) : Except Failure Int :=
  match z.rules.instants r with
  | [t] => .ok t
  | [] => .error (.refused .nonExistentTime)
  | _ => .error (.refused .ambiguousTime)

/-- The instant that a reading refers to in a zone, if there is one. -/
def ofReading (r : Reading) : Option Zone → Except Failure Value
  | none => .ok (.instant r none)
  | some z => do return .instant (← onlyInstant r z) (some z)

/-- A number of nanoseconds in a column of eight bytes each. -/
def stamp (n : Int) (zone : Option Zone) : Value :=
  match Reading.stored? n with
  | some t => .instant t zone
  | none => .notATime

/-- A reading in a column whose zone is known, if there is one. -/
def stampReading (r : Reading) : Option Zone → Except Failure Value
  | none => .ok (.instant r none)
  | some z => do return stamp (← onlyInstant r z) (some z)

/-- The reading that the clock of an instant shows, in a column without a zone. -/
def offClock (rules : Zone → ZoneRules) : Value → Value
  | .instant t (some z) => stamp ((rules z).reading t) none
  | v => v

/-- A value that was read as an instant, on the clock of a zone. -/
def ofRead (zone : Option Zone) : Option ReadInstant → Value
  | some r => .instant r.instant zone
  | none => .notATime

/-- A number of nanoseconds as an instant. An infinite number is one that no storage holds. -/
def countedInstant (v : Value) : Option ReadInstant :=
  match v.plain with
  | .int n => some ⟨n, none⟩
  | .double x => some ⟨x.truncate?.getD (Nat.pow 2 63 : Int), none⟩
  | _ => none

/-- A value with a date as an instant. -/
def datedInstant : Value → Option ReadInstant
  | .date day => some ⟨Reading.ofDay day, none⟩
  | .moment r zone => some ⟨(match zone with | none => r | some z => instantOf r z), zone.map .ofSource⟩
  | .instant t zone => some ⟨t, zone.map .ofZone⟩
  | .ticks (some r) _ => some ⟨r, none⟩
  | _ => none

end Value

namespace Column

/-- The column as one of days. -/
def toDays (c : Column) : Except Failure Column :=
  if c.dtype.same .days then .ok c else c.mapPresent .days Value.toDay

/-- The text that fixes the format of a column: its first present value, if that is a text. -/
def leadingText (c : Column) : Option String :=
  let isNull : Value → Bool
    | .text s => Value.isNullText s
    | v => v.isMissing
  match c.values.dropWhile isNull with
  | .text s :: _ => if (readMoment s).isSome then some s else none
  | _ => none

/-- Reads a value of an open column as an instant, or as a missing one. -/
def readInstant (lead : Option String) (v : Value) : Except Failure (Option ReadInstant) :=
  if v.isMissing then .ok none
  else
    match v.text? with
    | some s =>
      if Value.isNullText s then .ok none
      else
        match readMoment s, lead with
        | some r, none => .ok (some ⟨r, none⟩)
        | some r, some l =>
          if Value.shape s = Value.shape l then .ok (some ⟨r, none⟩) else refuse .valueError
        | none, none => refuse .unreadableDate
        | none, some _ => refuse .valueError
    | none =>
      match v.datedInstant, v.countedInstant, lead with
      | some r, _, _ => .ok (some r)
      | none, some r, none => .ok (some r)
      | none, none, none => refuse .typeError
      | none, _, some _ => refuse .valueError

/-- Reads the values of an open column as instants, one after the other. All of them have to have the
same zone, or none. -/
def readInstants (lead : Option String) :
    Option (Option Provenance) → List Value → Except Failure (List (Option ReadInstant))
  | _, [] => .ok []
  | seen, v :: vs => do
    let read ← readInstant lead v
    match read with
    | none => return none :: (← readInstants lead seen vs)
    | some r =>
      if seen.any fun p => p ≠ r.provenance then refuse .valueError
      else if !Reading.inRange r.instant then refuse .outOfBounds
      else return some r :: (← readInstants lead (some r.provenance) vs)

/-- Reads a column value by value, if its format allows for it. -/
def readMoments (c : Column) : Except Failure (List (Option ReadInstant)) :=
  match c.dtype with
  | .period _ | .nullable .bool | .typed .bool | .typed (.span _) | .typed .complex => refuse .typeError
  | _ => readInstants c.leadingText none c.values

/-- The column as one of instants, if its values have a zone, and else as one of readings. The instants are the same on
all clocks, so that of universal time stands for the one that they were read on. -/
def toMoments (c : Column) : Except Failure Column := do
  let read ← c.readMoments
  let zone := if read.any (Option.any fun r => r.provenance.isSome) then some Zone.utc else none
  return ⟨.instants "ns" zone, read.map (Value.ofRead zone)⟩

/-! ### From clock to clock -/

/-- The readings of a column without a zone as those of a zone's clock, which has to show each of them once. -/
def toClock (zone : Zone) (c : Column) : Except Failure Column :=
  match c.dtype with
  | .instants unit none =>
    c.mapPresent (.instants unit (some zone)) fun
      | .instant r _ => Value.stampReading r (some zone)
      | v => .ok v
  | .instants _ (some _) => refuse .typeError
  | _ => refuse .attributeError

/-- The instants of a column with a zone on the clock of another one. -/
def otherClock (zone : Zone) (c : Column) : Except Failure Column :=
  match c.dtype with
  | .instants unit (some _) =>
    .ok ⟨.instants unit (some zone), c.values.map fun
      | .instant t _ => .instant t (some zone)
      | v => v⟩
  | .instants _ none => refuse .typeError
  | _ => refuse .attributeError

/-- The readings that the clock of a column shows, without its zone. -/
def offClock (c : Column) : Except Failure Column :=
  match c.dtype with
  | .instants unit (some _) => .ok ⟨.instants unit none, c.values.map (Value.offClock Zone.rules)⟩
  | .instants _ none => .ok c
  | _ => refuse .attributeError

/-- The instants of a column in another zone, or in none. Readings without a zone are those of universal time. -/
def localize (zone : Option Zone) (c : Column) : Except Failure Column :=
  match c.dtype, zone with
  | .instants _ none, none => .ok c
  | .instants _ none, some z => do (← c.toClock .utc).otherClock z
  | .instants _ (some _), none => do (← c.otherClock .utc).offClock
  | .instants _ (some _), some z => c.otherClock z
  | _, _ => refuse .attributeError

/-- The column as one of instants in a zone, or as one of readings of universal time. -/
def toInstants (zone : Option Zone) (c : Column) : Except Failure Column := do
  (← c.toMoments).localize zone

/-- The instants of a column in a zone as its caller gave it, with the name of their format under the caller's name for
the zone. -/
def localized (source : Option ZoneSource) (c : Column) : Except Failure (String × Column) :=
  match c.dtype, source.map Zone.normalize with
  | .instants _ _, some (.error _) => refuse .unknownZoneName
  | .instants unit _, zone => do
    return (Dtype.instantsName unit (source.map ZoneSource.label), ← c.localize (zone.bind Except.toOption))
  | _, _ => refuse .attributeError

end Column

end Coercion
