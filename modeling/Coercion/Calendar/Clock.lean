import Coercion.Calendar.Day

/-!
Clock readings. A reading is the number of nanoseconds from the start of 1970 to a date and time of day on one
and the same clock, leap seconds not counted.
-/

namespace Coercion

/-- The integer that eight bytes keep of one of any size: the one with the same low bytes. -/
def lowBytes (n : Int) : Int :=
  Int.bmod n (Nat.pow 2 64)

/-- Nanoseconds of a second, an hour and a day. -/
def nanosPerSecond : Int := 1000000000
def nanosPerHour : Int := 3600 * nanosPerSecond
def nanosPerDay : Int := 86400 * nanosPerSecond

/-- A reading of a clock, in nanoseconds. -/
abbrev Reading := Int

namespace Reading

/-- Midnight at the start of a day. -/
def ofDay (day : Int) : Reading :=
  day * nanosPerDay

/-- The day that a reading falls on. -/
def day (r : Reading) : Int :=
  r.fdiv nanosPerDay

/-- The time since midnight. -/
def timeOfDay (r : Reading) : Int :=
  r.fmod nanosPerDay

/-- Hours, minutes and seconds of a reading. -/
def timeText (r : Reading) : String :=
  let s := (timeOfDay r / nanosPerSecond).toNat
  paddedNat 2 (s / 3600) ++ ":" ++ paddedNat 2 (s / 60 % 60) ++ ":" ++ paddedNat 2 (s % 60)

/-- The part below a second, in nanoseconds. -/
def nanos (r : Reading) : Nat :=
  (timeOfDay r % nanosPerSecond).toNat

/-- A fraction of a second with the fewest of six and nine digits that show it, or nothing. -/
def fractionText (r : Reading) : String :=
  let n := nanos r
  if n = 0 then ""
  else if n % 1000 = 0 then "." ++ paddedNat 6 (n / 1000)
  else "." ++ paddedNat 9 n

/-- Date and time with `separator` between them, and a fraction if there is one. -/
def render (separator : String) (r : Reading) : String :=
  (CivilDate.ofDay (day r)).renderWith 4 ++ separator ++ timeText r ++ fractionText r

/-- Date and time with all nine digits of the fraction. -/
def renderFull (r : Reading) : String :=
  (CivilDate.ofDay (day r)).renderWith 4 ++ "T" ++ timeText r ++ "." ++ paddedNat 9 (nanos r)

/-- The readings that eight bytes can hold; the least number of eight bytes is the missing one. -/
def inRange (r : Int) : Bool :=
  -9223372036854775808 < r && r ≤ 9223372036854775807

/-- What eight bytes hold of a number of nanoseconds, if that is not the missing one. Beyond the last of them the numbers
start over from the first. -/
def stored? (r : Int) : Option Int :=
  if inRange (lowBytes r) then some (lowBytes r) else none

end Reading

/-- An offset from universal time in hours and minutes, with `mark` between them; seconds follow if
there are any. -/
def offsetText (mark : String) (seconds : Int) : String :=
  let n := seconds.natAbs
  (if seconds < 0 then "-" else "+") ++ paddedNat 2 (n / 3600) ++ mark ++
    paddedNat 2 (n / 60 % 60) ++ (if n % 60 = 0 then "" else mark ++ paddedNat 2 (n % 60))

/-- A span of time as days, hours, minutes and seconds, with a fraction if there is one; the days are
the only part with a sign. -/
def spanText (micros : Int) : String :=
  let perDay : Int := 86400000000
  let days := micros.fdiv perDay
  let rest := (micros.fmod perDay).toNat
  let s := rest / 1000000
  let dayPart :=
    if days = 0 then ""
    else toString days ++ (if days.natAbs = 1 then " day, " else " days, ")
  dayPart ++ toString (s / 3600) ++ ":" ++ paddedNat 2 (s / 60 % 60) ++ ":" ++ paddedNat 2 (s % 60) ++
    (if rest % 1000000 = 0 then "" else "." ++ paddedNat 6 (rest % 1000000))

/-! ## Reading -/

/-- Reads a number with exactly `width` digits and gives what follows. -/
def takeDigits (width : Nat) (cs : List Char) : Option (Nat × List Char) :=
  let digits := cs.take width
  if digits.length = width ∧ digits.all Char.isDigit then
    some (digits.foldl (fun n c => 10 * n + (c.toNat - 48)) 0, cs.drop width)
  else none

/-- Reads one given character and gives what follows. -/
def takeChar (c : Char) : List Char → Option (List Char)
  | d :: rest => if d = c then some rest else none
  | [] => none

/-- Reads a date of four, two and two digits; month and day may be left out from the end. -/
def takeDate (cs : List Char) : Option (CivilDate × List Char) := do
  let (year, cs) ← takeDigits 4 cs
  match takeChar '-' cs with
  | none => return (⟨year, 1, 1⟩, cs)
  | some cs =>
    let (month, cs) ← takeDigits 2 cs
    match takeChar '-' cs with
    | none => return (⟨year, month, 1⟩, cs)
    | some cs =>
      let (day, cs) ← takeDigits 2 cs
      return (⟨year, month, day⟩, cs)

/-- Reads a time of day, as nanoseconds. -/
def takeTime (cs : List Char) : Option (Int × List Char) := do
  let (h, cs) ← takeDigits 2 cs
  let cs ← takeChar ':' cs
  let (m, cs) ← takeDigits 2 cs
  let (s, cs) ←
    match takeChar ':' cs with
    | some cs => takeDigits 2 cs
    | none => some (0, cs)
  if h < 24 ∧ m < 60 ∧ s < 60 then
    let whole : Int := ((h * 60 + m) * 60 + s : Nat) * nanosPerSecond
    match takeChar '.' cs with
    | none => return (whole, cs)
    | some cs =>
      let digits := cs.takeWhile Char.isDigit
      if digits.isEmpty ∨ 9 < digits.length then none
      else
        let n := digits.foldl (fun n c => 10 * n + (c.toNat - 48)) 0
        return (whole + (n * Nat.pow 10 (9 - digits.length) : Nat), cs.drop digits.length)
  else none

/-- Reads a date with an optional time of day, separated by a blank or by `T`. -/
def readMoment (s : String) : Option Reading := do
  let (d, rest) ← takeDate s.toList
  if d.isValid then
    match rest with
    | [] => return Reading.ofDay d.toDay
    | c :: rest =>
      if c = ' ' ∨ c = 'T' then
        let (time, rest) ← takeTime rest
        if rest.isEmpty then some (Reading.ofDay d.toDay + time) else none
      else none
  else none

end Coercion
