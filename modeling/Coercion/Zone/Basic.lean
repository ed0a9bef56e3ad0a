import Coercion.Calendar.Clock
import Coercion.Text.Digit
import Coercion.Text.Quoted
import Coercion.Zone.Table

/-!
Time zones in normal form, and the ways in which a caller may name one. A zone is either a name of the database or a
fixed offset; a fixed offset of a whole number of hours within the range of the database has a name
there, so the other form is left for the rest.
-/

namespace Coercion

/-- A time zone in normal form. -/
inductive Zone where
  | named (name : String)
  | fixed (minutes : Int)
  deriving DecidableEq, Inhabited

/-- What a caller may give as a time zone. -/
inductive ZoneSource where
  /-- A name, or an offset such as `+05:30`. -/
  | text (s : String)
  /-- A zone of the database. -/
  | entry (name : String)
  /-- A zone with a key of its own, which is taken as it is. -/
  | keyed (key : String)
  /-- Universal time. -/
  | universal
  /-- A fixed offset in seconds. -/
  | offset (seconds : Int)
  /-- A fixed offset in seconds that carries a name. -/
  | labelled (name : String) (seconds : Int)
  /-- A fixed offset in minutes. -/
  | minutes (m : Int)
  /-- A zone with neither a name nor an offset. -/
  | unplaced
  /-- A value that is no zone, with its quoted form. -/
  | invalid (quoted : String)
  deriving DecidableEq, Inhabited

/-- Why a zone has no normal form. -/
inductive ZoneFault where
  | unknownName (name : String)
  | nameless
  | notAZone (quoted : String)
  | partialMinute (micros : Int)
  | tooFarOff
  deriving DecidableEq

namespace ZoneFault

/-- The wording of a fault, if it has one. -/
def message : ZoneFault → Option String
  | .unknownName name => some ("unknown time zone: " ++ Text.quoted name)
  | .nameless => some "time zone has no IANA name: <oddzone>"
  | .notAZone q => some ("invalid time zone: " ++ q)
  | .partialMinute micros =>
    some ("offset is not a whole number of minutes: " ++ spanText micros)
  | .tooFarOff => none

end ZoneFault

namespace Zone

/-- Universal time. -/
def utc : Zone := .named "UTC"

/-- All names of the database. -/
def names : List String :=
  table.map (·.1) ++ links.map (·.1)

/-- Whether the database has a zone of exactly this name. -/
def isName (name : String) : Bool :=
  names.contains name

/-- The zone at a number of minutes from universal time. -/
def ofMinutes (m : Int) : Except ZoneFault Zone :=
  if m = 0 then .ok utc
  else if m % 60 = 0 ∧ -12 ≤ m / 60 ∧ m / 60 ≤ 14 then
    let hours := m / 60
    -- the names count hours to the west
    .ok (.named ("Etc/GMT" ++ (if hours < 0 then "+" else "-") ++ toString hours.natAbs))
  else if 1440 ≤ m.natAbs then .error .tooFarOff
  else .ok (.fixed m)

/-- The zone at an offset from universal time. -/
def ofOffset (micros : Int) : Except ZoneFault Zone :=
  if micros % 60000000 ≠ 0 then .error (.partialMinute micros)
  else ofMinutes (micros / 60000000)

/-- Reads two digits of any script. -/
def takeTwo : List Char → Option (Nat × List Char)
  | a :: b :: rest => (Text.readDigits [a, b]).map (·, rest)
  | _ => none

/-- Reads an offset of hours and minutes as minutes: an optional `UTC`, a sign, two digits, an optional
colon and two digits. A line feed may follow. -/
def readOffset (s : String) : Option Int := do
  let cs := s.toList
  let cs := if cs.take 3 = ['U', 'T', 'C'] then cs.drop 3 else cs
  let (negative, cs) ←
    match cs with
    | '+' :: cs => some (false, cs)
    | '-' :: cs => some (true, cs)
    | _ => none
  let (h, cs) ← takeTwo cs
  let cs := match cs with
    | ':' :: cs => cs
    | cs => cs
  let (m, cs) ← takeTwo cs
  if cs = [] ∨ cs = ['\n'] then
    let total : Int := (60 * h + m : Nat)
    some (if negative then -total else total)
  else none

/-- Replaces every occurrence of a word by a sign, from the left on. The number counts the characters of
an occurrence that are still to be passed over. -/
def replaceWord (word : List Char) (sign : Char) : Nat → List Char → List Char
  | _, [] => []
  | n + 1, _ :: cs => replaceWord word sign n cs
  | 0, c :: cs =>
    if word.isPrefixOf (c :: cs) then sign :: replaceWord word sign (word.length - 1) cs
    else c :: replaceWord word sign 0 cs

/-- Replaces the spelled-out signs in a name by the signs. -/
def spellSigns (name : String) : String :=
  let plus := replaceWord ['_', 'p', 'l', 'u', 's', '_'] '+' 0 name.toList
  String.ofList (replaceWord ['_', 'm', 'i', 'n', 'u', 's', '_'] '-' 0 plus)

/-- The spelling that the database has for a name, whatever the case of its letters. -/
def findName (name : String) : Option String :=
  if name.toList.all (·.toNat < 128) then
    let key := (spellSigns name).map Char.toLower
    names.find? fun n => n.map Char.toLower == key
  else none

/-- The zone that a text stands for. -/
def ofText (s : String) : Except ZoneFault Zone :=
  if s.map Char.toUpper = "UTC" then .ok utc
  else match readOffset s with
    | some m => ofMinutes m
    | none =>
      match findName s with
      | some name => .ok (.named name)
      | none => .error (.unknownName s)

/-- The text of a fixed offset without a name of its own. -/
def offsetLabel (seconds : Int) : String :=
  if seconds = 0 then "UTC" else "UTC" ++ offsetText ":" seconds

/-- The normal form of a zone. A fixed offset with the name of a zone of the database is that zone. -/
def normalize : ZoneSource → Except ZoneFault Zone
  | .text s => ofText s
  | .entry name => .ok (.named name)
  | .keyed key => .ok (.named key)
  | .universal => .ok utc
  | .offset seconds => ofOffset (seconds * 1000000)
  | .labelled name seconds =>
    if isName name then .ok (.named name) else ofOffset (seconds * 1000000)
  | .minutes m => ofMinutes m
  | .unplaced => .error .nameless
  | .invalid q => .error (.notAZone q)

/-- The text of a zone, from which the zone can be read again. -/
def text : Zone → String
  | .named name => name
  | .fixed m => offsetText ":" (60 * m)

/-- The zone as it stands in the name of a storage format. -/
def storageText : Zone → String
  | .named name => name
  | .fixed m => "pytz.FixedOffset(" ++ toString m ++ ")"

/-- The zone as it stands in the description of a type. -/
def quotedText : Zone → String
  | .named name => Text.quoted name
  | .fixed m => "pytz.FixedOffset(" ++ toString m ++ ")"

/-- The zone as a caller would give it. -/
def source : Zone → ZoneSource
  | .named name => .entry name
  | .fixed m => .minutes m

end Zone

namespace ZoneSource

/-- The name under which a zone is known as its caller gave it. -/
def label : ZoneSource → String
  | .text s => ((Zone.readOffset s).map fun m => Zone.offsetLabel (60 * m)).getD ((Zone.findName s).getD s)
  | .entry name | .keyed name | .labelled name _ => name
  | .universal => Zone.offsetLabel 0
  | .offset seconds => Zone.offsetLabel seconds
  | .minutes m => if m = 0 then Zone.offsetLabel 0 else "pytz.FixedOffset(" ++ toString m ++ ")"
  | .unplaced => "<oddzone>"
  | .invalid q => q

end ZoneSource

end Coercion
