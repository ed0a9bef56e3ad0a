import Coercion.Text.Shortened
import Coercion.Value.Basic

/-!
Values as text. Every value has a quoted form, from which its kind can be seen, and a displayed form, which is
meant for readers; only the displayed form of a text is the text itself.
-/

namespace Coercion

namespace Element

/-- The name of a typed element. -/
def name : Element → String
  | .bool => "bool"
  | .int w => "int" ++ toString w
  | .uint w => "uint" ++ toString w
  | .float w => "float" ++ toString w
  | .complex => "complex128"
  | .text => "str"
  | .bytes => "bytes"
  | .moment unit => "datetime64[" ++ unit ++ "]"
  | .span unit => "timedelta64[" ++ unit ++ "]"
  | .object => "object"

/-- The binary format of a floating-point element. -/
def format : Element → BinaryFormat
  | .float 16 => .half
  | .float 32 => .single
  | _ => .double

end Element

namespace ZoneSource

/-- A length of time in seconds, as days and seconds. -/
def quotedSpan (seconds : Int) : String :=
  let days := seconds.fdiv 86400
  let rest := seconds.fmod 86400
  let parts := (if days = 0 then [] else ["days=" ++ toString days]) ++
    (if rest = 0 then [] else ["seconds=" ++ toString rest])
  "datetime.timedelta(" ++ (if parts.isEmpty then "0" else ", ".intercalate parts) ++ ")"

/-- The quoted form of a zone as its caller gave it. -/
def quotedText : ZoneSource → String
  | .text s => Text.quoted s
  | .entry name => "<StaticTzInfo " ++ Text.quoted name ++ ">"
  | .keyed key => "zoneinfo.ZoneInfo(key=" ++ Text.quoted key ++ ")"
  | .universal => "datetime.timezone.utc"
  | .offset s => "datetime.timezone(" ++ quotedSpan s ++ ")"
  | .labelled name s => "datetime.timezone(" ++ quotedSpan s ++ ", " ++ Text.quoted name ++ ")"
  | .minutes m => "pytz.FixedOffset(" ++ toString m ++ ")"
  | .unplaced => "<oddzone>"
  | .invalid q => q

/-- The offset of a zone at a reading of its clock, in seconds. -/
def offsetAt (r : Reading) (z : ZoneSource) : Int :=
  (r - Value.instantOf r z) / nanosPerSecond

end ZoneSource

namespace Zone

/-- The offset of a zone at an instant, in seconds. -/
def secondsAt (t : Int) (z : Zone) : Int :=
  60 * z.rules.offsetAt t

/-- The reading of a zone's clock at an instant. -/
def readingAt (t : Int) (z : Zone) : Reading :=
  z.rules.reading t

end Zone

namespace Value

/-- Date and time of day as the arguments of a call; the last parts are left out if they are zero. -/
def momentArguments (r : Reading) : List String :=
  let d := CivilDate.ofDay (Reading.day r)
  let s := (Reading.timeOfDay r / nanosPerSecond).toNat
  let micros := Reading.nanos r / 1000
  [toString d.year, toString d.month, toString d.day, toString (s / 3600), toString (s / 60 % 60)] ++
    (if s % 60 = 0 ∧ micros = 0 then [] else [toString (s % 60)]) ++
    (if micros = 0 then [] else [toString micros])

/-- A fraction of two integers. -/
def fractionText (q : Rat) : String :=
  if q.den = 1 then toString q.num else toString q.num ++ "/" ++ toString q.den

/-- A complex number: the real part is left out if it is positive zero. -/
def complexText (re im : Double) : String :=
  let part (x : Double) : String := x.renderWith .double ""
  let signed := match im with
    | .finite true _ _ | .infinite true => part im
    | _ => "+" ++ part im
  match re with
  | .finite false 0 _ => part im ++ "j"
  | _ => "(" ++ part re ++ signed ++ "j)"

/-- A reading as a typed element shows it: days alone, or date and time. -/
def ticksText (r : Option Reading) (unit : String) : String :=
  match r with
  | none => "NaT"
  | some r =>
    if unit = "D" then (CivilDate.ofDay (Reading.day r)).renderWith 4
    else
      let base := (CivilDate.ofDay (Reading.day r)).renderWith 4 ++ "T" ++ Reading.timeText r
      if unit = "ns" then base ++ "." ++ paddedNat 9 (Reading.nanos r)
      else if unit = "us" then base ++ "." ++ paddedNat 6 (Reading.nanos r / 1000)
      else if unit = "ms" then base ++ "." ++ paddedNat 3 (Reading.nanos r / 1000000)
      else base

/-- The offset at an instant, with `mark` between hours and minutes. -/
def offsetMark (mark : String) (t : Int) : Option Zone → String
  | none => ""
  | some z => offsetText mark (z.secondsAt t)

/-- The reading that an instant is shown with, as far as eight bytes keep it. -/
def shownReading (t : Int) : Option Zone → Reading
  | none => t
  | some z => lowBytes (z.readingAt t)

/-- How many units of time a length of time from a typed array takes. -/
def unitsIn (unit : String) : Value → String
  | .int n => toString n
  | .span s => toString (s / (Element.secondsIn? unit).getD 1).floor
  | _ => "'NaT'"

/-- A length of time from a typed array in words. -/
def unitsText (unit : String) : Value → String
  | .notATime => "NaT"
  | v => v.unitsIn unit ++ " " ++ ((Element.timeUnits.lookup unit).map Prod.fst).getD "generic time units"

mutual

/-- The quoted form of a value. -/
def quoted : Value → String
  | .absent => "None"
  | .notAvailable => "<NA>"
  | .notATime => "NaT"
  | .bool b => if b then "True" else "False"
  | .int n => toString n
  | .double x => x.render
  | .text s => Text.quoted s
  | .list xs => "[" ++ ", ".intercalate (quotedAll xs) ++ "]"
  | .tuple [x] => "(" ++ quoted x ++ ",)"
  | .tuple xs => "(" ++ ", ".intercalate (quotedAll xs) ++ ")"
  | .array element xs =>
    "array([" ++ ", ".intercalate (quotedAll xs) ++ "]" ++
      (match element with
        | .int 64 | .float 64 | .bool => ""
        | .object => ", dtype=object"
        | .text => ", dtype=" ++ Text.quoted ("<U" ++ toString (max 1 (widest xs)))
        | e => ", dtype=" ++ e.name) ++ ")"
  | .dict ks xs =>
    "\x7b" ++ ", ".intercalate (List.zipWith (fun k v => Text.quoted k ++ ": " ++ v) ks (quotedAll xs)) ++
      "\x7d"
  | .date day =>
    let d := CivilDate.ofDay day
    "datetime.date(" ++ toString d.year ++ ", " ++ toString d.month ++ ", " ++ toString d.day ++ ")"
  | .moment r zone =>
    "datetime.datetime(" ++ ", ".intercalate (momentArguments r) ++
      (match zone with
        | none => ""
        | some z => ", tzinfo=" ++ z.quotedText) ++ ")"
  | .instant t zone =>
    "Timestamp('" ++ Reading.render " " (shownReading t zone) ++ offsetMark "" t zone ++ "'" ++
      (match zone with
        | none => ""
        | some z => ", tz='" ++ z.storageText ++ "'") ++ ")"
  | .period day => "Period('" ++ (CivilDate.ofDay day).renderWith 1 ++ "', 'D')"
  | .ticks r unit => "np.datetime64('" ++ ticksText r unit ++ "')"
  | .span s => ZoneSource.quotedSpan s
  | .scalar .bool v => "np." ++ quoted v ++ "_"
  | .scalar .text v => "np.str_(" ++ quoted v ++ ")"
  | .scalar (.float w) (.double x) =>
    "np.float" ++ toString w ++ "(" ++
      ((x.within (Element.float w).format).renderWith (Element.float w).format ".0") ++ ")"
  | .scalar (.span unit) v =>
    "np.timedelta64(" ++ unitsIn unit v ++ (if unit = "generic" then "" else ",'" ++ unit ++ "'") ++ ")"
  | .scalar e v => "np." ++ e.name ++ "(" ++ quoted v ++ ")"
  | .bytes bs => Text.quotedBytes bs
  | .decimal d => "Decimal('" ++ d.text ++ "')"
  | .fraction q => "Fraction(" ++ toString q.num ++ ", " ++ toString q.den ++ ")"
  | .complex re im => complexText re im
  | .offset m => "pytz.FixedOffset(" ++ toString m ++ ")"
  | .alien => "<opaque>"

/-- The quoted forms of the values of a list. -/
def quotedAll : List Value → List String
  | [] => []
  | x :: xs => quoted x :: quotedAll xs

/-- The length of the longest text in a list. -/
def widest : List Value → Nat
  | [] => 0
  | .text s :: xs => max s.length (widest xs)
  | _ :: xs => widest xs

end

/-- The displayed form of a value. -/
def display : Value → String
  | .text s => s
  | .scalar _ (.text s) => s
  | .scalar (.float w) (.double x) =>
    (x.within (Element.float w).format).renderWith (Element.float w).format ".0"
  | .scalar (.span unit) v => v.unitsText unit
  | .scalar _ v => v.quoted
  | .date day => (CivilDate.ofDay day).renderWith 4
  | .moment r zone =>
    Reading.render " " r ++
      (match zone with
        | none => ""
        | some z => offsetText ":" (z.offsetAt r))
  | .instant t zone => Reading.render " " (shownReading t zone) ++ offsetMark ":" t zone
  | .period day => (CivilDate.ofDay day).renderWith 1
  | .ticks r unit => ticksText r unit
  | .span s => spanText (s * 1000000)
  | .decimal d => d.text
  | .fraction q => fractionText q
  | .array _ xs => "[" ++ " ".intercalate (quotedAll xs) ++ "]"
  | v => v.quoted

/-- A list of values in a message. -/
def shortenList (xs : List Value) (max : Int) : String :=
  Text.shorten display quoted xs max

/-- A list of texts in a message. -/
def shortenTexts (xs : List String) : String :=
  Text.shorten id Text.quoted xs 5

end Value

end Coercion
