import Coercion.WrittenDecimal
import Coercion.Zone.Rules

/-!
The values that a vector may hold, or may be asked to hold. Numbers are exact; a missing value has one of several
markers, which differ only in the storage that they come from.
-/

namespace Coercion

/-- What the elements of a typed array are. Widths are in bits. -/
inductive Element where
  | bool
  | int (width : Nat)
  | uint (width : Nat)
  | float (width : Nat)
  | complex
  | text
  | bytes
  | moment (unit : String)
  | span (unit : String)
  | object
  deriving DecidableEq, Inhabited

/-- The units of time that lengths of time are counted in: their names, and the seconds that one of them takes, which are
not fixed for years and months. -/
def Element.timeUnits : List (String × String × Option Rat) :=
  [("Y", "years", none), ("M", "months", none), ("W", "weeks", some 604800), ("D", "days", some 86400),
    ("h", "hours", some 3600), ("m", "minutes", some 60), ("s", "seconds", some 1),
    ("ms", "milliseconds", some (mkRat 1 (Nat.pow 10 3))), ("us", "microseconds", some (mkRat 1 (Nat.pow 10 6))),
    ("ns", "nanoseconds", some (mkRat 1 (Nat.pow 10 9))), ("ps", "picoseconds", some (mkRat 1 (Nat.pow 10 12))),
    ("fs", "femtoseconds", some (mkRat 1 (Nat.pow 10 15))), ("as", "attoseconds", some (mkRat 1 (Nat.pow 10 18)))]

/-- The seconds that a unit of time takes. -/
def Element.secondsIn? (unit : String) : Option Rat :=
  (timeUnits.lookup unit).bind Prod.snd

/-- A value. -/
inductive Value where
  /-- No value. -/
  | absent
  /-- A missing value of nullable storage. -/
  | notAvailable
  /-- A missing date or time. -/
  | notATime
  | bool (b : Bool)
  | int (n : Int)
  | double (x : Double)
  | text (s : String)
  | list (xs : List Value)
  | tuple (xs : List Value)
  | array (element : Element) (xs : List Value)
  | dict (keys : List String) (values : List Value)
  /-- A calendar day. -/
  | date (day : Int)
  /-- A clock reading, in a zone if it has one. -/
  | moment (reading : Reading) (zone : Option ZoneSource)
  /-- An instant with the zone that shows it, or a clock reading without a zone. -/
  | instant (t : Int) (zone : Option Zone)
  /-- A day as a span of time. -/
  | period (day : Int)
  /-- A clock reading in a given unit, or a missing one. -/
  | ticks (reading : Option Reading) (unit : String)
  /-- A length of time in seconds. -/
  | span (seconds : Int)
  /-- An element of a typed array on its own. -/
  | scalar (element : Element) (v : Value)
  | bytes (bs : List Nat)
  | decimal (d : WrittenDecimal)
  | fraction (value : Rat)
  | complex (re im : Double)
  /-- A fixed offset from universal time, in minutes. -/
  | offset (minutes : Int)
  /-- A value of no known kind. -/
  | alien
  deriving Inhabited

/-- The exact meaning of a number. -/
inductive Quantity where
  | nan
  | infinite (negative : Bool)
  | finite (q : Rat)
  deriving DecidableEq

namespace Double

/-- What a floating-point number means. -/
def quantity (x : Double) : Quantity :=
  match x with
  | .nan => .nan
  | .infinite s => .infinite s
  | .finite .. => .finite (x.toRat?.getD 0)

end Double

namespace WrittenDecimal

/-- What a decimal number means. -/
def quantity : WrittenDecimal → Quantity
  | .nan => .nan
  | .infinite negative => .infinite negative
  | .finite negative m e => .finite (ratioOf negative m e)

end WrittenDecimal

namespace Value

/-- The number that a value is, if it is one. -/
def quantity? : Value → Option Quantity
  | .bool b => some (.finite (if b then 1 else 0))
  | .int n => some (.finite n)
  | .double x => some x.quantity
  | .decimal d => some d.quantity
  | .fraction q => some (.finite q)
  | .complex re im => if im.same Double.zero then some re.quantity else none
  | .scalar _ (.bool b) => some (.finite (if b then 1 else 0))
  | .scalar _ (.int n) => some (.finite n)
  | .scalar _ (.double x) => some x.quantity
  | _ => none

/-- Whether a value stands for a missing one. Collections never do. -/
def isMissing : Value → Bool
  | .absent | .notAvailable | .notATime => true
  | .double x => x.isNan
  | .decimal d => d.isNan
  | .complex re im => re.isNan || im.isNan
  | .ticks r _ => r.isNone
  | .scalar _ v => v.isMissing
  | _ => false

/-- The text that a value is, if it is one. -/
def text? : Value → Option String
  | .text s => some s
  | .scalar _ (.text s) => some s
  | _ => none

/-- The instant that a reading in a zone refers to. Of two instants a zone with a key has the
earlier one and a zone of the database the later one; a skipped reading keeps the offset before. -/
def instantOf (r : Reading) (zone : ZoneSource) : Int :=
  let shown (rules : ZoneRules) (choose : List Int → Option Int) : Int :=
    match choose (rules.instants r) with
    | some t => t
    | none => r - ZoneRules.nanosOf (rules.offsetBefore (r - ZoneRules.nanosOf rules.initial))
  match zone with
  | .offset s | .labelled _ s => r - s * nanosPerSecond
  | .minutes m => r - m * 60 * nanosPerSecond
  | .keyed key => shown (Zone.rules (.named key)) List.head?
  | .entry name => shown (Zone.rules (.named name)) List.getLast?
  | .text s =>
    match Zone.ofText s with
    | .ok z => shown (Zone.rules z) List.getLast?
    | .error _ => r
  | .universal | .unplaced | .invalid _ => r

/-- A point in time, with a flag that tells whether it is placed in universal time, or a mere
clock reading. -/
def momentOf? : Value → Option (Bool × Int)
  | .moment r none => some (false, r)
  | .moment r (some z) => some (true, instantOf r z)
  | .instant t zone => some (zone.isSome, t)
  | .ticks (some r) _ => some (false, r)
  | _ => none

/-- What a single value says, however it is written. -/
inductive Meaning where
  | absent
  | number (q : Quantity)
  | complex (re im : Quantity)
  | text (s : String)
  /-- A point in time, or the reading of a clock that is not placed in universal time. -/
  | moment (placed : Bool) (t : Int)
  | date (day : Int)
  | period (day : Int)
  | span (seconds : Int)
  | bytes (bs : List Nat)
  | offset (minutes : Int)
  | alien
  deriving DecidableEq

/-- What a single value says. Undefined numbers, missing values and collections say nothing. -/
def meaning? : Value → Option Meaning
  | .scalar _ v => v.meaning?
  | .absent => some .absent
  | .text s => some (.text s)
  | .date day => some (.date day)
  | .period day => some (.period day)
  | .span s => some (.span s)
  | .bytes bs => some (.bytes bs)
  | .offset m => some (.offset m)
  | .alien => some .alien
  | .complex re im =>
    if re.isNan || im.isNan then none
    else if im.same Double.zero then some (.number re.quantity)
    else some (.complex re.quantity im.quantity)
  | v =>
    match v.quantity? with
    | some .nan => none
    | some q => some (.number q)
    | none => v.momentOf?.map fun (placed, t) => .moment placed t

/-- A value without the marks of the typed arrays that it comes from. -/
def bare : Value → Value
  | .scalar _ v => v.bare
  | v => v

mutual

/-- Equality of values: single values are equal if they say the same, so that numbers are compared exactly and
across their kinds, and an undefined number is unequal to itself. Collections are compared element by element. -/
def same : Value → Value → Bool
  | .scalar _ v, w => same v w
  | .list xs, w => match w.bare with
    | .list ys => sameAll xs ys
    | _ => false
  | .tuple xs, w => match w.bare with
    | .tuple ys => sameAll xs ys
    | _ => false
  | .array _ xs, w => match w.bare with
    | .array _ ys => sameAll xs ys
    | _ => false
  | .dict ks xs, w => match w.bare with
    | .dict ls ys => ks == ls && sameAll xs ys
    | _ => false
  | v, w => v.meaning?.isSome && v.meaning? == w.meaning?

/-- Equality of lists of values. -/
def sameAll : List Value → List Value → Bool
  | [], [] => true
  | x :: xs, y :: ys => same x y && sameAll xs ys
  | _, _ => false

end

/-- Whether a list of values has one that is equal to `v`. -/
def isIn (v : Value) (xs : List Value) : Bool :=
  xs.any fun x => x.same v

mutual

/-- The first value inside, itself included, that cannot be a member of a set. -/
def unhashable? : Value → Option String
  | .list _ => some "list"
  | .dict _ _ => some "dict"
  | .array _ _ => some "numpy.ndarray"
  | .tuple xs => unhashableIn? xs
  | .scalar _ v => unhashable? v
  | _ => none

/-- The first such value inside the values of a list. -/
def unhashableIn? : List Value → Option String
  | [] => none
  | x :: xs =>
    match unhashable? x with
    | some kind => some kind
    | none => unhashableIn? xs

end

mutual

/-- How deep lists are nested in a value. -/
def depth : Value → Nat
  | .list xs => depthOfAll xs + 1
  | .tuple xs => depthOfAll xs + 1
  | .array _ xs => depthOfAll xs + 1
  | _ => 0

/-- How deep lists are nested in the values of a list. -/
def depthOfAll : List Value → Nat
  | [] => 0
  | x :: xs => max (depth x) (depthOfAll xs)

end

end Value

end Coercion
