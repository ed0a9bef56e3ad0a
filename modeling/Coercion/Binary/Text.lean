import Coercion.Binary.Shortest
import Coercion.Text.Blank
import Coercion.Text.Digit

/-!
Numbers as text. A binary number is written with the fewest digits that read back, in positional notation
if its leading digit stands for a power of ten from `10 ^ -4` up to `10 ^ 15` and with an exponent
otherwise. A numeral may have blanks around it, a sign, single underscores between digits, and digits of any
script.
-/

namespace Coercion

namespace Decimal

/-- An exponent of ten: its sign and at least two digits. -/
def exponentText (e : Int) : String :=
  let digits := toString e.natAbs
  (if e < 0 then "e-" else "e+") ++ (if digits.length < 2 then "0" ++ digits else digits)

/-- Digits with a point after the first `point` of them; zeros fill the places between. -/
def positional (digits : String) (point : Int) (fraction : String) : String :=
  if point ≤ 0 then "0." ++ String.ofList (List.replicate (-point).toNat '0') ++ digits
  else if (digits.length : Int) ≤ point then
    digits ++ String.ofList (List.replicate (point.toNat - digits.length) '0') ++ fraction
  else
    String.ofList (digits.toList.take point.toNat) ++ "." ++
      String.ofList (digits.toList.drop point.toNat)

/-- Digits with a point after the first of them, if there are more, and an exponent. -/
def scientific (digits : String) (point : Int) : String :=
  match digits.toList with
  | [] => ""
  | [d] => String.singleton d ++ exponentText (point - 1)
  | d :: rest => String.singleton d ++ "." ++ String.ofList rest ++ exponentText (point - 1)

/-- A decimal as text; `fraction` is what follows a whole number in positional notation. -/
def render (fraction : String) (d : Decimal) : String :=
  let digits := toString d.digits
  let point := (digits.length : Int) + d.exponent
  if -4 < point ∧ point ≤ 16 then positional digits point fraction else scientific digits point

end Decimal

namespace Double

/-- A number as text, with the digits that its format `f` needs. -/
def renderWith (f : BinaryFormat) (fraction : String) : Double → String
  | .nan => "nan"
  | .infinite s => if s then "-inf" else "inf"
  | .finite s m e =>
    let magnitude :=
      if m = 0 then "0" ++ fraction else (f.shortest m e).render fraction
    if s then "-" ++ magnitude else magnitude

/-- A number as text. -/
def render (x : Double) : String :=
  x.renderWith .double ".0"

/-- The mantissa and exponent with which a narrower format holds a number of that format. -/
def within (f : BinaryFormat) : Double → Double
  | .finite s m e => let (n, d) := ratioOf m e; f.round s n d
  | x => x

end Double

namespace Text

/-- Digits of any script, with single underscores allowed between two digits. -/
def readNumeral (cs : List Char) : Option Nat :=
  let rec go : Bool → Nat → List Char → Option Nat
    | afterDigit, acc, [] => if afterDigit then some acc else none
    | afterDigit, acc, c :: rest =>
      match digitValue? c with
      | some d => go true (10 * acc + d) rest
      | none => if c = '_' ∧ afterDigit then go false acc rest else none
  go false 0 cs

/-- Splits off a leading sign; the flag tells whether it was a minus. -/
def readSign : List Char → Bool × List Char
  | '-' :: cs => (true, cs)
  | '+' :: cs => (false, cs)
  | cs => (false, cs)

/-- An integer in base ten. -/
def readInt (s : String) : Option Int :=
  let (negative, cs) := readSign (trim s.toList)
  (readNumeral cs).map fun n => if negative then -(n : Int) else n

/-- The number of digits in a numeral. -/
def digitCount (cs : List Char) : Nat :=
  cs.countP fun c => (digitValue? c).isSome

/-- A part of a numeral that may be missing altogether. -/
def readPart (cs : List Char) : Option Nat :=
  if cs.isEmpty then some 0 else readNumeral cs

/-- A numeral with an optional fraction, as its digits and a power of ten. -/
def readMantissa (cs : List Char) : Option (Nat × Int) :=
  let whole := cs.takeWhile (· ≠ '.')
  match cs.dropWhile (· ≠ '.') with
  | [] => (readNumeral whole).map (·, 0)
  | _ :: fraction => do
    let w ← readPart whole
    let f ← readPart fraction
    let places := digitCount fraction
    if whole.isEmpty && fraction.isEmpty then none
    else some (w * Nat.pow 10 places + f, -(places : Int))

/-- A number with an optional fraction and exponent, as its sign, its digits and a power of ten. -/
def readDecimal (cs : List Char) : Option (Bool × Nat × Int) := do
  let (negative, cs) := readSign cs
  let isMark (c : Char) : Bool := c = 'e' || c = 'E'
  let (m, e) ← readMantissa (cs.takeWhile fun c => !isMark c)
  match cs.dropWhile fun c => !isMark c with
  | [] => return (negative, m, e)
  | _ :: exponent =>
    let (down, digits) := readSign exponent
    let n ← readNumeral digits
    return (negative, m, e + (if down then -(n : Int) else n))

/-- The binary number nearest to `m * 10 ^ e`. Beyond the range of all formats the power of ten is
not computed. -/
def ofDecimal (negative : Bool) (m : Nat) (e : Int) : Double :=
  let size := (toString m).length + e
  if m = 0 ∨ size < -400 then BinaryFormat.double.round negative 0 1
  else if 400 < size then .infinite negative
  else if 0 ≤ e then BinaryFormat.double.round negative (m * Nat.pow 10 e.toNat) 1
  else BinaryFormat.double.round negative m (Nat.pow 10 (-e).toNat)

/-- A floating-point number: a decimal, or a name of an infinity or of the undefined number. -/
def readDouble (s : String) : Option Double :=
  let cs := trim s.toList
  let (negative, rest) := readSign cs
  let name := (String.ofList rest).map Char.toLower
  if name = "nan" then some .nan
  else if name = "inf" ∨ name = "infinity" then some (.infinite negative)
  else (readDecimal cs).map fun (s, m, e) => ofDecimal s m e

end Text

end Coercion
