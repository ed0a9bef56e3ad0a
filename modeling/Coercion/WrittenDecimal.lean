import Coercion.Binary.Text

/-!
Decimal numbers as they were written. A decimal keeps all of its digits, zeros at the end included, so that equal
numbers may have different texts.
-/

namespace Coercion

/-- A decimal number: a coefficient times a power of ten, or what is not finite. -/
inductive WrittenDecimal where
  | nan
  | infinite (negative : Bool)
  | finite (negative : Bool) (coefficient : Nat) (exponent : Int)
  deriving DecidableEq, Inhabited

namespace WrittenDecimal

/-- Whether this is the marker of an undefined number. -/
def isNan : WrittenDecimal → Bool
  | .nan => true
  | _ => false

/-- The value of `coefficient * 10 ^ exponent` under a sign. -/
def ratioOf (negative : Bool) (coefficient : Nat) (exponent : Int) : Rat :=
  let q : Rat :=
    if 0 ≤ exponent then mkRat (coefficient * Nat.pow 10 exponent.toNat : Nat) 1
    else mkRat coefficient (Nat.pow 10 (-exponent).toNat)
  if negative then -q else q

/-- The nearest floating-point number; what is beyond the range of the format becomes infinite. -/
def toDouble : WrittenDecimal → Double
  | .nan => .nan
  | .infinite negative => .infinite negative
  | .finite negative m e => Text.ofDecimal negative m e

/-- A decimal as text. All digits are written out if none of them is left of the point without having been given,
and if no more than five zeros follow the point; otherwise the point comes after the first digit, and an
exponent follows. -/
def text : WrittenDecimal → String
  | .nan => "NaN"
  | .infinite negative => (if negative then "-" else "") ++ "Infinity"
  | .finite negative m e =>
    let digits := (toString m).toList
    let left : Int := e + digits.length
    let isPositional : Bool := e ≤ 0 && -6 < left
    let point : Int := if isPositional then left else 1
    let whole := digits.take point.toNat
    let fraction := List.replicate (-point).toNat '0' ++ digits.drop point.toNat
    let n := left - 1
    (if negative then "-" else "") ++ (if whole.isEmpty then "0" else String.ofList whole) ++
      (if fraction.isEmpty then "" else "." ++ String.ofList fraction) ++
      (if isPositional then "" else "E" ++ (if n < 0 then "-" else "+") ++ toString n.natAbs)

/-- Reads a decimal. A text that is none stands for the undefined number. -/
def ofText (s : String) : WrittenDecimal :=
  let cs := Text.trim s.toList
  let (negative, rest) := Text.readSign cs
  let name := (String.ofList rest).map Char.toLower
  if name = "inf" ∨ name = "infinity" then .infinite negative
  else
    match Text.readDecimal cs with
    | some (negative, m, e) => .finite negative m e
    | none => .nan

end WrittenDecimal

end Coercion
