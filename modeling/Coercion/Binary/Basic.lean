/-!
Binary floating-point numbers, held exactly. A finite number is a signed integer times a power of two, and
every operation here is exact rational arithmetic followed by one rounding to a format: to the nearest
number of the format, a tie going to the even mantissa.
-/

namespace Coercion

/-- A floating-point number. The finite number with mantissa `m` and exponent `e` has magnitude
`m * 2 ^ e`; zero keeps its sign. -/
inductive Double where
  | nan
  | infinite (negative : Bool)
  | finite (negative : Bool) (mantissa : Nat) (exponent : Int)
  deriving DecidableEq, Inhabited

/-- A binary format: the bits of a mantissa and the range of exponents of finite numbers. -/
structure BinaryFormat where
  precision : Nat
  minExponent : Int
  maxExponent : Int

namespace BinaryFormat

/-- Eight-byte numbers. -/
def double : BinaryFormat := ⟨53, -1074, 971⟩

/-- Four-byte numbers. -/
def single : BinaryFormat := ⟨24, -149, 104⟩

/-- Two-byte numbers. -/
def half : BinaryFormat := ⟨11, -24, 5⟩

/-- The quotient of `num` by `den` rounded to the nearest integer, a tie going to the even one. -/
def roundedQuotient (num den : Nat) : Nat :=
  let q := num / den
  let r := num % den
  if 2 * r < den then q
  else if den < 2 * r then q + 1
  else if q % 2 = 0 then q else q + 1

/-- The fraction `num / den` scaled by `2 ^ -e`, as a fraction again. -/
def scaledBy (e : Int) (num den : Nat) : Nat × Nat :=
  if 0 ≤ e then (num, den <<< e.toNat) else (num <<< (-e).toNat, den)

/-- The largest `e` with `2 ^ e ≤ num / den`, for positive `num` and `den`. -/
def magnitude (num den : Nat) : Int :=
  let e := (num.log2 : Int) - den.log2
  let (n, d) := scaledBy e num den
  if n < d then e - 1 else e

/-- The number of the format that is nearest to `num / den`, with the given sign. -/
def round (f : BinaryFormat) (negative : Bool) (num den : Nat) : Double :=
  if num = 0 then .finite negative 0 f.minExponent
  else
    let e := max (magnitude num den - (f.precision - 1)) f.minExponent
    let (n, d) := scaledBy e num den
    let m := roundedQuotient n d
    let (m, e) := if m = Nat.pow 2 f.precision then (m / 2, e + 1) else (m, e)
    if f.maxExponent < e then .infinite negative else .finite negative m e

end BinaryFormat

namespace Double

/-- Positive zero. -/
def zero : Double := .finite false 0 (-1074)

/-- The magnitude `m * 2 ^ e` as a fraction. -/
def ratioOf (m : Nat) (e : Int) : Nat × Nat :=
  if 0 ≤ e then (m <<< e.toNat, 1) else (m, 1 <<< (-e).toNat)

/-- The nearest number to a signed fraction. -/
def ofRatio (num : Int) (den : Nat) : Double :=
  BinaryFormat.double.round (num < 0) num.natAbs den

/-- The nearest number to an integer. -/
def ofInt (n : Int) : Double :=
  ofRatio n 1

/-- The nearest number of the narrower format `f`, held at full width. -/
def narrow (f : BinaryFormat) : Double → Double
  | .finite s m e =>
    let (n, d) := ratioOf m e
    match f.round s n d with
    | .finite s m e => let (n, d) := ratioOf m e; BinaryFormat.double.round s n d
    | x => x
  | x => x

/-- The exact value of a finite number. -/
def toRat? : Double → Option Rat
  | .finite s m e =>
    let (n, d) := ratioOf m e
    some (mkRat (if s then -(n : Int) else n) d)
  | _ => none

/-- Whether this is the marker of an undefined number. -/
def isNan : Double → Bool
  | .nan => true
  | _ => false

/-- The integer next to a finite number in the direction of zero. -/
def truncate? (x : Double) : Option Int :=
  x.toRat?.map fun q => q.num.tdiv q.den

/-- The number without its fraction. It keeps its sign, also if nothing else is left of it. -/
def trunc : Double → Double
  | .finite s m e => if 0 ≤ e then .finite s m e else BinaryFormat.double.round s (m >>> (-e).toNat) 1
  | x => x

/-- The integer that a number is equal to, if there is one. -/
def toInt? (x : Double) : Option Int := do
  let q ← x.toRat?
  if q.den = 1 then some q.num else none

/-- The order of two numbers; an undefined one has no place in it. -/
def compare? (x y : Double) : Option Ordering :=
  match x, y with
  | .nan, _ => none
  | _, .nan => none
  | .infinite a, .infinite b => some (if a == b then .eq else if a then .lt else .gt)
  | .infinite a, .finite .. => some (if a then .lt else .gt)
  | .finite .., .infinite b => some (if b then .gt else .lt)
  | .finite .., .finite .. => do
    let p ← x.toRat?
    let q ← y.toRat?
    return if p < q then .lt else if p = q then .eq else .gt

/-- Numerical equality: the two zeros are equal, and an undefined number equals nothing. -/
def same (x y : Double) : Bool :=
  x.compare? y == some .eq

/-- Whether `x` is less than `y`. -/
def less (x y : Double) : Bool :=
  x.compare? y == some .lt

/-- Whether `x` is less than `y` or equal to it. -/
def atMost (x y : Double) : Bool :=
  x.less y || x.same y

end Double

end Coercion
