import Coercion.Binary.Basic

/-!
The shortest decimal that reads back as a given binary number. Every number between the midpoints to its
two neighbours reads back as the number itself, the midpoints included if the mantissa is even. Of the decimals in
that interval with the fewest digits the nearest is chosen, and of two equally near ones the even one.
-/

namespace Coercion

/-- A decimal: the number `digits * 10 ^ exponent`. -/
structure Decimal where
  digits : Nat
  exponent : Int
  deriving DecidableEq

namespace BinaryFormat

/-- Twice the bounds of the numbers that round to `m * 2 ^ e`, and twice the number, in units of
`2 ^ (e - 1)`: the lower neighbour of a power of two is only half as far away. -/
def interval (f : BinaryFormat) (m : Nat) (e : Int) : Nat × Nat × Nat :=
  let narrowBelow := m = Nat.pow 2 (f.precision - 1) ∧ f.minExponent < e
  (if narrowBelow then 4 * m - 1 else 4 * m - 2, 4 * m, 4 * m + 2)

/-- The decimal with exponent `k` that is nearest to `m * 2 ^ e`, if one with this exponent lies in
the interval of the numbers that read back. -/
def onGrid? (f : BinaryFormat) (m : Nat) (e : Int) (k : Int) : Option Nat :=
  let (low, mid, high) := f.interval m e
  -- one unit of the interval is `num / den` steps of the grid `10 ^ k`
  let q := e - 2
  let num := (if 0 ≤ q then Nat.pow 2 q.toNat else 1) * (if k < 0 then Nat.pow 10 (-k).toNat else 1)
  let den := (if q < 0 then Nat.pow 2 (-q).toNat else 1) * (if 0 < k then Nat.pow 10 k.toNat else 1)
  let inside (d : Nat) : Bool :=
    if m % 2 = 0 then low * num ≤ d * den && d * den ≤ high * num
    else low * num < d * den && d * den < high * num
  let below := mid * num / den
  let above := below + 1
  let gapBelow := mid * num - below * den
  let gapAbove := above * den - mid * num
  match inside below && below != 0, inside above with
  | true, true =>
    if gapBelow < gapAbove then some below
    else if gapAbove < gapBelow then some above
    else if below % 2 = 0 then some below else some above
  | true, false => some below
  | false, true => some above
  | false, false => none

/-- Searches the grids from the coarse to the fine; `count` bounds the number of grids left. -/
def searchGrids (f : BinaryFormat) (m : Nat) (e : Int) : Nat → Int → Decimal
  | 0, k => ⟨(f.onGrid? m e k).getD 0, k⟩
  | count + 1, k =>
    match f.onGrid? m e k with
    | some d => ⟨d, k⟩
    | none => searchGrids f m e count (k - 1)

/-- The least `p` with `num < 10 ^ p * den`, found from below. -/
def decimalMagnitude (num den : Nat) : Int :=
  if den ≤ num then ((Nat.toDigits 10 (num / den)).length : Int)
  else
    let zeros := (Nat.toDigits 10 (den / num)).length
    -- `den / num` has `zeros` digits, so `num / den` is below `10 ^ (1 - zeros)` or just at it
    1 - (zeros : Int)

/-- Drops the trailing zeros of a decimal, with at most `count` of them. -/
def dropZeros : Nat → Decimal → Decimal
  | 0, d => d
  | count + 1, d =>
    if d.digits ≠ 0 ∧ d.digits % 10 = 0 then dropZeros count ⟨d.digits / 10, d.exponent + 1⟩ else d

/-- The shortest decimal that reads back as `m * 2 ^ e` in the format `f`, for positive `m`. -/
def shortest (f : BinaryFormat) (m : Nat) (e : Int) : Decimal :=
  let (n, d) := Double.ratioOf m e
  let found := f.searchGrids m e 20 (decimalMagnitude n d + 1)
  dropZeros (Nat.toDigits 10 found.digits).length found

end BinaryFormat

end Coercion
