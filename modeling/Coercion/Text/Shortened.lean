/-!
Lists in messages. A short list is written in full, with its elements quoted; a long one is cut after
the first few elements, which are then displayed plainly, and its length follows.
-/

namespace Coercion.Text

/-- How many of `length` elements a cut at `max` keeps: a negative cut counts from the end. -/
def keptBy (max : Int) (length : Nat) : Nat :=
  if max < 0 then (length + max).toNat else max.toNat

/-- A list with at most `max` elements in full, and its beginning otherwise. -/
def shorten {α : Type} (display quote : α → String) (xs : List α) (max : Int) : String :=
  if (xs.length : Int) ≤ max then
    "[" ++ ", ".intercalate (xs.map quote) ++ "]"
  else
    "[" ++ ", ".intercalate ((xs.take (keptBy max xs.length)).map display) ++ ", ...] (" ++
      toString xs.length ++ ")"

/-- Positions, which are displayed and quoted alike, in ascending order. -/
def shortenPositions (positions : List Int) (max : Int) : String :=
  shorten toString toString (positions.mergeSort (· ≤ ·)) max

end Coercion.Text
