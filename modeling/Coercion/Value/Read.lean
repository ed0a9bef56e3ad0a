import Coercion.Column.Moment

/-!
Values from text, and instants from the readings of a clock.
-/

namespace Coercion

namespace Value

/-- A fraction of two integers, or an integer. -/
def ofFraction (s : String) : Value :=
  match (s.splitOn "/").map String.toInt? with
  | [some n, some d] => .fraction (mkRat n d.toNat)
  | [some n] => .fraction n
  | _ => .fraction 0

/-- The instant that a reading refers to in a zone as its caller gave it. -/
def placedIn (source : Option ZoneSource) (r : Reading) : Except Failure Value :=
  match source.map Zone.normalize with
  | none => ofReading r none
  | some (.ok z) => ofReading r (some z)
  | some (.error fault) => .error (.badZone fault)

end Value

end Coercion
