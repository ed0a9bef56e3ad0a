import Coercion.Proofs.Cast.Dated

/-!
Vectors without levels, made over and cast. The casters between kinds of values do with each value what storage would
do, and where there is no caster, only missing values get through the decomposed form, and stay missing. So a vector
without levels is made over to what it is cast to, whether or not anything is flagged; except that storage gives a day
to each datetime, even if eight bytes do not hold the reading that the clock shows.
-/

namespace Coercion

open VectorType Column

variable {s t : VectorType} {f : Family} {v w : TypedVector} {c d : Column} {x : Value} {decompose : Bool}
  {r : CastResult}

namespace Registry

/-! ### Numbers -/

/-- How the two ways part for a vector of datetimes, if it does: dates are asked for, and one of them is of another day.
-/
structure PartsDays (v : TypedVector) (t : VectorType) : Prop where
  datetimes : ∃ zone, v.type = .datetime zone
  dates : t = .date
  other : ∃ x ∈ v.values, OtherDay x

end Registry

end Coercion
