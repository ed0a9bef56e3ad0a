import Coercion.Proofs.Cast.Dated
import Coercion.Proofs.Cast.Reordered
import Coercion.Proofs.Cast.Unlevelled
import Coercion.Proofs.Combine.Structure

/-!
Agreement of construction and casts. A vector that is made over to a type, and that can be cast to it with nothing lost,
is equal to what it is cast to. Categoricals are the exception, since storage takes their values out of the levels in a
way of its own, and it is known of each of them whether it is one: the two ways part where they write a value as
different texts, round it on one way only, or tell its day or its instant by different clocks, and where the same levels
are listed in another form that does not recognise the values. Datetimes are another one, where eight bytes do not hold
what the clock shows.
-/

namespace Coercion

open VectorType Column

namespace Registry

variable {t : VectorType} {stored own levels : List Value} {v w : TypedVector} {d : Column} {r : CastResult}
  {decompose : Bool}

/-- How the two ways from the levels of a categorical to a type part, although nothing is lost on the way of the cast.
-/
inductive PartsLevels (stored : List Value) (v : TypedVector) : VectorType → Prop where
  /-- The levels are the same, but listed in another form, and they do not recognise the values. -/
  | relisted {levels : List Value} (same : v.type.same (.categorical levels) = true)
    (listed : samePayload v.type (.categorical levels) = false) (unknown : ¬ Engine.Recognised levels v.values) :
    PartsLevels stored v (.categorical levels)
  | written {x : Value} (mem : x ∈ v.values) (apart : WrittenApart stored v.column x) : PartsLevels stored v .character
  | rounded {x : Value} (mem : x ∈ v.values) (rounded : Rounded stored v x) : PartsLevels stored v .integer
  | day {x : Value} (mem : x ∈ v.values) (other : OtherDay x) : PartsLevels stored v .date
  | midnight {x : Value} {zone : Option Zone} (mem : x ∈ v.values) (off : OffMidnight zone x) :
    PartsLevels stored v (.datetime zone)

/-- Whether the two ways part for a vector: it is a categorical, or holds datetimes one of which has another day. -/
def Parts (v : TypedVector) (t : VectorType) : Prop :=
  (∃ own stored, v.type = .categorical own ∧ v.column.dtype = .category (some stored) ∧ PartsLevels stored v t) ∨
    PartsDays v t

section Levels

variable (hv : v.WellFormed) (hcat : v.type = .categorical own)

include hv hcat

variable (hdtype : v.column.dtype = .category (some stored))

include hdtype

end Levels

end Registry

end Coercion
