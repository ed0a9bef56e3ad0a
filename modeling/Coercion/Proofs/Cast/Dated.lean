import Coercion.Proofs.Cast.TakenOut
import Coercion.Proofs.Vector.Found

/-!
Dates and datetimes out of levels. Storage takes the day of a date and time from its own reading, and the midnight of a
date in universal time. A cast reads the values as a vector of their own first: dates and times as instants on the clock
of their zone, and dates as days, which begin on the clock of the target. Both lead to the same day and to the same
instant unless the two clocks tell them apart, or eight bytes do not hold what one of them shows.
-/

namespace Coercion

open VectorType Column

namespace Registry

variable {t : VectorType} {stored xs : List Value} {v inner : TypedVector} {c d : Column} {x y z : Value}
  {r result : CastResult} {zone : Option Zone} {f : Family}

/-! ### Reading -/

/-- Whether the day of a date and time is not that of the reading that is held for it on the clock of the zone that it is
read in. -/
def OtherDay (x : Value) : Prop :=
  x.family = .ok .datetime ∧ ∃ i zone day, x.datedInstant = some i ∧ x.zone = .ok zone ∧ x.toDay = .ok (.period day) ∧
    (Reading.stored? (Clocks.standard.shown i.instant zone)).map Reading.day ≠ some day

lemma OtherDay.present (h : OtherDay x) : x.isMissing = false := by
  obtain ⟨-, i, zone, day, hdated, -⟩ := h
  cases x with
  | ticks reading =>
    cases reading with
    | none => cases hdated
    | some r => rfl
  | moment => rfl
  | instant => rfl
  | date => rfl
  | _ => cases hdated

/-- Whether the clock of a zone shows the midnight of a date at an instant that is not held as that of its midnight in
universal time. -/
def OffMidnight (zone : Option Zone) (x : Value) : Prop :=
  ∃ day z t, x = .date day ∧ zone = some z ∧ z.rules.reading t = Reading.ofDay day ∧
    Reading.stored? t ≠ some (Reading.ofDay day)

end Registry

end Coercion
