import Coercion.Calendar.Clock
import Mathlib.Tactic

/-!
Readings, their days, and what eight bytes hold of them. A reading in range is held as it is. One that is out of range is
held as another one, which lies a whole round of all numbers away, or it is held as the missing one.
-/

namespace Coercion

namespace Reading

variable {r s : Int}

/-! ### Days -/

lemma day_ofDay (d : Int) : day (ofDay d) = d := by
  rw [day, ofDay, Int.fdiv_eq_ediv_of_nonneg _ (by decide), Int.mul_ediv_cancel d (by decide)]

/-- A reading without time of day is the midnight of its day. -/
lemma ofDay_day {r : Reading} (h : timeOfDay r = 0) : ofDay (day r) = r := by
  have hsplit := Int.mul_fdiv_add_fmod r nanosPerDay
  rw [show r.fmod nanosPerDay = 0 from h, Int.add_zero] at hsplit
  rw [ofDay, day, Int.mul_comm]
  exact hsplit

lemma timeOfDay_ofDay (d : Int) : timeOfDay (ofDay d) = 0 :=
  Int.mul_fmod_left d nanosPerDay

/-! ### Eight bytes -/

lemma inRange_iff : inRange r = true ↔ -9223372036854775808 < r ∧ r ≤ 9223372036854775807 := by
  rw [inRange, Bool.and_eq_true, decide_eq_true_iff, decide_eq_true_iff]

/-- A reading in range is held as it is. -/
lemma stored?_of_inRange (h : inRange r = true) : stored? r = some r := by
  have hkept : lowBytes r = r := by
    obtain ⟨hlow, hhigh⟩ := inRange_iff.1 h
    exact Int.bmod_eq_of_le (by simp; omega) (by simp; omega)
  rw [stored?, hkept, if_pos h]

/-- What is held is in range, and lies a number of whole rounds away. -/
lemma stored?_eq_some (h : stored? r = some s) :
    inRange s = true ∧ ∃ k : Int, r = s + 18446744073709551616 * k := by
  rw [stored?] at h
  split_ifs at h with hrange
  cases h
  refine ⟨hrange, (r - lowBytes r) / 18446744073709551616, ?_⟩
  have hround : (18446744073709551616 : Int) ∣ r - lowBytes r := by
    have hmod : lowBytes r % (Nat.pow 2 64 : Nat) = r % (Nat.pow 2 64 : Nat) := Int.bmod_emod
    exact Int.ModEq.dvd hmod
  rw [Int.mul_ediv_cancel' hround]
  omega

/-- Readings that lie less than a round apart are not held as each other. -/
lemma eq_of_stored? (h : stored? r = some s) (hlow : s - 18446744073709551616 < r)
    (hhigh : r < s + 18446744073709551616) : s = r := by
  obtain ⟨-, k, rfl⟩ := stored?_eq_some h
  omega

/-- A round is longer than a day. -/
lemma eq_of_day_eq (h : stored? r = some s) (hday : day s = day r) : s = r := by
  have hnonneg : (0 : Int) ≤ 86400 * 1000000000 := by decide
  simp only [day, nanosPerDay, nanosPerSecond, Int.fdiv_eq_ediv_of_nonneg _ hnonneg] at hday
  refine eq_of_stored? h ?_ ?_
  · omega
  · omega

end Reading

end Coercion
