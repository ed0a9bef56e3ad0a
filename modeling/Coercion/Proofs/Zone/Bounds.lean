import Coercion.Proofs.Calendar.Reading
import Coercion.Proofs.Zone.Instants
import Coercion.Proofs.Zone.Names

/-!
How far clocks go from universal time. The zones of the database stay within a thousand minutes of it, so that each
midnight in range has its place in range, and the reading that stands in for a skipped midnight is never taken for it. A
fixed offset may be longer, but it skips no reading.
-/

namespace Coercion

namespace ZoneRules

/-- Whether all offsets of a zone are at most a thousand minutes. -/
def StaysNear (z : ZoneRules) : Prop :=
  z.initial.natAbs ≤ 1000 ∧ ∀ change ∈ z.changes, change.2.natAbs ≤ 1000

variable {z : ZoneRules}

lemma StaysNear.offsetAt (h : z.StaysNear) (t : Int) : (z.offsetAt t).natAbs ≤ 1000 := by
  rcases z.offsetAt_mem t with hinitial | hchange
  · rw [hinitial]
    exact h.1
  · obtain ⟨change, hmem, heq⟩ := List.mem_map.1 hchange
    rw [← heq]
    exact h.2 change hmem

lemma StaysNear.offsetAfter (h : z.StaysNear) (t : Int) : (z.offsetAfter t).natAbs ≤ 1000 := by
  rw [ZoneRules.offsetAfter]
  cases hfind : z.changes.find? fun change => t < change.1 * nanosPerSecond with
  | none => exact h.offsetAt t
  | some change => exact h.2 change (List.mem_of_find?_eq_some hfind)

/-- A clock shows a reading that is near the instant. -/
lemma StaysNear.reading (h : z.StaysNear) (t : Int) :
    t - 60000000000000 ≤ z.reading t ∧ z.reading t ≤ t + 60000000000000 := by
  have hoffset := h.offsetAt t
  simp only [ZoneRules.reading, nanosOf, nanosPerSecond]
  unfold Reading
  omega

/-- A reading is moved forward to an instant that is near it. -/
lemma StaysNear.shiftForward (h : z.StaysNear) (r : Reading) :
    r - 60000000000000 ≤ z.shiftForward r ∧ z.shiftForward r ≤ r + 63600000000000 := by
  have hnear (offset : Int) (hoffset : offset.natAbs ≤ 1000) :
      r - 60000000000000 ≤ r + (nanosPerHour - r.fmod nanosPerHour) - nanosOf offset ∧
        r + (nanosPerHour - r.fmod nanosPerHour) - nanosOf offset ≤ r + 63600000000000 := by
    rw [Int.fmod_eq_emod_of_nonneg r (by decide)]
    simp only [nanosPerHour, nanosOf, nanosPerSecond]
    unfold Reading at *
    omega
  rw [ZoneRules.shiftForward]
  split_ifs
  · exact hnear _ (h.offsetAt _)
  · exact hnear _ (h.offsetAfter _)

end ZoneRules

namespace Zone

/-! ### The database -/

/-- The number of minutes that is written in a row, with a sign before it if it is negative. -/
def minutesOf : List Char → Int
  | '-' :: cs => -(cs.foldl (fun n c => 10 * n + (c.toNat - 48)) 0 : Nat)
  | cs => (cs.foldl (fun n c => 10 * n + (c.toNat - 48)) 0 : Nat)

/-- The digits of a number, with a sign before them if it is negative. -/
def digitsOf (m : Int) : List Char :=
  if 0 ≤ m then Nat.toDigits 10 m.toNat else '-' :: Nat.toDigits 10 (-m).toNat

lemma ofList_digitsOf (m : Int) : String.ofList (digitsOf m) = m.repr := by
  refine String.toList_injective ?_
  rw [String.toList_ofList, digitsOf, Int.repr_eq_if]
  split_ifs
  · rw [Nat.toList_repr]
  · rw [String.toList_append, Nat.toList_repr]
    rfl

set_option maxRecDepth 8000 in
/-- The offsets of the rows are written as numbers of at most a thousand minutes. -/
lemma exists_offsets : ∃ css, SpelledBy (table.map (·.2.1)) css ∧
    ∀ cs ∈ css, ∀ part ∈ cs.splitOn ' ', digitsOf (minutesOf part) = part ∧ (minutesOf part).natAbs ≤ 1000 := by
  simp only [table, List.map_cons, List.map_nil]
  apply Exists.intro
  apply And.intro
  case h.left => repeat (first | exact .nil | apply SpelledBy.cons)
  case h.right => decide +kernel

/-- The offsets that are read from a row. -/
lemma offset_of_row {row : String × String × String} (hrow : row ∈ table) {part : List Char} {m : Int}
    (hpart : part ∈ row.2.1.toList.splitOn ' ') (hread : (String.ofList part).toInt? = some m) : m.natAbs ≤ 1000 := by
  obtain ⟨css, hspelled, hwritten⟩ := exists_offsets
  have hmem : row.2.1.toList ∈ css := by
    rw [← hspelled.map_toList, List.map_map]
    exact List.mem_map_of_mem hrow
  obtain ⟨hdigits, hsmall⟩ := hwritten _ hmem _ hpart
  rw [← hdigits, ofList_digitsOf, Int.toInt?_repr] at hread
  cases hread
  exact hsmall

lemma staysNear_of_changes {offsets : List Int} (h : ∀ m ∈ offsets, m.natAbs ≤ 1000) (last acc : Int) (cs : List Char) :
    ∀ change ∈ readChanges offsets last acc cs, change.2.natAbs ≤ 1000 := by
  induction cs generalizing last acc with
  | nil => exact fun change hchange => absurd hchange List.not_mem_nil
  | cons c cs ih =>
    rw [readChanges]
    split
    · intro change hchange
      rcases List.mem_cons.1 hchange with rfl | hrest
      · change (offsets[c.toNat - 65]?.getD 0).natAbs ≤ 1000
        cases hoffset : offsets[c.toNat - 65]? with
        | none => exact Nat.zero_le 1000
        | some m => exact h m (List.mem_of_getElem? hoffset)
      · exact ih _ _ change hrest
    · exact ih _ _

/-- The zones of the database keep near universal time. -/
theorem staysNear_named (name : String) : (Zone.named name).rules.StaysNear := by
  rw [rules]
  cases hfind : table.find? fun row => row.1 == tableName name with
  | none => exact ⟨Nat.zero_le 1000, fun change hchange => absurd hchange List.not_mem_nil⟩
  | some row =>
    have hrow := List.mem_of_find?_eq_some hfind
    have hoffsets : ∀ m ∈ (row.2.1.toList.splitOn ' ').filterMap (fun cs => (String.ofList cs).toInt?),
        m.natAbs ≤ 1000 := by
      intro m hm
      obtain ⟨part, hpart, hread⟩ := List.mem_filterMap.1 hm
      exact offset_of_row hrow hpart hread
    refine ⟨?_, staysNear_of_changes hoffsets _ _ _⟩
    simp only [readRules]
    cases hlist : (row.2.1.toList.splitOn ' ').filterMap fun cs => (String.ofList cs).toInt? with
    | nil => exact Nat.zero_le 1000
    | cons m ms => exact hoffsets m (hlist ▸ List.mem_cons_self)

/-! ### Skipped midnights -/

/-- A fixed offset shows every reading. -/
lemma reading_fixed (m t : Int) : (Zone.fixed m).rules.reading t = t + ZoneRules.nanosOf m := rfl

/-- A midnight that is skipped is moved to an instant in range, and the reading there is not held as the midnight. -/
theorem moved_of_skipped {zone : Zone} {day : Int} (hrange : Reading.inRange (Reading.ofDay day) = true)
    (hnever : ∀ t, zone.rules.reading t ≠ Reading.ofDay day) :
    Reading.inRange (zone.rules.shiftForward (Reading.ofDay day)) = true ∧
      Reading.stored? (zone.rules.reading (zone.rules.shiftForward (Reading.ofDay day))) ≠ some (Reading.ofDay day) := by
  cases zone with
  | fixed m =>
    refine absurd ?_ (hnever (Reading.ofDay day - ZoneRules.nanosOf m))
    rw [reading_fixed]
    exact Int.sub_add_cancel _ _
  | named name =>
    have hnear := staysNear_named name
    obtain ⟨hlow, hhigh⟩ := Reading.inRange_iff.1 hrange
    obtain ⟨hfrom, hto⟩ := hnear.shiftForward (Reading.ofDay day)
    constructor
    · rw [Reading.inRange_iff]
      simp only [Reading.ofDay, nanosPerDay, nanosPerSecond] at *
      unfold Reading at *
      omega
    · intro hheld
      obtain ⟨hbefore, hafter⟩ := hnear.reading ((Zone.named name).rules.shiftForward (Reading.ofDay day))
      refine hnever _ (Reading.eq_of_stored? hheld ?_ ?_).symm <;>
      · unfold Reading at *
        omega

end Zone

end Coercion
