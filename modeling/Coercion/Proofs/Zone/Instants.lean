import Coercion.Cast.Moment
import Coercion.Proofs.Traversal
import Mathlib.Data.List.Sort
import Mathlib.Tactic

/-!
Instants and the readings of clocks. The instants that are listed for a reading are those at which the clock of the zone
shows it, each once. So the search for the place of a reading finds out whether the clock shows it once, skips it or shows
it twice.
-/

namespace Coercion

namespace ZoneRules

variable (z : ZoneRules)

lemma nanosOf_injective : Function.Injective nanosOf := by
  intro m n h
  simp only [nanosOf, nanosPerSecond] at h
  omega

/-- The offset in force is the one that the zone starts with, or that of a change. -/
lemma offsetAt_mem (t : Int) : z.offsetAt t = z.initial ∨ z.offsetAt t ∈ z.changes.map (·.2) := by
  rw [offsetAt]
  generalize z.initial = o
  induction z.changes generalizing o with
  | nil => exact Or.inl rfl
  | cons change rest ih =>
    rw [List.foldl_cons, List.map_cons, List.mem_cons]
    rcases ih (if change.1 * nanosPerSecond ≤ t then change.2 else o) with h | h
    · rw [h]
      split_ifs
      · exact Or.inr (Or.inl rfl)
      · exact Or.inl rfl
    · exact Or.inr (Or.inr h)

/-- The instants that are listed for a reading are those at which the clock shows it. -/
theorem mem_instants (r : Reading) (t : Int) : t ∈ z.instants r ↔ z.reading t = r := by
  simp only [instants, List.mem_mergeSort, List.mem_filter, List.mem_map, beq_iff_eq]
  constructor
  · intro h
    exact h.2
  · -- the offset in force at the instant is one of those that are tried
    intro h
    refine ⟨⟨z.offsetAt t, ?_, ?_⟩, h⟩
    · rw [offsets, List.mem_eraseDups, List.mem_cons]
      exact z.offsetAt_mem t
    · change t + nanosOf (z.offsetAt t) = r at h
      omega

lemma nodup_instants (r : Reading) : (z.instants r).Nodup := by
  rw [instants, (List.mergeSort_perm _ _).nodup_iff]
  refine List.Nodup.filter _ (List.Nodup.map ?_ ?_)
  · intro m n h
    have hnanos : nanosOf m = nanosOf n := by
      simp only at h
      omega
    exact nanosOf_injective hnanos
  · exact nodup_eraseDups _

/-- **Places of readings.** A reading that the clock shows once has its place there, one that it skips is moved forward,
and one that it shows twice has no place. -/
theorem place?_cases (r : Reading) :
    (∃ t, z.place? r = some t ∧ z.reading t = r ∧ ∀ u, z.reading u = r → u = t) ∨
      (z.place? r = some (z.shiftForward r) ∧ ∀ u, z.reading u ≠ r) ∨
      z.place? r = none ∧ ∃ t u, t ≠ u ∧ z.reading t = r ∧ z.reading u = r := by
  have hmem := z.mem_instants r
  have hnodup := z.nodup_instants r
  rw [place?]
  generalize z.instants r = ts at hmem hnodup
  rcases ts with _ | ⟨t, _ | ⟨u, rest⟩⟩
  · refine .inr (.inl ⟨rfl, ?_⟩)
    intro u hu
    exact List.not_mem_nil ((hmem u).2 hu)
  · refine .inl ⟨t, rfl, (hmem t).1 List.mem_cons_self, ?_⟩
    intro u hu
    exact List.mem_singleton.1 ((hmem u).2 hu)
  · have hne : t ≠ u := (List.pairwise_cons.1 hnodup).1 u List.mem_cons_self
    have ht : z.reading t = r := (hmem t).1 List.mem_cons_self
    have hu : z.reading u = r := (hmem u).1 (List.mem_cons_of_mem t List.mem_cons_self)
    exact .inr (.inr ⟨rfl, t, u, hne, ht, hu⟩)

end ZoneRules

end Coercion
