import Coercion.VectorType.Build
import Coercion.Proofs.Value.Equality
import Mathlib.Data.List.Sort
import Mathlib.Data.Rat.Defs
import Mathlib.Order.WithBot

/-!
The order of floating-point numbers. Every number but the undefined one has a place on the rational line with two
ends, and both equality and order are those of the places. A list of boundaries in strictly ascending order is
determined, up to equality, by the places in it.
-/

namespace Coercion

namespace Double

/-- The place of a number on the extended line. The undefined number has none of its own, and is put
where zero is. -/
def place : Double → WithBot (WithTop ℚ)
  | .infinite true => ⊥
  | .infinite false => ((⊤ : WithTop ℚ) : WithBot (WithTop ℚ))
  | x => ((x.toRat?.getD 0 : WithTop ℚ) : WithBot (WithTop ℚ))

/-- The order of two numbers is the order of their places. -/
lemma compare?_eq {x y : Double} (hx : x.isNan = false) (hy : y.isNan = false) :
    x.compare? y = some (if x.place < y.place then .lt else if x.place = y.place then .eq else .gt) := by
  rcases x with _ | (_ | _) | ⟨s, m, e⟩ <;> rcases y with _ | (_ | _) | ⟨t, n, f⟩ <;>
    simp_all [compare?, place, toRat?, isNan]

lemma compare?_of_isNan {x y : Double} (h : x.isNan = true ∨ y.isNan = true) : x.compare? y = none := by
  rcases x with _ | (_ | _) | ⟨s, m, e⟩ <;> rcases y with _ | (_ | _) | ⟨t, n, f⟩ <;>
    simp_all [compare?, isNan]

lemma less_iff (x y : Double) :
    x.less y = true ↔ x.isNan = false ∧ y.isNan = false ∧ x.place < y.place := by
  rw [less]
  by_cases h : x.isNan = true ∨ y.isNan = true
  · rw [compare?_of_isNan h]
    rcases h with h | h <;> simp [h]
  · obtain ⟨hx, hy⟩ : x.isNan = false ∧ y.isNan = false := by simpa using h
    rw [compare?_eq hx hy]
    simp only [hx, hy, true_and]
    split_ifs with hlt heq <;> simp_all

lemma same_iff (x y : Double) :
    x.same y = true ↔ x.isNan = false ∧ y.isNan = false ∧ x.place = y.place := by
  rw [same]
  by_cases h : x.isNan = true ∨ y.isNan = true
  · rw [compare?_of_isNan h]
    rcases h with h | h <;> simp [h]
  · obtain ⟨hx, hy⟩ : x.isNan = false ∧ y.isNan = false := by simpa using h
    rw [compare?_eq hx hy]
    simp only [hx, hy, true_and]
    split_ifs with hlt heq
    · simpa using hlt.ne
    · simpa using heq
    · simpa using heq

/-- Two numbers are equal as values if they are equal as numbers. -/
lemma value_same (x y : Double) : (Value.double x).same (.double y) = x.same y := by
  rw [Bool.eq_iff_iff, same_iff, Value.same_of_held?_eq_none rfl]
  rcases x with _ | (_ | _) | ⟨s, m, e⟩ <;> rcases y with _ | (_ | _) | ⟨t, n, f⟩ <;>
    simp [place, isNan, Value.meaning?, Value.quantity?, quantity, eq_comm]

end Double

/-! ### Boundaries -/

/-- Boundaries in strictly ascending order, none of them undefined. -/
structure Ascending (bs : List Double) : Prop where
  defined : ∀ b ∈ bs, b.isNan = false
  sorted : (bs.map Double.place).SortedLT

namespace Ascending

lemma nil : Ascending [] := ⟨by simp, by simp [List.sortedLT_iff_pairwise]⟩

lemma cons_iff {b : Double} {bs : List Double} :
    Ascending (b :: bs) ↔ b.isNan = false ∧ (∀ c ∈ bs, b.place < c.place) ∧ Ascending bs := by
  constructor
  · rintro ⟨hd, hs⟩
    rw [List.map_cons, List.sortedLT_iff_pairwise, List.pairwise_cons] at hs
    have hdefined : ∀ c ∈ bs, c.isNan = false := by
      intro c hc
      exact hd c (List.mem_cons_of_mem b hc)
    have habove : ∀ c ∈ bs, b.place < c.place := by
      intro c hc
      exact hs.1 _ (List.mem_map_of_mem hc)
    exact ⟨hd b List.mem_cons_self, habove, hdefined, List.sortedLT_iff_pairwise.2 hs.2⟩
  · rintro ⟨hb, hlt, hd, hs⟩
    refine ⟨by simpa [hb] using hd, ?_⟩
    rw [List.map_cons, List.sortedLT_iff_pairwise, List.pairwise_cons]
    exact ⟨by simpa using hlt, hs.pairwise⟩

/-- Ascending boundaries with the same places are equal one by one. -/
theorem forall₂_same {bs cs : List Double} (hbs : Ascending bs) (hcs : Ascending cs)
    (h : ∀ p, p ∈ bs.map Double.place ↔ p ∈ cs.map Double.place) :
    List.Forall₂ (fun b c => b.same c = true) bs cs := by
  have hmap : bs.map Double.place = cs.map Double.place := hbs.sorted.eq_of_mem_iff hcs.sorted h
  clear h
  induction bs generalizing cs with
  | nil =>
    rw [List.map_nil, eq_comm, List.map_eq_nil_iff] at hmap
    rw [hmap]
    exact .nil
  | cons b bs ih =>
    cases cs with
    | nil => simp at hmap
    | cons c cs =>
      rw [List.map_cons, List.map_cons, List.cons.injEq] at hmap
      obtain ⟨hb, -, hbs⟩ := cons_iff.1 hbs
      obtain ⟨hc, -, hcs⟩ := cons_iff.1 hcs
      exact .cons ((Double.same_iff b c).2 ⟨hb, hc, hmap.1⟩) (ih hbs hcs hmap.2)

end Ascending

namespace VectorType

lemma mem_places_insertBoundary (b : Double) {bs : List Double} (h : Ascending bs)
    (p : WithBot (WithTop ℚ)) :
    p ∈ (insertBoundary b bs).map Double.place ↔ p = b.place ∨ p ∈ bs.map Double.place := by
  induction bs with
  | nil => simp [insertBoundary]
  | cons c cs ih =>
    obtain ⟨hc, -, hcs⟩ := Ascending.cons_iff.1 h
    rw [insertBoundary]
    split_ifs with hless hsame
    · simp
    · rw [((Double.same_iff b c).1 hsame).2.2]
      simp
    · rw [List.map_cons, List.mem_cons, ih hcs, List.map_cons, List.mem_cons]
      tauto

lemma ascending_insertBoundary {b : Double} (hb : b.isNan = false) {bs : List Double} (h : Ascending bs) :
    Ascending (insertBoundary b bs) := by
  induction bs with
  | nil => exact Ascending.cons_iff.2 ⟨hb, by simp, Ascending.nil⟩
  | cons c cs ih =>
    obtain ⟨hc, hlt, hcs⟩ := Ascending.cons_iff.1 h
    rw [insertBoundary]
    split_ifs with hless hsame
    · have hbc := ((Double.less_iff b c).1 hless).2.2
      refine Ascending.cons_iff.2 ⟨hb, ?_, h⟩
      intro d hd
      rcases List.mem_cons.1 hd with rfl | hd
      · exact hbc
      · exact hbc.trans (hlt d hd)
    · exact h
    · -- neither less nor equal: the boundary belongs behind the first one
      refine Ascending.cons_iff.2 ⟨hc, ?_, ih hcs⟩
      have hcb : c.place < b.place := by
        rw [Bool.not_eq_true] at hless hsame
        have h1 : ¬ b.place < c.place := fun h1 => by
          simp [(Double.less_iff b c).2 ⟨hb, hc, h1⟩] at hless
        have h2 : b.place ≠ c.place := fun h2 => by
          simp [(Double.same_iff b c).2 ⟨hb, hc, h2⟩] at hsame
        exact lt_of_le_of_ne (not_lt.1 h1) h2.symm
      intro d hd
      have hmem := (mem_places_insertBoundary b hcs d.place).1 (List.mem_map_of_mem hd)
      rcases hmem with heq | hmem
      · rwa [heq]
      · obtain ⟨e, he, heq⟩ := List.mem_map.1 hmem
        rw [← heq]
        exact hlt e he

/-- Boundaries put in order one after the other are ascending, and have the places that were put in. -/
lemma foldl_insertBoundary {bs : List Double} (hbs : ∀ b ∈ bs, b.isNan = false) {acc : List Double}
    (hacc : Ascending acc) :
    Ascending (bs.foldl (fun bs b => insertBoundary b bs) acc) ∧
      ∀ p, p ∈ (bs.foldl (fun bs b => insertBoundary b bs) acc).map Double.place ↔
        p ∈ acc.map Double.place ∨ p ∈ bs.map Double.place := by
  induction bs generalizing acc with
  | nil => exact ⟨hacc, by simp⟩
  | cons b bs ih =>
    have hb : b.isNan = false := hbs b (by simp)
    obtain ⟨hasc, hmem⟩ := ih (fun c hc => hbs c (by simp [hc])) (ascending_insertBoundary hb hacc)
    refine ⟨hasc, ?_⟩
    intro p
    rw [List.foldl_cons, hmem, mem_places_insertBoundary b hacc, List.map_cons, List.mem_cons]
    tauto

/-- The boundaries of a binned type in order: those given, each place once. -/
def orderedBoundaries (bs : List Double) : List Double :=
  bs.foldl (fun bs b => insertBoundary b bs) []

lemma ascending_orderedBoundaries {bs : List Double} (h : ∀ b ∈ bs, b.isNan = false) :
    Ascending (orderedBoundaries bs) :=
  (foldl_insertBoundary h Ascending.nil).1

lemma mem_places_orderedBoundaries {bs : List Double} (h : ∀ b ∈ bs, b.isNan = false)
    (p : WithBot (WithTop ℚ)) :
    p ∈ (orderedBoundaries bs).map Double.place ↔ p ∈ bs.map Double.place := by
  rw [orderedBoundaries, (foldl_insertBoundary h Ascending.nil).2]
  simp

/-- The boundaries of two binned types together do not depend on which of them comes first. -/
theorem orderedBoundaries_append_comm {bs cs : List Double} (hbs : ∀ b ∈ bs, b.isNan = false)
    (hcs : ∀ c ∈ cs, c.isNan = false) :
    List.Forall₂ (fun b c => b.same c = true) (orderedBoundaries (bs ++ cs)) (orderedBoundaries (cs ++ bs)) := by
  have hbc : ∀ b ∈ bs ++ cs, b.isNan = false := by
    simpa only [List.mem_append, or_imp, forall_and] using And.intro hbs hcs
  have hcb : ∀ b ∈ cs ++ bs, b.isNan = false := by
    simpa only [List.mem_append, or_imp, forall_and] using And.intro hcs hbs
  refine (ascending_orderedBoundaries hbc).forall₂_same (ascending_orderedBoundaries hcb) ?_
  intro p
  rw [mem_places_orderedBoundaries hbc, mem_places_orderedBoundaries hcb, List.map_append, List.map_append,
    List.mem_append, List.mem_append, or_comm]

end VectorType

end Coercion
