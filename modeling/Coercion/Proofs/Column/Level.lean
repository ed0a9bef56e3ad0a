import Coercion.Proofs.Value.Identity
import Coercion.Proofs.Vector.Construct

/-!
Columns of levels, value by value. A value is taken for the level that it is equal to, so equal values are taken for the
same one. The exception is made for whole columns: truth values alone do not match numbers alone. Texts are
neither, and match whatever levels there are.
-/

namespace Coercion

namespace Column

lemma mem_present {c : Column} {x : Value} : x ∈ c.present ↔ x ∈ c.values ∧ x.isMissing = false := by
  rw [present, List.mem_filter, Bool.not_eq_true']

/-- A value as the level that it is equal to, or as a missing one. -/
def levelIn (levels : List Value) (x : Value) : Value :=
  if x.isMissing then .double .nan else (levelOf? levels x).getD (.double .nan)

lemma levelIn_of_isMissing (levels : List Value) {x : Value} (h : x.isMissing = true) :
    levelIn levels x = .double .nan :=
  if_pos h

/-- Values that are equal are taken for the same level. -/
lemma levelIn_congr {x y : Value} (levels : List Value) (h : x.same y = true) :
    levelIn levels x = levelIn levels y := by
  have hfind : levelOf? levels x = levelOf? levels y := by
    rw [levelOf?, levelOf?]
    congr 1
    funext l
    exact Value.same_congr_right h l
  rw [levelIn, levelIn, hfind, Value.same_isMissing h]

lemma mem_of_levelOf? {levels : List Value} {x l : Value} (h : levelOf? levels x = some l) :
    l ∈ levels ∧ l.same x = true := by
  rw [levelOf?] at h
  have hsame := List.find?_some h
  exact ⟨List.mem_of_find?_eq_some h, hsame⟩

/-- What a value is taken for is missing, or a level that is equal to it. -/
lemma levelIn_cases (levels : List Value) (x : Value) :
    levelIn levels x = .double .nan ∨ levelIn levels x ∈ levels ∧ (levelIn levels x).same x = true := by
  rw [levelIn]
  cases hx : x.isMissing with
  | true => exact Or.inl rfl
  | false =>
    cases hl : levelOf? levels x with
    | none => exact Or.inl rfl
    | some l => exact Or.inr (mem_of_levelOf? hl)

/-- A value that is equal to a level is taken for one that is equal to it. -/
lemma same_levelIn {levels : List Value} {x l : Value} (hx : x.isMissing = false) (hl : l ∈ levels)
    (h : l.same x = true) : (levelIn levels x).same x = true := by
  rw [levelIn, hx]
  cases hfind : levelOf? levels x with
  | some k => exact (mem_of_levelOf? hfind).2
  | none =>
    rw [levelOf?, List.find?_eq_none] at hfind
    exact absurd h (hfind l hl)

lemma areNumbers_iff (vs : List Value) :
    areNumbers vs = true ↔ vs ≠ [] ∧ ∀ x ∈ vs, x.isInt = true ∨ x.isDouble = true := by
  simp [areNumbers]

lemma areBools_iff (vs : List Value) : areBools vs = true ↔ vs ≠ [] ∧ ∀ x ∈ vs, x.isBool = true := by
  simp [areBools]

/-- A truth value is no number. -/
lemma not_number_of_isBool {x : Value} (h : x.isBool = true) : x.isInt = false ∧ x.isDouble = false := by
  rw [Value.isBool] at h
  rw [Value.isInt, Value.isDouble]
  cases hp : x.plain <;> rw [hp] at h <;> first | exact ⟨rfl, rfl⟩ | cases h

/-- Whether a value is a truth value and all levels are numbers, or the other way round. -/
def Opposed (levels : List Value) (x : Value) : Prop :=
  areNumbers levels = true ∧ x.isBool = true ∨ areBools levels = true ∧ (x.isInt = true ∨ x.isDouble = true)

/-- Values do not match levels as a whole if and only if there are some, and all of them are opposed to the levels. -/
lemma comparable_eq_false_iff (levels vs : List Value) :
    comparable levels vs = false ↔ vs ≠ [] ∧ ∀ x ∈ vs, Opposed levels x := by
  have hcases : comparable levels vs = false ↔
      areBools vs = true ∧ areNumbers levels = true ∨ areBools levels = true ∧ areNumbers vs = true := by
    rw [comparable]
    cases areBools vs <;> cases areNumbers levels <;> cases areBools levels <;> cases areNumbers vs <;> decide
  rw [hcases, areBools_iff vs, areNumbers_iff vs]
  constructor
  · rintro (⟨⟨hsome, hbools⟩, hlevels⟩ | ⟨hlevels, hsome, hnumbers⟩)
    · exact ⟨hsome, fun x hx => Or.inl ⟨hlevels, hbools x hx⟩⟩
    · exact ⟨hsome, fun x hx => Or.inr ⟨hlevels, hnumbers x hx⟩⟩
  · rintro ⟨hsome, hopposed⟩
    cases hlevels : areBools levels with
    | true =>
      refine Or.inr ⟨rfl, hsome, ?_⟩
      intro x hx
      rcases hopposed x hx with ⟨hnumbers, -⟩ | ⟨-, hx⟩
      · -- the levels cannot be both
        obtain ⟨l, hl⟩ := List.exists_mem_of_ne_nil levels ((areBools_iff levels).1 hlevels).1
        have hbool := ((areBools_iff levels).1 hlevels).2 l hl
        have hnumber := ((areNumbers_iff levels).1 hnumbers).2 l hl
        simp [not_number_of_isBool hbool] at hnumber
      · exact hx
    | false =>
      obtain ⟨y, hy⟩ := List.exists_mem_of_ne_nil vs hsome
      have hbools : ∀ x ∈ vs, areNumbers levels = true ∧ x.isBool = true := by
        intro x hx
        rcases hopposed x hx with hx | ⟨hbools, -⟩
        · exact hx
        · rw [hlevels] at hbools
          cases hbools
      exact Or.inl ⟨⟨hsome, fun x hx => (hbools x hx).2⟩, (hbools y hy).1⟩

/-- A level is not opposed to the levels. -/
lemma not_opposed_of_mem {levels : List Value} {l : Value} (h : l ∈ levels) : ¬ Opposed levels l := by
  rintro (⟨hnumbers, hbool⟩ | ⟨hbools, hnumber⟩)
  · have hnumber := ((areNumbers_iff levels).1 hnumbers).2 l h
    simp [not_number_of_isBool hbool] at hnumber
  · have hbool := ((areBools_iff levels).1 hbools).2 l h
    simp [not_number_of_isBool hbool] at hnumber

/-- What a value of a column is taken for: a level, unless the column does not match the levels as a whole. -/
def taken (levels : List Value) (c : Column) (x : Value) : Value :=
  if comparable levels c.present then levelIn levels x else .double .nan

lemma taken_of_comparable {levels : List Value} {c : Column} (h : comparable levels c.present = true) (x : Value) :
    taken levels c x = levelIn levels x :=
  if_pos h

lemma taken_of_not_comparable {levels : List Value} {c : Column} (h : comparable levels c.present = false)
    (x : Value) : taken levels c x = .double .nan := by
  rw [taken, h]
  rfl

lemma taken_of_isMissing (levels : List Value) (c : Column) {x : Value} (h : x.isMissing = true) :
    taken levels c x = .double .nan := by
  rw [taken, levelIn_of_isMissing levels h, ite_self]

/-- A column is turned into levels value by value. -/
lemma values_toLevels {levels : List Value} {c d : Column} (h : c.toLevels levels = .ok d) :
    d.values = c.values.map (taken levels c) := by
  rw [toLevels] at h
  split at h
  · cases h
  · cases hcomparable : comparable levels c.present with
    | true =>
      rw [if_pos hcomparable] at h
      cases h
      refine List.map_congr_left ?_
      intro x _
      exact (taken_of_comparable hcomparable x).symm
    | false =>
      rw [if_neg (by rw [hcomparable]; decide)] at h
      cases h
      refine List.map_congr_left ?_
      intro x _
      exact (taken_of_not_comparable hcomparable x).symm

/-- A column of values that may match levels is turned into them value by value. -/
lemma toLevels_of_comparable {levels : List Value} {c : Column} (hhash : Value.unhashableIn? c.present = none)
    (h : comparable levels c.present = true) :
    c.toLevels levels = .ok ⟨.category (some levels), c.values.map (levelIn levels)⟩ := by
  rw [toLevels, hhash]
  simp only [h, if_true]
  rfl

/-- Texts are neither truth values nor numbers, so they may match any levels. -/
lemma comparable_of_texts {vs : List Value} (levels : List Value) (h : ∀ v ∈ vs, v.isText = true) :
    comparable levels vs = true := by
  have hnot : areBools vs = false ∧ areNumbers vs = false := by
    cases vs with
    | nil => exact ⟨rfl, rfl⟩
    | cons v vs =>
      have hv : v.isBool = false ∧ v.isInt = false ∧ v.isDouble = false := by
        have hv := h v (by simp)
        rw [Value.isText] at hv
        rw [Value.isBool, Value.isInt, Value.isDouble]
        cases hp : v.plain <;> rw [hp] at hv <;> first | exact ⟨rfl, rfl, rfl⟩ | cases hv
      simp [areBools, areNumbers, hv]
  simp [comparable, hnot]

/-- Texts and missing values are turned into levels, each on its own. -/
lemma toLevels_of_texts (levels : List Value) {c : Column}
    (h : ∀ v ∈ c.values, v.isMissing = true ∨ v.isText = true) :
    c.toLevels levels = .ok ⟨.category (some levels), c.values.map (levelIn levels)⟩ := by
  have htexts : ∀ v ∈ c.present, v.isText = true := by
    intro v hv
    obtain ⟨hv, hm⟩ := List.mem_filter.1 hv
    rcases h v hv with hmissing | htext
    · rw [hmissing] at hm
      cases hm
    · exact htext
  refine toLevels_of_comparable ?_ (comparable_of_texts levels htexts)
  rw [Value.unhashableIn?_eq_none_iff]
  intro v hv
  obtain ⟨s, hs, -⟩ := Value.text_of_isText (htexts v hv)
  exact Value.unhashable?_of_held?_eq_none (Value.held?_of_meaning? hs)

end Column

end Coercion
