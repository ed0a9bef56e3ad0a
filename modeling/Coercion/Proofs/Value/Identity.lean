import Coercion.Column.Text
import Coercion.Vector.Detect
import Coercion.Proofs.Value.Equality

/-!
Identity of stored values. Values that say the same are identical, and a list of values is identical to another if each
value is identical to the one at its place. Texts say what they show, whether or not they carry the mark of a
typed array.
-/

namespace Coercion

/-- Whether two values are the same: one and the same, equal, or both missing. -/
def Value.Alike (x y : Value) : Prop :=
  x = y ∨ x.same y = true ∨ x.isMissing = true ∧ y.isMissing = true

lemma Value.Alike.isMissing_eq {x y : Value} (h : x.Alike y) : x.isMissing = y.isMissing := by
  rcases h with rfl | hsame | ⟨hx, hy⟩
  · rfl
  · exact same_isMissing hsame
  · rw [hx, hy]

lemma Value.Alike.symm {x y : Value} (h : x.Alike y) : y.Alike x := by
  rcases h with rfl | hsame | ⟨hx, hy⟩
  · exact .inl rfl
  · exact .inr (.inl (same_symm hsame))
  · exact .inr (.inr ⟨hy, hx⟩)

namespace Value

/-- Equal values are identical. -/
lemma identical_of_same {v w : Value} (h : v.same w = true) : v.identical w = true := by
  induction v using heldInduction generalizing w with
  | step v ih =>
    have hall : ∀ s xs ys, v.held? = some (s, xs) → sameAll xs ys = true → identicalAll xs ys = true := by
      intro s xs ys hv hsame
      have hmem := ih s xs hv
      rw [sameAll_iff] at hsame
      clear hv
      induction hsame with
      | nil => rfl
      | cons hab _ ihl =>
        rw [identicalAll, hmem _ (by simp) hab, ihl fun x hx => hmem x (by simp [hx])]
        rfl
    unfold identical
    split
    case h_5 xs ys => exact hall .list xs ys rfl h
    case h_6 xs ys => exact hall .tuple xs ys rfl (same_tuple xs ys ▸ h)
    all_goals first | rfl | exact h

/-- Values that say the same are identical. -/
lemma identical_of_meaning? {v w : Value} {m : Meaning} (hv : v.meaning? = some m) (hw : w.meaning? = some m) :
    v.identical w = true := by
  have hsame : v.same w = true := (same_iff v w).2 (Or.inl ⟨m, hv, hw⟩)
  exact identical_of_same hsame

/-- Identical values are equal, or both missing. -/
lemma same_of_identical {v w : Value} (hheld : v.held? = none) (h : v.identical w = true) :
    v.same w = true ∨ v.isMissing = true ∧ w.isMissing = true := by
  unfold identical at h
  split at h <;> first | exact Or.inr ⟨rfl, rfl⟩ | cases hheld | exact Or.inl h

lemma isMissing_of_identical {x y : Value} (h : x.identical y = true) : x.isMissing = y.isMissing := by
  unfold identical at h
  split at h <;> first | rfl | exact same_isMissing h

/-- What is identical to a missing value, or to what says what a text says, is so too. -/
lemma identical_single {v w : Value} (hv : v.isMissing = true ∨ ∃ s, v.meaning? = some (.text s))
    (h : v.identical w = true) : w.isMissing = true ∨ ∃ s, w.meaning? = some (.text s) := by
  have hheld : v.held? = none := by
    rcases hv with hm | ⟨s, hs⟩
    · exact ((isMissing_iff v).1 hm).1
    · exact held?_of_meaning? hs
  rcases same_of_identical hheld h with hsame | ⟨-, hm⟩
  · rcases hv with hm | ⟨s, hs⟩
    · rw [same_isMissing hsame] at hm
      exact Or.inl hm
    · exact Or.inr ⟨s, (same_iff_of_meaning? hs w).1 hsame⟩
  · exact Or.inl hm

lemma identicalAll_map {g : Value → Value} {xs : List Value} (h : ∀ x ∈ xs, (g x).identical x = true) :
    identicalAll (xs.map g) xs = true := by
  induction xs with
  | nil => rfl
  | cons x xs ih =>
    rw [List.map_cons, identicalAll, h x (by simp), ih fun y hy => h y (by simp [hy])]
    rfl

lemma identicalAll_iff (xs ys : List Value) :
    identicalAll xs ys = true ↔ List.Forall₂ (fun x y => x.identical y = true) xs ys := by
  induction xs generalizing ys with
  | nil => cases ys <;> simp [identicalAll]
  | cons x xs ih => cases ys <;> simp [identicalAll, ih]

lemma identicalAll_self {xs : List Value} (h : ∀ x ∈ xs, x.identical x = true) : identicalAll xs xs = true :=
  (identicalAll_iff xs xs).2 (List.forall₂_same.2 h)

/-- What is a text says so, and is shown as what it says. -/
lemma text_of_isText {x : Value} (h : x.isText = true) :
    ∃ s, x.meaning? = some (.text s) ∧ Column.textOf x = s ∧ x.family = .ok .character ∧ x.isMissing = false := by
  cases x with
  | text s => exact ⟨s, rfl, rfl, rfl, rfl⟩
  | scalar e v =>
    cases e <;> cases v <;> first | exact ⟨_, rfl, rfl, rfl, rfl⟩ | cases h
  | _ => cases h

lemma meaning?_plain (x : Value) : x.plain.meaning? = x.meaning? := by
  unfold plain
  split <;> rfl

/-- Among the values that have a family only texts say what a text says. -/
lemma isText_of_family {x : Value} {f : Family} {s : String} (hf : x.family = .ok f)
    (hs : x.meaning? = some (.text s)) : x.isText = true := by
  rw [← meaning?_plain] at hs
  rw [family] at hf
  rw [isText]
  cases hp : x.plain with
  | text r => rfl
  | double d =>
    rw [hp] at hs
    cases hq : d.quantity <;> simp [meaning?, quantity?, hq] at hs
  | moment r zone =>
    rw [hp] at hs
    cases zone <;> cases hs
  | ticks r unit =>
    rw [hp] at hs
    cases r <;> cases hs
  | scalar e v =>
    rw [hp] at hf hs
    -- of elements of typed arrays only lengths of time have a family here
    cases e with
    | span => cases v <;> first | (cases hf; done) | simp [meaning?, quantity?, momentOf?] at hs
    | _ => cases hf
  | _ =>
    rw [hp] at hf hs
    first | cases hs | cases hf

end Value

end Coercion
