import Coercion.Proofs.Cast.Number
import Coercion.Proofs.Unify.Order
import Coercion.Proofs.Vector.Sound

/-!
Two domains of types: those of numbers and those of texts. The common type of types of a domain is of the domain again,
and it is found in parts: from what has been found in a first part the search goes on as if it had never stopped.
-/

namespace Coercion

open VectorType

/-- The two domains that vectors may be taken from. -/
inductive Domain where
  | numbers
  | texts
  deriving DecidableEq

/-- The types of a domain. Nothing need be known of a vector among numbers, and texts may be levels. -/
inductive VectorType.IsOf : Domain → VectorType → Prop where
  | null (d : Domain) : IsOf d .null
  | unspecified : IsOf .numbers .unspecified
  | number {t : VectorType} (ht : t.IsNumber) : IsOf .numbers t
  | character : IsOf .texts .character
  | levels {levels : List Value} (legal : LegalLevels levels) (texts : ∀ l ∈ levels, l.isText = true) :
    IsOf .texts (.categorical levels)

variable {d : Domain} {s t u : VectorType} {ts : List VectorType} {levels : List Value}

/-! ### Types of a domain -/

/-- Texts are stored as they are, without the mark of a typed array. -/
lemma storedLevel_of_isText {l : Value} (h : l.isText = true) : ∃ s, storedLevel l = .text s := by
  cases l with
  | text s => exact ⟨s, rfl⟩
  | scalar e w => cases e <;> cases w <;> first | exact ⟨_, rfl⟩ | cases h
  | _ => cases h

namespace VectorType.IsOf

lemma isStandard (ht : t.IsOf d) : t.IsStandard := by
  cases ht with
  | null => exact .null
  | unspecified => exact .unspecified
  | number ht => exact ht.isStandard
  | character => exact .character
  | levels legal _ => exact .categorical legal

lemma isBuiltIn (ht : t.IsOf d) : t.isBuiltIn = true := by
  cases ht with
  | number ht => cases ht <;> rfl
  | _ => rfl

lemma texts (ht : (VectorType.categorical levels).IsOf d) : ∀ l ∈ levels, l.isText = true := by
  cases ht with
  | number ht => cases ht
  | levels _ texts => exact texts

lemma isPure (ht : t.IsOf d) : t.IsPure := by
  refine ⟨ht.isStandard, ht.isBuiltIn, ?_⟩
  rintro levels rfl l hl m _ hint
  obtain ⟨s, hs⟩ := storedLevel_of_isText (ht.texts l hl)
  rw [hs] at hint
  cases hint

lemma isText_storedLevels (ht : (VectorType.categorical levels).IsOf d) :
    ∀ l ∈ storedLevels levels, l.isText = true := by
  rw [ht.isPure.storedLevels_eq]
  intro l hl
  obtain ⟨m, hm, rfl⟩ := List.mem_map.1 hl
  obtain ⟨s, hs⟩ := storedLevel_of_isText (ht.texts m hm)
  rw [hs]
  rfl

/-- The common type of two types of a domain is of the domain. -/
lemma common? (hx : s.IsOf d) (hy : u.IsOf d) (h : VectorType.common? strict s u = some t) : t.IsOf d := by
  cases hx with
  | null =>
    rw [common?_null_left] at h
    cases h
    exact hy
  | unspecified =>
    cases hy with
    | number hu => cases hu <;> cases h <;> exact .number (by constructor)
    | null =>
      cases h
      exact .unspecified
    | unspecified =>
      cases h
      exact .number .logical
  | number hs =>
    cases hy with
    | number hu => cases hs <;> cases hu <;> cases h <;> exact .number (by constructor)
    | _ => cases hs <;> cases h <;> exact .number (by constructor)
  | character =>
    cases hy <;> cases h <;> exact .character
  | levels legal texts =>
    cases hy with
    | null =>
      cases h
      exact .levels legal texts
    | character =>
      cases h
      exact .character
    | levels legal' texts' =>
      rw [VectorType.common?] at h
      split_ifs at h <;> cases h
      · exact .levels legal texts
      · exact .levels legal' texts'
      · refine .levels (legalLevels_unionLevels legal legal') ?_
        intro l hl
        rcases (mem_unionLevels _ _ l).1 hl with hl | ⟨hl, -⟩
        · exact texts l hl
        · exact texts' l hl

lemma commonFrom? (hs : s.IsOf d) (hts : ∀ u ∈ ts, u.IsOf d) (h : VectorType.commonFrom? strict s ts = some t) :
    t.IsOf d := by
  induction ts generalizing s with
  | nil =>
    cases h
    exact hs
  | cons u us ih =>
    obtain ⟨next, hc, h⟩ := commonFrom?_cons_eq_some.1 h
    have hnext := hs.common? (hts u List.mem_cons_self) hc
    have hrest : ∀ r ∈ us, r.IsOf d := by
      intro r hr
      exact hts r (List.mem_cons_of_mem u hr)
    exact ih hnext hrest h

end VectorType.IsOf

/-! ### The search in parts -/

namespace VectorType

/-- The type that vectors of a common type are combined into: nothing known is taken for truth values. -/
def known : VectorType → VectorType
  | .unspecified => .logical
  | t => t

lemma known_eq_self (h : t ≠ .unspecified) : t.known = t := by
  cases t <;> first | rfl | exact absurd rfl h

lemma commonFrom?_append (strict : Bool) (s : VectorType) (ts us : List VectorType) :
    commonFrom? strict s (ts ++ us) = (commonFrom? strict s ts).bind fun t => commonFrom? strict t us := by
  induction ts generalizing s with
  | nil => rfl
  | cons t ts ih =>
    rw [List.cons_append, commonFrom?, commonFrom?]
    cases common? strict s t with
    | none => rfl
    | some next => exact ih next

/-- Truth values in the place of nothing known lead to the same type. -/
lemma commonFrom?_known (strict : Bool) (hts : ∀ t ∈ ts, t.IsOf .numbers) :
    (commonFrom? strict .logical ts).map known = (commonFrom? strict .unspecified ts).map known := by
  induction ts with
  | nil => rfl
  | cons t ts ih =>
    have hrest := ih fun u hu => hts u (by simp [hu])
    rw [commonFrom?, commonFrom?]
    cases hts t (by simp) with
    | null => exact hrest
    | unspecified => rfl
    | number ht => cases ht <;> rfl

end VectorType

end Coercion
