import Coercion.Proofs.Unify.Fold

/-!
Kindred types. Whether two standard types have a common type depends on little more than the families that they
belong to, and the family of the common type is determined by theirs. So every type of a list fits the type that is
found for the list, although it may never have been paired with it.
-/

namespace Coercion

/-- A family of standard types. Floating-point numbers are a family of their own, since they meet both the other
numbers and the binned ones. -/
inductive Kindred where
  | null
  | unspecified
  | whole
  | real
  | binned
  | text
  | list
  | time
  deriving DecidableEq

namespace Kindred

instance : Fintype Kindred where
  elems := {.null, .unspecified, .whole, .real, .binned, .text, .list, .time}
  complete a := by cases a <;> decide

/-- The family of the common type of types from two families. -/
def join? : Kindred → Kindred → Option Kindred
  | .null, b => some b
  | a, .null => some a
  | .unspecified, .unspecified => some .whole
  | .unspecified, b => some b
  | a, .unspecified => some a
  | .whole, .real | .real, .whole | .real, .binned | .binned, .real => some .real
  | a, b => if a = b then some a else none

/-- Whether vectors of a type of one family can become vectors of a type of another. -/
def Fits : Kindred → Kindred → Prop
  | a, .null => a = .null
  | a, .unspecified => a = .null ∨ a = .unspecified
  | a, b => (join? a b).isSome = true

instance (a b : Kindred) : Decidable (Fits a b) := by
  cases b <;> unfold Fits <;> infer_instance

/-- What fits a family still fits after another has joined it, and so does the other. -/
theorem fits_join {a b c d : Kindred} (hab : Fits a b) (h : join? b c = some d) : Fits a d := by
  revert a b c d
  decide

theorem join_fits {b c d : Kindred} (h : join? b c = some d) : Fits c d := by
  revert b c d
  decide

end Kindred

namespace VectorType

/-- The family of a standard type. -/
def kindred : VectorType → Kindred
  | .unspecified => .unspecified
  | .logical | .integer => .whole
  | .double => .real
  | .binned _ => .binned
  | .character | .categorical _ => .text
  | .list => .list
  | .date | .datetime _ => .time
  | _ => .null

/-- Whether vectors of one standard type can become vectors of another. -/
def Fits (x y : VectorType) : Prop := x.kindred.Fits y.kindred

variable {x y t : VectorType}

lemma kindred_common? {strict : Bool} (hx : x.IsStandard) (hy : y.IsStandard) (h : common? strict x y = some t) :
    x.kindred.join? y.kindred = some t.kindred := by
  cases hx with
  | categorical ha =>
    cases hy with
    | categorical hb => rw [common?] at h; split_ifs at h <;> cases h <;> rfl
    | _ => cases h <;> rfl
  | datetime a =>
    cases hy with
    | datetime b => rw [common?] at h; split_ifs at h <;> cases h <;> rfl
    | _ => cases h <;> rfl
  | _ => cases hy <;> cases h <;> rfl

/-- **The fold keeps what it has found.** Every type that fits what has been found, and every type of the list, fits
what is found in the end. -/
theorem fits_commonFrom? {strict : Bool} {found : VectorType} {ts : List VectorType} (hfound : found.IsStandard)
    (hts : ∀ t ∈ ts, t.IsStandard) (h : commonFrom? strict found ts = some t) :
    (∀ s, Fits s found → Fits s t) ∧ ∀ s ∈ ts, Fits s t := by
  induction ts generalizing found with
  | nil =>
    cases h
    exact ⟨fun _ hs => hs, by simp⟩
  | cons u us ih =>
    have hu : u.IsStandard := hts u (by simp)
    obtain ⟨next, hc, h⟩ := commonFrom?_cons_eq_some.1 h
    have hjoin := kindred_common? hfound hu hc
    obtain ⟨hkept, hus⟩ := ih (common?_isStandard hfound hu hc) (fun s hs => hts s (by simp [hs])) h
    refine ⟨fun s hs => hkept s (Kindred.fits_join hs hjoin), ?_⟩
    intro s hs
    rcases List.mem_cons.1 hs with rfl | hs
    · exact hkept s (Kindred.join_fits hjoin)
    · exact hus s hs

/-- A type that has a common type with a type that has values fits it. -/
lemma fits_of_common? {strict : Bool} (hx : x.IsStandard) (hy : y.IsStandard) (htyped : y.isTyped = true)
    (h : common? strict x y = some t) : Fits x y := by
  have hjoin := kindred_common? hx hy h
  have hsome : (x.kindred.join? y.kindred).isSome = true := by rw [hjoin]; rfl
  cases hy <;> first | exact hsome | exact absurd htyped (by decide)

end VectorType

end Coercion
