import Coercion.Proofs.Cast.Refused

/-!
Construction and casts. A type makes its storage out of the column of a vector, and a caster goes from vector to vector;
where both lead to a type, they are two ways to do the same, written apart. What they have in common is found here:
missing values alone stay missing on either way, what is read of the decomposed form is a vector of one family, and two
columns made of the same values are compared place by place.
-/

namespace Coercion

open VectorType Column

variable {t : VectorType} {v w : TypedVector} {c d e : Column} {x : Value} {decompose : Bool} {r : CastResult}

namespace Column

/-! ### Missing values alone -/

/-- Whether what is made of a column, if anything is, has missing values only. -/
def Voids (e : Dtype) (c : Column) (made : Except Failure Column) : Prop :=
  ∀ d, made = .ok d → d.values = (c.voided e).values

lemma Voids.ite {e : Dtype} {p : Prop} [Decidable p] {made made' : Except Failure Column} (h : Voids e c made)
    (h' : Voids e c made') : Voids e c (if p then made else made') := by
  split_ifs
  · exact h
  · exact h'

lemma Voids.after {e : Dtype} {α : Type} {y : Except Failure α} {made : α → Except Failure Column}
    (h : ∀ a, y = .ok a → Voids e c (made a)) : Voids e c (y >>= made) := by
  intro d hd
  obtain ⟨a, ha, hd⟩ := bind_eq_ok_iff.1 hd
  exact h a ha d hd

section Void

variable (hvoid : ∀ x ∈ c.values, x.isMissing = true)

include hvoid

end Void

end Column

namespace Registry

/-! ### Truth values -/

end Registry

end Coercion
