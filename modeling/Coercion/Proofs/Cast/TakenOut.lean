import Coercion.Proofs.Cast.Constructed
import Coercion.Proofs.Column.TakenOut

/-!
Texts and numbers out of levels. The values of a categorical are taken out of the levels before storage reads them:
integers beside a missing value are floating-point numbers then. A cast takes the values apart and reads them as a
vector of their own, in which integers beside fractions are floating-point numbers. Where neither shows in the result,
or no value is changed by it, both lead to the same vector.
-/

namespace Coercion

open VectorType Column

variable {s t : VectorType} {stored levels xs : List Value} {v inner : TypedVector} {c d : Column} {x y z : Value}
  {f : Family} {r result : CastResult} {decompose : Bool}

namespace Registry

/-! ### Texts -/

end Registry

/-! ### Numbers as they are stored -/

namespace Value

end Value

namespace Registry

/-- What a number is read as, where the values that it stands among are found to be of a number type. -/
inductive IsReadAs : VectorType → Value → Value → Prop where
  | truth {x : Value} {b : Bool} (plain : x.plain = .bool b) : IsReadAs .logical x (.bool b)
  | whole {x : Value} {n : Int} (family : x.family = .ok .integer)
    (meaning : x.meaning? = some (.number (.finite n))) : IsReadAs .integer x (.int n)
  | number {x : Value} {z : Double} (family : x.family = .ok .double ∨ x.family = .ok .integer)
    (stored : x.toStoredDouble = .ok z) : IsReadAs .double x (.double (z.narrow BinaryFormat.double))

lemma IsReadAs.isMissing_eq (h : IsReadAs s x y) (hm : x.isMissing = false) : y.isMissing = false := by
  cases h with
  | truth => rfl
  | whole => rfl
  | number hfamily hz =>
    have hdefined := Value.isNan_toStoredDouble hfamily hm hz
    exact (Double.isNan_narrow _ _).trans hdefined

/-- Whether an integer has been a floating-point number in the meantime, when it is taken out of levels or when the
values are read, which it is not equal to. -/
def Rounded (stored : List Value) (v : TypedVector) (x : Value) : Prop :=
  x.isMissing = false ∧ x.Between ∧
    (HasGap stored v.column ∨ ∃ y ∈ v.values, y.isMissing = false ∧ y.isFraction = true)

lemma IsReadAs.family_eq (h : IsReadAs s x y) : ∃ f, x.family = .ok f ∧ f ≠ .datetime := by
  cases h with
  | truth hplain => exact ⟨.logical, by rw [Value.family, hplain], by decide⟩
  | whole hfamily => exact ⟨.integer, hfamily, by decide⟩
  | number hfamily _ =>
    rcases hfamily with hx | hx
    · exact ⟨_, hx, by decide⟩
    · exact ⟨_, hx, by decide⟩

end Registry

end Coercion
