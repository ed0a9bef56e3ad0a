import Coercion.Proofs.Cast.Kept
import Coercion.Proofs.Cast.RoundTrip

/-!
Levels as texts and back. The cast to texts never flags anything, but a text says no more than what a level is shown as:
levels that are shown alike become one text, and on the way back only a level that is itself a text is found again.
-/

namespace Coercion

/-- A vector of the same type and in the same storage, with a single value. -/
def TypedVector.alone (v : TypedVector) (x : Value) : TypedVector :=
  ⟨v.type, ⟨v.column.dtype, [x]⟩⟩

namespace Value

variable {x y : Value}

end Value

namespace Registry

open VectorType Column

variable {v : TypedVector} {levels ls : List Value} {decompose : Bool} {x : Value}

/-! ### The way there -/

end Registry

end Coercion
