import Coercion.Proofs.Cast.Opened

/-!
Columns of levels, taken out. Storage takes the values of a categorical out of its levels before it reads them, and
integers beside a missing value are floating-point numbers then. So the text of such an integer is another one than the
integer has, and a large one may be rounded; whatever else is taken out is read as the levels are.
-/

namespace Coercion

open VectorType Column

variable {stored : List Value} {c d : Column} {x : Value}

/-! ### Texts of numbers and of bytes -/

namespace Double

/-- Characters that are in the text of every floating-point number, one or the other, and in that of no integer. -/
def marks : List Char := ['.', 'e', 'n']

end Double

namespace Column

/-- Whether a column has integers alone for levels, and a missing value. -/
def HasGap (stored : List Value) (c : Column) : Prop :=
  stored.all Value.isInt = true ∧ ∃ x ∈ c.values, x.isMissing = true

/-- Whether a value is written in another way when its column is turned into texts than it is displayed. -/
def WrittenApart (stored : List Value) (c : Column) (x : Value) : Prop :=
  (∃ bs, x = .bytes bs) ∨ HasGap stored c ∧ ∃ n, x = .int n

end Column

/-! ### Numbers out of levels -/

/-- Whether no floating-point number of eight bytes is equal to a value. -/
def Value.Between (x : Value) : Prop :=
  ∀ d : Double, d.IsBinary64 → x.same (.double d) = false

namespace Column

end Column

end Coercion
