import Coercion.VectorType.Construct

/-!
Typed vectors. A vector is a column beside the type that it has; the type is carried along and not read off the column,
so that levels, zones and boundaries survive where storage cannot express them.
-/

namespace Coercion

/-- A column with its type. -/
structure TypedVector where
  type : VectorType
  column : Column
  deriving Inhabited

namespace TypedVector

/-- The number of elements. -/
def size (v : TypedVector) : Nat :=
  v.column.size

/-- The elements. -/
def values (v : TypedVector) : List Value :=
  v.column.values

/-- Whether two vectors have the same type and the same elements. -/
def same (v w : TypedVector) : Bool :=
  v.type == w.type && v.column.same w.column

/-- The quoted form of a vector: its type and the first of its elements. -/
def quoted (v : TypedVector) : String :=
  "Vector<" ++ v.type.display ++ ">(" ++ Value.shortenList v.values 10 ++ ")"

end TypedVector

namespace VectorType

/-- A vector of a type, made from a column. -/
def vectorOf (t : VectorType) (c : Column) : Except Failure TypedVector := do
  return ⟨t, ← t.construct c⟩

/-- The vector of a type without elements. -/
def empty (t : VectorType) : Except Failure TypedVector :=
  t.vectorOf (.ofValues [])

/-- The vector of `n` missing elements of a type. -/
def missingVector (t : VectorType) (n : Nat) : Except Failure TypedVector :=
  t.vectorOf (.ofValues (List.replicate n .absent))

end VectorType

end Coercion
