import Coercion.VectorType.Build

/-!
Classes that can stand for a type. A class of values is known to callers by a short name; beside it stands its full name,
which is what messages show, and under which the table of types may hold a type for its values. A class of types stands
for the one of its types that has no payload.
-/

namespace Coercion

/-- A class of values. -/
structure ValueClass where
  name : String
  fullName : String

namespace ValueClass

/-- All classes. -/
def all : List ValueClass := [
  ⟨"int", "int"⟩,
  ⟨"float", "float"⟩,
  ⟨"bool", "bool"⟩,
  ⟨"str", "str"⟩,
  ⟨"list", "list"⟩,
  ⟨"date", "datetime.date"⟩,
  ⟨"datetime", "datetime.datetime"⟩,
  ⟨"NoneType", "NoneType"⟩,
  ⟨"Timestamp", "pandas._libs.tslibs.timestamps.Timestamp"⟩,
  ⟨"np.int64", "numpy.int64"⟩,
  ⟨"np.integer", "numpy.integer"⟩,
  ⟨"np.float64", "numpy.float64"⟩,
  ⟨"np.floating", "numpy.floating"⟩,
  ⟨"np.bool_", "numpy.bool"⟩,
  ⟨"np.str_", "numpy.str_"⟩,
  ⟨"np.datetime64", "numpy.datetime64"⟩,
  ⟨"Int64Dtype", "pandas.core.arrays.integer.Int64Dtype"⟩,
  ⟨"CategoricalDtype", "pandas.core.dtypes.dtypes.CategoricalDtype"⟩,
  ⟨"BooleanDtype", "pandas.core.arrays.boolean.BooleanDtype"⟩,
  ⟨"PeriodDtype", "pandas.core.dtypes.dtypes.PeriodDtype"⟩,
  ⟨"DatetimeTZDtype", "pandas.core.dtypes.dtypes.DatetimeTZDtype"⟩,
  ⟨"StringDtype", "pandas.core.arrays.string_.StringDtype"⟩,
  ⟨"Float32Dtype", "pandas.core.arrays.floating.Float32Dtype"⟩,
  ⟨"bytes", "bytes"⟩,
  ⟨"dict", "dict"⟩,
  ⟨"object", "object"⟩,
  ⟨"tuple", "tuple"⟩,
  ⟨"np.int32", "numpy.int32"⟩]

/-- The class with a short name. -/
def find? (name : String) : Option ValueClass :=
  all.find? (·.name == name)

/-- The quoted form of the class with a full name. -/
def quotedName (fullName : String) : String :=
  "<class '" ++ fullName ++ "'>"

/-- The quoted form of a class. -/
def quoted (c : ValueClass) : String :=
  quotedName c.fullName

end ValueClass

/-- A class of types, with the place that its quoted form names and the type that it stands for. -/
structure TypeClass where
  place : String
  type : VectorType

namespace TypeClass

/-- All classes. -/
def all : List TypeClass := [
  ⟨"pdcoerce.types.missing", .null⟩,
  ⟨"pdcoerce.types.missing", .unspecified⟩,
  ⟨"pdcoerce.types.boolean", .logical⟩,
  ⟨"pdcoerce.types.boolean", .family true⟩,
  ⟨"pdcoerce.types.integer", .integer⟩,
  ⟨"pdcoerce.types.float", .double⟩,
  ⟨"pdcoerce.types.string", .character⟩,
  ⟨"pdcoerce.types.list", .list⟩,
  ⟨"pdcoerce.types.categorical", .categorical []⟩,
  ⟨"pdcoerce.types.datetime", .date⟩,
  ⟨"pdcoerce.types.datetime", .datetime none⟩,
  ⟨"tests.binned", .binned []⟩,
  ⟨"pdcoerce.types.base", .family false⟩]

/-- The class with a name. -/
def find? (name : String) : Option TypeClass :=
  all.find? fun c => c.type.className == name

/-- The quoted form of a class. -/
def quoted (c : TypeClass) : String :=
  "<class '" ++ c.place ++ "." ++ c.type.className ++ "'>"

end TypeClass

end Coercion
