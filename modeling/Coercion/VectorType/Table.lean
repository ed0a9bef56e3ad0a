import Coercion.VectorType.Class

/-!
The table of types. Every kind is registered once, under its tag and under any number of further names; no name may
be taken twice, and a registration that fails changes nothing.
-/

namespace Coercion

/-! ## Names -/

/-- What a type can be asked for by. -/
inductive Alias where
  /-- A text, or another value that can be a member of a set and is equal to itself. -/
  | value (v : Value) (hashable : v.unhashable? = none) (self : v.same v = true)
  /-- A class of values, known by its full name. -/
  | valueClass (fullName : String)
  /-- A missing value, or another object that is equal to nothing but itself: its quoted form, and which of the objects
  of this form it is. -/
  | object (quoted : String) (number : Nat)

namespace Alias

/-- A text as a name. -/
def word (s : String) : Alias :=
  .value (.text s) rfl (by simp [Value.same, Value.meaning?])

/-- A value as a name, which has to be one that can be a member of a set. The number tells it from other objects if it
is not equal to itself. -/
def ofValue (v : Value) (number : Nat) : Except Failure Alias :=
  match hashable : v.unhashable? with
  | some kind => .error (.unhashable kind)
  | none => .ok (if self : v.same v = true then .value v hashable self else .object v.quoted number)

/-- The quoted form of a name. -/
def quoted : Alias → String
  | .value v _ _ => v.quoted
  | .valueClass name => ValueClass.quotedName name
  | .object quoted _ => quoted

/-- Whether two names are the same. -/
def same : Alias → Alias → Bool
  | .value v _ _, .value w _ _ => v.same w
  | .valueClass m, .valueClass n => m == n
  | .object p m, .object q n => p == q && m == n
  | _, _ => false

instance : BEq Alias := ⟨same⟩

end Alias

/-! ## The table -/

/-- The kinds with the type that stands for each of them, and the names for the kinds. -/
structure TypeTable where
  kinds : List (String × VectorType)
  aliases : List (Alias × VectorType)
  deriving Inhabited

/-- What may be offered for registration. -/
inductive Candidate where
  /-- A class of types: its name, the tag of its kind, its further names, and its type without a payload. -/
  | kind (className : String) (tag : Tag) (aliases : List Alias) (type : VectorType)
  /-- Anything else, with its displayed form. -/
  | other (display : String)

/-- A step that changes a table. What it has entered stays there if it fails later on. -/
abbrev Enrolment := ExceptT Failure (StateM TypeTable)

namespace TypeTable

/-- The table without kinds. -/
def empty : TypeTable := ⟨[], []⟩

/-- The type under a key. -/
def under {κ : Type} [BEq κ] (entries : List (κ × VectorType)) (key : κ) : Option VectorType :=
  (entries.find? (·.1 == key)).map (·.2)

/-- The entries with a type under a key, in the place of the one that has been there. -/
def put {κ : Type} [BEq κ] (key : κ) (type : VectorType) : List (κ × VectorType) → List (κ × VectorType)
  | [] => [(key, type)]
  | (k, old) :: entries => if k == key then (k, type) :: entries else (k, old) :: put key type entries

/-- The type that a name stands for. -/
def find? (table : TypeTable) (name : Alias) : Option VectorType :=
  under table.aliases name

/-- The type that stands for a kind. -/
def kind? (table : TypeTable) (kind : String) : Option VectorType :=
  under table.kinds kind

end TypeTable

namespace Enrolment

open TypeTable

/-- Enters a kind. -/
def enterKind (kind : String) (type : VectorType) : Enrolment Unit :=
  modify fun table => { table with kinds := put kind type table.kinds }

/-- Enters a name for a type. -/
def enterName (type : VectorType) (name : Alias) : Enrolment Unit :=
  modify fun table => { table with aliases := put name type table.aliases }

/-- Enters a kind and its names, of which the tag is one, unless one of them is taken. -/
def add : Candidate → Enrolment Unit
  | .other display => throw (.notAKindClass display)
  | .kind className (.other _ _) _ _ => throw (.kindWithoutName className)
  | .kind className (.name kind) aliases type =>
    if kind.isEmpty then throw (.kindWithoutName className)
    else do
      let table ← get
      if (table.kind? kind).isSome then throw (.kindTaken kind)
      else
        let names := (aliases ++ [Alias.word kind]).eraseDups
        let taken := names.filter fun a => (table.find? a).isSome
        if taken.isEmpty then do
          enterKind kind type
          names.forM (enterName type)
        else throw (.aliasesTaken (taken.map Alias.quoted))

end Enrolment

namespace TypeTable

/-- Offers a candidate for registration: what comes of it, and the table afterwards. -/
def offer (table : TypeTable) (candidate : Candidate) : Except Failure Unit × TypeTable :=
  (Enrolment.add candidate).run table

/-- The table after some offers, whether or not they were accepted. -/
def after (table : TypeTable) (candidates : List Candidate) : TypeTable :=
  candidates.foldl (fun table candidate => (table.offer candidate).2) table

/-- The kinds that are always there, with their further names and the classes of values that stand for them. -/
def standardKinds : List (VectorType × List String × List String) := [
  (.null, ["NULL", "none", "None"], ["NoneType"]),
  (.unspecified, ["NA"], []),
  (.logical, ["bool", "boolean", "b1", "?"],
    ["bool", "numpy.bool", "pandas.core.arrays.boolean.BooleanDtype"]),
  (.integer, ["int", "int64", "i8", "signed"],
    ["int", "numpy.integer", "numpy.int64", "pandas.core.arrays.integer.Int8Dtype",
      "pandas.core.arrays.integer.Int16Dtype", "pandas.core.arrays.integer.Int32Dtype",
      "pandas.core.arrays.integer.Int64Dtype", "pandas.core.arrays.integer.UInt8Dtype",
      "pandas.core.arrays.integer.UInt16Dtype", "pandas.core.arrays.integer.UInt32Dtype",
      "pandas.core.arrays.integer.UInt64Dtype"]),
  (.double, ["float", "float64", "f8", "d", "numeric"],
    ["float", "numpy.floating", "numpy.float64", "pandas.core.arrays.floating.Float32Dtype",
      "pandas.core.arrays.floating.Float64Dtype"]),
  (.character, ["string", "str", "unicode", "U"],
    ["str", "numpy.str_", "pandas.core.arrays.string_.StringDtype"]),
  (.list, ["object_list"], ["list"]),
  (.categorical [], ["category", "factor"], ["pandas.core.dtypes.dtypes.CategoricalDtype"]),
  (.date, ["day"], ["datetime.date", "pandas.core.dtypes.dtypes.PeriodDtype"]),
  (.datetime none, ["timestamp", "datetime64", "M8"],
    ["datetime.datetime", "pandas._libs.tslibs.timestamps.Timestamp", "numpy.datetime64",
      "pandas.core.dtypes.dtypes.DatetimeTZDtype"]),
  (.binned [], ["bins"], [])]

/-- The kinds that are always there, as they are offered for registration. -/
def standardCandidates : List Candidate :=
  standardKinds.map fun (type, names, classes) =>
    .kind type.className type.tag (names.map Alias.word ++ classes.map Alias.valueClass) type

/-- The table of the kinds that are always there. -/
def standard : TypeTable :=
  empty.after standardCandidates

end TypeTable

end Coercion
