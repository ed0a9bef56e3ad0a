import Coercion.Column.Dtype

/-!
Types of vectors. A type is a kind together with a payload: the levels of a categorical, the zone of a datetime, the
boundaries of a binned type, or the parameters of a kind of the user's own. A type describes how its
vectors are stored and which marker their missing values carry.
-/

namespace Coercion

/-- The name under which rules for a kind are found. A kind that has no name is known by the value in
its place, with its quoted form and the name of its class. -/
inductive Tag where
  | name (s : String)
  | other (quoted className : String)
  deriving DecidableEq, Inhabited

namespace Tag

/-- The quoted form of a tag. -/
def quoted : Tag → String
  | .name s => Text.quoted s
  | .other q _ => q

/-- The tag of kinds that stand for a family of others. -/
def unnamed : Tag := .other "None" "NoneType"

end Tag

/-- A kind of the user's own. -/
structure CustomKind where
  /-- The name of the class of its types. -/
  className : String
  tag : Tag
  storage : Dtype
  missing : Value
  deriving Inhabited

/-- A type of vectors. -/
inductive VectorType where
  /-- Empty vectors. -/
  | null
  /-- Vectors of missing values only. -/
  | unspecified
  | logical
  | integer
  | double
  | character
  | list
  | categorical (levels : List Value)
  | date
  | datetime (zone : Option Zone)
  /-- Numbers between the first and the last of some boundaries. -/
  | binned (boundaries : List Double)
  | custom (kind : CustomKind) (params : List (String × Value))
  /-- A family of kinds, of all of them or of the numeric ones; it has no vectors of its own. -/
  | family (numeric : Bool)
  deriving Inhabited

namespace VectorType

/-- The tag of a type's kind. -/
def tag : VectorType → Tag
  | .null => .name "null"
  | .unspecified => .name "unspecified"
  | .logical => .name "logical"
  | .integer => .name "integer"
  | .double => .name "double"
  | .character => .name "character"
  | .list => .name "list"
  | .categorical _ => .name "categorical"
  | .date => .name "date"
  | .datetime _ => .name "datetime"
  | .binned _ => .name "binned"
  | .custom k _ => k.tag
  | .family _ => .unnamed

/-- The name of the class of a type. -/
def className : VectorType → String
  | .null => "NullType"
  | .unspecified => "UnspecifiedType"
  | .logical => "LogicalType"
  | .integer => "IntegerType"
  | .double => "DoubleType"
  | .character => "CharacterType"
  | .list => "ListType"
  | .categorical _ => "CategoricalType"
  | .date => "DateType"
  | .datetime _ => "DatetimeType"
  | .binned _ => "BinnedType"
  | .custom k _ => k.className
  | .family numeric => if numeric then "NumericType" else "VectorType"

/-- A zone as a value. -/
def zoneValue : Option Zone → Value
  | none => .absent
  | some (.named name) => .text name
  | some (.fixed m) => .offset m

/-- The payload of a type as named values. -/
def params : VectorType → List (String × Value)
  | .categorical levels => [("levels", .tuple levels)]
  | .datetime zone => [("tz", zoneValue zone)]
  | .binned bs => [("boundaries", .tuple (bs.map .double))]
  | .custom _ ps => ps
  | _ => []

/-- A level as storage holds it: without the mark of a typed array, and a clock reading without a zone as an
instant. -/
def storedLevel : Value → Value
  | .scalar .text v | .scalar .bool v | .scalar (.int _) v | .scalar (.uint _) v
  | .scalar (.float _) v => v
  | .moment r none => .instant r none
  | .ticks (some r) _ => .instant r none
  | v => v

/-- Whether a level is stored as an integer. -/
def isIntLevel : Value → Bool
  | .int _ | .scalar (.int _) _ | .scalar (.uint _) _ => true
  | _ => false

/-- Whether a level is stored as a floating-point number. -/
def isDoubleLevel : Value → Bool
  | .double _ | .scalar (.float _) _ => true
  | _ => false

/-- An integer as a floating-point number. -/
def widenedLevel : Value → Value
  | .int n => .double (Double.ofInt n)
  | v => v

/-- The format that numbers among the levels share: whole numbers beside fractions are held as
floating-point numbers. -/
def storedLevels (levels : List Value) : List Value :=
  let levels := levels.map storedLevel
  if levels.all (fun v => isIntLevel v || isDoubleLevel v) && levels.any isDoubleLevel then
    levels.map widenedLevel
  else levels

/-- The format in which vectors of a type are stored. -/
def storage : VectorType → Dtype
  | .logical => .boolean
  | .integer => .int64
  | .double | .binned _ => .float64
  | .character => .string
  | .categorical levels => .category (some (storedLevels levels))
  | .date => .days
  | .datetime zone => .instants "ns" zone
  | .custom k _ => k.storage
  | .null | .unspecified | .list | .family _ => .object

/-- The marker that a type's descriptor gives for missing values. -/
def missing : VectorType → Value
  | .null | .logical | .integer | .character | .categorical _ | .family _ => .notAvailable
  | .unspecified | .list => .absent
  | .double | .binned _ => .double .nan
  | .date | .datetime _ => .notATime
  | .custom k _ => k.missing

/-! ## Text -/

/-- The value in place of a name, if the displayed form of a type would need one. -/
def unnamedClass? (t : VectorType) : Option String :=
  match t.tag with
  | .name _ => none
  | .other _ className => if t.params.isEmpty then some className else none

/-- The displayed form of a type: its kind, and its payload in brackets. -/
def display : VectorType → String
  | .categorical levels => "categorical[" ++ ", ".intercalate (levels.map Value.display) ++ "]"
  | .datetime none => "datetime"
  | .datetime (some z) => "datetime[" ++ z.text ++ "]"
  | .binned bs => "binned[" ++ ", ".intercalate (bs.map Double.render) ++ "]"
  | t =>
    let kind := match t.tag with
      | .name s => s
      | .other q _ => q
    if t.params.isEmpty then kind
    else kind ++ "[" ++ ", ".intercalate (t.params.map fun p => p.2.display) ++ "]"

/-- The quoted form of a type: its class, with its payload as named arguments. -/
def quoted (t : VectorType) : String :=
  t.className ++ "(" ++ ", ".intercalate (t.params.map fun (k, v) => k ++ "=" ++ v.quoted) ++ ")"

/-! ## Equality and order -/

/-- Whether every value of `ys` is equal to one of `xs`. -/
def covers (xs ys : List Value) : Bool :=
  ys.all fun y => y.isIn xs

/-- Equality of types: the kinds are the same and so are the payloads. Levels are compared as a
set. -/
def same : VectorType → VectorType → Bool
  | .categorical a, .categorical b => covers a b && covers b a
  | .categorical _, _ | _, .categorical _ => false
  | .datetime a, .datetime b => a == b
  | x, y => x.tag == y.tag && Value.sameAll (x.params.map (·.2)) (y.params.map (·.2))

instance : BEq VectorType := ⟨same⟩

/-- The place of a numeric kind among the others; the family of them has none. -/
def rank? : VectorType → Option Nat
  | .logical => some 0
  | .integer => some 1
  | .double => some 2
  | _ => none

/-- Whether `x` can represent every value of `y`. -/
def finerThan : VectorType → VectorType → Bool
  | .null, y => match y with
    | .null => true
    | _ => false
  | .unspecified, y => match y with
    | .null | .unspecified => true
    | _ => false
  | .character, y => match y with
    | .character | .categorical _ => true
    | _ => false
  | .categorical a, y => match y with
    | .categorical b => covers a b
    | _ => false
  | .date, y => match y with
    | .date => true
    | _ => false
  | .datetime _, y => match y with
    | .date | .datetime _ => true
    | _ => false
  | .binned a, y => match y with
    | .binned b => b.all fun d => a.any fun c => c.same d
    | _ => false
  | x, y =>
    match x.rank?, y.rank? with
    | some m, some n => n ≤ m
    | some _, none => false
    | none, _ => match x with
      | .family true => false
      | _ => x.same y

/-- Whether a type is a numeric one, the family of them included. -/
def isNumeric : VectorType → Bool
  | .logical | .integer | .double | .family true => true
  | _ => false

/-- The classes of two ranks that cannot be compared, because one of the numeric types has none. -/
def rankFault? (x y : VectorType) : Option (String × String) :=
  let className (t : VectorType) : String := if t.rank?.isSome then "int" else "NoneType"
  if x.isNumeric && y.isNumeric && (x.rank?.isNone || y.rank?.isNone) then
    some (className x, className y)
  else none

/-- The levels of two categoricals in the order in which they are first seen. -/
def unionLevels (a b : List Value) : List Value :=
  a ++ b.filter fun v => !v.isIn a

end VectorType

end Coercion
