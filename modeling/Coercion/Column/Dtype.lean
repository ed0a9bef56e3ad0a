import Coercion.Value.Text

/-!
Storage formats. The format of a column says which elements it holds and how it marks a missing one.
-/

namespace Coercion

/-- A storage format. -/
inductive Dtype where
  /-- Any values, as they are. -/
  | object
  /-- Elements of one kind. -/
  | typed (e : Element)
  /-- Elements of one kind, each of which may be missing. -/
  | nullable (e : Element)
  /-- Texts, each of which may be missing. -/
  | string
  /-- Members of a list of levels; the levels may be left open. -/
  | category (levels : Option (List Value))
  /-- Spans of the calendar of one length. -/
  | period (frequency : String)
  /-- Clock readings, or instants in a zone. -/
  | instants (unit : String) (zone : Option Zone)
  deriving Inhabited

namespace Dtype

/-- Nullable truth values. -/
def boolean : Dtype := .nullable .bool

/-- Nullable eight-byte integers. -/
def int64 : Dtype := .nullable (.int 64)

/-- Eight-byte floating-point numbers. -/
def float64 : Dtype := .typed (.float 64)

/-- Days. -/
def days : Dtype := .period "D"

/-- The format of members of some levels, which have to be present and distinct. -/
def ofLevels? (levels : List Value) : Option Dtype :=
  let repeated := levels.any fun v => 1 < levels.countP fun w => w.same v
  if levels.any Value.isMissing || repeated then none else some (.category (some levels))

/-- The name of a format of instants in a zone that is known under a label. -/
def instantsName (unit : String) (label : Option String) : String :=
  "datetime64[" ++ unit ++ ((label.map (", " ++ ·)).getD "") ++ "]"

/-- The displayed name of a format. -/
def display : Dtype → String
  | .object => "object"
  | .typed .text => "<U1"
  | .typed e => e.name
  | .nullable .bool => "boolean"
  | .nullable (.int w) => "Int" ++ toString w
  | .nullable (.uint w) => "UInt" ++ toString w
  | .nullable (.float w) => "Float" ++ toString w
  | .nullable e => e.name
  | .string => "string"
  | .category _ => "category"
  | .period f => "period[" ++ f ++ "]"
  | .instants unit zone => instantsName unit (zone.map Zone.storageText)

/-- The quoted form of a format. -/
def quoted : Dtype → String
  | .object => "dtype('O')"
  | .typed (.span unit) => "dtype('<m8[" ++ unit ++ "]')"
  | .instants unit none => "dtype('<M8[" ++ unit ++ "]')"
  | .typed e => "dtype('" ++ e.name ++ "')"
  | d => d.display

/-- The marker of a missing element. -/
def missing : Dtype → Value
  | .object | .typed .object => .absent
  | .nullable _ | .string => .notAvailable
  | .period _ | .instants _ _ | .typed (.moment _) | .typed (.span _) => .notATime
  | .typed _ | .category _ => .double .nan

/-- Whether two formats hold the same elements; the order of levels matters. -/
def same : Dtype → Dtype → Bool
  | .object, .object => true
  | .typed a, .typed b => a == b
  | .nullable a, .nullable b => a == b
  | .string, .string => true
  | .category none, .category none => true
  | .category (some a), .category (some b) => Value.sameAll a b
  | .period a, .period b => a == b
  | .instants u a, .instants v b => u == v && a == b
  | _, _ => false

end Dtype

end Coercion
