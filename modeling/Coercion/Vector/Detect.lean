import Coercion.Vector.Basic
import Coercion.VectorType.Specifier

/-!
Vectors from raw data. The type of raw data is found from its values: each belongs to one family, and all of them have
to belong to the same one, except that integers may stand beside floating-point numbers. Missing values tell nothing.
-/

namespace Coercion

/-- The families of single values. -/
inductive Family where
  | logical
  | integer
  | double
  | character
  | list
  | datetime
  | date
  deriving DecidableEq, Inhabited

namespace Family

/-- The name of a family, which is that of the kind of its vectors. -/
def name : Family → String
  | .logical => "logical"
  | .integer => "integer"
  | .double => "double"
  | .character => "character"
  | .list => "list"
  | .datetime => "datetime"
  | .date => "date"

/-- The type of vectors of a family; datetimes are without a zone here. -/
def type : Family → VectorType
  | .logical => .logical
  | .integer => .integer
  | .double => .double
  | .character => .character
  | .list => .list
  | .datetime => .datetime none
  | .date => .date

end Family

namespace Value

/-- The family of a value. Lengths of time from a typed array count as integers there. -/
def family (v : Value) : Except Failure Family :=
  match v.plain with
  | .bool _ => .ok .logical
  | .int _ => .ok .integer
  | .double _ | .fraction _ => .ok .double
  | .text _ => .ok .character
  | .list _ | .tuple _ | .array .. => .ok .list
  | .moment .. | .instant .. | .ticks .. | .notATime => .ok .datetime
  | .date _ | .period _ => .ok .date
  | .scalar (.span _) (.int _) | .scalar (.span _) (.span _) | .scalar (.span _) .notATime => .ok .integer
  | _ => .error (.noFamily v.quoted)

/-- The zone of a date and time in normal form; other values have none. -/
def zone : Value → Except Failure (Option Zone)
  | .moment _ (some source) =>
    match Zone.normalize source with
    | .ok z => .ok (some z)
    | .error fault => .error (.badZone fault)
  | .instant _ zone => .ok zone
  | _ => .ok none

end Value

/-- The text of a zone, or of the lack of one, in a list of zones. -/
def zoneText : Option Zone → String
  | none => "None"
  | some z => z.storageText

/-- The datetime type of some values, which have to share a zone. -/
def detectZone (values : List Value) : Except Failure VectorType := do
  match (← values.mapM Value.zone).eraseDups with
  | [zone] => return .datetime zone
  | zones => throw (.mixedZones ((zones.map zoneText).mergeSort (· ≤ ·)))

namespace Column

/-- The type of the values of an open column. -/
def detectElements (c : Column) : Except Failure VectorType := do
  if c.present.isEmpty then
    return if c.values.isEmpty then .null else .unspecified
  match (← c.present.mapM Value.family).eraseDups with
  | [.datetime] => detectZone c.present
  | [family] => return family.type
  | [.integer, .double] | [.double, .integer] => return .double
  | families => throw (.mixedFamilies ((families.map Family.name).mergeSort (· ≤ ·)))

/-- The type of a column: that of its storage, or for an open column that of its values. -/
def detect (c : Column) : Except Failure VectorType :=
  match c.dtype with
  | .object => c.detectElements
  | d => VectorType.ofStorage d

end Column

namespace Specifier

/-- The quoted form of a specifier. -/
def quoted : Specifier → String
  | .type t => t.quoted
  | .text s => Text.quoted s
  | .storage d => d.quoted
  | .valueClass c => c.quoted
  | .other q => q

/-- The specifier that a value is. -/
def ofValue : Value → Specifier
  | .text s => .text s
  | v => .other v.quoted

end Specifier

/-- Data that a vector can be made from. -/
inductive Data where
  | vector (v : TypedVector)
  | column (c : Column)
  /-- A sequence in a storage format, which is not yet a column. -/
  | sequence (c : Column)
  | value (v : Value)
  deriving Inhabited

namespace Data

/-- A typed array as a column; arrays of texts and of bytes are held open. -/
def ofArray (e : Element) (xs : List Value) : Column :=
  match e with
  | .object | .text | .bytes => .ofValues xs
  | .moment unit =>
    ⟨.instants unit none, xs.map fun
      | .ticks (some r) _ => .instant r none
      | .ticks none _ => .notATime
      | v => v⟩
  | e => ⟨.typed e, xs⟩

/-- A column as an array of its format: a typed array if the format is a plain one, and a sequence otherwise. -/
def ofFormat (c : Column) : Data :=
  match c.dtype with
  | .object => .value (.array .object c.values)
  | .typed e => .value (.array e c.values)
  | _ => .sequence c

/-- The data as a column. A single value is a column of one, and no value is a column of none. -/
def toColumn : Data → Column
  | .vector v => v.column
  | .column c | .sequence c => c
  | .value .absent => .ofValues []
  | .value (.list xs) | .value (.tuple xs) => .ofValues xs
  | .value (.array e xs) => ofArray e xs
  | .value v => .ofValues [v]

/-- The column that the data runs through, element by element. -/
def iterate : Data → Except Failure Column
  | .column c => .ok c
  | .vector v => .ok v.column.opened
  | .sequence c => .ok c.opened
  | .value v =>
    match v.members? with
    | some xs => .ok (.ofValues xs)
    | none => do return .ofValues (← v.iterate)

/-- The type of the data. -/
def detect : Data → Except Failure VectorType
  | .vector v => .ok v.type
  | d => d.toColumn.detect

/-- The vector that the data already is, if it has the requested type or none is requested. -/
def vector? (type : Option VectorType) : Data → Option TypedVector
  | .vector v => if type.all fun t => v.type == t then some v else none
  | _ => none

/-- The data as a vector, of a requested type or of the type that is found. -/
def toVector (type : Option VectorType) (d : Data) : Except Failure TypedVector := do
  match d.vector? type with
  | some v => return v
  | none =>
    let t ← match type with
      | some t => pure t
      | none => d.detect
    t.vectorOf d.toColumn

/-- The data as storage of a type, element by element. The null type takes no value for no elements. -/
def constructAs (t : VectorType) (d : Data) : Except Failure TypedVector := do
  match t, d with
  | .null, .value .absent => t.empty
  | t, d => t.vectorOf (← d.iterate)

/-- A vector out of a column that is there and a type that is one. -/
def relabel (d : Data) (type : Specifier) : Except Failure TypedVector :=
  match type, d with
  | .type t, .column c => .ok ⟨t, c⟩
  | .type t, .vector v => .ok ⟨t, v.column⟩
  | .type _, .value v => .error (.notAColumn v.quoted)
  | .type _, .sequence c => .error (.notAColumn (Value.list c.values).quoted)
  | s, _ => .error (.notAType s.quoted)

end Data

end Coercion
