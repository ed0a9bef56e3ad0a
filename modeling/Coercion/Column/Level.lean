import Coercion.Column.Text

/-!
Columns of levels. A value is stored as the level that it is equal to, and as missing if there is none. Truth values
are not taken for numbers if they are all that there is on one side and numbers are all that there is on the other.
-/

namespace Coercion

namespace Column

/-- Whether values are numbers of one typed kind, truth values excepted. -/
def areNumbers (values : List Value) : Bool :=
  !values.isEmpty && values.all fun v => v.isInt || v.isDouble

/-- Whether values are truth values only. -/
def areBools (values : List Value) : Bool :=
  !values.isEmpty && values.all Value.isBool

/-- Whether values may match levels at all. -/
def comparable (levels values : List Value) : Bool :=
  !(areBools values && areNumbers levels) && !(areBools levels && areNumbers values)

/-- The level that a value is equal to. -/
def levelOf? (levels : List Value) (v : Value) : Option Value :=
  levels.find? fun l => l.same v

/-- The column as one of levels, given in their stored form. -/
def toLevels (levels : List Value) (c : Column) : Except Failure Column :=
  let d : Dtype := .category (some levels)
  match Value.unhashableIn? c.present with
  | some _ => refuse .typeError
  | none =>
    if comparable levels c.present then
      .ok ⟨d, c.values.map fun v => if v.isMissing then d.missing else (levelOf? levels v).getD d.missing⟩
    else .ok ⟨d, c.values.map fun _ => d.missing⟩

/-- Inserts a value in ascending order unless it is there; values that cannot be compared are kept
in the order in which they come. -/
def insertLevel (v : Value) : List Value → List Value
  | [] => [v]
  | w :: ws =>
    if w.same v then w :: ws
    else
      let before : Bool :=
        match v, w with
        | .text a, .text b => a < b
        | v, w =>
          match v.quantity?, w.quantity? with
          | some (.finite a), some (.finite b) => a < b
          | _, _ => false
      if before then v :: w :: ws else w :: insertLevel v ws

/-- The levels that the values of a column need. -/
def ownLevels (c : Column) : List Value :=
  c.present.foldl (fun levels v => insertLevel v.plain levels) []

end Column

end Coercion
