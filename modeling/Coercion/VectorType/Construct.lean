import Coercion.Column.Convert

/-!
Storage of typed vectors. Every type turns a column into its own storage, refusing values that it has no place for, and
joins columns that are in its storage already.
-/

namespace Coercion

namespace VectorType

/-- A value as an element of a list vector. -/
def listElement (v : Value) : Except Failure Value :=
  match v.members? with
  | some xs => .ok (.list xs)
  | none => if v.isMissing then .ok .absent else .error (.notListLike v.quoted)

/-- A column in the storage of a type. -/
def construct (t : VectorType) (c : Column) : Except Failure Column :=
  let converted : Except Failure Column :=
    match c.dtype with
    | .object => c.marked.convert t.storage
    | _ => c.convert t.storage
  match t with
  | .null => do
    let c ← converted
    if c.values.isEmpty then return c else throw (.nullNotEmpty c.size)
  | .unspecified => do
    let c ← converted
    if c.allMissing then return .ofValues (c.values.map fun _ => .absent) else throw .notAllMissing
  | .list => do return .ofValues (← c.values.mapM listElement)
  | .categorical levels => c.toLevels (storedLevels levels)
  | .date => c.toDays
  | .datetime zone => c.toInstants zone
  | _ => converted

/-- The columns of one type joined into one. -/
def concat (t : VectorType) (columns : List Column) : Except Failure Column := do
  match t with
  | .categorical _ => t.construct (.ofValues (columns.flatMap Column.values))
  | _ =>
    if columns.isEmpty then t.construct (.ofValues [])
    else
      let converted ← columns.mapM (Column.convert t.storage)
      return ⟨t.storage, converted.flatMap Column.values⟩

end VectorType

end Coercion
