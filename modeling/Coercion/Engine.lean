import Coercion.Registry.Standard

/-!
The engine: a table of types beside a registry of rules. It finds common types, casts raw data, and combines vectors of
different types into one. Values that are not preserved are no failure; they are reported, or ignored if the caller
wishes so.
-/

namespace Coercion

/-- What to do about values that are not preserved. -/
inductive LossyRule where
  | warn
  | ignore
  deriving DecidableEq, Inhabited

/-- A report of the positions that were not preserved, by the index of their input. -/
structure LossyWarning where
  lossy : List (Nat × List Nat)
  target : String

namespace LossyWarning

/-- The wording of a report: inputs and positions in ascending order. -/
def message (w : LossyWarning) : String :=
  let inputs := w.lossy.mergeSort fun a b => a.1 ≤ b.1
  "lossy cast to '" ++ w.target ++ "': " ++ "; ".intercalate (inputs.map fun (index, positions) =>
    "input " ++ toString index ++ " at " ++
      Text.shortenPositions (positions.map Int.ofNat) 5)

end LossyWarning

/-- A vector with the reports that were made about it. -/
structure Reported where
  vector : TypedVector
  warnings : List LossyWarning

/-- A table of types and a registry of rules. -/
structure Engine where
  types : TypeTable
  registry : Registry

namespace Engine

/-- The engine of the standard kinds. -/
def standard : Engine :=
  ⟨.standard, .standard⟩

/-- The type that a specifier stands for. -/
def resolve (e : Engine) (s : Specifier) : Except Failure VectorType :=
  s.resolve e.types

/-- The common type of the types that two specifiers stand for. -/
def unify (e : Engine) (strict : Bool) (x y : Specifier) : Except Failure VectorType := do
  let x ← e.resolve x
  let y ← e.resolve y
  e.registry.unify strict x y

/-- The common type of the types that some specifiers stand for. -/
def commonType (e : Engine) (strict : Bool) (specifiers : List Specifier) : Except Failure VectorType :=
  e.registry.commonTypeOf e.types strict specifiers

/-- The data as a vector, of the type that a specifier stands for or of the one that is found. -/
def vector (e : Engine) (d : Data) (type : Option Specifier) : Except Failure TypedVector := do
  match type with
  | none => d.toVector none
  | some s => d.toVector (some (← e.resolve s))

/-- Casts data to the type that a specifier stands for. -/
def castTo (e : Engine) (decompose : Bool) (d : Data) (target : Specifier) :
    Except Failure CastResult := do
  let v ← e.vector d none
  let target ← e.resolve target
  e.registry.castTo decompose v target

/-- What is noted down about such a cast. -/
def castJournal (e : Engine) (decompose : Bool) (d : Data) (target : Specifier) :
    Except Failure (List String) := do
  let v ← e.vector d none
  let target ← e.resolve target
  return e.registry.castJournal decompose v.type target

/-- The reports about some casts, at most one for all of them. -/
def reports (rule : LossyRule) (target : VectorType) (lossy : List (Nat × List Nat)) :
    List LossyWarning :=
  let lossy := lossy.filter fun entry => !entry.2.isEmpty
  if rule = .warn ∧ !lossy.isEmpty then [⟨lossy, target.display⟩] else []

/-- Casts data and reports the values that were not preserved. -/
def cast (e : Engine) (rule : LossyRule) (d : Data) (target : Specifier) : Except Failure Reported := do
  let result ← e.castTo true d target
  return ⟨result.vector, reports rule result.vector.type [(0, result.lossy)]⟩

/-- Checks that every type can be unified with a target, the first of them having the given index. -/
def checkTarget (r : Registry) (strict : Bool) (target : VectorType) :
    Nat → List VectorType → Except Failure Unit
  | _, [] => .ok ()
  | index, t :: ts =>
    match r.unify strict t target with
    | .ok _ => checkTarget r strict target (index + 1) ts
    | .error f => .error (Registry.refusalAt index t target f)

/-- The type that vectors are combined into. Missing values alone are taken for truth values. -/
def combinedType (e : Engine) (strict : Bool) (target : Option Specifier) (types : List VectorType) :
    Except Failure VectorType := do
  match target with
  | none =>
    match ← e.registry.commonType strict types with
    | .unspecified => return .logical
    | t => return t
  | some s =>
    let t ← e.resolve s
    checkTarget e.registry strict t 0 types
    return t

/-- Joins the results of casts to one type. -/
def join (t : VectorType) (results : List CastResult) : Except Failure TypedVector :=
  if results.isEmpty then t.empty
  else do return ⟨t, ← t.concat (results.map fun r => r.vector.column)⟩

/-- Combines data into one vector and reports the values that were not preserved. -/
def combine (e : Engine) (strict : Bool) (rule : LossyRule) (target : Option Specifier)
    (data : List Data) : Except Failure Reported := do
  let vectors ← data.mapM fun d => e.vector d none
  let t ← e.combinedType strict target (vectors.map TypedVector.type)
  let results ← vectors.mapM fun v => e.registry.castTo true v t
  let lossy := results.zipIdx.map fun (r, index) => (index, r.lossy)
  return ⟨← join t results, reports rule t lossy⟩

end Engine

end Coercion
