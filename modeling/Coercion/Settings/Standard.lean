import Coercion.Engine
import Coercion.Settings.Shared
import Coercion.Value.Truth

/-!
The managed functions of the engine. Casting and combining have a setting for what to do about values that are not
preserved, and combining and finding common types have one for whether payloads have to agree as they are.
-/

namespace Coercion

namespace LossyRule

/-- The name of a rule. -/
def name : LossyRule → String
  | .warn => "warn"
  | .ignore => "ignore"

/-- The rule that a value names. -/
def ofValue? (v : Value) : Option LossyRule :=
  [LossyRule.warn, LossyRule.ignore].find? fun r => v.same (.text r.name)

end LossyRule

namespace Validator

/-- Turns a value into a truth value. -/
def strict : Validator :=
  ⟨"strict", fun a _ => return .ofValue (.bool (← a.toValue.truth))⟩

/-- Lets the names of rules pass. -/
def lossy : Validator :=
  ⟨"lossy", fun a _ =>
    if (LossyRule.ofValue? a.toValue).isSome then .ok a else .error (.unknownRule a.quoted)⟩

end Validator

/-- The managed functions of the engine. -/
inductive EngineFunction where
  | cast
  | combine
  | commonType
  deriving DecidableEq

namespace EngineFunction

/-- All of them. -/
def everyone : List EngineFunction := [.cast, .combine, .commonType]

/-- The name of a function. -/
def name : EngineFunction → String
  | .cast => "cast"
  | .combine => "combine"
  | .commonType => "common_type"

/-- The parameter with a name that has to be given. -/
def required (name : String) : Parameter := ⟨name, .positional, none, none⟩

/-- The parameter that takes all arguments by position. -/
def all (name : String) : Parameter := ⟨name, .rest, none, none⟩

/-- A parameter with a default. -/
def optional (name : String) (kind : ParameterKind) (default : Value) : Parameter :=
  ⟨name, kind, some (.ofValue default), none⟩

/-- The signature of a function. -/
def signature : EngineFunction → Signature
  | .cast =>
    ⟨[required "value", required "target", optional "lossy" .positional (.text "warn")], some "'Vector'"⟩
  | .combine =>
    ⟨[all "values", optional "target" .keyword .absent, optional "strict" .keyword (.bool true),
        optional "lossy" .keyword (.text "warn")], some "'Vector'"⟩
  | .commonType => ⟨[all "types", optional "strict" .keyword (.bool true)], some "'VectorType'"⟩

/-- The validators of a function's settings. -/
def validators : EngineFunction → List Validator
  | .cast => [.lossy]
  | .combine => [.strict, .lossy]
  | .commonType => [.strict]

/-- The function with its settings. -/
def shared (f : EngineFunction) : SharedFunction :=
  f.validators.foldl (fun shared v => (Access.runOn shared (.register 0 (.validator v) none none)).2)
    (.create f.name f.signature [] 0)

/-- The truth value of an argument. -/
def flag (bound : Arguments) (name : String) : Except Failure Bool :=
  match bound.get? name with
  | some a => a.toValue.truth
  | none => .ok false

/-- The rule of an argument; what names no rule asks for no report. -/
def rule (bound : Arguments) (name : String) : LossyRule :=
  ((bound.get? name).bind fun a => LossyRule.ofValue? a.toValue).getD .ignore

/-- A single argument. -/
def single (bound : Arguments) (name : String) : Input :=
  ((bound.get? name).map Argument.toInput).getD default

/-- The arguments by position. -/
def several (bound : Arguments) (name : String) : Except Failure (List Input) :=
  match bound.get? name with
  | some a => a.members
  | none => .ok []

/-- A type that may be left open. -/
def openSpecifier : Input → Option Specifier
  | .value .absent => none
  | x => some x.toSpecifier

end EngineFunction

namespace EngineFunction

/-- The function with a name. -/
def find? (name : String) : Option EngineFunction :=
  everyone.find? fun f => f.name == name

end EngineFunction

namespace Engine

open EngineFunction

/-- Casting as a managed function. -/
def callCast (e : Engine) (m : Managed) (c : Call) : Except Failure Reported := do
  let bound ← EngineFunction.cast.signature.complete m.name (← m.call c)
  e.cast (rule bound "lossy") (single bound "value").toData (single bound "target").toSpecifier

/-- Combining as a managed function. -/
def callCombine (e : Engine) (m : Managed) (c : Call) : Except Failure Reported := do
  let bound ← EngineFunction.combine.signature.complete m.name (← m.call c)
  let values ← several bound "values"
  e.combine (← flag bound "strict") (rule bound "lossy") (openSpecifier (single bound "target"))
    (values.map Input.toData)

/-- Finding a common type as a managed function. -/
def callCommonType (e : Engine) (m : Managed) (c : Call) : Except Failure VectorType := do
  let bound ← EngineFunction.commonType.signature.complete m.name (← m.call c)
  let types ← several bound "types"
  e.commonType (← flag bound "strict") (types.map Input.toSpecifier)

end Engine

end Coercion
