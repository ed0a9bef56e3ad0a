import Coercion.Settings.Signature

/-!
Managed functions. Some of the arguments of a managed function have a validator. Their defaults are settings: a
setting can be assigned, which validates the new value, and it can be given back its first default. A call
validates the managed arguments that it is given, one after the other; defaults have been validated before.
-/

namespace Coercion

/-- A rule that a managed argument has to pass. It may replace the value, and it sees the other arguments. -/
structure Validator where
  name : String
  check : Argument → Arguments → Except Failure Argument

/-- A managed function: its current signature, the first defaults, and the validators of the managed
arguments in the order of their registration. -/
structure Managed where
  name : String
  signature : Signature
  defaults : Arguments
  validators : List (String × Validator)

namespace Managed

/-- The parameters of a signature that have a default, with their defaults. -/
def defaultsOf (s : Signature) : Arguments :=
  s.parameters.filterMap fun p => p.default?.map (p.name, ·)

/-- A function of which nothing is managed yet. -/
def ofSignature (name : String) (s : Signature) : Managed :=
  ⟨name, s, defaultsOf s, []⟩

/-- The validator of an argument. -/
def validator? (m : Managed) (name : String) : Option Validator :=
  m.validators.lookup name

/-- The settings: the managed arguments that have a default, in the order of the parameters. -/
def settings (m : Managed) : Arguments :=
  (defaultsOf m.signature).filter fun p => (m.validator? p.1).isSome

/-- The text of the function: its name and its signature without annotations. -/
def text (m : Managed) : String :=
  m.name ++ (m.signature.reduced true false true).text

/-! ## Settings -/

/-- The value of a setting. -/
def value (m : Managed) (name : String) : Except Failure Argument :=
  match m.signature.default? name with
  | some a => .ok a
  | none => .error (.noDefault name)

/-- The default with which an argument becomes a managed one: the one that is given, or the one that the parameter
has. It has to pass the validator, which sees the settings. -/
def firstDefault (m : Managed) (name : String) (v : Validator) (default? : Option Argument) :
    Except Failure (Option Argument) :=
  match m.signature.find? name with
  | none => .error (.noArgument m.name name)
  | some p =>
    match default? <|> p.default? with
    | none => .ok none
    | some d => do return some (← v.check d m.settings)

/-! ## Calls -/

/-- Validates the arguments with the given names, one after the other. Each validator sees all arguments as they
are by then. -/
def validateAll (m : Managed) : List String → Arguments → Except Failure Arguments
  | [], bound => .ok bound
  | name :: names, bound =>
    match m.validator? name, bound.get? name with
    | some v, some a => do m.validateAll names (bound.set name (← v.check a bound))
    | _, _ => m.validateAll names bound

/-- The call that the function itself gets: validated where arguments are managed and given, and with the
current defaults for the rest. -/
def call (m : Managed) (c : Call) : Except Failure Call := do
  let given ← m.signature.bind c
  let bound ← m.validateAll (given.map (·.1)) (m.signature.fill given)
  m.signature.call bound

end Managed

/-! ## Changes -/

/-- A step that changes a managed function. What it has done stays done if it fails later on. -/
abbrev Adjustment := ExceptT Failure (StateM Managed)

namespace Adjustment

/-- Runs a step on a managed function. -/
def runOn {α : Type} (m : Managed) (step : Adjustment α) : Except Failure α × Managed :=
  step.run m

/-- Changes the default of a parameter. -/
def setDefault (name : String) (d : Option Argument) : Adjustment Unit := do
  let m ← get
  set { m with signature := ← m.signature.withDefault m.name name d }

/-- Assigns a setting. The new value has to pass a validator, which sees the settings. -/
def assign (name : String) (v : Validator) (a : Argument) : Adjustment Unit := do
  let a ← v.check a (← get).settings
  setDefault name (some a)

/-- Gives a setting its first default back. The setting has to have a value. -/
def restore (name : String) : Adjustment Unit := do
  let m ← get
  let _ ← m.value name
  setDefault name (m.defaults.get? name)

/-- Gives every parameter its first default back. -/
def reset : Adjustment Unit := do
  let m ← get
  set { m with signature := ← m.signature.withDefaults m.defaults.get? }

/-- Makes a default the current one of a parameter, and the first one. -/
def setFirst (name : String) : Option Argument → Adjustment Unit
  | none => pure ()
  | some d => do
    setDefault name (some d)
    modify fun m => { m with defaults := m.defaults.set name d }

/-- Makes an argument a managed one: changes its default, and notes the validator. -/
def register (name : String) (v : Validator) (default? : Option Argument) : Adjustment Unit := do
  setFirst name (← (← get).firstDefault name v default?)
  modify fun m => { m with validators := m.validators ++ [(name, v)] }

end Adjustment

namespace Signature

/-- The arguments that a function with this signature gets from a call. What has no default has to be there. -/
def complete (function : String) (s : Signature) (c : Call) : Except Failure Arguments := do
  let bound := s.fill (← s.bind c)
  let lacking := (s.parameters.filter fun p => p.takesOne && !bound.has p.name).map Parameter.name
  if lacking.isEmpty then return bound else throw (.missingArguments function lacking)

end Signature

end Coercion
