import Coercion.Settings.Argument

/-!
Signatures. A signature lists the parameters of a function, some of which have a default. A call is bound to it by
position first and then by name; parameters may stay unbound, and it is left to the function to ask for them.
-/

namespace Coercion

/-- How a parameter is given. -/
inductive ParameterKind where
  /-- By position only. -/
  | positionalOnly
  /-- By position or by name. -/
  | positional
  /-- All further arguments by position. -/
  | rest
  /-- By name only. -/
  | keyword
  /-- All further arguments by name. -/
  | named
  deriving DecidableEq, Inhabited

/-- A parameter. -/
structure Parameter where
  name : String
  kind : ParameterKind
  default? : Option Argument
  annotation? : Option String
  deriving Inhabited

/-- The parameters of a function, and the description of what it returns. -/
structure Signature where
  parameters : List Parameter
  returns? : Option String
  deriving Inhabited

/-- The arguments of a call. -/
structure Call where
  positional : List Input
  named : List (String × Input)
  deriving Inhabited

/-! ## Text -/

namespace Parameter

/-- The text of a parameter. -/
def text (p : Parameter) : String :=
  let mark := match p.kind with
    | .rest => "*"
    | .named => "**"
    | _ => ""
  let default := match p.default?, p.annotation? with
    | none, _ => ""
    | some d, none => "=" ++ d.quoted
    | some d, some _ => " = " ++ d.quoted
  mark ++ p.name ++ ((p.annotation?.map (": " ++ ·)).getD "") ++ default

/-- The parameter with another default, or with none. -/
def withDefault (d : Option Argument) (p : Parameter) : Parameter :=
  ⟨p.name, p.kind, d, p.annotation?⟩

/-- Whether a parameter takes one argument. -/
def takesOne (p : Parameter) : Bool :=
  p.kind = .positionalOnly ∨ p.kind = .positional ∨ p.kind = .keyword

/-- Whether a parameter takes one argument that may be given by position. -/
def isPositional (p : Parameter) : Bool :=
  p.kind = .positionalOnly ∨ p.kind = .positional

end Parameter

namespace Signature

/-- The texts of parameters. A star alone stands before the first one that is given by name only, unless a
parameter for the rest has come before. -/
def parameterTexts : Bool → List Parameter → List String
  | _, [] => []
  | starred, p :: ps =>
    if p.kind = .keyword ∧ !starred then "*" :: p.text :: parameterTexts true ps
    else p.text :: parameterTexts (starred || p.kind = .rest) ps

/-- The texts of all parameters. A slash stands after those that are given by position only. -/
def allTexts (ps : List Parameter) : List String :=
  let (first, others) := ps.span fun p => p.kind = .positionalOnly
  first.map Parameter.text ++ (if first.isEmpty then [] else ["/"]) ++ parameterTexts false others

/-- The text of a signature. -/
def text (s : Signature) : String :=
  "(" ++ ", ".intercalate (allTexts s.parameters) ++ ")" ++
    (s.returns?.map (" -> " ++ ·)).getD ""

/-- The quoted form of a signature. -/
def quoted (s : Signature) : String :=
  "<Signature " ++ s.text ++ ">"

/-- The signature without defaults, annotations or the description of the result, as far as they are
not wanted. -/
def reduced (defaults annotations returns : Bool) (s : Signature) : Signature :=
  ⟨s.parameters.map fun p =>
      ⟨p.name, p.kind, if defaults then p.default? else none, if annotations then p.annotation? else none⟩,
    if returns then s.returns? else none⟩

/-! ## Parameters -/

/-- The names of the parameters. -/
def names (s : Signature) : List String :=
  s.parameters.map Parameter.name

/-- The parameter with a name. -/
def find? (s : Signature) (name : String) : Option Parameter :=
  s.parameters.find? (·.name == name)

/-- The default of the parameter with a name. -/
def default? (s : Signature) (name : String) : Option Argument :=
  (s.find? name).bind Parameter.default?

/-- Whether the parameters that are given by position keep the order of defaults: none without a default
comes after one that has it. -/
def inOrder (ps : List Parameter) : Bool :=
  let positional := ps.filter Parameter.isPositional
  (positional.dropWhile fun p => p.default?.isNone).all fun p => p.default?.isSome

/-- Whether parameters make a signature: they are in order, and what takes the rest has no default. -/
def isValid (ps : List Parameter) : Bool :=
  inOrder ps && ps.all fun p => p.takesOne || p.default?.isNone

/-- The signature with other parameters. -/
def withParameters (s : Signature) (ps : List Parameter) : Except Failure Signature :=
  if isValid ps then .ok ⟨ps, s.returns?⟩ else .error (.refused .valueError)

/-- The parameters with the default of one of them changed. -/
def changeDefault (name : String) (d : Option Argument) (ps : List Parameter) : List Parameter :=
  ps.map fun p => if p.name == name then p.withDefault d else p

/-- Changes the default of a parameter of a function. -/
def withDefault (function name : String) (d : Option Argument) (s : Signature) : Except Failure Signature :=
  match s.find? name with
  | none => .error (.noParameter function name)
  | some _ => s.withParameters (changeDefault name d s.parameters)

/-- Changes the defaults of all parameters, by their names. -/
def withDefaults (ds : String → Option Argument) (s : Signature) : Except Failure Signature :=
  s.withParameters (s.parameters.map fun p => p.withDefault (ds p.name))

/-! ## Binding -/

/-- Binds arguments by position, and gives the parameters that are left over. What is named as well cannot
be given by position, unless it can be given in no other way. -/
def bindPositional (named : List String) :
    List Parameter → List Input → Except Failure (Arguments × List Parameter)
  | ps, [] => .ok ([], ps)
  | [], _ :: _ => .error (.refused .typeError)
  | p :: ps, x :: xs =>
    match p.kind with
    | .keyword | .named => .error (.refused .typeError)
    | .rest => .ok ([(p.name, .rest (x :: xs))], ps)
    | .positionalOnly | .positional =>
      if p.kind = .positional ∧ named.contains p.name then .error (.refused .typeError)
      else do
        let (bound, left) ← bindPositional named ps xs
        return ((p.name, .single x) :: bound, left)

/-- Binds arguments by name. What belongs to no parameter goes to the one that takes the rest. -/
def bindNamed (ps : List Parameter) (named : List (String × Input)) : Except Failure Arguments := do
  let takers := ps.filter Parameter.takesOne
  if takers.any fun p => p.kind = .positionalOnly ∧ (named.lookup p.name).isSome then throw (.refused .typeError)
  let bound := takers.filterMap fun p => (named.lookup p.name).map fun x => (p.name, Argument.single x)
  let further := named.filter fun x => !takers.any fun p => p.name == x.1
  if further.isEmpty then return bound
  else
    match ps.find? fun p => p.kind = .named with
    | some p => return bound ++ [(p.name, .named further)]
    | none => throw (.refused .typeError)

/-- Binds a call. -/
def bind (s : Signature) (c : Call) : Except Failure Arguments := do
  let (bound, left) ← bindPositional (c.named.map (·.1)) s.parameters c.positional
  return bound ++ (← bindNamed left c.named)

/-- The arguments in the order of the parameters, with the defaults of those that are not bound. -/
def fill (s : Signature) (bound : Arguments) : Arguments :=
  s.parameters.filterMap fun p =>
    match bound.get? p.name, p.default?, p.kind with
    | some a, _, _ => some (p.name, a)
    | none, some d, _ => some (p.name, d)
    | none, none, .rest => some (p.name, .rest [])
    | none, none, .named => some (p.name, .named [])
    | none, none, _ => none

/-- The arguments that are passed on by position: up to the first parameter that is not bound or is given by
name only. -/
def positionalArguments (bound : Arguments) : List Parameter → Except Failure (List Input)
  | [] => .ok []
  | p :: ps =>
    match p.kind, bound.get? p.name with
    | .positionalOnly, some a | .positional, some a => do return a.toInput :: (← positionalArguments bound ps)
    | .rest, some a => do return (← a.members) ++ (← positionalArguments bound ps)
    | _, _ => .ok []

/-- The parameters whose arguments are passed on by name. -/
def namedParameters (bound : Arguments) : List Parameter → List Parameter
  | [] => []
  | p :: ps =>
    match p.kind with
    | .keyword | .named => p :: ps
    | _ => if bound.has p.name then namedParameters bound ps else ps

/-- Puts an argument among those that are passed on by name. It takes the place of one with the same name. -/
def passNamed (xs : List (String × Input)) (x : String × Input) : List (String × Input) :=
  if xs.any (·.1 == x.1) then xs.map fun y => if y.1 == x.1 then x else y else xs ++ [x]

/-- The arguments that are passed on by name. -/
def namedArguments (bound : Arguments) (ps : List Parameter) : Except Failure (List (String × Input)) := do
  let parts ← (namedParameters bound ps).mapM fun p =>
    match p.kind, bound.get? p.name with
    | _, none => .ok []
    | .named, some a => a.entries
    | _, some a => .ok [(p.name, a.toInput)]
  return parts.flatten.foldl passNamed []

/-- The call that bound arguments stand for. -/
def call (s : Signature) (bound : Arguments) : Except Failure Call := do
  return ⟨← positionalArguments bound s.parameters, ← namedArguments bound s.parameters⟩

end Signature

namespace Arguments

/-- The quoted form of bound arguments. -/
def quoted (bound : Arguments) : String :=
  "<BoundArguments (" ++ ", ".intercalate (bound.map fun (name, a) => name ++ "=" ++ a.quoted) ++ ")>"

end Arguments

end Coercion
