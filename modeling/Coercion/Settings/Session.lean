import Coercion.Settings.Shared

/-!
Work with a managed function, operation by operation, in any order of the threads that do it. A thread has used the function as
soon as an operation of it gets through the layers.
-/

namespace Coercion

namespace SharedFunction

/-- The name of an attribute that is not there from the start in every managed function. -/
structure AttributeName where
  text : String
  free : text ∉ fixedNames

/-- What can be done with a managed function once its arguments are registered. -/
inductive Use where
  /-- Assigns the setting of a managed argument, or sets another attribute. -/
  | assign (name : AttributeName) (a : Argument)
  /-- Gives a managed argument its first default back, or deletes another attribute. -/
  | delete (name : AttributeName)
  /-- Gives all settings their first defaults back. -/
  | reset
  | read (name : AttributeName)
  /-- Looks at all settings. -/
  | settings
  | call (c : Call)

/-- What can be done with a managed function. -/
inductive Operation where
  | use (u : Use)
  /-- Registers a managed argument. -/
  | register (offer : ValidatorOffer) (name : Option Value) (default? : Option Argument)

/-- What comes of an operation. -/
inductive Answer where
  /-- Nothing but the change, if there was one. -/
  | done
  | value (a : Argument)
  | settings (xs : Arguments)
  /-- The call that the function itself gets. -/
  | call (c : Call)
  | validator (v : Validator)

/-- What a thread does in a use. -/
def Use.access (thread : Nat) : Use → Access Answer
  | .assign name a => do
    Access.setAttribute thread name.text a
    return .done
  | .delete name => do
    Access.deleteAttribute thread name.text
    return .done
  | .reset => do
    Access.reset thread
    return .done
  | .read name => do return .value (← (← get).getAttribute thread name.text)
  | .settings => do return .settings ((← get).managed thread).settings
  | .call c => do return .call (← ((← get).managed thread).call c)

/-- What a thread does in an operation. -/
def Operation.access (thread : Nat) : Operation → Access Answer
  | .use u => u.access thread
  | .register offer name default? => do return .validator (← Access.register thread offer name default?)

/-- Whether an operation gets through the layers. -/
def reaches (f : SharedFunction) : Operation → Bool
  | .use (.read name) => (f.layers.findSome? fun own => own.get? name.text).isNone
  | .use (.delete name) => (deleteFrom name.text f.layers).isNone
  | _ => true

/-- Does an operation in a thread. -/
def step (f : SharedFunction) (thread : Nat) (op : Operation) : Except Failure Answer × SharedFunction :=
  Access.runOn (if f.reaches op then f.enter thread else f) (op.access thread)

/-- The function after an operation in a thread. -/
def after (f : SharedFunction) (turn : Nat × Operation) : SharedFunction :=
  (f.step turn.1 turn.2).2

/-- The function after operations in threads, one after the other. -/
def run (f : SharedFunction) (turns : List (Nat × Operation)) : SharedFunction :=
  turns.foldl after f

/-- Does operations in a thread, one after the other, all of which have to go through: the first that fails ends it. -/
def carryOut (f : SharedFunction) (thread : Nat) : List Operation → Except Failure SharedFunction
  | [] => .ok f
  | op :: ops =>
    match f.step thread op with
    | (.ok _, next) => next.carryOut thread ops
    | (.error e, _) => .error e

end SharedFunction

end Coercion
