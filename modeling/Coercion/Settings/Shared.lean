import Coercion.Settings.Managed

/-!
Managed functions as objects that threads share. Every thread has settings of its own: the thread that created the
function starts with its defaults, and any other starts, when it first uses the function, with the settings that
the creating thread has then. Attributes belong to the function itself, and managed arguments are attributes too. The
function may be wrapped in layers, which took over its attributes when they were made and pass on what they do
not have.
-/

namespace Coercion

/-- What one thread has of a managed function: its settings, and the attributes that it took over. -/
structure Seat where
  managed : Managed
  own : Arguments

/-- A managed function with all threads that use it. -/
structure SharedFunction where
  /-- The attributes of the function itself. -/
  attributes : Arguments
  /-- The attributes that wrapping layers took over, from the outermost layer on. -/
  layers : List Arguments
  /-- The managed arguments that any thread has registered. -/
  properties : List (String × Validator)
  /-- The thread that created the function. -/
  creator : Seat
  /-- The other threads that have used it. -/
  others : List (Nat × Seat)

/-- What is offered as a validator. -/
inductive ValidatorOffer where
  | validator (v : Validator)
  /-- A function with too few parameters, by its name. -/
  | narrow (name : String)
  /-- A value that cannot be called, with its displayed form. -/
  | other (display : String)

namespace SharedFunction

/-! ## Names -/

/-- The names that every object has. -/
def objectNames : List String := [
  "__class__", "__delattr__", "__dir__", "__doc__", "__eq__", "__format__", "__ge__", "__getattribute__",
  "__getstate__", "__gt__", "__hash__", "__init__", "__init_subclass__", "__le__", "__lt__", "__ne__", "__new__",
  "__reduce__", "__reduce_ex__", "__repr__", "__setattr__", "__sizeof__", "__str__", "__subclasshook__"]

/-- The names that a layer keeps to itself. -/
def layerNames : List String :=
  objectNames ++ ["__annotations__", "__call__", "__dict__", "__getattr__", "__module__", "__name__",
    "__qualname__", "__weakref__", "__wrapped__", "_reserved"]

/-- The names that a managed function keeps to itself. -/
def managedNames : List String :=
  layerNames ++ ["_signature", "argument", "reset_defaults"]

/-- The views of a managed function. -/
def viewNames : List String := ["arguments", "settings"]

/-- The names that a function has. -/
def functionNames : List String :=
  objectNames ++ ["__annotations__", "__builtins__", "__call__", "__closure__", "__code__", "__defaults__",
    "__dict__", "__get__", "__globals__", "__kwdefaults__", "__module__", "__name__", "__qualname__"]

/-- The names that are always taken. -/
def fixedNames : List String :=
  managedNames ++ viewNames ++ functionNames

/-! ## Threads -/

/-- What is taken over from a function. -/
def takenOver (name : String) (attributes : Arguments) : Arguments :=
  [("__name__", .ofValue (.text name)), ("__qualname__", .ofValue (.text name))] ++ attributes

/-- The function with some attributes, wrapped in a number of layers. -/
def create (name : String) (s : Signature) (attributes : Arguments) (layers : Nat) : SharedFunction :=
  let own := takenOver name attributes
  ⟨attributes, List.replicate layers own, [], ⟨.ofSignature name s, own⟩, []⟩

/-- What a thread starts with. -/
def newSeat (f : SharedFunction) : Seat :=
  ⟨f.creator.managed, takenOver f.creator.managed.name f.attributes⟩

/-- What a thread has; the creating thread has the number zero. -/
def seat (f : SharedFunction) (thread : Nat) : Seat :=
  if thread = 0 then f.creator else (f.others.lookup thread).getD f.newSeat

/-- Changes what a thread has. -/
def withSeat (f : SharedFunction) (thread : Nat) (s : Seat) : SharedFunction :=
  if thread = 0 then { f with creator := s }
  else { f with others := (thread, s) :: f.others.filter fun p => p.1 != thread }

/-- The function after it has been used by a thread. -/
def enter (f : SharedFunction) (thread : Nat) : SharedFunction :=
  f.withSeat thread (f.seat thread)

/-- Changes the settings of a thread. -/
def withManaged (f : SharedFunction) (thread : Nat) (m : Managed) : SharedFunction :=
  f.withSeat thread ⟨m, (f.seat thread).own⟩

/-- The settings of a thread. -/
def managed (f : SharedFunction) (thread : Nat) : Managed :=
  (f.seat thread).managed

/-! ## Attributes -/

/-- The attribute that the managed function has, the ones of the function itself included. -/
def innerAttribute (f : SharedFunction) (thread : Nat) (name : String) : Except Failure Argument :=
  match f.properties.lookup name, (f.seat thread).own.get? name, f.attributes.get? name with
  | some _, _, _ => (f.managed thread).value name
  | none, some a, _ => .ok a
  | none, none, some a => .ok a
  | none, none, none => .error (.noAttribute "function" name)

/-- The value of an attribute. -/
def getAttribute (f : SharedFunction) (thread : Nat) (name : String) : Except Failure Argument :=
  match f.layers.findSome? fun own => own.get? name with
  | some a => .ok a
  | none => f.innerAttribute thread name

/-- Whether there is an attribute. A managed argument without a value is neither there nor not there. -/
def hasAttribute (f : SharedFunction) (thread : Nat) (name : String) : Except Failure Bool :=
  if fixedNames.contains name then .ok true
  else
    match f.getAttribute thread name with
    | .ok _ => .ok true
    | .error failure => if failure.category = .attributeError then .ok false else .error failure

/-- Whether a name is taken inside. -/
def isTaken (f : SharedFunction) (thread : Nat) (name : String) : Bool :=
  fixedNames.contains name || (f.properties.lookup name).isSome || (f.seat thread).own.has name ||
    f.attributes.has name

/-- Whether a name is listed. -/
def isListed (f : SharedFunction) (thread : Nat) (name : String) : Bool :=
  f.isTaken thread name || f.layers.any fun own => own.has name

/-- Deletes an attribute from the first of some layers that has it. -/
def deleteFrom (name : String) : List Arguments → Option (List Arguments)
  | [] => none
  | own :: layers =>
    if own.has name then some (own.erase name :: layers)
    else (deleteFrom name layers).map (own :: ·)

/-! ## Managed arguments -/

/-- The validator in an offer. -/
def admitted : ValidatorOffer → Except Failure Validator
  | .validator v => .ok v
  | .narrow name => .error (.validatorTooNarrow name)
  | .other display => .error (.validatorNotCallable display)

/-- The name of a managed argument: the one that is given, or that of its validator. -/
def argumentName (given : Option Value) (v : Validator) : Except Failure String :=
  match given with
  | none | some .absent => .ok v.name
  | some x =>
    match x.text? with
    | some name => .ok name
    | none => .error (.nameNotText x.className)

/-- The name and the validator of an argument that is to be registered. The name must not be taken by anything. -/
def entryOf (f : SharedFunction) (thread : Nat) (offer : ValidatorOffer) (given : Option Value) :
    Except Failure (String × Validator) := do
  let v ← admitted offer
  let name ← argumentName given v
  if ((f.managed thread).validator? name).isSome then .error (.argumentTaken name)
  else if f.isTaken thread name then .error (.reservedName name)
  else .ok (name, v)

/-- Validates a value as one for a managed argument, in a context or in that of the settings. -/
def validate (f : SharedFunction) (thread : Nat) (name : String) (a : Argument)
    (context : Option Arguments) : Except Failure Argument := do
  let m := f.managed thread
  match m.validator? name with
  | some v => v.check a (context.getD m.settings)
  | none => throw (.unknownKey name)

end SharedFunction

/-! ## Changes -/

/-- A step that changes a managed function for the threads that use it. What it has done stays done if it fails later
on. -/
abbrev Access := ExceptT Failure (StateM SharedFunction)

namespace Access

/-- Runs a step on a managed function. -/
def runOn {α : Type} (f : SharedFunction) (step : Access α) : Except Failure α × SharedFunction :=
  step.run f

/-- Changes what a thread has. -/
def adjust {α : Type} (thread : Nat) (step : Adjustment α) : Access α := fun f =>
  let (x, m) := Adjustment.runOn (f.managed thread) step
  (x, f.withManaged thread m)

/-- Sets an attribute of the managed function. -/
def setInner (thread : Nat) (name : String) (a : Argument) : Access Unit := do
  let f ← get
  match f.properties.lookup name with
  | some v => adjust thread (.assign name v a)
  | none =>
    if SharedFunction.viewNames.contains name then throw (.noSetter name)
    else if SharedFunction.managedNames.contains name then
      let s := f.seat thread
      set (f.withSeat thread ⟨s.managed, s.own.set name a⟩)
    else set { f with attributes := f.attributes.set name a }

/-- Sets an attribute. Of a managed argument it assigns the setting. -/
def setAttribute (thread : Nat) (name : String) (a : Argument) : Access Unit := do
  let f ← get
  match f.layers with
  | [] => setInner thread name a
  | own :: layers =>
    if SharedFunction.layerNames.contains name then set { f with layers := own.set name a :: layers }
    else setInner thread name a

/-- Deletes an attribute of the managed function. What a thread has taken over cannot be deleted. -/
def deleteInner (thread : Nat) (name : String) : Access Unit := do
  let f ← get
  match f.properties.lookup name with
  | some _ => adjust thread (.restore name)
  | none =>
    if f.attributes.has name then set { f with attributes := f.attributes.erase name }
    else throw (.noAttribute "function" name)

/-- Deletes an attribute. Of a managed argument it restores the setting. -/
def deleteAttribute (thread : Nat) (name : String) : Access Unit := do
  let f ← get
  match SharedFunction.deleteFrom name f.layers with
  | some layers => set { f with layers := layers }
  | none => deleteInner thread name

/-- Registers a managed argument, and gives its validator. It is an attribute from then on. -/
def register (thread : Nat) (offer : ValidatorOffer) (name : Option Value) (default? : Option Argument) :
    Access Validator := do
  let (name, v) ← (← get).entryOf thread offer name
  adjust thread (.register name v default?)
  modify fun f => { f with properties := f.properties ++ [(name, v)] }
  return v

/-- Gives all settings of a thread their first defaults back. -/
def reset (thread : Nat) : Access Unit :=
  adjust thread .reset

end Access

end Coercion
