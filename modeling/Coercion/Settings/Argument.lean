import Coercion.Vector.Detect

/-!
Arguments. A single argument is a value, data for a vector, or a type; a parameter that takes all the rest holds several
of them, either in order or by name.
-/

namespace Coercion

/-- A single argument. -/
inductive Input where
  | value (v : Value)
  | data (d : Data)
  | specifier (s : Specifier)
  deriving Inhabited

/-- What a parameter holds. -/
inductive Argument where
  | single (x : Input)
  /-- The rest of the positional arguments. -/
  | rest (xs : List Input)
  /-- The rest of the named arguments. -/
  | named (xs : List (String × Input))
  deriving Inhabited

/-- Arguments by name, in order. -/
abbrev Arguments := List (String × Argument)

namespace Input

/-- The argument as a value. Of data and types only those are values that are given as one. -/
def toValue : Input → Value
  | .value v | .data (.value v) => v
  | .specifier (.text s) => .text s
  | .data _ | .specifier _ => .alien

/-- The argument as data. -/
def toData : Input → Data
  | .data d => d
  | x => .value x.toValue

/-- The argument as a type. -/
def toSpecifier : Input → Specifier
  | .specifier s => s
  | x => .ofValue x.toValue

/-- The quoted form of an argument. -/
def quoted : Input → String
  | .data (.vector v) => v.quoted
  | .specifier s => s.quoted
  | x => x.toValue.quoted

end Input

namespace Argument

/-- A value as an argument. -/
def ofValue (v : Value) : Argument :=
  .single (.value v)

/-- The argument as a value. -/
def toValue : Argument → Value
  | .single x => x.toValue
  | .rest xs => .tuple (xs.map Input.toValue)
  | .named xs => .dict (xs.map (·.1)) (xs.map fun x => x.2.toValue)

/-- What a parameter holds as a single argument. -/
def toInput : Argument → Input
  | .single x => x
  | a => .value a.toValue

/-- The arguments that a parameter for the rest of the positional ones holds. -/
def members : Argument → Except Failure (List Input)
  | .rest xs => .ok xs
  | a =>
    match a.toValue.iterate with
    | .ok xs => .ok (xs.map Input.value)
    | .error _ => .error (.refused .typeError)

/-- The name and the value in a pair. -/
def entryOf (pair : Value) : Except Failure (String × Input) :=
  match pair.iterate with
  | .ok [name, v] =>
    match name.text? with
    | some name => .ok (name, .value v)
    | none => .error (.refused .typeError)
  | .ok _ => .error (.refused .valueError)
  | .error _ => .error (.refused .typeError)

/-- The arguments that a parameter for the rest of the named ones holds. In the place of arguments by name there may
be a sequence of pairs. -/
def entries : Argument → Except Failure (List (String × Input))
  | .named xs => .ok xs
  | a =>
    match a.toValue with
    | .dict names xs => .ok (names.zip (xs.map Input.value))
    | v =>
      match v.iterate with
      | .ok pairs => pairs.mapM entryOf
      | .error _ => .error (.refused .typeError)

/-- The quoted form of what a parameter holds. -/
def quoted : Argument → String
  | .single x => x.quoted
  | .rest [x] => "(" ++ x.quoted ++ ",)"
  | .rest xs => "(" ++ ", ".intercalate (xs.map Input.quoted) ++ ")"
  | .named xs =>
    "\x7b" ++ ", ".intercalate (xs.map fun (name, x) => Text.quoted name ++ ": " ++ x.quoted) ++ "\x7d"

end Argument

namespace Arguments

/-- The argument with a name. -/
def get? (xs : Arguments) (name : String) : Option Argument :=
  xs.lookup name

/-- Whether there is an argument with a name. -/
def has (xs : Arguments) (name : String) : Bool :=
  xs.any (·.1 == name)

/-- Replaces the argument with a name in its place, or adds it at the end. -/
def set (xs : Arguments) (name : String) (a : Argument) : Arguments :=
  if has xs name then xs.map fun p => if p.1 == name then (name, a) else p else xs ++ [(name, a)]

/-- Removes the argument with a name. -/
def erase (xs : Arguments) (name : String) : Arguments :=
  xs.filter fun p => p.1 != name

end Arguments

end Coercion
