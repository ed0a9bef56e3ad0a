import Coercion.Column.Basic

/-!
Columns of truth values and of numbers. An open column is read as a whole: which kinds of values occur together decides
whether they may be read at all, and a number is stored only if the format has one that is equal to it. Storage
gives no reason for a refusal beyond its category.
-/

namespace Coercion

/-- What the present values of an open column have in common. -/
inductive Content where
  | nothing
  | bools
  | ints
  | doubles
  /-- Integers beside floating-point numbers. -/
  | numbers
  | texts
  /-- Values of several kinds, one of which is an integer. -/
  | mixedWithInts
  | mixed
  deriving DecidableEq

namespace Content

/-- The content of a list of present values. -/
def of (values : List Value) : Content :=
  if values.isEmpty then .nothing
  else if values.all Value.isBool then .bools
  else if values.all Value.isInt then .ints
  else if values.all Value.isDouble then .doubles
  else if values.all fun v => v.isInt || v.isDouble then .numbers
  else if values.all Value.isText then .texts
  else if values.any Value.isInt then .mixedWithInts
  else .mixed

/-- Whether all values are numbers, truth values excepted. -/
def isNumeric : Content → Bool
  | .ints | .doubles | .numbers => true
  | _ => false

end Content

namespace Value

/-- The text that a sequence of bytes encodes, one byte a character. -/
def decoded (bs : List Nat) : String :=
  String.ofList (bs.map Char.ofNat)

/-- The truth value that a number stands for, if it is zero or one. -/
def bit? (v : Value) : Option Bool :=
  match v.quantity? with
  | some (.finite q) => if q = 0 then some false else if q = 1 then some true else none
  | _ => none

/-- Whether a number is not zero. -/
def isNonzero (v : Value) : Bool :=
  match v.quantity? with
  | some (.finite q) => q ≠ 0
  | some _ => true
  | none => true

/-- A value read as an integer; a fraction is cut off. -/
def toInt (v : Value) : Except Failure Int :=
  match v.plain with
  | .text s =>
    match Text.readInt s with
    | some n => .ok n
    | none => .error (.refused .valueError)
  | .bytes bs =>
    match Text.readInt (decoded bs) with
    | some n => .ok n
    | none => .error (.refused .valueError)
  | .complex .. => .error (.refused .typeError)
  | v =>
    match v.quantity? with
    | some (.finite q) => .ok (q.num.tdiv q.den)
    | some (.infinite _) => .error (.refused .overflow)
    | some .nan => .error (.refused .valueError)
    | none => .error (.refused .typeError)

/-- A value read as a floating-point number for storage. -/
def toStoredDouble (v : Value) : Except Failure Double :=
  match v.plain with
  | .text s =>
    match Text.readDouble s with
    | some x => .ok x
    | none => .error (.refused .valueError)
  | .bytes bs =>
    match Text.readDouble (decoded bs) with
    | some x => .ok x
    | none => .error (.refused .valueError)
  | .list _ | .tuple _ | .array .. => .error (.refused .valueError)
  | v =>
    match v.toDouble with
    | .ok x => .ok x
    | .error f => .error (.refused f.category)

end Value

/-- Whether an integer has the given number of bits, the sign included. -/
def fitsSigned (bits : Nat) (n : Int) : Bool :=
  -(Nat.pow 2 (bits - 1) : Int) ≤ n && n < (Nat.pow 2 (bits - 1) : Int)

/-- Whether an integer is not negative and has at most the given number of bits. -/
def fitsUnsigned (bits : Nat) (n : Int) : Bool :=
  0 ≤ n && n < (Nat.pow 2 bits : Int)

namespace Column

/-- A refusal. -/
def refuse {α : Type} (c : Category) : Except Failure α :=
  .error (.refused c)

/-- The least integer of eight bytes. -/
def leastInt : Int :=
  -(Nat.pow 2 63 : Int)

/-- An integer of eight bytes. -/
def checkedInt (n : Int) : Except Failure Int :=
  if fitsSigned 64 n then .ok n else refuse .overflow

/-- Whether a format holds numbers that are never missing, except as undefined ones. -/
def isPlainNumeric : Dtype → Bool
  | .typed .bool | .typed (.int _) | .typed (.uint _) | .typed (.float _) | .typed .complex => true
  | _ => false

/-- Reads every number as a truth value. All of them have to be zero or one. -/
def bits (c : Column) : Except Failure Column :=
  c.mapPresent .boolean fun v =>
    match v.bit? with
    | some b => .ok (.bool b)
    | none => refuse .typeError

/-- The column as one of nullable truth values. -/
def toBoolean (c : Column) : Except Failure Column :=
  match c.dtype with
  | .nullable _ => c.mapPresent .boolean fun v => .ok (.bool v.isNonzero)
  | .object | .category _ => do
    let content := Content.of c.present
    if content.isNumeric then let _ ← c.present.mapM Value.toStoredDouble
    if content = .nothing ∨ content = .bools ∨ content.isNumeric then c.bits
    else refuse .typeError
  | d =>
    if isPlainNumeric d then c.bits
    else if c.allMissing then c.mapPresent .boolean fun _ => refuse .typeError
    else refuse .typeError

/-- Reads every value as an integer. Unless it is a text, it has to be equal to that integer. -/
def wholes (c : Column) : Except Failure Column := do
  let ints ← c.mapPresent .int64 fun v => do return .int (← checkedInt (← v.toInt))
  let kept := (c.values.zip ints.values).all fun (v, n) => v.isMissing || n.same v
  if kept || Content.of c.present = .texts then return ints else refuse .typeError

/-- A floating-point column as integers. No finite value may be lost, and an infinite one is out of
range if it is the greatest. -/
def exactInts (c : Column) : Except Failure Column :=
  let isInfinite (negative : Bool) : Value → Bool
    | .double (.infinite s) => s == negative
    | _ => false
  let present := c.present
  if present.any (isInfinite false) || (!present.isEmpty && present.all (isInfinite true)) then
    refuse .overflow
  else
    c.mapPresent .int64 fun v =>
      match v with
      | .double x =>
        match x.toInt? with
        | some n => if fitsSigned 64 n then .ok (.int n) else refuse .typeError
        | none => refuse .typeError
      | _ => refuse .typeError

/-- An open column as integers. -/
def openInts (c : Column) : Except Failure Column :=
  match Content.of c.present with
  | .mixed => refuse .typeError
  | _ => c.wholes

/-- The values of a categorical column in the format of its levels: integers beside missing values
become floating-point numbers. -/
def decategorized (c : Column) : Column :=
  match c.dtype with
  | .category (some levels) =>
    if levels.isEmpty then c.opened
    else if levels.all Value.isInt then
      if c.values.any Value.isMissing then
        ⟨.float64, c.values.map fun
          | .int n => .double (Double.ofInt n)
          | v => v⟩
      else ⟨.typed (.int 64), c.values⟩
    else if levels.all Value.isDouble then ⟨.float64, c.values⟩
    else c.opened
  | _ => c

/-- The column as one of nullable integers. -/
def toInt64 (c : Column) : Except Failure Column :=
  let c := c.decategorized
  match c.dtype with
  | .nullable _ =>
    c.mapPresent .int64 fun v =>
      match v.toInt with
      | .ok n => .ok (.int (lowBytes n))
      | .error _ => .ok (.int leastInt)
  | .typed (.float _) => c.exactInts
  | .typed .bool | .typed (.int _) | .typed (.uint _) =>
    c.mapPresent .int64 fun v => do
      let n ← v.toInt
      if fitsSigned 64 n then return .int n else refuse .typeError
  | .object | .category _ | .string => c.openInts
  | .period _ | .instants _ (some _) => if c.values.isEmpty then .ok ⟨.int64, []⟩ else refuse .typeError
  | _ => refuse .typeError

/-- The column as one of floating-point numbers of a width. -/
def toFloat (width : Nat) (c : Column) : Except Failure Column :=
  let f := (Element.float width).format
  let d : Dtype := .typed (.float width)
  let read : Value → Except Failure Value
    | .complex re _ => .ok (.double (re.narrow f))
    | v => do return .double ((← v.toStoredDouble).narrow f)
  match c.dtype with
  | .period _ | .instants _ _ | .typed (.span _) => refuse .typeError
  | .category (some levels) =>
    if c.values.isEmpty then .ok ⟨d, []⟩
    else
      match levels.mapM Value.toStoredDouble with
      | .error (.refused .overflow) => refuse .overflow
      | .error _ => refuse .valueError
      | .ok _ => c.mapPresent d read
  | .typed .complex => c.mapPresent d read
  | _ => c.mapPresent d fun v => do return .double ((← v.toStoredDouble).narrow f)

/-- The column as one of nullable floating-point numbers of a width. -/
def toNullableFloat (width : Nat) (c : Column) : Except Failure Column := do
  let floats ← c.toFloat width
  floats.mapPresent (.nullable (.float width)) .ok

/-- The column as one of nullable integers of fewer than eight bytes. -/
def toNarrowInt (d : Dtype) (fits : Int → Bool) (c : Column) : Except Failure Column := do
  let ints ← c.toInt64
  ints.mapPresent d fun v =>
    match v with
    | .int n => if fits n then .ok v else refuse .overflow
    | v => .ok v

/-- The column as one of integers of which none may be missing. A fraction is cut off. -/
def toPlainInt (d : Dtype) (fits : Int → Bool) (c : Column) : Except Failure Column := do
  if c.values.any Value.isMissing then refuse (match c.dtype with | .object => .typeError | _ => .valueError)
  c.mapPresent d fun v => do
    let n ← v.toInt
    if fits n then return .int n else refuse .overflow

end Column

end Coercion
