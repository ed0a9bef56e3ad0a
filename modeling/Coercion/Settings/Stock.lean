import Coercion.Settings.Shared
import Coercion.Text.Upper

/-!
Ready-made functions with managed arguments and ready-made validators. Every function returns the arguments that it gets;
the validators turn values into integers or upper case, refuse negative numbers, or tell what they see of the other
arguments.
-/

namespace Coercion

/-- A function that can be managed. -/
structure StockFunction where
  name : String
  signature : Signature
  /-- The result for arguments that are all there. -/
  result : Arguments → Value

namespace StockFunction

/-- The value of an argument. -/
def valueOf (bound : Arguments) (name : String) : Value :=
  ((bound.get? name).map Argument.toValue).getD .absent

/-- The values of some arguments as a list. -/
def listed (names : List String) (bound : Arguments) : Value :=
  .list (names.map (valueOf bound))

/-- A parameter without annotation. -/
def parameter (name : String) (kind : ParameterKind) (default? : Option Value) : Parameter :=
  ⟨name, kind, default?.map .ofValue, none⟩

/-- A parameter with annotation. -/
def typed (name annotation : String) (default : Value) : Parameter :=
  ⟨name, .positional, some (.ofValue default), some annotation⟩

/-- One argument that has to be given, one with a default, and one by name only. -/
def foo : StockFunction :=
  ⟨"foo",
    ⟨[parameter "bar" .positional none, parameter "baz" .positional (some (.int 2)),
        parameter "qux" .keyword (some (.text "a"))], none⟩,
    listed ["bar", "baz", "qux"]⟩

/-- Three arguments with defaults. -/
def opt : StockFunction :=
  ⟨"opt", ⟨[typed "x" "int" (.int 1), typed "y" "int" (.int 2), typed "z" "int" (.int 3)], some "list"⟩,
    listed ["x", "y", "z"]⟩

/-- Two arguments that have to be given. -/
def req : StockFunction :=
  ⟨"req", ⟨[parameter "a" .positional none, parameter "b" .positional none], none⟩, listed ["a", "b"]⟩

/-- Any number of arguments by position and by name. -/
def var : StockFunction :=
  ⟨"var",
    ⟨[parameter "args" .rest none, parameter "k" .keyword (some (.int 0)), parameter "rest" .named none],
      none⟩,
    fun bound =>
      let names := match valueOf bound "rest" with
        | .dict names _ => names.mergeSort (· ≤ ·)
        | _ => []
      let args := match valueOf bound "args" with
        | .tuple xs => .list xs
        | v => v
      .list [args, valueOf bound "k", .list (names.map Value.text)]⟩

/-- The function with a name. -/
def find? (name : String) : Option StockFunction :=
  [foo, opt, req, var].find? (·.name == name)

/-- The function as a managed one, wrapped in layers. -/
def shared (f : StockFunction) (layers : Nat) : SharedFunction :=
  .create f.name f.signature [("tag", .ofValue (.text "original"))] layers

/-- What a call of the managed function returns in a thread. -/
def run (f : StockFunction) (managed : Managed) (c : Call) : Except Failure Value := do
  return f.result (← f.signature.complete f.name (← managed.call c))

end StockFunction

namespace Value

/-- A value as an integer; a fraction is cut off. -/
def asInteger (v : Value) : Except Failure Int :=
  match v.plain with
  | .text s =>
    match Text.readInt s with
    | some n => .ok n
    | none => .error (.notAnInteger (Text.quoted s))
  | .bytes bs =>
    match Text.readInt (decodedText bs) with
    | some n => .ok n
    | none => .error (.notAnInteger (Text.quotedBytes bs))
  | .complex .. => .error (.notIntegerLike "complex")
  | v =>
    match v.quantity? with
    | some (.finite q) => .ok (q.num.tdiv q.den)
    | some (.infinite _) => .error (.notFinite false)
    | some .nan => .error (.notFinite true)
    | none => .error (.notIntegerLike v.className)
where
  /-- One character for each byte. -/
  decodedText (bs : List Nat) : String :=
    String.ofList (bs.map Char.ofNat)

/-- A text in upper case. -/
def inUpperCase (v : Value) : Except Failure Value :=
  match v.text? with
  | some s => .ok (.text (Text.upper s))
  | none => .error (.noAttribute v.className "upper")

/-- A value, unless it is less than zero. -/
def notNegative (v : Value) : Except Failure Value :=
  match v, v.quantity? with
  | .notAvailable, _ => .error (.refused .typeError)
  | .complex .., _ => .error (.notComparable "complex" "int")
  | v, some (.finite q) => if q < 0 then .error (.negative v.display) else .ok v
  | v, some (.infinite true) => .error (.negative v.display)
  | v, some _ => .ok v
  | .span s, none => .error (.notComparable (className (.span s)) "int")
  | v, none => .error (.notComparable v.className "int")

/-- Ten times a number, or a sequence ten times over. -/
def tenfold (v : Value) : Except Failure Value :=
  let repeated {α : Type} (xs : List α) : List α := (List.replicate 10 xs).flatten
  match v.plain with
  | .bool b => .ok (.int (if b then 10 else 0))
  | .int n => .ok (.int (10 * n))
  | .double (.finite s m e) =>
    let (num, den) := Double.ratioOf m e
    .ok (.double (BinaryFormat.double.round s (10 * num) den))
  | .double x => .ok (.double x)
  | .text s => .ok (.text (String.join (List.replicate 10 s)))
  | .list xs => .ok (.list (repeated xs))
  | .tuple xs => .ok (.tuple (repeated xs))
  | .bytes bs => .ok (.bytes (repeated bs))
  | .span s => .ok (.span (10 * s))
  | .fraction q => .ok (.fraction (10 * q))
  | .notAvailable => .ok .notAvailable
  | .notATime => .ok .notATime
  | v => .error (.notMultipliable v.className "int")

end Value

namespace Validator

/-- A validator of single values. -/
def ofValues (name : String) (f : Value → Arguments → Except Failure Value) : Validator :=
  ⟨name, fun a context => (f a.toValue context).map .ofValue⟩

/-- The sum of the integers and truth values in a context. -/
def contextSum (context : Arguments) : Int :=
  context.foldl (fun total (_, a) =>
    match a.toValue with
    | .int n => total + n
    | .bool true => total + 1
    | _ => total) 0

/-- The ready-made validators under the names of their rules, each with a name of its own. -/
def stock? (rule name : String) : Option ValidatorOffer :=
  let offer (f : Value → Arguments → Except Failure Value) : Option ValidatorOffer :=
    some (.validator (ofValues name f))
  match rule with
  | "int" => offer fun v _ => return .int (← v.asInteger)
  | "upper" => offer fun v _ => v.inUpperCase
  | "nonneg" => offer fun v _ => v.notNegative
  | "ctx_keys" => offer fun v context =>
    .ok (.list [v, .list (((context.map (·.1)).mergeSort (· ≤ ·)).map Value.text)])
  | "ctx_sum" => offer fun v context => .ok (.list [v, .int (contextSum context)])
  | "extra" => offer fun v _ => v.tenfold
  | "one_arg" => some (.narrow name)
  | "not_callable" => some (.other "42")
  | _ => none

end Validator

end Coercion
