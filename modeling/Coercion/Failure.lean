import Coercion.VectorType.Basic

/-!
What can go wrong, as causes. Every cause belongs to one category, by which a caller may tell failures apart, and has
at most one wording; storage refuses a value without saying why.
-/

namespace Coercion

/-- The categories of failures. -/
inductive Category where
  | typeError
  | valueError
  | keyError
  | attributeError
  | assertionError
  | overflow
  | outOfBounds
  | unreadableDate
  | incompatibleType
  | incompatibleCast
  | registrationConflict
  | registryFrozen
  | ambiguousTime
  | nonExistentTime
  | unknownZoneKey
  | unknownZoneName
  | recursion
  deriving DecidableEq

/-- A side of a failed unification: a type, or a bare word. -/
inductive Party where
  | type (t : VectorType)
  | word (s : String)
  deriving Inhabited

namespace Party

/-- The displayed form of a side. -/
def display : Party → String
  | .type t => t.display
  | .word s => s

/-- Whether two sides are the same. -/
def same : Party → Party → Bool
  | .type x, .type y => x.same y
  | .word a, .word b => a == b
  | _, _ => false

end Party

/-- The two tables of a registry. -/
inductive RuleTable where
  | coercion
  | cast
  deriving DecidableEq, Inhabited

namespace RuleTable

/-- The name of a table's entries. -/
def name : RuleTable → String
  | .coercion => "coercion"
  | .cast => "cast"

end RuleTable

/-- An ordered pair of kinds. -/
abbrev TagPair := Tag × Tag

/-- The quoted form of a pair of kinds. -/
def TagPair.quoted (p : TagPair) : String :=
  "(" ++ p.1.quoted ++ ", " ++ p.2.quoted ++ ")"

/-- The cause of a failure. -/
inductive Failure where
  -- types
  | notASpecifier (quoted : String)
  | malformedSpecifier (text : String)
  | unknownAlias (name : String)
  | refusedArguments (kind : String) (arguments : List String)
  | surplusArguments (given : Nat)
  | noTypeFor (storage : String)
  | notDaily (storage : String)
  | badZone (fault : ZoneFault)
  | missingLevel
  | repeatedLevels (names : List String)
  | ambiguousTruth (isEmpty : Bool)
  | unhashable (className : String)
  | notANumeral (quoted : String)
  | notANumber (className : String)
  /-- An integer beyond the range of floating-point numbers. -/
  | beyondDouble
  | notIterable (className : String)
  | noLength (className : String)
  | unnamedType (className : String)
  | unordered (left right : String)
  | immutable (className : String)
  | noAttribute (className name : String)
  -- vectors
  | nullNotEmpty (length : Nat)
  | notAllMissing
  | notListLike (quoted : String)
  | mixedFamilies (families : List String)
  | mixedZones (zones : List String)
  | noFamily (quoted : String)
  | notAType (quoted : String)
  | notAColumn (quoted : String)
  /-- Storage refused a value. -/
  | refused (category : Category)
  -- coercion and casts
  | incompatibleType (x y : Party) (detail : Option String) (index : Option Nat)
  | incompatibleCast (source target : VectorType) (detail : Option String)
  /-- A refusal of a class of its own, as a rule may make it. -/
  | otherRefusal (className text : String)
  | notATypeResult (a b : Tag) (quoted : String)
  | notACastResult (a b : Tag) (quoted : String)
  | wrongTypeResult (a b : Tag) (quoted : String)
  | changedLength (a b : Tag) (before after : Nat)
  | brokenLaws (violations : List String)
  | tooDeep
  -- registries
  | notAKind (quoted : String)
  | notCallable (table : RuleTable) (quoted : String)
  | frozen (table : RuleTable) (pair : TagPair)
  | alreadyRegistered (table : RuleTable) (pair : TagPair)
  | readOnlyView
  | notAKindClass (display : String)
  | kindWithoutName (className : String)
  | kindTaken (kind : String)
  | aliasesTaken (quoted : List String)
  -- settings
  | unknownRule (quoted : String)
  | noArgument (function name : String)
  | noParameter (function name : String)
  | argumentTaken (name : String)
  | reservedName (name : String)
  | nameNotText (className : String)
  | validatorNotCallable (display : String)
  | validatorTooNarrow (name : String)
  | noDefault (name : String)
  | missingArguments (function : String) (names : List String)
  | noSetter (name : String)
  | noDeleter (name : String)
  | unknownKey (name : String)
  | notAnInteger (quoted : String)
  | notIntegerLike (className : String)
  /-- A number that is not finite has no integer part. -/
  | notFinite (isNan : Bool)
  | negative (display : String)
  | notComparable (left right : String)
  | notMultipliable (left right : String)
  deriving Inhabited

namespace Failure

/-- A refusal to unify two types. -/
def incompatible (x y : VectorType) (detail : Option String) (index : Option Nat) : Failure :=
  match x.unnamedClass?, y.unnamedClass? with
  | some c, _ => .unnamedType c
  | none, some c => .unnamedType c
  | none, none => .incompatibleType (.type x) (.type y) detail index

/-- A refusal to cast a vector. -/
def noCast (source target : VectorType) (detail : Option String) : Failure :=
  match source.unnamedClass?, target.unnamedClass? with
  | some c, _ => .unnamedType c
  | none, some c => .unnamedType c
  | none, none => .incompatibleCast source target detail

/-- The category of a cause. -/
def category : Failure → Category
  | .badZone .tooFarOff | .badZone (.unknownName _) | .missingLevel | .repeatedLevels _
  | .ambiguousTruth _ | .notANumeral _ | .nullNotEmpty _ | .notAllMissing | .kindTaken _
  | .aliasesTaken _ | .unknownRule _ | .notAnInteger _ | .notFinite true | .negative _ => .valueError
  | .notFinite false | .beyondDouble => .overflow
  | .immutable _ | .noAttribute _ _ | .noSetter _ | .noDeleter _ => .attributeError
  | .noParameter .. | .argumentTaken _ | .unknownKey _ => .keyError
  | .brokenLaws _ => .assertionError
  | .refused c => c
  | .incompatibleType .. => .incompatibleType
  | .incompatibleCast .. => .incompatibleCast
  | .alreadyRegistered .. => .registrationConflict
  | .frozen .. => .registryFrozen
  | .tooDeep => .recursion
  | _ => .typeError

/-- Whether a failure is one of types, refusals to unify and to cast included. -/
def isTypeFailure (f : Failure) : Bool :=
  match f.category with
  | .typeError | .incompatibleType | .incompatibleCast => true
  | _ => false

/-- The class of a refusal to unify or to cast. -/
def refusalClass? : Failure → Option String
  | .incompatibleType .. => some "IncompatibleType"
  | .incompatibleCast .. => some "IncompatibleCast"
  | .otherRefusal className _ => some className
  | _ => none

/-- Whether a failure is a refusal to unify or to cast. -/
def isRefusal (f : Failure) : Bool :=
  f.refusalClass?.isSome

/-- A detail at the end of a message. -/
def detailText : Option String → String
  | none => ""
  | some "" => ""
  | some d => ": " ++ d

/-- The beginning of a message about what a caster returned. -/
def casterText (a b : Tag) : String :=
  "caster for (" ++ a.quoted ++ ", " ++ b.quoted ++ ") "

/-- Several texts as the quoted elements of a tuple. -/
def tupleText (xs : List String) : String :=
  (Value.tuple (xs.map .text)).quoted

/-- A refusal to unify, in words. -/
def unifyText (x y : String) (detail : Option String) (index : Option Nat) : String :=
  "no common type for '" ++ x ++ "' and '" ++ y ++ "'" ++
    (match index with
      | none => ""
      | some i => " (input " ++ toString i ++ ")") ++ detailText detail

/-- A refusal to cast, in words. -/
def castText (source target : String) (detail : Option String) : String :=
  "cannot cast '" ++ source ++ "' to '" ++ target ++ "'" ++ detailText detail

/-- A conflict of two registrations, in words. -/
def conflictText (table : String) (pair : TagPair) : String :=
  table ++ " for " ++ pair.quoted ++ " is already registered"

/-- Names in a sentence: the last two are joined by `and`, after a comma if there are more. -/
def joinNames : List String → String
  | [] => ""
  | [a] => a
  | [a, b] => a ++ " and " ++ b
  | names => ", ".intercalate (names.dropLast) ++ ", and " ++ names.getLastD ""

/-- The wording of a cause, if it has one. -/
def message : Failure → Option String
  | .notASpecifier q => some ("could not interpret type specifier: " ++ q)
  | .malformedSpecifier s => some ("invalid type specifier: " ++ Text.quoted s)
  | .unknownAlias name => some ("unrecognized type alias: " ++ Text.quoted name)
  | .refusedArguments kind arguments =>
    some ("'" ++ kind ++ "' does not accept arguments: " ++ tupleText arguments)
  | .surplusArguments given =>
    some ("DatetimeType.from_string() takes from 1 to 2 positional arguments but " ++
      toString (given + 1) ++ " were given")
  | .noTypeFor storage => some ("no type corresponds to dtype: " ++ storage)
  | .notDaily storage => some ("only daily periods are dates, not " ++ storage)
  | .badZone fault => fault.message
  | .missingLevel => some "categorical levels cannot be missing"
  | .repeatedLevels names =>
    some ("categorical levels must be unique: " ++ Value.shortenTexts names)
  | .ambiguousTruth true =>
    some ("The truth value of an empty array is ambiguous. Use `array.size > 0` to check that an " ++
      "array is not empty.")
  | .ambiguousTruth false =>
    some ("The truth value of an array with more than one element is ambiguous. Use a.any() or " ++
      "a.all()")
  | .unhashable c => some ("unhashable type: '" ++ c ++ "'")
  | .notANumeral q => some ("could not convert string to float: " ++ q)
  | .notANumber c => some ("float() argument must be a string or a real number, not '" ++ c ++ "'")
  | .beyondDouble => some "int too large to convert to float"
  | .notIterable c => some ("'" ++ c ++ "' object is not iterable")
  | .noLength c => some ("object of type '" ++ c ++ "' has no len()")
  | .unnamedType c => some ("__str__ returned non-string (type " ++ c ++ ")")
  | .unordered l r =>
    some ("'>=' not supported between instances of '" ++ l ++ "' and '" ++ r ++ "'")
  | .immutable c => some (c ++ " objects are immutable")
  | .noAttribute c name => some ("'" ++ c ++ "' object has no attribute '" ++ name ++ "'")
  | .nullNotEmpty n => some ("null vectors must be empty, not length " ++ toString n)
  | .notAllMissing => some "unspecified vectors must be entirely missing"
  | .notListLike q => some ("list elements must be list-like or None, not " ++ q)
  | .mixedFamilies fs =>
    some ("could not detect a single type for mixed data: " ++ Value.shortenTexts fs)
  | .mixedZones zs => some ("could not detect a single time zone: " ++ Value.shortenTexts zs)
  | .noFamily q => some ("could not detect type of element: " ++ q)
  | .notAType q => some ("type must be a VectorType, not " ++ q)
  | .notAColumn q => some ("data must be a pandas.Series, not " ++ q)
  | .refused _ => none
  | .incompatibleType x y detail index => some (unifyText x.display y.display detail index)
  | .incompatibleCast source target detail => some (castText source.display target.display detail)
  | .otherRefusal _ text => some text
  | .notATypeResult a b q =>
    some ("resolver for (" ++ a.quoted ++ ", " ++ b.quoted ++ ") must return a VectorType, not " ++ q)
  | .notACastResult a b q => some (casterText a b ++ "must return a CastResult, not " ++ q)
  | .wrongTypeResult a b q => some (casterText a b ++ "returned a value of the wrong type: " ++ q)
  | .changedLength a b before after =>
    some (casterText a b ++ "changed the length of its input: " ++ toString before ++ " -> " ++
      toString after)
  | .brokenLaws vs =>
    some (toString vs.length ++ " law violation(s) found:\n" ++
      "\n".intercalate (vs.map fun v => "    - " ++ v))
  | .tooDeep => none
  | .notAKind q => some ("could not interpret kind: " ++ q)
  | .notCallable table q => some (table.name ++ " must be callable: " ++ q)
  | .frozen table pair =>
    some ("cannot register " ++ table.name ++ " for " ++ pair.quoted ++ ": registry is frozen")
  | .alreadyRegistered table pair => some (conflictText table.name pair)
  | .readOnlyView => some "'mappingproxy' object does not support item assignment"
  | .notAKindClass d => some ("can only register VectorType subclasses: " ++ d)
  | .kindWithoutName c => some (c ++ " must define a string 'kind'")
  | .kindTaken kind => some ("kind '" ++ kind ++ "' is already registered")
  | .aliasesTaken quoted =>
    some ("aliases are already registered: [" ++ ", ".intercalate quoted ++ "]")
  | .unknownRule q => some ("`lossy` must be one of ('warn', 'ignore'), not " ++ q)
  | .noArgument f name | .noParameter f name => some ("'" ++ f ++ "()' has no argument '" ++ name ++ "'")
  | .argumentTaken name => some ("argument '" ++ name ++ "' already exists")
  | .reservedName name => some ("'" ++ name ++ "' is a reserved attribute")
  | .nameNotText c => some ("name must be a string, not <class '" ++ c ++ "'>")
  | .validatorNotCallable d => some ("validator must be callable: " ++ d)
  | .validatorTooNarrow name =>
    some ("validator must accept at least 2 arguments: <function " ++ name ++ ">")
  | .noDefault name => some ("'" ++ name ++ "' has no default value")
  | .missingArguments f names =>
    some (f ++ "() missing " ++ toString names.length ++ " required positional argument" ++
      (if names.length = 1 then "" else "s") ++ ": " ++
      joinNames (names.map fun n => "'" ++ n ++ "'"))
  | .noSetter name =>
    some ("property '" ++ name ++
      "' of 'extension_func.<locals>._ExtensionFunc' object has no setter")
  | .noDeleter name =>
    some ("property '" ++ name ++
      "' of 'extension_func.<locals>._ExtensionFunc' object has no deleter")
  | .unknownKey name => some name
  | .notAnInteger q => some ("invalid literal for int() with base 10: " ++ q)
  | .notIntegerLike c =>
    some ("int() argument must be a string, a bytes-like object or a real number, not '" ++ c ++ "'")
  | .notFinite isNan =>
    some ("cannot convert float " ++ (if isNan then "NaN" else "infinity") ++ " to integer")
  | .negative d => some ("negative: " ++ d)
  | .notComparable l r =>
    some ("'<' not supported between instances of '" ++ l ++ "' and '" ++ r ++ "'")
  | .notMultipliable l r =>
    some ("unsupported operand type(s) for *: '" ++ l ++ "' and '" ++ r ++ "'")

end Failure

end Coercion
