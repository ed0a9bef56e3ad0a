import Coercion.Vector.Detect

/-!
Registries of rules. Two tables are keyed by ordered pairs of kinds: resolvers find the common type of two types, and
casters turn a vector into one of another type. Entries are added once and never replaced, and a registry that
has been frozen takes no more of them. The pair of a kind with the wild card holds the kind's own fallback.
-/

namespace Coercion

/-! ## Rules -/

/-- What a resolver may return. -/
inductive Resolution where
  | type (t : VectorType)
  /-- A value that is no type, with its quoted form. -/
  | other (quoted : String)

/-- A rule for the common type of two types; the flag asks for payloads that agree as they are. -/
structure Resolver where
  name : String
  run : VectorType → VectorType → Bool → Except Failure Resolution

/-- A vector after a cast, and the positions whose values were not preserved, in ascending order. -/
structure CastResult where
  vector : TypedVector
  lossy : List Nat
  deriving Inhabited

/-- What a caster may return. -/
inductive CasterOutput where
  /-- A vector with the positions that were not preserved, in any order. -/
  | result (vector : TypedVector) (lossy : List Nat)
  /-- A value that is no vector in the place of one, with its quoted form. -/
  | noVector (quoted : String)
  /-- A value that has not the form of a result, with its quoted form. -/
  | other (quoted : String)

/-- How casters do the casts that they need on their way. -/
abbrev Executor := TypedVector → VectorType → Except Failure CastResult

/-- A rule that turns a vector into one of a given type. -/
structure Caster where
  name : String
  run : Executor → TypedVector → VectorType → Except Failure CasterOutput

/-- What is offered as a rule. -/
inductive Offer (α : Type) where
  | rule (r : α)
  /-- A rule without a name, with the name of its class. -/
  | nameless (r : α) (className : String)
  /-- A value that cannot be called, with its quoted form. -/
  | other (quoted : String)

/-! ## The tables -/

/-- The two tables of rules, in the order of registration, and a journal of what was done. -/
structure Registry where
  resolvers : List (TagPair × Resolver)
  casters : List (TagPair × Caster)
  frozen : Bool
  journal : List String

namespace Tag

/-- The wild card in place of the second kind. -/
def any : Tag := .name "*"

/-- The kind of the decomposed form. -/
def list : Tag := .name "list"

end Tag

namespace Registry

/-- The registry without entries. -/
def empty : Registry := ⟨[], [], false, []⟩

/-- The rule under an ordered pair of kinds. -/
def ruleFor? {α : Type} (rules : List (TagPair × α)) (pair : TagPair) : Option α :=
  (rules.find? fun entry => entry.1 == pair).map (·.2)

/-- The resolver for an ordered pair of kinds. -/
def resolverFor? (r : Registry) (a b : Tag) : Option Resolver :=
  ruleFor? r.resolvers (a, b)

/-- The caster for an ordered pair of kinds. -/
def casterFor? (r : Registry) (a b : Tag) : Option Caster :=
  ruleFor? r.casters (a, b)

/-- The name of the rule for an ordered pair of kinds. -/
def ruleName? (r : Registry) : RuleTable → TagPair → Option String
  | .coercion, pair => (ruleFor? r.resolvers pair).map Resolver.name
  | .cast, pair => (ruleFor? r.casters pair).map Caster.name

/-- The displayed form of a registry. -/
def quoted (r : Registry) : String :=
  "DispatchRegistry(coercions=" ++ toString r.resolvers.length ++ ", casts=" ++
    toString r.casters.length ++ ", frozen=" ++ (if r.frozen then "True" else "False") ++ ")"

end Registry

/-! ## Registration -/

/-- A step that changes a registry. What it has done stays done if it fails later on. -/
abbrev Registration := ExceptT Failure (StateM Registry)

/-- What may stand for a kind. -/
inductive KindSpecifier where
  | word (s : String)
  | type (t : VectorType)
  /-- A value that stands for no kind, with its quoted form. -/
  | other (quoted : String)

namespace KindSpecifier

/-- The tag of a kind. -/
def tag : KindSpecifier → Except Failure Tag
  | .word s => .ok (.name s)
  | .type t => .ok t.tag
  | .other q => .error (.notAKind q)

end KindSpecifier

namespace Registration

/-- The rule in an offer, if it may be entered under a pair of kinds. -/
def ruleOf {α : Type} (table : RuleTable) (rules : List (TagPair × α)) (frozen : Bool) (pair : TagPair)
    (offer : Offer α) : Except Failure α :=
  let check (rule : α) : Except Failure α :=
    if frozen then .error (.frozen table pair)
    else if (Registry.ruleFor? rules pair).isSome then .error (.alreadyRegistered table pair)
    else .ok rule
  match offer with
  | .rule r | .nameless r _ => check r
  | .other q => .error (.notCallable table q)

/-- Notes an entry in the journal, which needs the name of the rule. -/
def note {α : Type} (table : RuleTable) (pair : TagPair) (name : α → String) (offer : Offer α) :
    Registration Unit := do
  match offer with
  | .rule r =>
    let line := "registered " ++ table.name ++ " " ++ pair.quoted ++ " -> " ++ name r
    modify fun registry => { registry with journal := registry.journal ++ [line] }
  | .nameless _ className => throw (.noAttribute className "__qualname__")
  | .other _ => pure ()

/-- Enters a resolver. -/
def resolver (pair : TagPair) (offer : Offer Resolver) : Registration Unit := do
  let registry ← get
  let rule ← ruleOf .coercion registry.resolvers registry.frozen pair offer
  set { registry with resolvers := registry.resolvers ++ [(pair, rule)] }
  note .coercion pair Resolver.name offer

/-- Enters a caster. -/
def caster (pair : TagPair) (offer : Offer Caster) : Registration Unit := do
  let registry ← get
  let rule ← ruleOf .cast registry.casters registry.frozen pair offer
  set { registry with casters := registry.casters ++ [(pair, rule)] }
  note .cast pair Caster.name offer

/-- Refuses all further entries. -/
def freeze : Registration Unit := do
  let registry ← get
  let line := "registry frozen with " ++ toString registry.resolvers.length ++ " coercions and " ++
    toString registry.casters.length ++ " casts"
  set { registry with frozen := true, journal := registry.journal ++ [line] }

/-- Runs a step on a registry. -/
def runOn {α : Type} (registry : Registry) (step : Registration α) : Except Failure α × Registry :=
  step.run registry

end Registration

end Coercion
