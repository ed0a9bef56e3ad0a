import Coercion.Registry.Standard

/-!
Work on a registry, operation by operation. A rule is entered at once, or through a decorator, which is made for a pair
of kinds first and takes rules later, any number of times. Beside these stand the registration of a whole kind, freezing
and lookups. What an operation has done before it fails stays done.
-/

namespace Coercion

/-- The rules that a table holds. -/
def RuleTable.Rule : RuleTable → Type
  | .coercion => Resolver
  | .cast => Caster

/-- The rule in an offer, if what is offered can be called. -/
def Offer.callable? {α : Type} : Offer α → Option α
  | .rule r | .nameless r _ => some r
  | .other _ => none

/-- The tags of an ordered pair of kinds. -/
def KindSpecifier.pair (a b : KindSpecifier) : Except Failure TagPair := do
  return (← a.tag, ← b.tag)

namespace Registry

/-- The entries of a table. -/
def rules (r : Registry) : (table : RuleTable) → List (TagPair × table.Rule)
  | .coercion => r.resolvers
  | .cast => r.casters

/-- The rule in a table for an ordered pair of kinds. -/
def rule? (r : Registry) (table : RuleTable) (pair : TagPair) : Option table.Rule :=
  ruleFor? (r.rules table) pair

end Registry

/-- Enters a rule into a table. -/
def Registration.enter : (table : RuleTable) → TagPair → Offer table.Rule → Registration Unit
  | .coercion => resolver
  | .cast => caster

/-- What can be asked of a registry. -/
inductive Operation where
  /-- Enters a rule under two kinds. -/
  | register (table : RuleTable) (a b : KindSpecifier) (offer : Offer table.Rule)
  /-- Makes a decorator that enters rules under two kinds. -/
  | decorator (table : RuleTable) (a b : KindSpecifier)
  /-- Applies a decorator of a table, by its number. -/
  | apply (table : RuleTable) (n : Nat) (offer : Offer table.Rule)
  /-- Enters the basic rules of a kind. -/
  | registerKind (kind : KindSpecifier) (selfCast : Offer Caster) (decomposable : Bool)
  /-- Refuses all further entries. -/
  | freeze
  /-- Looks up the rule under two kinds. -/
  | lookup (table : RuleTable) (a b : KindSpecifier)

/-- What comes of an operation. -/
inductive Answer where
  /-- Nothing but the change to the registry, if there was one. -/
  | done
  /-- The number of a new decorator. -/
  | decorator (n : Nat)
  | found (table : RuleTable) (rule? : Option table.Rule)

/-- A registry that is worked on, with the pairs of kinds that the decorators made so far are for. -/
structure Session where
  registry : Registry
  decorators : RuleTable → List TagPair

namespace Session

/-- A registry that nobody has worked on yet. -/
def new (r : Registry) : Session :=
  ⟨r, fun _ => []⟩

/-- Does a registration. -/
def perform (s : Session) (x : Registration Unit) : Except Failure Answer × Session :=
  ((Registration.runOn s.registry x).1.map fun _ => .done, { s with registry := (Registration.runOn s.registry x).2 })

/-- Keeps a new decorator. -/
def decorate (s : Session) (table : RuleTable) (pair : TagPair) : Session :=
  { s with decorators := fun t => if t = table then s.decorators t ++ [pair] else s.decorators t }

/-- Does what an operation asks for. A decorator that has not been made does nothing. -/
def step (s : Session) : Operation → Except Failure Answer × Session
  | .register table a b offer =>
    match a.pair b with
    | .ok pair => s.perform (.enter table pair offer)
    | .error f => (.error f, s)
  | .decorator table a b =>
    match a.pair b with
    | .ok pair => (.ok (.decorator (s.decorators table).length), s.decorate table pair)
    | .error f => (.error f, s)
  | .apply table n offer =>
    match (s.decorators table)[n]? with
    | some pair => s.perform (.enter table pair offer)
    | none => (.ok .done, s)
  | .registerKind kind selfCast decomposable => s.perform (.kind kind selfCast decomposable)
  | .freeze => s.perform .freeze
  | .lookup table a b =>
    match a.pair b with
    | .ok pair => (.ok (.found table (s.registry.rule? table pair)), s)
    | .error f => (.error f, s)

/-- Does what some operations ask for, one after the other, whether or not they fail. -/
def run (s : Session) (operations : List Operation) : Session :=
  operations.foldl (fun s operation => (s.step operation).2) s

end Session

end Coercion
