import Coercion.Registry.Basic

/-!
Common types. Two types are unified by the resolver for their kinds in either order, and failing that by the fallback of
one of them; the null type gives way to every other. Several types are unified one after the other, from the left.
-/

namespace Coercion

namespace Registry

/-- A resolver that applies to two types, with the order of its arguments. -/
structure Dispatch where
  rule : Resolver
  left : VectorType
  right : VectorType

/-- The first rule that applies: the one for the pair, the one for the swapped pair, the fallback of the
first kind, the fallback of the second. -/
def dispatch? (r : Registry) (x y : VectorType) : Option Dispatch :=
  let entry (a b : Tag) (left right : VectorType) : Option Dispatch :=
    (r.resolverFor? a b).map fun rule => ⟨rule, left, right⟩
  entry x.tag y.tag x y <|> entry y.tag x.tag y x <|> entry x.tag .any x y <|> entry y.tag .any y x

/-- A refusal in terms of the types that were asked for. -/
def refusalFor (x y : VectorType) : Failure → Failure
  | .incompatibleType a b detail index =>
    if a.same (.type x) && b.same (.type y) then .incompatibleType a b detail index
    else .incompatible x y detail none
  | f => f

/-- The common type of two types. -/
def unify (r : Registry) (strict : Bool) (x y : VectorType) : Except Failure VectorType :=
  match x, y with
  | .null, y => .ok y
  | x, .null => .ok x
  | x, y =>
    match r.dispatch? x y with
    | none => .error (refusalFor x y (.incompatible x y none none))
    | some d =>
      match d.rule.run d.left d.right strict with
      | .ok (.type t) => .ok t
      | .ok (.other q) => .error (.notATypeResult x.tag y.tag q)
      | .error f => .error (refusalFor x y f)

/-- A refusal at the input with a given index, in terms of the two types that met there. -/
def refusalAt (index : Nat) (x y : VectorType) : Failure → Failure
  | .incompatibleType _ _ detail _ => .incompatible x y detail (some index)
  | f => f

/-- Unifies the types of a list with what has been found so far; the first of them has the given
index. -/
def unifyFrom (r : Registry) (strict : Bool) (index : Nat) (found : VectorType) :
    List VectorType → Except Failure VectorType
  | [] => .ok found
  | t :: ts =>
    match r.unify strict found t with
    | .ok next => r.unifyFrom strict (index + 1) next ts
    | .error f => .error (refusalAt index found t f)

/-- The common type of a list of types. -/
def commonType (r : Registry) (strict : Bool) (types : List VectorType) : Except Failure VectorType :=
  r.unifyFrom strict 0 .null types

/-- The types that some specifiers stand for, up to the first that stands for none. -/
def resolvedTypes (table : TypeTable) : List Specifier → List VectorType × Option Failure
  | [] => ([], none)
  | s :: rest =>
    match s.resolve table with
    | .ok t => let (types, fault) := resolvedTypes table rest; (t :: types, fault)
    | .error f => ([], some f)

/-- The common type of the types that some specifiers stand for. A specifier is looked at only if the types
before it have a common type. -/
def commonTypeOf (r : Registry) (table : TypeTable) (strict : Bool) (specifiers : List Specifier) :
    Except Failure VectorType := do
  let (types, fault) := resolvedTypes table specifiers
  let t ← r.commonType strict types
  match fault with
  | some f => throw f
  | none => return t

end Registry

end Coercion
