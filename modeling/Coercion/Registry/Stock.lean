import Coercion.Registry.Standard

/-!
Ready-made rules for kinds of one's own. Most of them are as simple as a rule can be, and some break the contract of a
rule in one particular way.
-/

namespace Coercion

namespace Resolver

/-- The ready-made resolvers. -/
def stock : List Resolver := [
  ofTypes "keep_left" fun x _ _ => .ok x,
  ofTypes "keep_right" fun _ y _ => .ok y,
  ofTypes "strict_left" fun x y strict => .ok (if strict then x else y),
  ofTypes "logical" fun _ _ _ => .ok .logical,
  ofTypes "fail" fun x y _ => .error (.incompatible x y (some "custom detail") none),
  ofTypes "fail_swapped" fun x y _ => .error (.incompatible y x (some "swapped detail") none),
  ofTypes "fail_other" fun _ _ _ => .error (.incompatibleType (.word "foo") (.word "bar") none none),
  ofTypes "fail_b" fun x y _ =>
    if x.params.any fun p => p.2.same (.text "b") then .error (.incompatible x y none none) else .ok x,
  ⟨"text", fun _ _ _ => .ok (.other "'integer'")⟩,
  ⟨"none", fun _ _ _ => .ok (.other "None")⟩,
  identity,
  sameType,
  noCommonType]

/-- The ready-made resolver with a name. -/
def stock? (name : String) : Option Resolver :=
  stock.find? (·.name == name)

end Resolver

namespace Caster

/-- The storage of a vector under another type. -/
def relabelled (v : TypedVector) (target : VectorType) : TypedVector :=
  ⟨target, v.column⟩

/-- The ready-made casters. -/
def stock : List Caster := [
  plain "copy" fun v target => .ok (.exact (relabelled v target)),
  plain "flag_all" fun v target => .ok (.result (relabelled v target) (List.range v.size)),
  plain "pair" fun v target => .ok (.result (relabelled v target) [0]),
  plain "list_pair" fun v target => .ok (.other ("[" ++ (relabelled v target).quoted ++ ", [0]]")),
  plain "triple" fun v target => .ok (.other ("(" ++ (relabelled v target).quoted ++ ", frozenset(), 1)")),
  plain "text" fun _ _ => .ok (.other "'bad'"),
  plain "wrong_type" fun v _ => .ok (.exact v),
  plain "not_vector" fun _ _ => .ok (.noVector "7"),
  plain "short" fun v target =>
    .ok (.exact ⟨target, ⟨v.column.dtype, v.values.dropLast⟩⟩),
  plain "fail" fun v target => .error (.noCast v.type target (some "custom detail")),
  plain "nulls" fun v target => do return .exact (← target.missingVector v.size),
  reconstruct,
  noCast,
  anyToList,
  listToAny]

/-- The ready-made caster with a name. -/
def stock? (name : String) : Option Caster :=
  stock.find? (·.name == name)

end Caster

end Coercion
