import Coercion.Unify.Basic

/-!
The resolvers of the standard kinds. Numeric types are in one line, categoricals are ordered by their levels, and
datetimes meet at universal time.
-/

namespace Coercion

namespace Resolver

/-- A resolver that cannot fail to return a type. -/
def ofTypes (name : String) (f : VectorType → VectorType → Bool → Except Failure VectorType) : Resolver :=
  ⟨name, fun x y strict => (f x y strict).map .type⟩

/-- The first type. -/
def identity : Resolver :=
  ofTypes "identity" fun x _ _ => .ok x

/-- No type at all. -/
def noCommonType : Resolver :=
  ofTypes "no_common_type" fun x y _ => .error (.incompatible x y none none)

/-- The first type, provided that the second is equal to it. -/
def sameType : Resolver :=
  ofTypes "same_type" fun x y _ =>
    if x == y then .ok x else .error (.incompatible x y (some "payloads differ") none)

/-- The finer of two numeric types. -/
def finerNumeric : Resolver :=
  ofTypes "finer_numeric" fun x y _ =>
    match x.rankFault? y with
    | some (left, right) => .error (.unordered left right)
    | none => .ok (if x.finerThan y then x else y)

/-- Two all-missing vectors are taken for truth values. -/
def unspecifiedPair : Resolver :=
  ofTypes "unspecified_to_unspecified" fun _ _ _ => .ok .logical

/-- Levels of `y` that `x` lacks, as texts in ascending order. -/
def lackingLevels (x y : List Value) : List String :=
  ((y.filter fun v => !v.isIn x).map Value.display).mergeSort (· ≤ ·)

/-- The categorical that has the levels of the other; if neither has, all levels of both, unless payloads
have to agree. -/
def categoricals : Resolver :=
  ofTypes "categorical_categorical" fun x y strict =>
    if x.finerThan y then .ok x
    else if y.finerThan x then .ok y
    else
      match x, y with
      | .categorical a, .categorical b =>
        if strict then
          .error (.incompatible x y (some ("levels " ++ Value.shortenTexts (lackingLevels a b) ++
            " are not present in '" ++ x.display ++ "'")) none)
        else VectorType.ofLevels (VectorType.unionLevels a b)
      | x, y => .error (.incompatible x y none none)

/-- Texts can hold every level. -/
def characterCategorical : Resolver :=
  ofTypes "character_categorical" fun x _ _ => .ok x

/-- Dates become datetimes. -/
def dateDatetime : Resolver :=
  ofTypes "date_datetime" fun _ y _ => .ok y

/-- Two datetimes keep a shared zone, the one with a zone prevails over the one without, and two zones meet
at universal time. -/
def datetimes : Resolver :=
  ofTypes "datetime_datetime" fun x y _ =>
    match x, y with
    | .datetime a, .datetime b =>
      if a = b then .ok x
      else if a.isNone then .ok y
      else if b.isNone then .ok x
      else .ok (.datetime (some .utc))
    | x, y => .error (.incompatible x y none none)

/-- All boundaries of both. -/
def binnedPair : Resolver :=
  ofTypes "binned_binned" fun x y _ =>
    match x, y with
    | .binned a, .binned b => .ok (VectorType.ofBoundaries (a ++ b))
    | x, y => .error (.incompatible x y none none)

/-- Binned numbers become plain ones. -/
def binnedDouble : Resolver :=
  ofTypes "binned_double" fun _ y _ => .ok y

end Resolver

end Coercion
