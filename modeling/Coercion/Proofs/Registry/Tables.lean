import Coercion.Registry.Standard
import Coercion.Proofs.VectorType.Standard

/-!
The two tables of the standard registry. Registration leaves one list of entries for resolvers and one for casters; what
is looked up in them under the kinds of two standard types is a function of the two types.
-/

namespace Coercion

namespace Registry

/-! ### The entries -/

/-- An entry under two names of kinds. -/
def entry {α : Type} (a b : String) (rule : α) : TagPair × α :=
  ((.name a, .name b), rule)

/-- The resolvers that every kind enters. -/
def basicResolvers (kind : String) : List (TagPair × Resolver) :=
  [entry kind "null" .identity, entry kind "unspecified" .identity, entry kind "*" .noCommonType]

/-- The casters that a kind enters if it can be taken apart. -/
def basicCasters (kind : String) (selfCast : Caster) : List (TagPair × Caster) :=
  [entry kind kind selfCast, entry kind "*" .noCast, entry kind "list" .anyToList, entry "list" kind .listToAny]

/-- The resolvers of the standard kinds, in the order of their registration. -/
def resolverTable : List (TagPair × Resolver) := List.flatten [
  basicResolvers "list",
  [entry "list" "list" .sameType, entry "unspecified" "unspecified" .unspecifiedPair,
    entry "unspecified" "*" .noCommonType],
  basicResolvers "logical",
  [entry "logical" "logical" .finerNumeric, entry "logical" "integer" .finerNumeric,
    entry "logical" "double" .finerNumeric],
  basicResolvers "integer",
  [entry "integer" "integer" .finerNumeric, entry "integer" "double" .finerNumeric],
  basicResolvers "double",
  [entry "double" "double" .finerNumeric],
  basicResolvers "character",
  [entry "character" "character" .sameType, entry "character" "categorical" .characterCategorical,
    entry "categorical" "categorical" .categoricals],
  basicResolvers "categorical",
  [entry "date" "date" .sameType, entry "date" "datetime" .dateDatetime, entry "datetime" "datetime" .datetimes],
  basicResolvers "date",
  basicResolvers "datetime",
  [entry "binned" "binned" .binnedPair, entry "binned" "double" .binnedDouble],
  basicResolvers "binned"]

/-- The casters of the standard kinds, in the order of their registration. -/
def casterTable : List (TagPair × Caster) := List.flatten [
  [entry "list" "list" .reconstruct, entry "list" "*" .noCast],
  basicCasters "logical" .reconstruct,
  [entry "logical" "integer" .logicalToInteger, entry "logical" "double" .logicalToDouble],
  basicCasters "integer" .reconstruct,
  [entry "integer" "logical" .integerToLogical, entry "integer" "double" .integerToDouble],
  basicCasters "double" .reconstruct,
  [entry "double" "logical" .doubleToLogical, entry "double" "integer" .doubleToInteger],
  basicCasters "character" .reconstruct,
  [entry "character" "categorical" .characterToCategorical],
  basicCasters "categorical" .recode,
  [entry "categorical" "character" .categoricalToCharacter],
  basicCasters "date" .reconstruct,
  basicCasters "datetime" .datetimeToDatetime,
  [entry "date" "datetime" .dateToDatetime, entry "datetime" "date" .datetimeToDate],
  basicCasters "binned" .rebin,
  [entry "double" "binned" .rebin, entry "binned" "double" .binnedToDouble]]

theorem standard_resolvers : standard.resolvers = resolverTable := rfl

theorem standard_casters : standard.casters = casterTable := rfl

/-! ### What is found under two kinds -/

/-- The resolver under the kinds of two standard types, in this order. -/
def resolver? : VectorType → VectorType → Option Resolver
  | .null, _ => none
  | .unspecified, .unspecified => some .unspecifiedPair
  | .unspecified, _ => none
  | _, .null | _, .unspecified => some .identity
  | .logical, .logical | .logical, .integer | .logical, .double | .integer, .integer | .integer, .double
  | .double, .double => some .finerNumeric
  | .character, .character | .list, .list | .date, .date => some .sameType
  | .character, .categorical _ => some .characterCategorical
  | .categorical _, .categorical _ => some .categoricals
  | .date, .datetime _ => some .dateDatetime
  | .datetime _, .datetime _ => some .datetimes
  | .binned _, .binned _ => some .binnedPair
  | .binned _, .double => some .binnedDouble
  | _, _ => none

/-- The caster under the kinds of two standard types. -/
def caster? : VectorType → VectorType → Option Caster
  | .null, _ | .unspecified, _ | _, .null | _, .unspecified => none
  | .list, .list | .logical, .logical | .integer, .integer | .double, .double | .character, .character
  | .date, .date => some .reconstruct
  | .categorical _, .categorical _ => some .recode
  | .datetime _, .datetime _ => some .datetimeToDatetime
  | .binned _, .binned _ | .double, .binned _ => some .rebin
  | .list, _ => some .listToAny
  | _, .list => some .anyToList
  | .logical, .integer => some .logicalToInteger
  | .logical, .double => some .logicalToDouble
  | .integer, .logical => some .integerToLogical
  | .integer, .double => some .integerToDouble
  | .double, .logical => some .doubleToLogical
  | .double, .integer => some .doubleToInteger
  | .character, .categorical _ => some .characterToCategorical
  | .categorical _, .character => some .categoricalToCharacter
  | .date, .datetime _ => some .dateToDatetime
  | .datetime _, .date => some .datetimeToDate
  | .binned _, .double => some .binnedToDouble
  | _, _ => none

section Lookup

variable {x y : VectorType}

theorem resolverFor?_standard (hx : x.IsStandard) (hy : y.IsStandard) :
    standard.resolverFor? x.tag y.tag = resolver? x y := by
  rw [resolverFor?, standard_resolvers]
  cases hx <;> cases hy <;> rfl

/-- Every standard kind but the null one has the same fallback. -/
theorem resolverFor?_any (hx : x.IsStandard) :
    standard.resolverFor? x.tag .any = if x matches .null then none else some .noCommonType := by
  rw [resolverFor?, standard_resolvers]
  cases hx <;> rfl

theorem casterFor?_standard (hx : x.IsStandard) (hy : y.IsStandard) :
    standard.casterFor? x.tag y.tag = caster? x y := by
  rw [casterFor?, standard_casters]
  cases hx <;> cases hy <;> rfl

/-- Every standard kind with values of its own refuses the casts that nobody has a rule for. -/
theorem casterFor?_any (hx : x.IsStandard) :
    standard.casterFor? x.tag .any = if x matches .null | .unspecified then none else some .noCast := by
  rw [casterFor?, standard_casters]
  cases hx <;> rfl

end Lookup

end Registry

end Coercion
