import Coercion.Cast.Nested
import Coercion.Unify.Rules

/-!
The rules of the standard kinds. Every kind enters the same basic rules: it absorbs the null and the unspecified type,
refuses what nobody has a rule for, can be cast to itself, and can be taken apart and put together. Beside these stand
the rules for the pairs of kinds that belong together.
-/

namespace Coercion

namespace Registration

/-- Enters a caster, if there is one. Without one there would be a decorator, and nothing is entered. -/
def casterIfGiven (pair : TagPair) : Option (Offer Caster) → Registration Unit
  | some offer => caster pair offer
  | none => pure ()

/-- Enters the basic rules of a kind whose caster to itself may be missing. -/
def kindWith (specifier : KindSpecifier) (selfCast? : Option (Offer Caster)) (decomposable : Bool) :
    Registration Unit := do
  let tag ← specifier.tag
  resolver (tag, .name "null") (.rule .identity)
  resolver (tag, .name "unspecified") (.rule .identity)
  resolver (tag, .any) (.rule .noCommonType)
  casterIfGiven (tag, tag) selfCast?
  caster (tag, .any) (.rule .noCast)
  if decomposable then
    caster (tag, .list) (.rule .anyToList)
    caster (.list, tag) (.rule .listToAny)

/-- Enters the basic rules of a kind. -/
def kind (specifier : KindSpecifier) (selfCast : Offer Caster) (decomposable : Bool) : Registration Unit :=
  kindWith specifier (some selfCast) decomposable

/-- Enters a resolver under two names of kinds. -/
def pair (a b : String) (rule : Resolver) : Registration Unit :=
  resolver (.name a, .name b) (.rule rule)

/-- Enters a caster under two names of kinds. -/
def castPair (a b : String) (rule : Caster) : Registration Unit :=
  caster (.name a, .name b) (.rule rule)

/-- Enters the basic rules of a standard kind. -/
def standardKind (name : String) (selfCast : Caster) : Registration Unit :=
  kind (.word name) (.rule selfCast) true

/-- Enters the rules of all standard kinds. -/
def standardRules : Registration Unit := do
  kind (.word "list") (.rule .reconstruct) false
  pair "list" "list" .sameType
  pair "unspecified" "unspecified" .unspecifiedPair
  resolver (.name "unspecified", .any) (.rule .noCommonType)
  standardKind "logical" .reconstruct
  pair "logical" "logical" .finerNumeric
  pair "logical" "integer" .finerNumeric
  pair "logical" "double" .finerNumeric
  castPair "logical" "integer" .logicalToInteger
  castPair "logical" "double" .logicalToDouble
  standardKind "integer" .reconstruct
  pair "integer" "integer" .finerNumeric
  pair "integer" "double" .finerNumeric
  castPair "integer" "logical" .integerToLogical
  castPair "integer" "double" .integerToDouble
  standardKind "double" .reconstruct
  pair "double" "double" .finerNumeric
  castPair "double" "logical" .doubleToLogical
  castPair "double" "integer" .doubleToInteger
  standardKind "character" .reconstruct
  pair "character" "character" .sameType
  pair "character" "categorical" .characterCategorical
  castPair "character" "categorical" .characterToCategorical
  pair "categorical" "categorical" .categoricals
  standardKind "categorical" .recode
  castPair "categorical" "character" .categoricalToCharacter
  pair "date" "date" .sameType
  pair "date" "datetime" .dateDatetime
  pair "datetime" "datetime" .datetimes
  standardKind "date" .reconstruct
  standardKind "datetime" .datetimeToDatetime
  castPair "date" "datetime" .dateToDatetime
  castPair "datetime" "date" .datetimeToDate
  pair "binned" "binned" .binnedPair
  pair "binned" "double" .binnedDouble
  standardKind "binned" .rebin
  castPair "double" "binned" .rebin
  castPair "binned" "double" .binnedToDouble

end Registration

namespace Registry

/-- The registry of the standard kinds. -/
def standard : Registry :=
  { (Registration.runOn .empty Registration.standardRules).2 with journal := [] }

end Registry

end Coercion
