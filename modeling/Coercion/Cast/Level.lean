import Coercion.Cast.Number

/-!
Casts between texts and levels. A value that is no level of the target becomes missing and is flagged.
-/

namespace Coercion

namespace Caster

/-- Values as levels of the target. -/
def toLevels (name : String) : Caster :=
  plain name fun v target => do
    let c ← target.construct v.column
    return .result ⟨target, c⟩ (droppedPositions v.values c.values)

/-- Levels as levels of another categorical. -/
def recode : Caster := toLevels "recode"

/-- Texts as levels. -/
def characterToCategorical : Caster := toLevels "character_to_categorical"

/-- A level as text. -/
def levelText (v : Value) : Value :=
  if v.isMissing then v else .text v.display

/-- Levels as texts, each by its displayed form. -/
def categoricalToCharacter : Caster :=
  plain "categorical_to_character" fun v target => do
    let c ← target.construct (.ofValues (v.values.map levelText))
    return .exact ⟨target, c⟩

end Caster

end Coercion
