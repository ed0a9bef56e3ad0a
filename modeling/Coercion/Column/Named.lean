import Coercion.Column.Convert
import Coercion.Value.Truth

/-!
Storage formats by name. A name that begins with a capital letter is one of a nullable format; the brackets of a name
hold the unit, the frequency or the zone.
-/

namespace Coercion

namespace Element

/-- The number that follows `start` in a name. -/
def widthAfter? (start name : String) : Option Nat :=
  if name.startsWith start then (name.drop start.length).toNat? else none

/-- The text between `start` and the last character of a name. -/
def inside? (start name : String) : Option String :=
  if name.startsWith start then some ((name.drop start.length).dropEnd 1).toString else none

/-- Whether a name is a letter with a size behind it, or with none. -/
def isSized (letters name : String) : Bool :=
  name.startsWith letters && (name.toList.drop letters.length).all Char.isDigit

/-- The kind of elements with a name. -/
def ofName? (name : String) : Option Element :=
  if name = "bool" ∨ name = "bool_" then some .bool
  else if name = "int" then some (.int 64)
  else if name = "float" then some (.float 64)
  else if name = "complex" ∨ name = "complex128" then some .complex
  else if name = "object" then some .object
  else if name = "str" ∨ name = "str_" ∨ isSized "U" name ∨ isSized "<U" name then some .text
  else if name = "bytes" ∨ isSized "S" name ∨ isSized "|S" name then some .bytes
  else
    ((inside? "datetime64[" name).map Element.moment) <|> ((inside? "M8[" name).map Element.moment) <|>
      ((inside? "timedelta64[" name).map Element.span) <|> ((inside? "m8[" name).map Element.span) <|>
      ((widthAfter? "uint" name).map Element.uint) <|> ((widthAfter? "int" name).map Element.int) <|>
      ((widthAfter? "float" name).map Element.float)

end Element

namespace Dtype

/-- The format of instants that the brackets of a name describe. -/
def instantsOf (inside : String) : Except Failure Dtype :=
  match inside.splitOn ", " with
  | [] | [_] => .ok (.instants inside none)
  | unit :: rest =>
    match Zone.ofText (", ".intercalate rest) with
    | .ok z => .ok (.instants unit (some z))
    | .error fault => .error (.badZone fault)

/-- The format with a name. -/
def ofName (name : String) : Except Failure Dtype :=
  let known (d : Option Dtype) : Except Failure Dtype :=
    match d with
    | some d => .ok d
    | none => .error (.refused .typeError)
  if name = "object" then .ok .object
  else if name = "category" then .ok (.category none)
  else if name = "string" then .ok .string
  else if name = "boolean" then .ok .boolean
  else
    match Element.inside? "period[" name, Element.inside? "datetime64[" name <|> Element.inside? "M8[" name with
    | some f, _ => .ok (.period f)
    | none, some inside => instantsOf inside
    | none, none =>
      if name.startsWith "Int" || name.startsWith "UInt" || name.startsWith "Float" then
        known ((Element.ofName? name.toLower).map Dtype.nullable)
      else known ((Element.ofName? name).map Dtype.typed)

/-- The format of members of some levels, or of levels that are left open. -/
def ofLevels : Option (List Value) → Except Failure Dtype
  | none => .ok (.category none)
  | some levels =>
    match ofLevels? (VectorType.storedLevels levels) with
    | some d => .ok d
    | none => .error (.refused .valueError)

end Dtype

namespace Value

/-- A number of units of time, if they take whole seconds, as a length of time. -/
def asSpan (unit : String) : Value → Value
  | .int n =>
    match Element.secondsIn? unit with
    | some q => if q.den = 1 then .span (n * q.num) else .int n
    | none => .int n
  | v => v

/-- A value as an element of a typed array. A fraction is cut off where integers are held, and what is out of
range is refused. -/
def asElement (e : Element) (v : Value) : Except Failure Value := do
  match e with
  | .object | .moment _ | .complex | .bytes => return v
  | .span unit => return v.asSpan unit
  | .bool => return .bool (← v.truth)
  | .int w => return .int (← inRange (fitsSigned w) (← v.toInt))
  | .uint w => return .int (← inRange (fitsUnsigned w) (← v.toInt))
  | .float w => return .double ((← if v.isMissing then pure .nan else v.toStoredDouble).narrow (Element.float w).format)
  | .text => return .text (Column.textOf v)
where
  /-- An integer that fits. -/
  inRange (fits : Int → Bool) (n : Int) : Except Failure Int :=
    if fits n then .ok n else Column.refuse .overflow

end Value

end Coercion
