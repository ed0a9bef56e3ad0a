import Coercion.VectorType.Table

/-!
Type specifiers. A text such as `categorical[a, b]` is a name with optional arguments in brackets. Arguments are
separated by commas and may be quoted as a whole, which protects the commas inside them.
-/

namespace Coercion

/-- What a caller may give as a type. -/
inductive Specifier where
  | type (t : VectorType)
  | text (s : String)
  | storage (d : Dtype)
  | valueClass (c : ValueClass)
  /-- A value that specifies no type, with its quoted form. -/
  | other (quoted : String)

namespace Specifier

/-! ## The text form -/

/-- The parts of a specifier in text form. -/
structure Parts where
  name : String
  arguments : Option String
  deriving DecidableEq

/-- A name without the blanks around it. A name of blanks alone keeps the last of them. -/
def trimName (cs : List Char) : Option (List Char) :=
  match Text.trim cs with
  | [] => cs.getLast?.map fun c => [c]
  | name => some name

/-- Splits a specifier into its name and its arguments. -/
def split? (s : String) : Option Parts :=
  let isOpen (c : Char) : Bool := c = '['
  let head := s.toList.takeWhile fun c => !isOpen c
  if ']' ∈ head then none
  else
    match trimName head, s.toList.dropWhile fun c => !isOpen c with
    | none, _ => none
    | some name, [] => some ⟨String.ofList name, none⟩
    | some name, _ :: rest =>
      match (Text.trimRight rest).reverse with
      | ']' :: arguments =>
        if '\n' ∈ arguments then none
        else some ⟨String.ofList name, some (String.ofList arguments.reverse)⟩
      | _ => none

/-- The text up to the next `quote` and the text after it, if there is one. -/
def closeQuote? (quote : Char) : List Char → Option (List Char × List Char)
  | [] => none
  | c :: cs =>
    if c = quote then some ([], cs)
    else (closeQuote? quote cs).map fun (inside, rest) => (c :: inside, rest)

theorem closeQuote?_length {quote : Char} {cs inside rest : List Char}
    (h : closeQuote? quote cs = some (inside, rest)) : rest.length < cs.length := by
  induction cs generalizing inside rest with
  | nil => simp [closeQuote?] at h
  | cons c cs ih =>
    by_cases hc : c = quote
    · simp only [closeQuote?, hc, if_true, Option.some.injEq, Prod.mk.injEq] at h
      simp [← h.2]
    · simp only [closeQuote?, hc, if_false, Option.map_eq_some_iff, Prod.mk.injEq] at h
      obtain ⟨⟨i, r⟩, hr, _, rfl⟩ := h
      have := ih hr
      simp only [List.length_cons]
      omega

/-- The text before the next comma. -/
def beforeComma (cs : List Char) : List Char :=
  cs.takeWhile (· ≠ ',')

/-- The text from the next comma on. -/
def fromComma (cs : List Char) : List Char :=
  cs.dropWhile (· ≠ ',')

theorem fromComma_length (cs : List Char) : (fromComma cs).length ≤ cs.length :=
  (List.dropWhile_sublist _).length_le

/-- The tokens of an argument list. A quote that opens a token and is closed later on takes in all
between; any other token ends at the next comma. -/
def tokens : List Char → List (List Char)
  | [] => []
  | c :: cs =>
    if c = ',' then tokens cs
    else
      let plain := (c :: beforeComma cs) :: tokens (fromComma cs)
      if c = '\'' ∨ c = '"' then
        match _h : closeQuote? c cs with
        | some (inside, rest) => (c :: inside ++ [c]) :: tokens rest
        | none => plain
      else plain
termination_by cs => cs.length
decreasing_by
  · simp
  · have := fromComma_length cs
    simp only [List.length_cons]
    omega
  · have := closeQuote?_length _h
    simp only [List.length_cons]
    omega

/-- Removes a pair of matching quotes around a token. -/
def stripQuotes (s : String) : String :=
  match s.toList with
  | q :: rest =>
    if (q = '\'' ∨ q = '"') ∧ rest.getLast? = some q then String.ofList rest.dropLast else s
  | [] => s

/-- The tokens of an argument list, without the blanks around them. -/
def trimmedTokens (s : String) : List String :=
  (tokens s.toList).map fun t => String.ofList (Text.trim t)

/-- The arguments that an argument list stands for. -/
def arguments (s : String) : List String :=
  ((trimmedTokens s).filter fun t => !t.isEmpty).map stripQuotes

end Specifier

namespace VectorType

/-- The type of the same kind as `t` that some arguments stand for. -/
def ofArguments (t : VectorType) (arguments : List String) : Except Failure VectorType :=
  match t with
  | .categorical _ => ofLevels (arguments.map .text)
  | .datetime _ =>
    match arguments with
    | [] => .ok (.datetime none)
    | [zone] => ofZone (some (.text zone))
    | _ => .error (.surplusArguments arguments.length)
  | .binned _ => ofBoundaryValues (arguments.map .text)
  | t =>
    if arguments.isEmpty then .ok t
    else match t.tag with
      | .name kind => .error (.refusedArguments kind arguments)
      | .other q _ => .error (.refusedArguments q arguments)

/-- The type whose vectors a storage format holds. -/
def ofStorage (d : Dtype) : Except Failure VectorType :=
  match d with
  | .nullable .bool | .typed .bool => .ok .logical
  | .nullable (.int _) | .nullable (.uint _) | .typed (.int _) | .typed (.uint _) => .ok .integer
  | .nullable (.float _) | .typed (.float _) => .ok .double
  | .string | .typed .text | .typed .bytes => .ok .character
  | .category none => .ok (.categorical [])
  | .category (some levels) => ofLevels levels
  | .period f => if f = "D" then .ok .date else .error (.notDaily d.display)
  | .instants _ zone => ofZone (zone.map Zone.source)
  | .typed (.moment _) => .ok (.datetime none)
  | _ => .error (.noTypeFor d.quoted)

end VectorType

namespace Specifier

/-- The type that a text stands for. -/
def resolveText (table : TypeTable) (s : String) : Except Failure VectorType :=
  match split? s with
  | none => .error (.malformedSpecifier s)
  | some parts =>
    match table.find? (.word parts.name) with
    | none => .error (.unknownAlias parts.name)
    | some t => t.ofArguments ((parts.arguments.map arguments).getD [])

/-- The type that a specifier stands for. -/
def resolve (table : TypeTable) : Specifier → Except Failure VectorType
  | .type t => .ok t
  | .text s => resolveText table s
  | .storage d => VectorType.ofStorage d
  | .valueClass c =>
    match table.find? (.valueClass c.fullName) with
    | some t => .ok t
    | none => .error (.notASpecifier c.quoted)
  | .other q => .error (.notASpecifier q)

end Specifier

end Coercion
