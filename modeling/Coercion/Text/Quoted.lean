import Coercion.Text.Printable

/-!
Quoted text. A text is written between single quotes, or between double quotes if it holds a single
quote and no double one. The quote in use and the backslash are escaped, line feeds, tabs and carriage
returns have short escapes, and every other character without a visible form is written by its code
point in hexadecimal.
-/

namespace Coercion.Text

/-- The hexadecimal digits of `n`, padded with zeros to `width`. -/
def hex (width n : Nat) : List Char :=
  let digits := Nat.toDigits 16 n
  List.replicate (width - digits.length) '0' ++ digits

/-- A character inside quotes of the kind `quote`. -/
def quotedChar (quote c : Char) : List Char :=
  if c = quote ∨ c = '\\' then ['\\', c]
  else if c = '\n' then ['\\', 'n']
  else if c = '\t' then ['\\', 't']
  else if c = '\r' then ['\\', 'r']
  else if isPrintable c then [c]
  else if c.toNat < 256 then ['\\', 'x'] ++ hex 2 c.toNat
  else if c.toNat < 65536 then ['\\', 'u'] ++ hex 4 c.toNat
  else ['\\', 'U'] ++ hex 8 c.toNat

/-- The quote that a text is written between. -/
def quoteFor (cs : List Char) : Char :=
  if '\'' ∈ cs ∧ '"' ∉ cs then '"' else '\''

/-- The quoted form of a text. -/
def quoted (s : String) : String :=
  let quote := quoteFor s.toList
  String.ofList (quote :: s.toList.flatMap (quotedChar quote) ++ [quote])

/-- The character that one byte is written as, inside quotes of the kind `quote`: bytes have no
visible form beyond the printable ASCII characters. -/
def quotedByte (quote : Char) (b : Nat) : List Char :=
  if b < 127 then quotedChar quote (Char.ofNat b) else ['\\', 'x'] ++ hex 2 b

/-- The quoted form of a sequence of bytes, marked by a leading `b`. -/
def quotedBytes (bs : List Nat) : String :=
  let quote := quoteFor (bs.map Char.ofNat)
  String.ofList ('b' :: quote :: bs.flatMap (quotedByte quote) ++ [quote])

end Coercion.Text
