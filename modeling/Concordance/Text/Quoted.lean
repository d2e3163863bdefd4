import Concordance.Text.CodePoint
import Concordance.Text.Printable

/-!
Quoted texts, as messages show them: between single quotes, or between double quotes when only that
avoids an escape, with every character that cannot be shown written by its code.
-/

namespace Concordance.Text

/-- The lower-case hexadecimal digits of a number, at least `width` of them. -/
def hex (width n : Nat) : List Char :=
  let digits := Nat.toDigits 16 n
  List.replicate (width - digits.length) '0' ++ digits

/-- The code of a half of a surrogate pair. -/
def halfCode (n : Fin 2048) : List Char := '\\' :: 'u' :: hex 4 (CodePoint.halfNumber n)

/-- The quote that needs the fewest escapes: the single one unless only the double one is free. -/
def quoteFor (s : CodePoints) : Char :=
  if s.contains (.char '\'') && !s.contains (.char '"') then '"' else '\''

/-- One character of a quoted text. -/
def quotedChar (quote c : Char) : List Char :=
  if c == quote || c == '\\' then ['\\', c]
  else if c == '\n' then ['\\', 'n']
  else if c == '\r' then ['\\', 'r']
  else if c == '\t' then ['\\', 't']
  else if isPrintable c then [c]
  else if c.toNat < 0x100 then '\\' :: 'x' :: hex 2 c.toNat
  else if c.toNat < 0x10000 then '\\' :: 'u' :: hex 4 c.toNat
  else '\\' :: 'U' :: hex 8 c.toNat

/-- One code point of a quoted text. -/
def quotedPoint (quote : Char) : CodePoint → List Char
  | .char c => quotedChar quote c
  | .half n => halfCode n

/-- The text between quotes. -/
def quoted (s : CodePoints) : List Char :=
  let quote := quoteFor s
  quote :: s.flatMap (quotedPoint quote) ++ [quote]

end Concordance.Text

namespace Concordance

/-- The text between quotes, with what cannot be shown written by its code. -/
def quoted (s : String) : String := String.ofList (Text.quoted s)

/-- A text as it is shown where halves of surrogate pairs cannot be: they stand there by their
codes. -/
def CodePoints.shown (t : CodePoints) : String :=
  String.ofList (t.flatMap fun
    | .char c => [c]
    | .half n => Text.halfCode n)

end Concordance
