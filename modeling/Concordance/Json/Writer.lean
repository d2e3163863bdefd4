import Concordance.Json.Value
import Concordance.Decimal.Layout
import Concordance.Text.Quoted

/-!
Writing JSON on one line without spaces. Characters outside the control range stand as they are.
Not every value fits a line: a half of a surrogate pair is no character, and whole numbers have 64
bits.
-/

namespace Concordance.Json

/-- Numbers on a line: with a point from 0.00001 up to and without 10^16, otherwise with a signed
exponent that is not padded. What is no number is written as null. -/
def lineLayout : Decimal.Layout := ⟨-5, 16, 1, "null", "null"⟩

/-- One character of a string. -/
def renderChar (c : Char) : List Char :=
  if c = '"' then ['\\', '"']
  else if c = '\\' then ['\\', '\\']
  else if c = '\x08' then ['\\', 'b']
  else if c = '\t' then ['\\', 't']
  else if c = '\n' then ['\\', 'n']
  else if c = '\x0C' then ['\\', 'f']
  else if c = '\r' then ['\\', 'r']
  else if c.toNat < 0x20 then '\\' :: 'u' :: Text.hex 4 c.toNat
  else [c]

/-- One code point of a string. -/
def renderPoint : CodePoint → List Char
  | .char c => renderChar c
  | .half n => Text.halfCode n

/-- A string between its quotes. -/
def renderString (s : CodePoints) : List Char := '"' :: s.flatMap renderPoint ++ ['"']

/-- A binary number; infinities and what is no number have no spelling and are written as null. -/
def renderFloat (x : Float) : List Char :=
  if x.isNaN || x.isInf then "null".toList else lineLayout.render x

mutual

/-- The text of a value. -/
def render : Json → List Char
  | .null => "null".toList
  | .bool true => "true".toList
  | .bool false => "false".toList
  | .int n => (toString n).toList
  | .float x => renderFloat x
  | .str s => renderString s
  | .arr [] => ['[', ']']
  | .arr (v :: vs) => '[' :: render v ++ renderItems vs
  | .obj [] => ['\x7b', '\x7d']
  | .obj ((k, v) :: fs) => '\x7b' :: renderString k ++ ':' :: render v ++ renderFields fs

/-- The items behind the first one, and the closing bracket. -/
def renderItems : List Json → List Char
  | [] => [']']
  | v :: vs => ',' :: render v ++ renderItems vs

/-- The fields behind the first one, and the closing brace. -/
def renderFields : List (String × Json) → List Char
  | [] => ['\x7d']
  | (k, v) :: fs => ',' :: renderString k ++ ':' :: render v ++ renderFields fs

end

mutual

/-- True if every string of a value is whole, and every whole number fits into 64 bits, with a sign
or without. -/
def fitsLine : Json → Bool
  | .str s => s.isWhole
  | .int n => -0x8000000000000000 ≤ n && n < 0x10000000000000000
  | .arr items => fitItems items
  | .obj fields => fitFields fields
  | _ => true

/-- The same of values. -/
def fitItems : List Json → Bool
  | [] => true
  | v :: vs => fitsLine v && fitItems vs

/-- The same of named values. -/
def fitFields : List (String × Json) → Bool
  | [] => true
  | (_, v) :: fs => fitsLine v && fitFields fs

end

/-- The value on one line. -/
def compact (v : Json) : String := String.ofList (render v)

end Concordance.Json
