import Concordance.Text.CodePoint

/-!
Octets as text in UTF-8. A decoder either refuses what is not well formed or puts a replacement
character for each maximal part of it that could have begun a character.
-/

namespace Concordance.Text

/-- What one step of decoding finds at the front of a list of octets. -/
inductive Utf8Step where
  /-- a character's code point, and the octets behind it -/
  | code (n : Nat) (rest : List UInt8)
  /-- octets that belong to no character, and the octets behind them -/
  | broken (rest : List UInt8)

/-- Reads the continuation octets of a character, the first of which lies between `lo` and `hi`. -/
def continueCode (code lo hi : Nat) : Nat → List UInt8 → Utf8Step
  | 0, rest => .code code rest
  | _ + 1, [] => .broken []
  | n + 1, b :: rest =>
    if lo ≤ b.toNat && b.toNat ≤ hi then
      continueCode (64 * code + (b.toNat - 0x80)) 0x80 0xBF n rest
    else .broken (b :: rest)

/-- One step of decoding. With `surrogates` the halves of surrogate pairs count as well formed. -/
def utf8Step (surrogates : Bool) : List UInt8 → Option Utf8Step
  | [] => none
  | b :: rest =>
    let n := b.toNat
    some <|
      if n < 0x80 then .code n rest
      else if n < 0xC2 then .broken rest
      else if n < 0xE0 then continueCode (n - 0xC0) 0x80 0xBF 1 rest
      else if n = 0xE0 then continueCode 0 0xA0 0xBF 2 rest
      else if n = 0xED && !surrogates then continueCode 13 0x80 0x9F 2 rest
      else if n < 0xF0 then continueCode (n - 0xE0) 0x80 0xBF 2 rest
      else if n = 0xF0 then continueCode 0 0x90 0xBF 3 rest
      else if n < 0xF4 then continueCode (n - 0xF0) 0x80 0xBF 3 rest
      else if n = 0xF4 then continueCode 4 0x80 0x8F 3 rest
      else .broken rest

/-- Decodes at most `fuel` code points; `none` at the first octets that are not well formed. -/
def utf8Strict : Nat → List UInt8 → Option CodePoints
  | 0, _ => some []
  | fuel + 1, octets =>
    match utf8Step true octets with
    | none => some []
    | some (.code n rest) => (utf8Strict fuel rest).map (.ofNat n :: ·)
    | some (.broken _) => none

/-- Decodes at most `fuel` characters, with U+FFFD for octets that are not well formed. -/
def utf8Lenient : Nat → List UInt8 → List Char
  | 0, _ => []
  | fuel + 1, octets =>
    match utf8Step false octets with
    | none => []
    | some (.code n rest) => Char.ofNat n :: utf8Lenient fuel rest
    | some (.broken rest) => '\uFFFD' :: utf8Lenient fuel rest

/-- The text of octets, with U+FFFD for what is not well formed. -/
def decodeLenient (octets : List UInt8) : List Char := utf8Lenient octets.length octets

/-- The octets of a text. -/
def encodeUtf8 (s : String) : List UInt8 := s.toUTF8.toList

end Concordance.Text
