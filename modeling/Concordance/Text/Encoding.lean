import Concordance.Text.Utf8

/-!
The encoding of a JSON text in octets, found from a byte order mark or from where its first octets
are zero: a JSON text starts with an ASCII character.
-/

namespace Concordance.Text

/-- The order of the octets of a unit. -/
inductive ByteOrder where
  | little
  | big
  deriving Repr, DecidableEq

/-- An encoding of a text. -/
inductive Encoding where
  | utf8
  | utf16 (order : ByteOrder)
  | utf32 (order : ByteOrder)
  deriving Repr, DecidableEq

/-- The encoding that the first four octets show. -/
def encodingOf : List UInt8 → Encoding
  | a :: b :: c :: d :: _ =>
    if a = 0 then (if b = 0 then .utf32 .big else .utf16 .big)
    else if b = 0 then (if c = 0 && d = 0 then .utf32 .little else .utf16 .little)
    else .utf8
  | [a, b] => if a = 0 then .utf16 .big else if b = 0 then .utf16 .little else .utf8
  | _ => .utf8

/-- The encoding of a JSON text, and its octets without a byte order mark. -/
def sniff (octets : List UInt8) : Encoding × List UInt8 :=
  match octets with
  | 0x00 :: 0x00 :: 0xFE :: 0xFF :: rest => (.utf32 .big, rest)
  | 0xFF :: 0xFE :: 0x00 :: 0x00 :: rest => (.utf32 .little, rest)
  | 0xFE :: 0xFF :: rest => (.utf16 .big, rest)
  | 0xFF :: 0xFE :: rest => (.utf16 .little, rest)
  | 0xEF :: 0xBB :: 0xBF :: rest => (.utf8, rest)
  | _ => (encodingOf octets, octets)

/-- A unit from two octets. -/
def pair (order : ByteOrder) (a b : UInt8) : Nat :=
  match order with
  | .little => a.toNat + 256 * b.toNat
  | .big => 256 * a.toNat + b.toNat

/-- Octets taken two by two; `none` if one is left over. -/
def units16 (order : ByteOrder) : List UInt8 → Option (List Nat)
  | [] => some []
  | [_] => none
  | a :: b :: rest => (units16 order rest).map (pair order a b :: ·)

/-- Units joined to code points, two at a time where they form a surrogate pair. -/
def joinUnits : List Nat → CodePoints
  | [] => []
  | [u] => [.ofNat u]
  | high :: low :: rest =>
    if 0xD800 ≤ high && high < 0xDC00 && 0xDC00 ≤ low && low < 0xE000 then
      .ofNat (0x10000 + (high - 0xD800) * 0x400 + (low - 0xDC00)) :: joinUnits rest
    else .ofNat high :: joinUnits (low :: rest)
termination_by units => units.length

/-- Octets taken four by four; `none` if some are left over or no code point has such a number. -/
def units32 (order : ByteOrder) : List UInt8 → Option CodePoints
  | [] => some []
  | a :: b :: c :: d :: rest =>
    let n := match order with
      | .little => pair .little a b + 65536 * pair .little c d
      | .big => 65536 * pair .big a b + pair .big c d
    if n > 0x10FFFF then none else (units32 order rest).map (.ofNat n :: ·)
  | _ => none

/-- The text of the octets of a JSON text, or `none` if they do not fit its encoding. -/
def decodeJsonText (octets : List UInt8) : Option CodePoints :=
  match sniff octets with
  | (.utf8, rest) => utf8Strict rest.length rest
  | (.utf16 order, rest) => (units16 order rest).map joinUnits
  | (.utf32 order, rest) => units32 order rest

end Concordance.Text
