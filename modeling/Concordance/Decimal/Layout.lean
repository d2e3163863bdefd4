import Concordance.Decimal.Shortest

/-!
How a binary64 value is laid out as text: with a point while its leading digit stands in a given
range of places, with an exponent outside it.
-/

namespace Concordance.Decimal

/-- The decisions of a number format. -/
structure Layout where
  /-- the least exponent of the leading digit that is written with a point -/
  pointFrom : Int
  /-- the first exponent of the leading digit that is written with an exponent again -/
  pointBelow : Int
  /-- the least number of digits of an exponent -/
  exponentWidth : Nat
  nan : String
  infinity : String

/-- The sign and the digits of an exponent. -/
def exponentText (width : Nat) (e : Int) : List Char :=
  let digits := Nat.toDigits 10 e.natAbs
  (if e < 0 then '-' else '+') :: (List.replicate (width - digits.length) '0' ++ digits)

/-- Digits with a point after the first `places` of them, zeros filled in on either side. -/
def pointed (digits : List Char) (places : Int) : List Char :=
  if places ≤ 0 then '0' :: '.' :: (List.replicate (-places).toNat '0' ++ digits)
  else
    let n := places.toNat
    let whole := digits.take n ++ List.replicate (n - digits.length) '0'
    let rest := digits.drop n
    whole ++ '.' :: (if rest.isEmpty then ['0'] else rest)

/-- A non-zero decimal in a given layout. -/
def Layout.scaled (l : Layout) (d : Scaled) : List Char :=
  let digits := Nat.toDigits 10 d.digits
  let e := d.exp + digits.length - 1
  if l.pointFrom ≤ e && e < l.pointBelow then pointed digits (e + 1)
  else
    let tail := digits.drop 1
    digits.take 1 ++ (if tail.isEmpty then [] else '.' :: tail) ++
      'e' :: exponentText l.exponentWidth e

/-- The text of a binary64 value. The sign of zero is kept. -/
def Layout.render (l : Layout) (x : Float) : List Char :=
  let sign := if isSigned x then ['-'] else []
  let bits := unsignedBits x
  if bits > 2047 * powTwo 52 then l.nan.toList
  else if bits = 2047 * powTwo 52 then sign ++ l.infinity.toList
  else if bits = 0 then sign ++ ['0', '.', '0']
  else sign ++ l.scaled (Binary.ofBits bits).shortest

/-- Numbers in messages: with a point from 0.0001 up to and without 10^16, otherwise with a signed
exponent of two digits or more. -/
def messageLayout : Layout := ⟨-4, 16, 2, "nan", "inf"⟩

/-- The text of a number in a message. -/
def message (x : Float) : String := String.ofList (messageLayout.render x)

end Concordance.Decimal
