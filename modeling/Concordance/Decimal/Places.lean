import Concordance.Decimal.Layout

/-!
Binary64 values rounded to a given number of places. The value counts exactly, and of two equally
near decimals the one with an even last digit is taken.
-/

namespace Concordance.Decimal

/-- The whole number nearest to the value times `10 ^ places`. -/
def Binary.roundAt (x : Binary) (places : Int) : Nat :=
  let num := x.m * powTwo x.q * powTen places
  let den := powTwo (-x.q) * powTen (-places)
  let n := num / den
  let r := num % den
  if 2 * r < den then n else if den < 2 * r then n + 1 else n + n % 2

/-- The digits of a number, at least `width` of them. -/
def padded (width n : Nat) : List Char :=
  let digits := Nat.toDigits 10 n
  List.replicate (width - digits.length) '0' ++ digits

/-- The value with that many digits behind the point. -/
def Binary.fixed (x : Binary) (places : Nat) : List Char :=
  let digits := padded (places + 1) (x.roundAt places)
  let (whole, fraction) := digits.splitAt (digits.length - places)
  whole ++ if fraction.isEmpty then [] else '.' :: fraction

/-- The value with one digit before the point and that many behind it: its digits, and the exponent
of the first of them. -/
def Binary.scientific (x : Binary) (places : Nat) : List Char × Int :=
  if x.m = 0 then (List.replicate (places + 1) '0', 0)
  else
    let e := x.leading
    let n := x.roundAt (places - e)
    if n < powTen (places + 1) then (padded (places + 1) n, e)
    else (padded (places + 1) (n / 10), e + 1)

/-- Digits and an exponent as text. -/
def withExponent (digits : List Char) (e : Int) : List Char :=
  let tail := digits.drop 1
  digits.take 1 ++ (if tail.isEmpty then [] else '.' :: tail) ++ 'e' :: exponentText 2 e

/-- A number without the zeros at the end of its fraction, and without its point if nothing is left
behind it. -/
def dropZeros (s : List Char) : List Char :=
  let (mantissa, tail) := s.span (· ≠ 'e')
  if mantissa.contains '.' then
    let kept := (mantissa.reverse.dropWhile (· = '0')).reverse
    (if kept.getLast? = some '.' then kept.dropLast else kept) ++ tail
  else s

/-- A number with a point, added behind its digits if there is none. -/
def withPoint (s : List Char) : List Char :=
  let (mantissa, tail) := s.span (· ≠ 'e')
  if mantissa.contains '.' then s else mantissa ++ '.' :: tail

/-- The value with that many digits that count, with an exponent if the point would stand too far
from them. -/
def Binary.general (x : Binary) (count : Nat) : List Char :=
  let count := max count 1
  let (digits, e) := x.scientific (count - 1)
  if -4 ≤ e && e < count then x.fixed (count - 1 - e).toNat else withExponent digits e

end Concordance.Decimal
