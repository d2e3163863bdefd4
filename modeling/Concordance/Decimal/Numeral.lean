import Concordance.Text.Blank
import Concordance.Text.Digit

/-!
Numbers read from text.
-/

namespace Concordance.Decimal

/-- The value of a run of digits of the decimal system, most significant first. -/
def ofDigits (ds : List Char) : Nat := ds.foldl (fun n c => 10 * n + (c.toNat - 48)) 0

/-- The binary64 value nearest to `m * 10 ^ e`. Exponents beyond the range are cut off first: the
value is then an infinity or zero whatever the digits. -/
def toFloat (negative : Bool) (m : Nat) (e : Int) : Float :=
  let magnitude : Float :=
    if m = 0 then 0.0
    else
      let places : Int := (Nat.toDigits 10 m).length
      if places + e > 400 then 1.0 / 0.0
      else if places + e < -400 then 0.0
      else Float.ofScientific m (e < 0) e.natAbs
  if negative then -magnitude else magnitude

/-- The integer as a binary64 value. -/
def ofInt (n : Int) : Float := toFloat (n < 0) n.natAbs 0

/-- True for the digits 0 to 9. -/
def isDigit (c : Char) : Bool := '0' ≤ c && c ≤ '9'

/-- Splits the leading digits off. -/
def spanDigits (s : List Char) : List Char × List Char := s.span isDigit

/-- A sign, `+` or `-`, at the front of a text; true for `-`. -/
def takeSign : List Char → Bool × List Char
  | '-' :: rest => (true, rest)
  | '+' :: rest => (false, rest)
  | s => (false, s)

/-- Removes single underscores that stand between two other characters; `none` if the text holds no
underscore or one in another place. -/
def joinUnderscores (s : List Char) : Option (List Char) :=
  let rec ok : List Char → Bool
    | '_' :: '_' :: _ => false
    | ['_'] => false
    | _ :: rest => ok rest
    | [] => true
  if s.head? != some '_' && s.contains '_' && ok s then some (s.filter (· != '_')) else none

/-- ASCII letters in lower case. -/
def lowerAscii (s : List Char) : List Char := s.map Char.toLower

/-- The exponent part of a number, if all of `s` is one: nothing, or `e` and a signed integer. -/
def exponent? (s : List Char) : Option Int :=
  match s with
  | [] => some 0
  | c :: rest =>
    if c = 'e' || c = 'E' then
      let (negative, digits) := takeSign rest
      if !digits.isEmpty && digits.all isDigit then
        some (if negative then -(ofDigits digits : Int) else ofDigits digits)
      else none
    else none

/-- A number with an optional sign, point and exponent, or a spelling of infinity or of no
number. -/
def float? (s : List Char) : Option Float :=
  let (negative, body) := takeSign s
  let sign (x : Float) : Float := if negative then -x else x
  let word := lowerAscii body
  if word = "inf".toList || word = "infinity".toList then some (sign (1.0 / 0.0))
  else if word = "nan".toList then some (0.0 / 0.0)
  else
    let (whole, rest) := spanDigits body
    let (fraction, rest) := match rest with
      | '.' :: rest => spanDigits rest
      | rest => ([], rest)
    if whole.isEmpty && fraction.isEmpty then none
    else (exponent? rest).map fun e =>
      toFloat negative (ofDigits (whole ++ fraction)) (e - fraction.length)

/-- A setting's number: white space at the ends does not count, nor do single underscores inside. -/
def settingFloat? (s : List Char) : Option Float :=
  float? (Text.trimBy Text.isSpace s) <|>
    (joinUnderscores s).bind fun s => float? (Text.trimBy Text.isSpace s)

/-- A setting's integer: white space at the ends, a sign, single underscores between characters, and
a fraction of zeros are allowed. -/
def settingInt? (s : List Char) : Option Int :=
  let body := Text.trimBy Text.isSpace s
  let unsigned := match body with
    | '+' :: '-' :: _ => none
    | '+' :: rest => some rest
    | rest => some rest
  unsigned.bind fun body =>
    let (whole, fraction) := body.span (· ≠ '.')
    if fraction = ['.'] || !(fraction.drop 1).all (· = '0') then none
    else
      let whole := (joinUnderscores whole).getD whole
      let (negative, digits) := match whole with
        | '-' :: rest => (true, rest)
        | rest => (false, rest)
      if digits.isEmpty || !digits.all isDigit then none
      else some (if negative then -(ofDigits digits : Int) else ofDigits digits)

/-- An integer in digits of any script, most significant first. -/
def scriptDigits? : List Char → Option Nat
  | s => s.foldl (fun n? c => n?.bind fun n => (Text.digitValue? c).map (10 * n + ·)) (some 0)

/-- An argument's integer: blanks at the ends, a sign, single underscores between digits, and digits
of any script are allowed. -/
def argumentInt? (s : List Char) : Option Int :=
  let (negative, body) := takeSign (Text.trimBy Text.isBlank s)
  let body := (joinUnderscores body).getD body
  if body.isEmpty then none
  else (scriptDigits? body).map fun n => if negative then -(n : Int) else n

end Concordance.Decimal
