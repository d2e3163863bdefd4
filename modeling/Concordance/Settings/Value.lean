import Concordance.Decimal.Numeral
import Concordance.Schema.Check
import Concordance.Text.LetterCase
import Concordance.Text.Quoted

/-!
Values of settings. Most come as texts, so that a number or a truth value may also be written out.
-/

namespace Concordance.Settings

open Schema (Checked)

/-- The spellings of the two truth values, in lower case. -/
def truthNames : List (String × Bool) :=
  [("0", false), ("off", false), ("f", false), ("false", false), ("n", false), ("no", false),
   ("1", true), ("on", true), ("t", true), ("true", true), ("y", true), ("yes", true)]

/-- A float as a whole number, if it is one of 64 bits with a sign. -/
def wholeFloat (x : Float) : Checked Int :=
  if x.isNaN || x.isInf then .fail .notFinite
  else if x.floor != x then .fail .fractional
  else if x.abs < 9223372036854775808.0 then
    let n : Int := x.abs.toUInt64.toNat
    .ok (if x < 0.0 then -n else n)
  else .fail .oversizedInt

/-- A text. What settings come from holds characters; anything else stands there by its code. -/
def text (v : Json) : Checked String := (Schema.string v).map CodePoints.shown

/-- A truth value: itself, a spelling of it, or one of the numbers zero and one. -/
def bool : Json → Checked Bool
  | .bool b => .ok b
  | .str s =>
    match Json.field? truthNames (String.ofList (s.shown.toList.map Char.toLower)) with
    | some b => .ok b
    | none => .fail .unreadableBool
  | .int n => if n = 0 then .ok false else if n = 1 then .ok true else .fail .unreadableBool
  | .float x =>
    match wholeFloat x with
    | .ok n => if n = 0 then .ok false else if n = 1 then .ok true else .fail .unreadableBool
    | .error _ => .fail .notBool
  | _ => .fail .notBool

/-- The most characters of a whole number in digits. -/
def numeralLimit : Nat := 4300

/-- A whole number: itself, one in digits, a truth value as zero or one, or a float without a
fraction. -/
def int : Json → Checked Int
  | .int n => .ok n
  | .bool b => .ok b.toNat
  | .float x => wholeFloat x
  | .str s =>
    match Decimal.settingInt? s.shown.toList with
    | some n => if s.length > numeralLimit then .fail .oversizedInt else .ok n
    | none => .fail .unreadableInt
  | _ => .fail .notInt

/-- A number: itself, one written out, or a truth value as zero or one. -/
def float : Json → Checked Float
  | .float x => .ok x
  | .int n => if (Decimal.ofInt n).isInf then .fail .notFloat else .ok (Decimal.ofInt n)
  | .bool b => .ok (if b then 1.0 else 0.0)
  | .str s =>
    match Decimal.settingFloat? s.shown.toList with
    | some x => .ok x
    | none => .fail .unreadableFloat
  | _ => .fail .notFloat

/-- A whole number that is not below a bound. -/
def intFrom (least : Int) (v : Json) : Checked Int :=
  (int v).bind fun n => if least ≤ n then .ok n else Checked.fail .tooSmall

/-- A number above zero. -/
def positive (v : Json) : Checked Float :=
  (float v).bind fun x => if x > 0.0 then .ok x else Checked.fail .notGreater

end Concordance.Settings
