import Concordance.Json.Value
import Concordance.Decimal.Numeral
import Concordance.Text.Quoted

/-!
Reading JSON. Besides the standard's values the three words `NaN`, `Infinity` and `-Infinity` are
accepted. A key that occurs twice keeps its first place and takes its last value. Strings keep the
halves of surrogate pairs that stand in them, as they are or as escapes; in a key they are replaced
by their codes, since no key with a half is ever looked up.
-/

namespace Concordance.Json

/-- Why a text is no readable value. -/
inductive ReadError where
  /-- the text does not follow the grammar -/
  | malformed
  /-- a whole number has more digits than are read -/
  | numeralTooLong
  /-- arrays and objects are nested too deeply -/
  | tooDeep
  deriving Repr, DecidableEq

/-- What is read from the front of a text of characters, and the text behind it. -/
abbrev CharRead (α : Type) := Except ReadError (α × List Char)

/-- What is read from the front of a text, and the text behind it. -/
abbrev Read (α : Type) := Except ReadError (α × CodePoints)

/-- The limits within which a text is read. -/
structure Limits where
  /-- the most digits of a whole number -/
  digits : Nat
  /-- the most arrays and objects that may stand inside each other -/
  depth : Nat
  deriving Repr, DecidableEq

/-- White space between the parts of a value. -/
def isGap (c : Char) : Bool := c = ' ' || c = '\t' || c = '\n' || c = '\r'

/-- The text without leading white space. -/
def skipGap (s : CodePoints) : CodePoints := s.dropWhile (CodePoint.passes isGap)

/-- The value of a hexadecimal digit. -/
def hexDigit? (c : Char) : Option Nat :=
  if '0' ≤ c && c ≤ '9' then some (c.toNat - 48)
  else if 'a' ≤ c && c ≤ 'f' then some (c.toNat - 87)
  else if 'A' ≤ c && c ≤ 'F' then some (c.toNat - 55)
  else none

/-- Four hexadecimal digits. -/
def hexFour? : List Char → Option (Nat × List Char)
  | a :: b :: c :: d :: rest => do
    let a ← hexDigit? a
    let b ← hexDigit? b
    let c ← hexDigit? c
    let d ← hexDigit? d
    return (4096 * a + 256 * b + 16 * c + d, rest)
  | _ => none

/-- The number that the four hexadecimal digits at the front of a text denote. -/
def codeNumber? : CodePoints → Option (Nat × CodePoints)
  | .char a :: .char b :: .char c :: .char d :: rest =>
    (hexFour? [a, b, c, d]).map fun (n, _) => (n, rest)
  | _ => none

/-- The code point that a four-digit escape denotes, together with a second escape if the two are a
surrogate pair. -/
def unicodeEscape? (s : CodePoints) : Option (CodePoint × CodePoints) := do
  let (high, rest) ← codeNumber? s
  if 0xD800 ≤ high && high < 0xDC00 then
    match rest with
    | .char '\\' :: .char 'u' :: more =>
      let (low, after) ← codeNumber? more
      if 0xDC00 ≤ low && low < 0xE000 then
        return (.ofNat (0x10000 + (high - 0xD800) * 0x400 + (low - 0xDC00)), after)
      else return (.ofNat high, rest)
    | _ => return (.ofNat high, rest)
  else return (.ofNat high, rest)

/-- The character that a letter behind a backslash denotes. -/
def escaped? : Char → Option Char
  | '"' => some '"'
  | '\\' => some '\\'
  | '/' => some '/'
  | 'b' => some '\x08'
  | 'f' => some '\x0C'
  | 'n' => some '\n'
  | 'r' => some '\r'
  | 't' => some '\t'
  | _ => none

/-- What an escape denotes that stands behind its backslash, and the text behind the escape. -/
def escape? : CodePoints → Option (CodePoint × CodePoints)
  | .char 'u' :: rest => unicodeEscape? rest
  | .char c :: rest => (escaped? c).map (.char ·, rest)
  | _ => none

/-- A string behind its opening quote. Its closing quote is among the next `fuel` code points. -/
def readString : Nat → CodePoints → Read CodePoints
  | 0, _ => .error .malformed
  | _ + 1, [] => .error .malformed
  | _ + 1, .char '"' :: rest => .ok ([], rest)
  | fuel + 1, .char '\\' :: rest =>
    match escape? rest with
    | none => .error .malformed
    | some (c, rest) => (readString fuel rest).map fun (s, rest) => (c :: s, rest)
  | fuel + 1, c :: rest =>
    if c.passes (·.toNat < 0x20) then .error .malformed
    else (readString fuel rest).map fun (s, rest) => (c :: s, rest)

/-- The fraction of a number: a point and at least one digit, or nothing. -/
def takeFraction (s : List Char) : List Char × List Char :=
  match s with
  | '.' :: rest =>
    let (digits, after) := Decimal.spanDigits rest
    if digits.isEmpty then ([], s) else (digits, after)
  | _ => ([], s)

/-- The exponent of a number: a letter, an optional sign and at least one digit, or nothing. -/
def takeExponent (s : List Char) : Option Int × List Char :=
  match s with
  | c :: rest =>
    if c = 'e' || c = 'E' then
      let (negative, rest) := Decimal.takeSign rest
      let (digits, after) := Decimal.spanDigits rest
      if digits.isEmpty then (none, s)
      else
        let n : Int := Decimal.ofDigits digits
        (some (if negative then -n else n), after)
    else (none, s)
  | [] => (none, s)

/-- The digits of a number before its point: a zero alone, or digits that start with none. -/
def takeWhole (s : List Char) : List Char × List Char :=
  match s with
  | '0' :: rest => (['0'], rest)
  | _ => Decimal.spanDigits s

/-- A number behind its sign. It is whole if it has neither fraction nor exponent. -/
def readNumber (limits : Limits) (negative : Bool) (s : List Char) : CharRead Json :=
  let (whole, rest) := takeWhole s
  if whole.isEmpty then .error .malformed
  else
    let (fraction, rest) := takeFraction rest
    let (exponent, rest) := takeExponent rest
    if fraction.isEmpty && exponent.isNone then
      if whole.length > limits.digits then .error .numeralTooLong
      else
        let n : Int := Decimal.ofDigits whole
        .ok (.int (if negative then -n else n), rest)
    else
      let e : Int := exponent.getD 0 - fraction.length
      .ok (.float (Decimal.toFloat negative (Decimal.ofDigits (whole ++ fraction)) e), rest)

/-- A word or a number. -/
def readWord (limits : Limits) (s : List Char) : CharRead Json :=
  match s with
  | 'n' :: 'u' :: 'l' :: 'l' :: rest => .ok (.null, rest)
  | 't' :: 'r' :: 'u' :: 'e' :: rest => .ok (.bool true, rest)
  | 'f' :: 'a' :: 'l' :: 's' :: 'e' :: rest => .ok (.bool false, rest)
  | 'N' :: 'a' :: 'N' :: rest => .ok (.float (0.0 / 0.0), rest)
  | 'I' :: 'n' :: 'f' :: 'i' :: 'n' :: 'i' :: 't' :: 'y' :: rest => .ok (.float (1.0 / 0.0), rest)
  | '-' :: 'I' :: 'n' :: 'f' :: 'i' :: 'n' :: 'i' :: 't' :: 'y' :: rest =>
    .ok (.float (-1.0 / 0.0), rest)
  | '-' :: rest => readNumber limits true rest
  | _ => readNumber limits false s

/-- True of the characters of words and numbers. -/
def isWordChar (c : Char) : Bool := c.isAlphanum || c = '-' || c = '+' || c = '.'

/-- A value that is neither a string nor nested. -/
def readScalar (limits : Limits) (s : CodePoints) : Read Json :=
  let (word, back) := s.spanChars isWordChar
  (readWord limits word).map fun (v, rest) => (v, CodePoints.ofChars rest ++ back)

mutual

/-- One value. `depth` is how many arrays and objects may still be opened; `fuel` exceeds twice the
length of the text, since every call takes a character off or is one of two in a row. -/
def readValue (limits : Limits) : Nat → Nat → CodePoints → Read Json
  | 0, _, _ => .error .malformed
  | fuel + 1, depth, s =>
    match s with
    | .char '"' :: rest => (readString fuel rest).map fun (t, rest) => (.str t, rest)
    | .char '[' :: rest =>
      match depth with
      | 0 => .error .tooDeep
      | depth + 1 =>
        match skipGap rest with
        | .char ']' :: rest => .ok (.arr [], rest)
        | rest => (readItems limits fuel depth rest).map fun (vs, rest) => (.arr vs, rest)
    | .char '\x7b' :: rest =>
      match depth with
      | 0 => .error .tooDeep
      | depth + 1 =>
        match skipGap rest with
        | .char '\x7d' :: rest => .ok (.obj [], rest)
        | rest => (readFields limits fuel depth [] rest).map fun (fs, rest) => (.obj fs, rest)
    | _ => readScalar limits s

/-- The items of an array up to its closing bracket. -/
def readItems (limits : Limits) : Nat → Nat → CodePoints → Read (List Json)
  | 0, _, _ => .error .malformed
  | fuel + 1, depth, s =>
    match readValue limits fuel depth s with
    | .error e => .error e
    | .ok (v, rest) =>
      match skipGap rest with
      | .char ',' :: rest =>
        (readItems limits fuel depth (skipGap rest)).map fun (vs, rest) => (v :: vs, rest)
      | .char ']' :: rest => .ok ([v], rest)
      | _ => .error .malformed

/-- The fields of an object up to its closing brace, set into those read before. -/
def readFields (limits : Limits) :
    Nat → Nat → List (String × Json) → CodePoints → Read (List (String × Json))
  | 0, _, _, _ => .error .malformed
  | fuel + 1, depth, fields, s =>
    match s with
    | .char '"' :: rest =>
      match readString fuel rest with
      | .error e => .error e
      | .ok (key, rest) =>
        match skipGap rest with
        | .char ':' :: rest =>
          match readValue limits fuel depth (skipGap rest) with
          | .error e => .error e
          | .ok (v, rest) =>
            match skipGap rest with
            | .char ',' :: rest =>
              readFields limits fuel depth (setField fields key.shown v) (skipGap rest)
            | .char '\x7d' :: rest => .ok (setField fields key.shown v, rest)
            | _ => .error .malformed
        | _ => .error .malformed
    | _ => .error .malformed

end

/-- The value that a text denotes, white space around it aside. -/
def read (limits : Limits) (s : CodePoints) : Except ReadError Json :=
  match readValue limits (2 * s.length + 2) limits.depth (skipGap s) with
  | .error e => .error e
  | .ok (v, rest) => if (skipGap rest).isEmpty then .ok v else .error .malformed

end Concordance.Json
