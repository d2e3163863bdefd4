import Concordance.Decimal.Numeral
import Concordance.Decimal.Places
import Concordance.Json.Notation

/-!
Message templates: text in which `%` opens a place for an argument. Between the `%` and the letter
that says how the argument is written stand, all of them optional: a name between parentheses,
flags, a width, a precision behind a point, and a size letter without effect. `%%` is a percent
sign.
-/

namespace Concordance.Telemetry

/-- Why a template cannot be filled in. -/
inductive TemplateError where
  /-- arguments and places do not fit together in number or kind -/
  | mismatch
  /-- no place is opened by that letter, at that position of the template -/
  | unsupported (letter : Char) (position : Nat)
  /-- the template ends inside a place -/
  | incomplete
  /-- the template ends inside a name -/
  | incompleteKey
  /-- no argument has that name -/
  | missingKey (key : String)
  /-- an infinity is no whole number -/
  | infinite
  /-- what is no number is no whole number -/
  | notANumber
  /-- no character has that number -/
  | noSuchCharacter
  deriving Repr, DecidableEq

/-- The wording of an error. -/
def TemplateError.message : TemplateError → String
  | .mismatch => "arguments do not fit the template"
  | .unsupported letter position =>
    let shown := if ' ' ≤ letter && letter ≤ '~' then letter else '?'
    let code := String.ofList (Text.hex 1 letter.toNat)
    s!"unsupported format character '{shown}' (0x{code}) at index {position}"
  | .incomplete => "incomplete format"
  | .incompleteKey => "incomplete format key"
  | .missingKey key => quoted key
  | .infinite => "cannot convert float infinity to integer"
  | .notANumber => "cannot convert float NaN to integer"
  | .noSuchCharacter => "%c arg not in range(0x110000)"

/-- The arguments of a template. -/
inductive Arguments where
  /-- values for the places in order -/
  | inOrder (values : List Json)
  /-- a single value; if it is an object, its fields can be named -/
  | single (value : Json)

/-- A width or precision. -/
inductive Measure where
  | absent
  | given (n : Nat)
  /-- taken from the next argument -/
  | asked
  deriving Repr, DecidableEq

/-- A place for an argument. -/
structure Place where
  /-- nothing, the name of the argument, or a name that does not end -/
  key : Option (Option (List Char)) := none
  flags : List Char := []
  width : Measure := .absent
  precision : Measure := .absent
  /-- how the argument is written, and the position of that letter -/
  letter : Option (Char × Nat) := none
  deriving Repr, DecidableEq

/-- A part of a template. -/
inductive TemplatePart where
  | text (c : Char)
  | place (p : Place)
  deriving Repr, DecidableEq

/-- A name up to the parenthesis that closes it, `depth` more being open inside it. -/
def takeKey (depth : Nat) : List Char → Option (List Char × List Char)
  | [] => none
  | ')' :: rest =>
    match depth with
    | 0 => some ([], rest)
    | depth + 1 => (takeKey depth rest).map fun (key, rest) => (')' :: key, rest)
  | '(' :: rest => (takeKey (depth + 1) rest).map fun (key, rest) => ('(' :: key, rest)
  | c :: rest => (takeKey depth rest).map fun (key, rest) => (c :: key, rest)

/-- A width or precision at the front of a text. -/
def takeMeasure : List Char → Measure × List Char
  | '*' :: rest => (.asked, rest)
  | s =>
    let (digits, rest) := Decimal.spanDigits s
    (if digits.isEmpty then .absent else .given (Decimal.ofDigits digits), rest)

/-- Reads a place behind its `%`. `length` is the length of the whole template. -/
def takePlace (length : Nat) (s : List Char) : Place × List Char :=
  let (key, s) := match s with
    | '(' :: rest =>
      match takeKey 0 rest with
      | some (key, rest) => (some (some key), rest)
      | none => (some none, [])
    | s => (none, s)
  let (flags, s) := s.span ['-', '+', ' ', '#', '0'].contains
  let (width, s) := takeMeasure s
  let (precision, s) := match s with
    | '.' :: rest =>
      let (m, rest) := takeMeasure rest
      (if m = .absent then .given 0 else m, rest)
    | s => (.absent, s)
  let s := match s with
    | c :: rest => if c = 'h' || c = 'l' || c = 'L' then rest else s
    | [] => []
  match s with
  | [] => (⟨key, flags, width, precision, none⟩, [])
  | c :: rest => (⟨key, flags, width, precision, some (c, length - s.length)⟩, rest)

/-- The parts of a template, at most `fuel` of them. -/
def templateParts (length : Nat) : Nat → List Char → List TemplatePart
  | 0, _ => []
  | _ + 1, [] => []
  | fuel + 1, '%' :: '%' :: rest => .text '%' :: templateParts length fuel rest
  | fuel + 1, '%' :: rest =>
    let (place, rest) := takePlace length rest
    .place place :: templateParts length fuel rest
  | fuel + 1, c :: rest => .text c :: templateParts length fuel rest

/-- The arguments not used yet: those in order, and a single value if it may be named. -/
structure Pending where
  values : List Json
  named : Option Json

/-- The next argument. -/
def Pending.next (p : Pending) : Except TemplateError (Json × Pending) :=
  match p.values with
  | [] => .error .mismatch
  | v :: vs => .ok (v, { p with values := vs })

/-- A width or precision, taken from the arguments if it is asked for; none if it is absent. -/
def Pending.measure (p : Pending) : Measure → Except TemplateError (Option Int × Pending)
  | .absent => .ok (none, p)
  | .given n => .ok (some n, p)
  | .asked =>
    match p.next with
    | .ok (.int n, p) => .ok (some n, p)
    | .ok (.bool b, p) => .ok (some b.toNat, p)
    | .ok _ => .error .mismatch
    | .error e => .error e

/-- The argument that a place asks for. A name makes its argument the only one. -/
def Pending.choose (p : Pending) : Option (Option (List Char)) → Except TemplateError Pending
  | none => .ok p
  | some key =>
    match p.named, key with
    | none, _ => .error .mismatch
    | some _, none => .error .incompleteKey
    | some (.obj fields), some key =>
      match Json.field? fields (String.ofList key) with
      | some v => .ok { p with values := [v] }
      | none => .error (.missingKey (String.ofList key))
    | some _, some _ => .error .mismatch

/-- The sign of a number as the flags want it. -/
def signText (flags : List Char) (negative : Bool) : List Char :=
  if negative then ['-'] else if flags.contains '+' then ['+']
  else if flags.contains ' ' then [' '] else []

/-- A number filled up to its width. -/
def fillNumber (flags : List Char) (width : Nat) (sign lead body : List Char) : List Char :=
  let gap := width - (sign.length + lead.length + body.length)
  if flags.contains '-' then sign ++ lead ++ body ++ List.replicate gap ' '
  else if flags.contains '0' then sign ++ lead ++ List.replicate gap '0' ++ body
  else List.replicate gap ' ' ++ sign ++ lead ++ body

/-- A text filled up to its width. -/
def fillText (flags : List Char) (width : Nat) (body : List Char) : List Char :=
  let gap := List.replicate (width - body.length) ' '
  if flags.contains '-' then body ++ gap else gap ++ body

/-- An argument as a whole number; a fraction is cut off if that is allowed. -/
def wholeArgument (cut : Bool) : Json → Except TemplateError Int
  | .int n => .ok n
  | .bool b => .ok b.toNat
  | .float x =>
    if !cut then .error .mismatch
    else if x.isNaN then .error .notANumber
    else if x.isInf then .error .infinite
    else
      let b := Decimal.Binary.ofFloat x
      let n : Int := (b.m * Decimal.powTwo b.q / Decimal.powTwo (-b.q) : Nat)
      .ok (if Decimal.isSigned x then -n else n)
  | _ => .error .mismatch

/-- An argument as a binary number. -/
def floatArgument : Json → Except TemplateError Float
  | .float x => .ok x
  | .int n => .ok (Decimal.ofInt n)
  | .bool b => .ok (if b then 1.0 else 0.0)
  | _ => .error .mismatch

/-- A whole number in a base, with at least so many digits. -/
def wholeText (flags : List Char) (width digits : Nat) (letter : Char) (n : Int) : List Char :=
  let base := if letter = 'x' || letter = 'X' then 16 else if letter = 'o' then 8 else 10
  let body := Nat.toDigits base n.natAbs
  let body := List.replicate (digits - body.length) '0' ++ body
  let lead := if flags.contains '#' && base ≠ 10 then ['0', letter.toLower] else []
  let upper (s : List Char) := if letter = 'X' then s.map Char.toUpper else s
  fillNumber flags width (signText flags (n < 0)) (upper lead) (upper body)

/-- A binary number with so many places, or so many digits that count. -/
def floatText (flags : List Char) (width precision : Nat) (letter : Char) (x : Float) : List Char :=
  let b := Decimal.Binary.ofFloat x
  let pointed (s : List Char) := if flags.contains '#' then Decimal.withPoint s else s
  let kind := letter.toLower
  let body :=
    if x.isNaN then "nan".toList
    else if x.isInf then "inf".toList
    else if kind = 'f' then pointed (b.fixed precision)
    else if kind = 'e' then
      let (digits, e) := b.scientific precision
      pointed (Decimal.withExponent digits e)
    else
      let text := b.general precision
      if flags.contains '#' then pointed text else Decimal.dropZeros text
  let body := if letter.isUpper then body.map Char.toUpper else body
  fillNumber flags width (signText flags (Decimal.isSigned x && !x.isNaN)) [] body

/-- An argument as a single character. -/
def characterArgument : Json → Except TemplateError Char
  | .int n => if 0 ≤ n && n < 0x110000 then .ok (Char.ofNat n.toNat) else .error .noSuchCharacter
  | .bool b => .ok (Char.ofNat b.toNat)
  | .str [.char c] => .ok c
  | _ => .error .mismatch

/-- A character beyond ASCII by its code, any other as it is. -/
def asciiChar (c : Char) : List Char :=
  if c.toNat < 0x80 then [c]
  else if c.toNat < 0x100 then '\\' :: 'x' :: Text.hex 2 c.toNat
  else if c.toNat < 0x10000 then '\\' :: 'u' :: Text.hex 4 c.toNat
  else '\\' :: 'U' :: Text.hex 8 c.toNat

/-- An argument written as a letter says. -/
def writeArgument (flags : List Char) (width : Nat) (precision : Option Nat) (letter : Char)
    (position : Nat) (v : Json) : Except TemplateError (List Char) :=
  let text (s : List Char) := fillText flags width ((precision.map s.take).getD s)
  if letter = 's' then .ok (text v.message.toList)
  else if letter = 'r' then .ok (text v.shown)
  else if letter = 'a' then .ok (text (v.shown.flatMap asciiChar))
  else if letter = 'd' || letter = 'i' || letter = 'u' then
    (wholeArgument true v).map (wholeText flags width (precision.getD 0) 'd')
  else if letter = 'x' || letter = 'X' || letter = 'o' then
    (wholeArgument false v).map (wholeText flags width (precision.getD 0) letter)
  else if letter = 'c' then (characterArgument v).map fun c => fillText flags width [c]
  else if ['e', 'E', 'f', 'F', 'g', 'G'].contains letter then
    (floatArgument v).map (floatText flags width (precision.getD 6) letter)
  else .error (.unsupported letter position)

/-- Fills in one place. -/
def Place.write (place : Place) (p : Pending) : Except TemplateError (List Char × Pending) := do
  let p ← p.choose place.key
  let (width, p) ← p.measure place.width
  let (precision, p) ← p.measure place.precision
  match place.letter with
  | none => throw .incomplete
  | some (letter, position) =>
    let (v, p) ← p.next
    let flags := if width.any (· < 0) then '-' :: place.flags else place.flags
    let digits := precision.map Int.toNat
    let text ← writeArgument flags (width.getD 0).natAbs digits letter position v
    return (text, p)

/-- Fills in the parts of a template. Arguments in order have to be used up. -/
def writeParts (p : Pending) : List TemplatePart → Except TemplateError (List Char)
  | [] => if p.values.isEmpty || p.named.isSome then .ok [] else .error .mismatch
  | .text c :: parts => (writeParts p parts).map (c :: ·)
  | .place place :: parts => do
    let (text, p) ← place.write p
    return text ++ (← writeParts p parts)

/-- Arguments before any is used. A list may stay unused where it is the only value. -/
def Arguments.pending : Arguments → Pending
  | .inOrder values => ⟨values, none⟩
  | .single v =>
    ⟨[v], match v with
      | .obj _ | .arr _ => some v
      | _ => none⟩

/-- Fills in a template. -/
def fillTemplate (template : List Char) (arguments : Arguments) :
    Except TemplateError (List Char) :=
  writeParts arguments.pending (templateParts template.length template.length template)

/-- The arguments as a record takes them: an object that stands alone is a single value. -/
def Arguments.ofList : List Json → Arguments
  | [.obj (f :: fields)] => .single (.obj (f :: fields))
  | values => .inOrder values

/-- The message of a record. Without arguments the template is the message. -/
def messageOf (template : String) (arguments : List Json) : Except TemplateError String :=
  if arguments.isEmpty then .ok template
  else (fillTemplate template.toList (.ofList arguments)).map String.ofList

end Concordance.Telemetry
