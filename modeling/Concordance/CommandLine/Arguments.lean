import Concordance.Decimal.Numeral

/-!
The arguments of the command line: one phrase, and options before or behind it. The name of an
option may be cut short as long as it stands for one option only; its value is the next argument, or
stands behind `=`. All that follows an argument of two hyphens is taken as it stands.
-/

namespace Concordance.CommandLine

/-- An option. -/
inductive Flag where
  | help
  | url
  | docSet
  | collection
  | wholeWords
  | noWholeWords
  | limit
  deriving Repr, DecidableEq

/-- The full names of options. -/
def flagNames : List (List Char × Flag) :=
  [("-h".toList, .help), ("--help".toList, .help), ("--url".toList, .url),
    ("--docset".toList, .docSet), ("--collection".toList, .collection),
    ("--whole-words".toList, .wholeWords), ("--no-whole-words".toList, .noWholeWords),
    ("--limit".toList, .limit)]

/-- True if a value goes with the option. -/
def Flag.takesValue : Flag → Bool
  | .url | .docSet | .collection | .limit => true
  | .help | .wholeWords | .noWholeWords => false

/-- What an argument looks like. -/
inductive Word where
  | plain (text : List Char)
  /-- an option, and the value written behind it -/
  | flag (f : Flag) (value : Option (List Char))
  /-- an option that there is none -/
  | unknown
  /-- the beginning of several options -/
  | ambiguous
  /-- two hyphens -/
  | separator
  deriving Repr, DecidableEq

/-- True of the digits of any script. -/
def isScriptDigit (c : Char) : Bool := (Text.digitValue? c).isSome

/-- True of a hyphen before digits, with or without a point in front of the last of them. -/
def isNegativeNumber (s : List Char) : Bool :=
  match s with
  | '-' :: body =>
    let body := if body.getLast? = some '\n' then body.dropLast else body
    let (whole, rest) := body.span isScriptDigit
    match rest with
    | [] => !whole.isEmpty
    | '.' :: fraction => !fraction.isEmpty && fraction.all isScriptDigit
    | _ => false
  | _ => false

/-- Splits at the first `=`. -/
def splitValue (s : List Char) : List Char × Option (List Char) :=
  match s.span (· ≠ '=') with
  | (name, _ :: value) => (name, some value)
  | (name, []) => (name, none)

/-- The options that an argument may stand for, each with the value written behind it. -/
def flagsFor (s : List Char) : List (Flag × Option (List Char)) :=
  match s with
  | '-' :: '-' :: _ =>
    let (name, value) := splitValue s
    (flagNames.filter fun (full, _) => name.isPrefixOf full).map fun (_, f) => (f, value)
  | '-' :: 'h' :: value => [(.help, some value)]
  | _ => []

/-- Looks at an argument before the separator. -/
def Word.of (s : List Char) : Word :=
  match s with
  | '-' :: _ :: _ =>
    match flagNames.lookup s with
    | some f => .flag f none
    | none =>
      let (name, value) := splitValue s
      match value, flagNames.lookup name with
      | some value, some f => .flag f (some value)
      | _, _ =>
        match flagsFor s with
        | [(f, value)] => .flag f value
        | _ :: _ :: _ => .ambiguous
        | [] => if isNegativeNumber s || s.contains ' ' then .plain s else .unknown
  | _ => .plain s

/-- Looks at arguments in order. Behind the first separator all are plain. -/
def Word.ofAll : List (List Char) → List Word
  | [] => []
  | s :: rest =>
    if s = ['-', '-'] then .separator :: rest.map .plain else .of s :: Word.ofAll rest

/-- What has been read. -/
structure Arguments where
  phrase : Option String := none
  url : Option String := none
  docSet : Option String := none
  collection : Option String := none
  wholeWords : Option Bool := none
  limit : Int := 0
  /-- arguments that nothing needs -/
  hasExtra : Bool := false
  deriving Repr, DecidableEq

/-- What is wrong with the arguments. -/
inductive UsageError where
  | ambiguous
  | missingValue (f : Flag)
  | unexpectedValue (f : Flag)
  | invalidLimit
  | negativeLimit
  /-- an argument that has to be there is not there -/
  | incomplete
  /-- there are arguments that nothing needs -/
  | superfluous
  deriving Repr, DecidableEq

/-- What the arguments ask for: help, or a search. -/
inductive Wanted where
  | help
  | search (phrase docSet collection : String) (url : Option String) (wholeWords : Option Bool)
      (limit : Nat)
  deriving Repr, DecidableEq

/-- The most digits of a limit. -/
def limitDigits : Nat := 4300

/-- A limit in digits. -/
def limit? (s : List Char) : Option Int :=
  if limitDigits < (s.filter isScriptDigit).length then none else Decimal.argumentInt? s

/-- Sets an option that takes a value. -/
def Arguments.set (a : Arguments) (f : Flag) (value : List Char) : Except UsageError Arguments :=
  let text := String.ofList value
  match f with
  | .url => .ok { a with url := some text }
  | .docSet => .ok { a with docSet := some text }
  | .collection => .ok { a with collection := some text }
  | .limit =>
    match limit? value with
    | some n => .ok { a with limit := n }
    | none => .error .invalidLimit
  | f => .error (.unexpectedValue f)

/-- Reads words in order; `none` if help is asked for. -/
def readWords (a : Arguments) : List Word → Except UsageError (Option Arguments)
  | [] => .ok (some a)
  | .ambiguous :: _ => .error .ambiguous
  | .unknown :: rest => readWords { a with hasExtra := true } rest
  | .separator :: .plain s :: rest =>
    if a.phrase.isNone then readWords { a with phrase := some (String.ofList s) } rest
    else readWords { a with hasExtra := true } rest
  | .separator :: rest => readWords { a with hasExtra := true } rest
  | .plain s :: rest =>
    if a.phrase.isNone then
      let a := { a with phrase := some (String.ofList s) }
      match rest with
      | .separator :: rest => readWords a rest
      | rest => readWords a rest
    else readWords { a with hasExtra := true } rest
  | .flag .wholeWords none :: rest => readWords { a with wholeWords := some true } rest
  | .flag .noWholeWords none :: rest => readWords { a with wholeWords := some false } rest
  | .flag .help none :: _ => .ok none
  | .flag .help (some value) :: _ =>
    if value.isEmpty then .error (.unexpectedValue .help) else .ok none
  | .flag f (some value) :: rest =>
    match a.set f value with
    | .ok a => readWords a rest
    | .error e => .error e
  | .flag f none :: .plain value :: rest =>
    match a.set f value with
    | .ok a => readWords a rest
    | .error e => .error e
  | .flag f none :: _ => .error (.missingValue f)

/-- What arguments ask for once all of them have been read. -/
def Arguments.wanted (a : Arguments) : Except UsageError Wanted :=
  match a.phrase, a.docSet, a.collection with
  | some phrase, some docSet, some collection =>
    if a.hasExtra then .error .superfluous
    else if a.limit < 0 then .error .negativeLimit
    else .ok (.search phrase docSet collection a.url a.wholeWords a.limit.toNat)
  | _, _, _ => .error .incomplete

/-- Reads the arguments of the command line. -/
def readArguments (args : List String) : Except UsageError Wanted :=
  let words := Word.ofAll (args.map String.toList)
  if words.contains .ambiguous then .error .ambiguous
  else
    match readWords {} words with
    | .error e => .error e
    | .ok none => .ok .help
    | .ok (some a) => a.wanted

end Concordance.CommandLine
