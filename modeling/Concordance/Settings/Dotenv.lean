import Concordance.Json.Value
import Concordance.Text.Blank

/-!
Files of settings: lines such as `NAME=value`, with comments behind `#`, values between quotes,
which may run over several lines, and references to other values such as `${NAME}`. A line that
cannot be read is passed over.
-/

namespace Concordance.Settings

/-- A name, and the value given to it, if one is. -/
abbrev Binding := List Char × Option (List Char)

/-- Line ends of every kind as line feeds. -/
def unifyLines : List Char → List Char
  | '\r' :: '\n' :: rest => '\n' :: unifyLines rest
  | '\r' :: rest => '\n' :: unifyLines rest
  | c :: rest => c :: unifyLines rest
  | [] => []

/-- The text without the blanks at its front that are no line feeds. -/
def skipInline (s : List Char) : List Char :=
  s.dropWhile fun c => Text.isBlank c && c ≠ '\n' && c ≠ '\r'

/-- The text behind the end of its first line. -/
def skipLine (s : List Char) : List Char := (s.dropWhile (· ≠ '\n')).drop 1

/-- The text behind the word `export` and at least one blank, if it begins so. -/
def skipExport (s : List Char) : List Char :=
  match s with
  | 'e' :: 'x' :: 'p' :: 'o' :: 'r' :: 't' :: rest =>
    if (skipInline rest).length < rest.length then skipInline rest else s
  | _ => s

/-- A name at the front of a text: between single quotes, or up to a blank, `=` or `#`. -/
def takeName (s : List Char) : Option (List Char × List Char) :=
  match s with
  | '\'' :: rest =>
    match rest.span (· ≠ '\'') with
    | (c :: name, _ :: rest) => some (c :: name, rest)
    | _ => none
  | _ =>
    let (name, rest) := s.span fun c => !(c = '=' || c = '#' || Text.isBlank c)
    if name.isEmpty then none else some (name, rest)

/-- A value up to its closing quote. A quote behind a backslash does not close it, unless no other
one does. -/
def takeQuoted (quote : Char) : List Char → Option (List Char × List Char)
  | [] => none
  | c :: rest =>
    if c = quote then some ([], rest)
    else
      match c, rest with
      | '\\', d :: after =>
        if d = quote then
          match takeQuoted quote after with
          | some (value, rest) => some ('\\' :: d :: value, rest)
          | none => some (['\\'], after)
        else (takeQuoted quote (d :: after)).map fun (value, rest) => (c :: value, rest)
      | c, rest => (takeQuoted quote rest).map fun (value, rest) => (c :: value, rest)

/-- The characters that escapes of a value stand for: behind the backslash, and meant. -/
def escapesFor (quote : Char) : List (Char × Char) :=
  if quote = '\'' then [('\\', '\\'), ('\'', '\'')]
  else [('\\', '\\'), ('\'', '\''), ('"', '"'), ('a', '\x07'), ('b', '\x08'), ('f', '\x0C'),
    ('n', '\n'), ('r', '\r'), ('t', '\t'), ('v', '\x0B')]

/-- A value with its escapes replaced. -/
def unescape (escapes : List (Char × Char)) : List Char → List Char
  | '\\' :: c :: rest =>
    match escapes.lookup c with
    | some meant => meant :: unescape escapes rest
    | none => '\\' :: unescape escapes (c :: rest)
  | c :: rest => c :: unescape escapes rest
  | [] => []

/-- The part of a line before a comment, which has a blank before its `#`. -/
def dropComment : List Char → List Char
  | [] => []
  | c :: rest =>
    if Text.isBlank c && (rest.dropWhile Text.isBlank).head? = some '#' then []
    else c :: dropComment rest

/-- A value without quotes: the rest of the line, without a comment and blanks at its end. -/
def takePlain (s : List Char) : List Char × List Char :=
  let (line, rest) := s.span (· ≠ '\n')
  (((dropComment line).reverse.dropWhile Text.isBlank).reverse, rest)

/-- A value at the front of a text. -/
def takeValue (s : List Char) : Option (List Char × List Char) :=
  match s with
  | '\'' :: rest => (takeQuoted '\'' rest).map fun (v, rest) => (unescape (escapesFor '\'') v, rest)
  | '"' :: rest => (takeQuoted '"' rest).map fun (v, rest) => (unescape (escapesFor '"') v, rest)
  | _ => some (takePlain s)

/-- The text behind a comment, if one comes next. -/
def skipComment (s : List Char) : List Char :=
  if (skipInline s).head? = some '#' then s.dropWhile (· ≠ '\n') else s

/-- The text behind the end of the line, if nothing else is left on it. -/
def endLine (s : List Char) : Option (List Char) :=
  match skipInline s with
  | [] => some []
  | '\n' :: rest => some rest
  | _ => none

/-- A binding whose name has been read: its value, and the end of its line. -/
def takeBinding (name : List Char) (s : List Char) : Option Binding × List Char :=
  match skipInline s with
  | '=' :: rest =>
    match takeValue (skipInline rest) with
    | none => (none, skipLine (skipInline rest))
    | some (value, rest) =>
      match endLine (skipComment rest) with
      | some rest => (some (name, some value), rest)
      | none => (none, skipLine (skipComment rest))
  | rest =>
    match endLine (skipComment rest) with
    | some rest => (some (name, none), rest)
    | none => (none, skipLine (skipComment rest))

/-- The bindings of a text in order. Every line is at least one character long, so `fuel` may be the
length of the text. -/
def bindings : Nat → List Char → List Binding
  | 0, _ => []
  | fuel + 1, s =>
    match skipExport (s.dropWhile Text.isBlank) with
    | [] => []
    | '#' :: rest => bindings fuel (skipLine rest)
    | c :: rest =>
      match takeName (c :: rest) with
      | none => bindings fuel (skipLine (c :: rest))
      | some (name, rest) =>
        let (binding, rest) := takeBinding name rest
        binding.toList ++ bindings fuel rest

/-- A reference to another value behind its `${`: the name, what stands for it if it has no value,
and the text behind the reference. -/
def takeReference (s : List Char) : Option (List Char × List Char × List Char) :=
  let (name, rest) := s.span fun c => c ≠ '\x7d' && c ≠ ':'
  match rest with
  | '\x7d' :: rest => some (name, [], rest)
  | ':' :: '-' :: rest =>
    match rest.span (· ≠ '\x7d') with
    | (default, _ :: rest) => some (name, default, rest)
    | _ => none
  | _ => none

/-- A value with its references replaced. `value?` gives the values they refer to, `fuel` is the
length of the text. -/
def expand (value? : List Char → Option (List Char)) : Nat → List Char → List Char
  | 0, _ => []
  | _ + 1, [] => []
  | fuel + 1, '$' :: '\x7b' :: rest =>
    match takeReference rest with
    | some (name, default, rest) => (value? name).getD default ++ expand value? fuel rest
    | none => '$' :: expand value? fuel ('\x7b' :: rest)
  | fuel + 1, c :: rest => c :: expand value? fuel rest

/-- The values given by bindings. A reference is to an earlier binding, or else to the environment;
a name without a value stands for the empty text. -/
def resolve (environment : List (String × String)) (known : List (String × Option String)) :
    List Binding → List (String × Option String)
  | [] => known
  | (name, value) :: rest =>
    let value? (name : List Char) : Option (List Char) :=
      match Json.field? known (String.ofList name) with
      | some v => some ((v.getD "").toList)
      | none => (Json.field? environment (String.ofList name)).map String.toList
    let value := value.map fun v => String.ofList (expand value? v.length v)
    resolve environment (Json.setField known (String.ofList name) value) rest

/-- The values in a file of settings, in the order in which their names first occur. -/
def readDotenv (environment : List (String × String)) (text : String) :
    List (String × Option String) :=
  let s := unifyLines text.toList
  resolve environment [] (bindings s.length s)

end Concordance.Settings
