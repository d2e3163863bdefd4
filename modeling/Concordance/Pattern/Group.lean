import Concordance.Text.Quoted

/-!
Groups: the literals accepted at one place of a pattern, with a quantifier, and their text.
-/

namespace Concordance.Pattern

/-- A literal of a pattern. It may have several characters, or none. -/
abbrev Literal := List Char

/-- How often a group may occur at its place. -/
inductive Quantifier where
  | once
  | many
  | atMostOnce
  deriving Repr, DecidableEq

/-- The text behind a group. -/
def Quantifier.text : Quantifier → List Char
  | .once => []
  | .many => ['*']
  | .atMostOnce => ['?']

/-- The wording of the refusal of a text that is no quantifier. -/
def unsupportedQuantifier (s : List Char) : String :=
  "Unsupported quantifier " ++ String.ofList (Text.quoted s) ++ ". Available: ('', '*', '?')"

/-- The quantifier written that way. -/
def Quantifier.ofText? : List Char → Option Quantifier
  | [] => some .once
  | ['*'] => some .many
  | ['?'] => some .atMostOnce
  | _ => none

/-- The characters that have a meaning of their own in a pattern. -/
def special : List Char :=
  ['$', '*', '.', '?', '+', '[', ']', '^', '&', '\x7b', '\x7d', '!', '<', '>', '|', '-', '\\',
   '(', ')']

/-- A character as a literal: behind a backslash if it is special. -/
def escapeChar (c : Char) : List Char := if c ∈ special then ['\\', c] else [c]

/-- A literal with its special characters behind backslashes. -/
def escape (literal : Literal) : List Char := literal.flatMap escapeChar

/-- The literals accepted at one place, the one to be tried first in front. -/
structure Group where
  tokens : List Literal
  quantifier : Quantifier := .once
  deriving Repr, DecidableEq

/-- A group without tokens stands for the empty text. -/
def Group.literals (g : Group) : List Literal := if g.tokens.isEmpty then [[]] else g.tokens

/-- The group of different literals in the order in which they first occur. -/
def Group.of (literals : List Literal) (quantifier : Quantifier) : Group :=
  ⟨literals.eraseDups, quantifier⟩

/-- The group of single characters. -/
def Group.ofChars (chars : List Char) (quantifier : Quantifier) : Group :=
  .of (chars.map ([·])) quantifier

/-- True if the literal is one of the tokens. -/
def Group.contains (g : Group) (literal : Literal) : Bool := g.tokens.contains literal

/-- Alternatives between bars. -/
def alternatives : List Literal → List Char
  | [] => []
  | [t] => escape t
  | t :: ts => escape t ++ '|' :: alternatives ts

/-- The text of a group. -/
def Group.text (g : Group) : List Char :=
  '(' :: '?' :: ':' :: alternatives g.tokens ++ ')' :: g.quantifier.text

/-- The first group that has the literal as a token, and its place. -/
def groupFor? (literal : Literal) (groups : List Group) : Option (Nat × Group) :=
  (groups.findIdx? (·.contains literal)).bind fun i => groups[i]?.map (i, ·)

end Concordance.Pattern
