import Concordance.Pattern.Equivalence

/-!
The pattern of a search word: one group per character that must occur, and a run of ignorable
characters that may stand before, between and after them.
-/

namespace Concordance.Pattern

/-- A pattern for one search word. -/
structure WordPattern where
  groups : List Group
  /-- what may recur at every gap; its own quantifier has no effect -/
  ignore : Option Group := none
  /-- reports the match as a group of its own -/
  capture : Bool := false
  /-- matches whole lines only -/
  wholeLine : Bool := false
  deriving Repr, DecidableEq

/-- The run of ignorable literals, as a list of no or one group. -/
def WordPattern.gap (p : WordPattern) : List Group :=
  match p.ignore with
  | some g => if g.tokens.isEmpty then [] else [{ g with quantifier := .many }]
  | none => []

/-- Lists joined with `sep` between them. -/
def joinGroups (sep : List Group) : List Group → List Group
  | [] => []
  | [g] => [g]
  | g :: gs => g :: sep ++ joinGroups sep gs

/-- All groups of the pattern in order, those of the gaps included. -/
def WordPattern.parts (p : WordPattern) : List Group :=
  p.gap ++ joinGroups p.gap p.groups ++ p.gap

/-- The text of the pattern, without the anchors. -/
def WordPattern.body (p : WordPattern) : List Char :=
  let body := p.parts.flatMap Group.text
  if p.capture then '(' :: body ++ [')'] else body

/-- The text of the pattern. -/
def WordPattern.text (p : WordPattern) : List Char :=
  if p.wholeLine then '^' :: p.body ++ ['$'] else p.body

/-- How a search word becomes a pattern. -/
structure Options where
  /-- classes of interchangeable characters; of two that share a character the first one counts -/
  equivalent : List (List Char) := []
  /-- characters that may stand anywhere -/
  ignore : List Char := []
  wholeLine : Bool := false
  capture : Bool := false
  deriving Repr, DecidableEq

/-- True if a character of the word must occur: it is not ignorable, or it belongs to a class. -/
def Options.mandatory (o : Options) (c : Char) : Bool :=
  !o.ignore.contains c || (classOf? [c] o.equivalent).isSome

/-- The groups of a word: one for each character that must occur, or for each one if none must. -/
def Options.groups (o : Options) (word : List Char) : List Group :=
  let placed := placeChars word o.equivalent
  let kept := (word.zip placed).filter fun (c, _) => o.mandatory c
  if kept.isEmpty then placed.map (·.group) else kept.map (·.2.group)

/-- The pattern of a word. -/
def Options.pattern (o : Options) (word : List Char) : WordPattern where
  groups := o.groups word
  ignore := if o.ignore.isEmpty then none else some (.ofChars o.ignore .many)
  capture := o.capture
  wholeLine := o.wholeLine

end Concordance.Pattern
