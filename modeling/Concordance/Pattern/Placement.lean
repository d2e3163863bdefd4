import Concordance.Pattern.Equivalence

/-!
How the groups of a text are made, one character after another. Characters of one class share the
group of the class, and a character that no class mentions shares its group with its repetitions.
-/

namespace Concordance.Pattern

/-- The groups made for the beginning of a text. A group is known by its number among them. -/
structure Placement where
  /-- the groups in the order in which they were made -/
  made : List Group
  /-- characters that no class mentions, with the number of the group kept for each -/
  own : List (Char × Nat) := []
  /-- the number of the group at every place -/
  places : List Nat := []
  deriving Repr, DecidableEq

namespace Placement

/-- What is there before the text: the groups of the classes. -/
def ofClasses (classes : List (List Char)) : Placement :=
  { made := classes.map (Group.ofChars · .once) }

/-- Places a character. If none of the `prepared` groups has it, a group is made for it, but one
that was kept for it before goes first. -/
def place (prepared : List Group) (p : Placement) (c : Char) : Placement :=
  match groupFor? [c] prepared with
  | some (i, _) => { p with places := p.places ++ [i] }
  | none =>
    let made := p.made ++ [Group.ofChars [c] .once]
    match p.own.lookup c with
    | some i => { p with made, places := p.places ++ [i] }
    | none =>
      { made, own := p.own ++ [(c, p.made.length)], places := p.places ++ [p.made.length] }

/-- Places the characters of a text in order. -/
def ofText (text : List Char) (classes : List (List Char)) : Placement :=
  let start := ofClasses classes
  text.foldl (place start.made) start

/-- The group at every place. -/
def groups (p : Placement) : List Group := p.places.filterMap (p.made[·]?)

end Placement

end Concordance.Pattern
