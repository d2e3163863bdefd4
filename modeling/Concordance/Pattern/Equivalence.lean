import Concordance.Pattern.Group

/-!
Equivalent characters: how pairs join into classes, and which group a character of a word gets.
-/

namespace Concordance.Pattern

/-- True if `part` stands somewhere in the text. -/
def mentions (part : List Char) : List Char → Bool
  | [] => part.isEmpty
  | c :: rest => part.isPrefixOf (c :: rest) || mentions part rest

/-- The first class that mentions the literal. -/
def classOf? (literal : Literal) (classes : List (List Char)) : Option (List Char) :=
  classes.find? (mentions literal)

/-- What a group of a word was made for. Places with the same origin share their group. -/
inductive Origin where
  /-- the class at this place of the list -/
  | cls (index : Nat)
  /-- a character that no class mentions -/
  | single (c : Char)
  deriving Repr, DecidableEq

/-- A group and what it was made for. -/
structure Placed where
  origin : Origin
  group : Group
  deriving Repr, DecidableEq

/-- The group of a character: that of the first class that has it, or its own. -/
def placeChar (classes : List Group) (c : Char) : Placed :=
  match groupFor? [c] classes with
  | some (i, g) => ⟨.cls i, g⟩
  | none => ⟨.single c, .ofChars [c] .once⟩

/-- One group for every character of a text. -/
def placeChars (text : List Char) (classes : List (List Char)) : List Placed :=
  let groups := classes.map (Group.ofChars · .once)
  text.map (placeChar groups)

/-- For every place the first place that shares its group. -/
def shared (placed : List Placed) : List Nat :=
  placed.map fun p => placed.findIdx (·.origin = p.origin)

section Classes

variable {α : Type} [DecidableEq α]

/-- True if the class holds one of the two. -/
def touches (x y : α) (cls : List α) : Bool := cls.contains x || cls.contains y

/-- Puts `merged` in the place of the first class that touches the pair and drops the others. -/
def absorb (x y : α) (merged : List α) : List (List α) → List (List α)
  | [] => []
  | cls :: rest =>
    if touches x y cls then merged :: rest.filter (!touches x y ·)
    else cls :: absorb x y merged rest

/-- Declares two elements equivalent: the classes that hold one of them become one. -/
def joinPair (classes : List (List α)) (pair : α × α) : List (List α) :=
  let (x, y) := pair
  let touching := classes.filter (touches x y)
  if touching.isEmpty then classes ++ [[x, y].eraseDups]
  else absorb x y (touching.flatten ++ [x, y]).eraseDups classes

/-- The classes that pairs of equivalent elements make. -/
def equivalenceClasses (pairs : List (α × α)) : List (List α) := pairs.foldl joinPair []

end Classes

end Concordance.Pattern
