import Concordance.Pattern.Word

/-!
The texts that a pattern stands for, without regard to how they are found.
-/

namespace Concordance.Pattern

/-- The texts of a group: one of its literals, at most one, or any number of them in a row. -/
def Group.Accepts (g : Group) (w : List Char) : Prop :=
  match g.quantifier with
  | .once => w ∈ g.literals
  | .atMostOnce => w = [] ∨ w ∈ g.literals
  | .many => ∃ ws : List (List Char), (∀ x ∈ ws, x ∈ g.literals) ∧ w = ws.flatten

/-- The texts of groups one after another. -/
inductive Spells : List Group → List Char → Prop where
  | nil : Spells [] []
  | cons {g : Group} {gs : List Group} {w rest : List Char} :
    g.Accepts w → Spells gs rest → Spells (g :: gs) (w ++ rest)

/-- The texts of a pattern, its anchors aside. -/
def WordPattern.Accepts (p : WordPattern) (w : List Char) : Prop := Spells p.parts w

/-- The texts in which characters out of `places`, one from each in order, stand among any number of
ignorable ones. -/
inductive Interspersed (ignorable : List Char) : List (List Char) → List Char → Prop where
  | nil : Interspersed ignorable [] []
  | skip {places : List (List Char)} {c : Char} {w : List Char} :
    c ∈ ignorable → Interspersed ignorable places w → Interspersed ignorable places (c :: w)
  | take {place : List Char} {places : List (List Char)} {c : Char} {w : List Char} :
    c ∈ place → Interspersed ignorable places w →
      Interspersed ignorable (place :: places) (c :: w)

/-- The text without its ignorable characters. -/
def strip (ignorable : List Char) (s : List Char) : List Char := s.filter (!ignorable.contains ·)

/-- The characters that a character of a word accepts: its class, or itself if it has none. -/
def accepted (classes : List (List Char)) (c : Char) : List Char := (classOf? [c] classes).getD [c]

/-- What is accepted at each place of a word, one place for each character that must occur. -/
def Options.places (o : Options) (word : List Char) : List (List Char) :=
  let kept := word.filter o.mandatory
  (if kept.isEmpty then word else kept).map (accepted o.equivalent)

end Concordance.Pattern
