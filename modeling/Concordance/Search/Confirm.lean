import Concordance.Corpus.Reference
import Concordance.Pattern.Found
import Concordance.Store.Query
import Concordance.Text.Alphanumeric
import Concordance.Text.Mark

/-!
Confirming candidates. A store filters by whole blocks, so a candidate may lack words of the search;
it becomes a match if every word is found in its text.
-/

namespace Concordance.Search

open Pattern (Occurrence WordPattern)

/-- True if a character next to a word would be part of it. -/
def continuesWord (c : Char) : Bool := Text.isAlphanumeric c || c = '_' || Text.isMark c

/-- True if neither neighbour of a match is part of a word. -/
def standsAlone (o : Occurrence) : Bool :=
  !o.before.head?.any continuesWord && !o.after.head?.any continuesWord

/-- The first match behind `before` that stands alone. A match that does not is passed over, and the
search begins again one character behind its start. -/
def searchWholeFrom (p : WordPattern) (before s : List Char) : Option Occurrence :=
  match _h : p.searchFrom before s with
  | none => none
  | some o =>
    if standsAlone o then some o
    else
      match _hs : o.found ++ o.after with
      | [] => none
      | c :: rest => searchWholeFrom p (c :: o.before) rest
termination_by s.length
decreasing_by
  have hle := WordPattern.length_found_after_le _h
  rw [_hs] at hle
  exact Nat.lt_of_succ_le (by simpa using hle)

/-- The first match of a word, or the first that stands alone. -/
def find (whole : Bool) (p : WordPattern) (text : List Char) : Option Occurrence :=
  if whole then searchWholeFrom p [] text else p.search text

/-- The same in a text with halves of surrogate pairs in it. No part of a pattern matches a half, so
that a match stands in one of the stretches between them. -/
def findIn (whole : Bool) (p : WordPattern) (text : CodePoints) : Option Occurrence :=
  text.stretches.findSome? (find whole p)

/-- The pattern with which a word is looked for in a candidate. -/
def localPattern (o : Store.WordOptions) (word : List Char) : WordPattern :=
  ({ equivalent := o.equivalent, ignore := o.ignore, capture := true } :
    Pattern.Options).pattern word

/-- What each of the words matches in a text, if all of them do. -/
def matchedIn (o : Store.WordOptions) (text : CodePoints) :
    List (List Char) → Option (List CodePoints)
  | [] => some []
  | word :: words =>
    match findIn o.wholeWords (localPattern o word) text with
    | none => none
    | some found => (matchedIn o text words).map (.ofChars found.found :: ·)

/-- A candidate as a match, if every word is found in it. -/
def confirm (o : Store.WordOptions) (words : List (List Char)) (c : Corpus.Candidate) :
    Option Corpus.Match :=
  (matchedIn o c.text words).map fun matched => ⟨c, matched⟩

end Concordance.Search
