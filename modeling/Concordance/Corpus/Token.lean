import Concordance.Corpus.Reference

/-!
Tokens of a book: pieces of text tagged with the scopes they stand in. Tokens of one chapter and
verse make up one candidate, however they are spread.
-/

namespace Concordance.Corpus

/-- A piece of text and the scopes it stands in. -/
structure Token where
  scopes : List CodePoints
  payload : CodePoints
  deriving Repr, DecidableEq

/-- The rest of a tag behind the name of its scope. -/
def scopeValue? (name tag : CodePoints) : Option CodePoints :=
  if name.isPrefixOf tag then some (tag.drop name.length) else none

/-- The chapter and verse that tags name. A later tag of the same scope wins. -/
def location (scopes : List CodePoints) : Option CodePoints × Option CodePoints :=
  scopes.foldl (fun (chapter, verse) tag =>
    match scopeValue? "chapter/" tag with
    | some c => (some c, verse)
    | none =>
      match scopeValue? "verses/" tag with
      | some v => (chapter, some v)
      | none => (chapter, verse)) (none, none)

/-- Chapter and verse as one text, as in `3:16`. A part that is missing or empty leaves no trace. -/
def locationKey (scopes : List CodePoints) : CodePoints :=
  let (chapter, verse) := location scopes
  let tail := match verse with
    | some v => if v = [] then [] else .char ':' :: v
    | none => []
  chapter.getD [] ++ tail

section Grouping

variable {κ : Type} [DecidableEq κ]

/-- Adds text to the entry of a key, or makes a new entry at the end. -/
def appendAt (entries : List (κ × CodePoints)) (key : κ) (text : CodePoints) :
    List (κ × CodePoints) :=
  match entries with
  | [] => [(key, text)]
  | (k, t) :: rest => if k = key then (k, t ++ text) :: rest else (k, t) :: appendAt rest key text

end Grouping

/-- The texts of tokens by chapter and verse, in the order in which they first occur. -/
def verseTexts (tokens : List Token) :
    List ((Option CodePoints × Option CodePoints) × CodePoints) :=
  tokens.foldl (fun entries t => appendAt entries (location t.scopes) t.payload) []

/-- One candidate for every chapter and verse of the tokens. -/
def candidatesOf (docSet collection bookCode : CodePoints) (tokens : List Token) : List Candidate :=
  (verseTexts tokens).map fun ((chapter, verses), text) =>
    ⟨⟨docSet, collection, bookCode, chapter, verses⟩, text⟩

/-- A token read from data. -/
def Token.ofJson (v : Json) : Schema.Checked Token :=
  Schema.object (fun fields =>
    (Schema.Checked.both (Schema.optional "scopes" "scopes" [] (Schema.list Schema.string) fields)
      (Schema.optional "payload" "payload" [] Schema.string fields)).map
      fun (scopes, payload) => ⟨scopes, payload⟩) v

/-- A token as data. -/
def Token.toJson (t : Token) : Json :=
  .obj [("scopes", .arr (t.scopes.map .str)), ("payload", .str t.payload)]

end Concordance.Corpus
