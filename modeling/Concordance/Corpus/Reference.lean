import Concordance.Schema.Check
import Concordance.Json.Writer
import Concordance.Text.Blank

/-!
References to verses, candidates for a search, and matches.
-/

namespace Concordance.Corpus

/-- Where a text stands. A chapter heading has a chapter and no verse; a text outside all chapters
has neither. -/
structure Reference where
  docSet : CodePoints
  collection : CodePoints
  bookCode : CodePoints
  chapter : Option CodePoints
  verses : Option CodePoints
  deriving Repr, DecidableEq

/-- The reference in short, as in `GEN 1:3`. Empty parts leave no trace. -/
def Reference.citation (r : Reference) : CodePoints :=
  let verses := match r.verses with
    | some v => if v = [] then [] else .char ':' :: v
    | none => []
  let location := r.chapter.getD [] ++ verses
  Text.trimBy (CodePoint.passes Text.isBlank) (r.bookCode ++ .char ' ' :: location)

/-- A string, or null for a part that is not there. -/
def optionalText : Option CodePoints → Json
  | some s => .str s
  | none => .null

/-- The reference as data, its keys in the spelling of the store. -/
def Reference.toJson (r : Reference) : Json :=
  .obj [("docSet", .str r.docSet), ("collection", .str r.collection), ("bookCode", .str r.bookCode),
    ("chapter", optionalText r.chapter), ("verses", optionalText r.verses)]

/-- The reference as data, its keys in the spelling with low lines. -/
def Reference.toSnakeJson (r : Reference) : Json :=
  .obj [("doc_set", .str r.docSet), ("collection", .str r.collection),
    ("book_code", .str r.bookCode), ("chapter", optionalText r.chapter),
    ("verses", optionalText r.verses)]

/-- The fields of a reference. -/
def Reference.ofFields (fields : Schema.Fields) : Schema.Checked Reference :=
  let text := Schema.string
  let part := Schema.nullable Schema.string
  (Schema.Checked.both (Schema.required "docSet" "doc_set" text fields) <|
    Schema.Checked.both (Schema.required "collection" "collection" text fields) <|
    Schema.Checked.both (Schema.required "bookCode" "book_code" text fields) <|
    Schema.Checked.both (Schema.optional "chapter" "chapter" none part fields)
      (Schema.optional "verses" "verses" none part fields)).map
    fun (docSet, collection, bookCode, chapter, verses) =>
      ⟨docSet, collection, bookCode, chapter, verses⟩

/-- A reference read from data in either spelling. -/
def Reference.ofJson (v : Json) : Schema.Checked Reference := Schema.object Reference.ofFields v

/-- A text of the corpus that may hold every word of a search. -/
structure Candidate where
  reference : Reference
  text : CodePoints
  deriving Repr, DecidableEq

/-- A candidate read from data. -/
def Candidate.ofJson (v : Json) : Schema.Checked Candidate :=
  Schema.object (fun fields =>
    (Schema.Checked.both (Schema.required "reference" "reference" Reference.ofJson fields)
      (Schema.required "text" "text" Schema.string fields)).map
      fun (reference, text) => ⟨reference, text⟩) v

/-- A candidate in which every word was found, and what each word matched. -/
structure Match where
  candidate : Candidate
  matched : List CodePoints
  deriving Repr, DecidableEq

/-- A match read from data. -/
def Match.ofJson (v : Json) : Schema.Checked Match :=
  Schema.object (fun fields =>
    (Schema.Checked.both (Schema.required "candidate" "candidate" Candidate.ofJson fields)
      (Schema.optional "matches" "matches" [] (Schema.list Schema.string) fields)).map
      fun (candidate, matched) => ⟨candidate, matched⟩) v

/-- A match as data. -/
def Match.toJson (m : Match) : Json :=
  .obj [("reference", m.candidate.reference.toJson), ("text", .str m.candidate.text),
    ("matches", .arr (m.matched.map .str))]

/-- A match on one line. -/
def Match.line (m : Match) : List Char := m.toJson.render

/-- True if a match can be written on a line. -/
def Match.fitsLine (m : Match) : Bool := m.toJson.fitsLine

end Concordance.Corpus
