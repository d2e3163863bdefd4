import Concordance.Corpus.Token

/-!
The store's two replies: the documents of a doc set, and the blocks of a book.
-/

namespace Concordance.Corpus

/-- A document of a doc set and what kind of document it is. -/
structure Document where
  id : CodePoints
  kind : Option CodePoints
  deriving Repr, DecidableEq

/-- True of books; a doc set holds glossaries and other documents besides. -/
def Document.isBook (d : Document) : Bool := d.kind = some ("book" : CodePoints)

/-- The kind of a document, from the parts of its identity. -/
def Document.kindOfJson (v : Json) : Schema.Checked (Option CodePoints) :=
  Schema.object (Schema.optional "type" "type" none (Schema.nullable Schema.string)) v

/-- A document read from data. -/
def Document.ofJson (v : Json) : Schema.Checked Document :=
  Schema.object (fun fields =>
    (Schema.Checked.both (Schema.required "id" "id" Schema.string fields)
      (Schema.optional "idParts" "id_parts" none Document.kindOfJson fields)).map
      fun (id, kind) => ⟨id, kind⟩) v

/-- A document as data. -/
def Document.toJson (d : Document) : Json :=
  .obj [("id", .str d.id), ("idParts", .obj [("type", optionalText d.kind)])]

/-- The reply to the question which documents match. -/
structure BooksReply where
  documents : List Document
  deriving Repr, DecidableEq

/-- The identifiers of the books, in the order of the reply. -/
def BooksReply.books (r : BooksReply) : List CodePoints :=
  (r.documents.filter (·.isBook)).map (·.id)

/-- A reply read from data. -/
def BooksReply.ofJson (v : Json) : Schema.Checked BooksReply :=
  let docSet := Schema.object
    (Schema.optional "documents" "documents" [] (Schema.list Document.ofJson))
  let data := Schema.object (Schema.required "docSet" "doc_set" docSet)
  (Schema.object (Schema.required "data" "data" data) v).map (⟨·⟩)

/-- A reply as data. -/
def BooksReply.toJson (r : BooksReply) : Json :=
  .obj [("data", .obj [("docSet", .obj [("documents", .arr (r.documents.map Document.toJson))])])]

/-- The reply to the question which blocks of a book match. -/
structure BlocksReply where
  bookCode : Option CodePoints
  blocks : List (List Token)
  deriving Repr, DecidableEq

/-- The tokens of all blocks in order. -/
def BlocksReply.tokens (r : BlocksReply) : List Token := r.blocks.flatten

/-- The tokens of a block read from data. -/
def blockOfJson (v : Json) : Schema.Checked (List Token) :=
  Schema.object (Schema.optional "tokens" "tokens" [] (Schema.list Token.ofJson)) v

/-- A reply read from data. -/
def BlocksReply.ofJson (v : Json) : Schema.Checked BlocksReply :=
  let sequence := Schema.object
    (Schema.optional "blocks" "blocks" [] (Schema.list blockOfJson))
  let document := Schema.object fun fields =>
    (Schema.Checked.both
      (Schema.optional "bookCode" "book_code" none (Schema.nullable Schema.string) fields)
      (Schema.optional "mainSequence" "main_sequence" [] sequence fields)).map
      fun (bookCode, blocks) => (⟨bookCode, blocks⟩ : BlocksReply)
  let data := Schema.object (Schema.required "document" "document" document)
  Schema.object (Schema.required "data" "data" data) v

/-- A reply as data. -/
def BlocksReply.toJson (r : BlocksReply) : Json :=
  let block (tokens : List Token) : Json := .obj [("tokens", .arr (tokens.map Token.toJson))]
  .obj [("data", .obj [("document", .obj [("bookCode", optionalText r.bookCode),
    ("mainSequence", .obj [("blocks", .arr (r.blocks.map block))])])])]

end Concordance.Corpus
