import Concordance.Corpus.Reply
import Concordance.Proofs.Schema.Rewording

/-!
Replies and references are read back from what is written of them, and are read the same with other
keys beside theirs and in either spelling of their own.
-/

namespace Concordance.Corpus

open Relation (ReflTransGen)
open Schema (Shape Edit Respects)

/-! ### The keys that are known -/

def Document.shape : Shape :=
  .object [("id", "id", .plain), ("idParts", "id_parts", .object [("type", "type", .plain)])]

def BooksReply.shape : Shape :=
  .object [("data", "data", .object [("docSet", "doc_set",
    .object [("documents", "documents", .list Document.shape)])])]

def Token.shape : Shape := .object [("scopes", "scopes", .plain), ("payload", "payload", .plain)]

def blockShape : Shape := .object [("tokens", "tokens", .list Token.shape)]

def BlocksReply.shape : Shape :=
  .object [("data", "data", .object [("document", "document",
    .object [("bookCode", "book_code", .plain),
      ("mainSequence", "main_sequence", .object [("blocks", "blocks", .list blockShape)])])])]

def Reference.shape : Shape :=
  .object [("docSet", "doc_set", .plain), ("collection", "collection", .plain),
    ("bookCode", "book_code", .plain), ("chapter", "chapter", .plain), ("verses", "verses", .plain)]

theorem Document.respects_ofJson : Respects Document.shape Document.ofJson := by
  have hkind : Respects _ Document.kindOfJson := .object_optional "type" "type" none (.plain _)
  exact .object (by decide)
    (.map (.both (.required (by simp) (.plain _)) (.optional _ (by simp) hkind)) _)

theorem BooksReply.respects_ofJson : Respects BooksReply.shape BooksReply.ofJson := by
  have hdocSet := Document.respects_ofJson.list.object_optional "documents" "documents" []
  exact .map ((hdocSet.object_required "docSet" "doc_set").object_required "data" "data") _

theorem Token.respects_ofJson : Respects Token.shape Token.ofJson :=
  .object (by decide)
    (.map (.both (.optional _ (by simp) (.plain _)) (.optional _ (by simp) (.plain _))) _)

theorem BlocksReply.respects_ofJson : Respects BlocksReply.shape BlocksReply.ofJson := by
  have hblock : Respects blockShape blockOfJson :=
    Token.respects_ofJson.list.object_optional "tokens" "tokens" []
  have hsequence := hblock.list.object_optional "blocks" "blocks" []
  refine .object_required "data" "data" (.object_required "document" "document" ?_)
  exact .object (by decide)
    (.map (.both (.optional _ (by simp) (.plain _)) (.optional _ (by simp) hsequence)) _)

theorem Reference.respects_ofJson : Respects Reference.shape Reference.ofJson :=
  .object (by decide) (.map (.both (.required (by simp) (.plain _)) <|
    .both (.required (by simp) (.plain _)) <| .both (.required (by simp) (.plain _)) <|
    .both (.optional _ (by simp) (.plain _)) (.optional _ (by simp) (.plain _))) _)

@[simp] theorem nullable_optionalText (text : Option CodePoints) :
    Schema.nullable Schema.string (optionalText text) = .ok text := by
  cases text <;> rfl

theorem Document.ofJson_toJson (d : Document) : Document.ofJson d.toJson = .ok d := by
  simp [Document.ofJson, Document.toJson, Document.kindOfJson, Schema.required, Schema.optional,
    Schema.spelled?, Except.map]

theorem BooksReply.ofJson_toJson (r : BooksReply) : BooksReply.ofJson r.toJson = .ok r := by
  have hdocuments := Schema.list_map Document.ofJson_toJson r.documents
  simp [BooksReply.ofJson, BooksReply.toJson, Schema.required, Schema.optional, Schema.spelled?,
    hdocuments, Except.map]

theorem Token.ofJson_toJson (t : Token) : Token.ofJson t.toJson = .ok t := by
  have hscopes := @Schema.list_map _ Schema.string .str Schema.string_str t.scopes
  simp [Token.ofJson, Token.toJson, Schema.optional, Schema.spelled?, hscopes, Except.map]

theorem BlocksReply.ofJson_toJson (r : BlocksReply) : BlocksReply.ofJson r.toJson = .ok r := by
  have hblock (tokens : List Token) :
      blockOfJson (.obj [("tokens", .arr (tokens.map Token.toJson))]) = .ok tokens := by
    have htokens := Schema.list_map Token.ofJson_toJson tokens
    simp [blockOfJson, Schema.optional, Schema.spelled?, htokens]
  have hblocks := Schema.list_map hblock r.blocks
  simp [BlocksReply.ofJson, BlocksReply.toJson, Schema.required, Schema.optional, Schema.spelled?,
    hblocks, Except.map]

theorem Reference.ofJson_toJson (r : Reference) : Reference.ofJson r.toJson = .ok r := by
  simp [Reference.ofJson, Reference.toJson, Reference.ofFields, Schema.required, Schema.optional,
    Schema.spelled?, Except.map]

theorem Reference.ofJson_toSnakeJson (r : Reference) : Reference.ofJson r.toSnakeJson = .ok r := by
  simp [Reference.ofJson, Reference.toSnakeJson, Reference.ofFields, Schema.required,
    Schema.optional, Schema.spelled?, Except.map]

/-- Every reply and every reference is read back from what is written of it. What is read from data
is read from it after any edits: with other unknown keys and in other spellings of the known ones,
at any depth. -/
theorem accepted_reads_back :
    ((∀ r : BooksReply, BooksReply.ofJson r.toJson = .ok r) ∧
      ∀ {v v' : Json} {r : BooksReply}, ReflTransGen (Edit BooksReply.shape) v v' →
        BooksReply.ofJson v = .ok r → BooksReply.ofJson v' = .ok r) ∧
    ((∀ r : BlocksReply, BlocksReply.ofJson r.toJson = .ok r) ∧
      ∀ {v v' : Json} {r : BlocksReply}, ReflTransGen (Edit BlocksReply.shape) v v' →
        BlocksReply.ofJson v = .ok r → BlocksReply.ofJson v' = .ok r) ∧
    (∀ r : Reference,
      Reference.ofJson r.toJson = .ok r ∧ Reference.ofJson r.toSnakeJson = .ok r) ∧
      ∀ {v v' : Json} {r : Reference}, ReflTransGen (Edit Reference.shape) v v' →
        Reference.ofJson v = .ok r → Reference.ofJson v' = .ok r := by
  refine ⟨⟨BooksReply.ofJson_toJson, ?_⟩, ⟨BlocksReply.ofJson_toJson, ?_⟩,
    fun r => ⟨r.ofJson_toJson, r.ofJson_toSnakeJson⟩, ?_⟩
  · exact BooksReply.respects_ofJson.of_edits
  · exact BlocksReply.respects_ofJson.of_edits
  · exact Reference.respects_ofJson.of_edits

/-- A document in either spelling, with and without an unknown key around it; a reply that leaves
out what it may; and a reference that has one key in both spellings. -/
theorem accepted_reads_back_partial :
    let document (key : String) : Json :=
      .obj [("id", .str "GEN"), (key, .obj [("type", .str "book")])]
    let books (key : String) (more : Schema.Fields) : Json :=
      .obj [("data", .obj (("docSet", .obj [("documents", .arr [document key])]) :: more))]
    let blocks (more : Schema.Fields) : Json :=
      .obj (("data", .obj [("document", .obj [])]) :: more)
    let reference (key : String) : Json :=
      .obj [("docSet", .str "LIB"), ("doc_set", .null), ("collection", .str "bibles"),
        (key, .str "GEN")]
    let r : BooksReply := ⟨[⟨"GEN", some "book"⟩]⟩
    let s : BlocksReply := ⟨none, []⟩
    let t : Reference := ⟨"LIB", "bibles", "GEN", none, none⟩
    (BooksReply.ofJson (books "idParts" [("took", .null)]) = .ok r ∧
      BooksReply.ofJson r.toJson = .ok r ∧ BooksReply.ofJson (books "id_parts" []) = .ok r) ∧
    (BlocksReply.ofJson (blocks []) = .ok s ∧ BlocksReply.ofJson s.toJson = .ok s ∧
      BlocksReply.ofJson (blocks [("errors", .null)]) = .ok s) ∧
    Reference.ofJson (reference "bookCode") = .ok t ∧
      (Reference.ofJson t.toJson = .ok t ∧ Reference.ofJson t.toSnakeJson = .ok t) ∧
      Reference.ofJson (reference "book_code") = .ok t := by
  intro document books blocks reference r s t
  obtain ⟨hbooks, hblocks, hreference⟩ := accepted_reads_back
  have hr : BooksReply.ofJson (books "idParts" [("took", .null)]) = .ok r := by rfl
  have hs : BlocksReply.ofJson (blocks []) = .ok s := by rfl
  have ht : Reference.ofJson (reference "bookCode") = .ok t := by rfl
  have hrespelled : Edit Document.shape (document "idParts") (document "id_parts") :=
    .respelled _ [_] [] (.tail _ (.head _)) (by simp) (by simp)
  have hinside : Edit BooksReply.shape (books "idParts" [("took", .null)])
      (books "id_parts" [("took", .null)]) :=
    .field [] [] (.head _) (.inl rfl) (.field [] _ (.head _) (.inl rfl)
      (.field [] [] (.head _) (.inl rfl) (.item [] [] hrespelled)))
  have hremoved : Edit BooksReply.shape (books "id_parts" [("took", .null)])
      (books "id_parts" []) :=
    .field [] [] (.head _) (.inl rfl) (.removed .null [_] [] (by decide))
  have hadded : Edit BlocksReply.shape (blocks []) (blocks [("errors", .null)]) :=
    .added .null [_] [] (by decide)
  have hcode : Edit Reference.shape (reference "bookCode") (reference "book_code") :=
    .respelled _ [_, _, _] [] (.tail _ (.tail _ (.head _))) (by simp) (by simp)
  exact ⟨⟨hr, hbooks.1 r, hbooks.2 (.tail (.single hinside) hremoved) hr⟩,
    ⟨hs, hblocks.1 s, hblocks.2 (.single hadded) hs⟩,
    ht, hreference.1 t, hreference.2 (.single hcode) ht⟩

end Concordance.Corpus
