import Concordance.Corpus.Reply
import Concordance.Paging.Pager
import Concordance.Search.Session
import Concordance.Store.Query

/-!
The candidates of a doc set, in pages of any size. The first page asks for the books that match; the
books are then read one after another, each when a page needs it.
-/

namespace Concordance.Search

open Corpus (Candidate)
open Store (RetrievalError)
open Telemetry (Phase)

/-- What is searched, and for what. -/
structure Source where
  docSet : String
  collection : String
  words : List (List Char)
  options : Store.WordOptions
  deriving Repr, DecidableEq

/-- The patterns that the store filters by. -/
def Source.patterns (src : Source) : List (List Char) := src.options.patterns src.words

/-- True if there is no word to search for. -/
def Source.isBlank (src : Source) : Bool := src.words.isEmpty

/-- The books to be read, and the place of the next one. -/
structure Itinerary where
  books : List CodePoints
  cursor : Nat := 0
  deriving Repr, DecidableEq

/-- How many books are still to be read. -/
def Itinerary.left (it : Itinerary) : Nat := it.books.length - it.cursor

/-- How far a source has been read. -/
structure Walk where
  /-- nothing as long as the books are not known -/
  itinerary : Option Itinerary := none
  /-- the candidates that have been read but not served -/
  pager : Paging.Pager Candidate := {}
  deriving Repr, DecidableEq

/-- The logger of a source. -/
def sourceLogger : String := "verse_search.adapters.verse_provider"

/-- The logger of a pager. -/
def pagerLogger : String := "verse_search.utils.buffered_reader"

namespace Source

/-- What a store's answer comes to once it has been checked. -/
def receive {α : Type} (src : Source) (phase : Phase) (check : Json → Schema.Checked α) :
    Except Store.Failure Json → Except RetrievalError α
  | .error (.retrieval e) => .error e
  | .error (.breakdown b) => .error (.failed phase src.docSet (.breakdown b))
  | .ok reply =>
    match check reply with
    | .ok x => .ok x
    | .error violations => .error (.failed phase src.docSet (.invalid violations))

/-- Sends a query and checks what the store answers. -/
def exchange {α : Type} (src : Source) (store : Store) (phase : Phase) (query : String)
    (check : Json → Schema.Checked α) : Work α := fun s =>
  (src.receive phase check (store s.sent query), { s with sent := s.sent ++ [query] })

/-- Asks a store and checks its answer, in a span of its own and observed. -/
def ask {α : Type} (src : Source) (store : Store) (phase : Phase) (query : String)
    (check : Json → Schema.Checked α) : Work α :=
  ((src.exchange store phase query check).observed phase).inQuerySpan phase src.docSet

/-- Finds the books that match. -/
def discover (src : Source) (store : Store) (s : Session) :
    Except RetrievalError Itinerary × Session :=
  let query := Store.booksQuery src.docSet src.patterns
  match src.ask store .books query Corpus.BooksReply.ofJson s with
  | (.error e, s) => (.error e, s)
  | (.ok reply, s) =>
    let books := reply.books
    (.ok ⟨books, 0⟩, s.note sourceLogger .info
      s!"Found {books.length} candidate books in doc set {src.docSet}")

/-- The code of a book: the one that the reply gives, or else its identifier. -/
def codeOf (book : CodePoints) : Option CodePoints → CodePoints
  | some code => if code = [] then book else code
  | none => book

/-- The candidates of a reply. -/
def candidates (src : Source) (book : CodePoints) (reply : Corpus.BlocksReply) : List Candidate :=
  Corpus.candidatesOf src.docSet src.collection (codeOf book reply.bookCode) reply.tokens

/-- Reads a book. -/
def readBook (src : Source) (store : Store) (book : CodePoints) (s : Session) :
    Except RetrievalError (List Candidate) × Session :=
  let query := Store.blocksQuery book.shown src.patterns
  match src.ask store .blocks query Corpus.BlocksReply.ofJson s with
  | (.error e, s) => (.error e, s)
  | (.ok reply, s) =>
    let found := src.candidates book reply
    let s := s.note sourceLogger .debug s!"Book {book.shown} yielded {found.length} candidates"
    (.ok found, s.countCandidates src.docSet found.length)

/-- Reads the next book. It counts as visited even if reading it fails. -/
def readNext (src : Source) (store : Store) :
    Itinerary × Session → Except RetrievalError (List Candidate) × Itinerary × Session
  | (it, s) =>
    match it.books[it.cursor]? with
    | none => (.ok [], it, s)
    | some book =>
      let (result, s) := src.readBook store book s
      (result, { it with cursor := it.cursor + 1 }, s)

/-- The books of an itinerary as a producer of candidates. -/
def producer (src : Source) (store : Store) :
    Paging.Producer (Itinerary × Session) RetrievalError Candidate where
  next := src.readNext store
  left := fun (it, _) => it.left
  left_next_lt := by
    rintro ⟨it, s⟩ h
    have hlt : it.cursor < it.books.length := by
      simp only [Itinerary.left, ne_eq] at h
      omega
    simp only [readNext, List.getElem?_eq_getElem hlt, Itinerary.left]
    omega

/-- The books, which are asked for if they are not known yet. -/
def itinerary (src : Source) (store : Store) (w : Walk) (s : Session) :
    Except RetrievalError Itinerary × Session :=
  match w.itinerary with
  | some it => (.ok it, s)
  | none => src.discover store s

/-- The candidates of the next book, past the pager. -/
def nextBook (src : Source) (store : Store) (w : Walk) (s : Session) :
    Except RetrievalError (List Candidate) × Walk × Session :=
  match src.itinerary store w s with
  | (.error e, s) => (.error e, w, s)
  | (.ok it, s) =>
    let (result, it, s) := src.readNext store (it, s)
    (result, { w with itinerary := some it }, s)

/-- Logs how many batches were pulled for a page, if any. -/
def notePulled (page : Paging.Page Candidate) (left : Nat) (s : Session) : Session :=
  if page.pulled = 0 then s
  else s.note pagerLogger .debug
    s!"Pulled {page.pulled} batches, {page.items.length + left} items buffered"

/-- The next candidates, at most `limit` of them, or all if it is zero. -/
def getVerses (src : Source) (store : Store) (limit : Int) (w : Walk) (s : Session) :
    Except (Paging.ReadError RetrievalError) (List Candidate) × Walk × Session :=
  if src.isBlank then (.ok [], w, s)
  else
    match src.itinerary store w (s.bindDocSet src.docSet src.collection) with
    | (.error e, s) => (.error (.producer e), w, s)
    | (.ok it, s) =>
      match (src.producer store).read w.pager (it, s) limit with
      | (.error e, pager, it, s) => (.error e, ⟨some it, pager⟩, s)
      | (.ok page, pager, it, s) =>
        (.ok page.items, ⟨some it, pager⟩, notePulled page pager.buffer.length s)

end Source

end Concordance.Search
