import Concordance.Proofs.Paging.Supply
import Concordance.Search.Source

/-! The round of a walk through its books, told by what its store answers. -/

namespace Concordance.Search

open Corpus (Candidate)
open Paging (given served)
open Store (RetrievalError failureOf)
open Telemetry (Phase querySpan)

namespace Session

@[simp] theorem sent_note (s : Session) (logger : String) (level : Telemetry.Level)
    (message : String) : (s.note logger level message).sent = s.sent := rfl

@[simp] theorem sent_bindDocSet (s : Session) (docSet collection : String) :
    (s.bindDocSet docSet collection).sent = s.sent := rfl

@[simp] theorem sent_countCandidates (s : Session) (docSet : String) (n : Nat) :
    (s.countCandidates docSet n).sent = s.sent := rfl

end Session

/-- What observing work as a remote query adds. The outcome is that of the work; the work ends with
a span of its own, is timed, and is counted as failed if it fails. -/
theorem Work.inQuerySpan_observed {α : Type} (work : Work α) (phase : Phase) (docSet : String)
    (s : Session) :
    (work.observed phase).inQuerySpan phase docSet s =
      ((work s).1, { (work s).2 with
        spans := (work s).2.spans ++ [querySpan phase docSet (failureOf (work s).1)]
        metrics := (work s).2.metrics.observe phase.name (failureOf (work s).1).isSome }) := by
  unfold Work.inQuerySpan Work.inSpan Work.observed Work.timed Work.countingFailure
  rcases work s with ⟨_ | _, s'⟩ <;> rfl

/-- A round through books. -/
structure Tour where
  /-- the queries sent before it -/
  origin : List String
  /-- how often the books are asked for in vain -/
  failures : Nat
  /-- the books, in order -/
  books : List CodePoints
  deriving Repr, DecidableEq

/-- The place of the next book of a walk. -/
def Walk.place (w : Walk) : Nat := (w.itinerary.map (·.cursor)).getD 0

/-- The places visited between two moments of a walk. -/
def Walk.between (w w' : Walk) : List Nat := List.range' w.place (w'.place - w.place)

theorem Walk.between_self (w : Walk) : w.between w = [] := by simp [Walk.between]

theorem Walk.between_append {a b c : Walk} (hab : a.place ≤ b.place) (hbc : b.place ≤ c.place) :
    a.between b ++ b.between c = a.between c := by
  have hb : b.place = a.place + (b.place - a.place) := by omega
  unfold Walk.between
  rw [congrArg (List.range' · (c.place - b.place)) hb, List.range'_append_1]
  congr 1
  omega

theorem Walk.between_fresh (w : Walk) : ({} : Walk).between w = List.range w.place :=
  List.range_eq_range'.symm

namespace Source

variable (src : Source) (store : Store)

/-- The query for the books. -/
def booksQuery : String := Store.booksQuery src.docSet src.patterns

/-- The query for the blocks of a book. -/
def blocksQuery (book : CodePoints) : String := Store.blocksQuery book.shown src.patterns

/-- The books that a store finds, given what it was asked before. -/
def found (sent : List String) : Except RetrievalError (List CodePoints) :=
  (src.receive .books Corpus.BooksReply.ofJson (store sent src.booksQuery)).map (·.books)

/-- The candidates of a book, given what the store was asked before. -/
def fetched (sent : List String) (book : CodePoints) : Except RetrievalError (List Candidate) :=
  (src.receive .blocks Corpus.BlocksReply.ofJson (store sent (src.blocksQuery book))).map
    (src.candidates book)

/-- The queries sent before the books of a tour are asked for once more. -/
def sought (tour : Tour) (times : Nat) : List String :=
  tour.origin ++ List.replicate times src.booksQuery

/-- The queries sent before the book at a place of a tour is visited. -/
def asked (tour : Tour) (place : Nat) : List String :=
  src.sought tour (tour.failures + 1) ++ (tour.books.take place).map src.blocksQuery

/-- The books of a tour are found after so many failures as it has. -/
structure Finds (tour : Tour) : Prop where
  fails : ∀ k < tour.failures, ∃ e, src.found store (src.sought tour k) = .error e
  found : src.found store (src.sought tour tour.failures) = .ok tour.books

/-- What the visit at a place of a tour comes to; nothing behind the last book. -/
def visit (tour : Tour) (place : Nat) : Except RetrievalError (List Candidate) :=
  match tour.books[place]? with
  | none => .ok []
  | some book => src.fetched store (src.asked tour place) book

/-- The candidates that the visits at some places give, one visit after another. -/
def harvest (tour : Tour) (places : List Nat) : List Candidate :=
  places.flatMap fun place => given (src.visit store tour place)

@[simp] theorem harvest_nil (tour : Tour) : src.harvest store tour [] = [] := rfl

@[simp] theorem harvest_append (tour : Tour) (places places' : List Nat) :
    src.harvest store tour (places ++ places') =
      src.harvest store tour places ++ src.harvest store tour places' := List.flatMap_append

theorem sought_succ (tour : Tour) (times : Nat) :
    src.sought tour (times + 1) = src.sought tour times ++ [src.booksQuery] := by
  simp [sought, List.replicate_succ']

theorem asked_succ {tour : Tour} {place : Nat} {book : CodePoints}
    (h : tour.books[place]? = some book) :
    src.asked tour (place + 1) = src.asked tour place ++ [src.blocksQuery book] := by
  simp [asked, List.take_add_one, h]

/-- A question is sent and observed, and the answer to it is checked. -/
theorem ask_eq {α : Type} (phase : Phase) (query : String) (check : Json → Schema.Checked α)
    (s : Session) :
    src.ask store phase query check s =
      let result := src.receive phase check (store s.sent query)
      (result, { s with
        sent := s.sent ++ [query]
        spans := s.spans ++ [querySpan phase src.docSet (failureOf result)]
        metrics := s.metrics.observe phase.name (failureOf result).isSome }) :=
  Work.inQuerySpan_observed _ phase src.docSet s

theorem discover_fst (s : Session) :
    (src.discover store s).1 = (src.found store s.sent).map (⟨·, 0⟩) := by
  simp only [discover, found, ask_eq, booksQuery]
  cases src.receive .books Corpus.BooksReply.ofJson
    (store s.sent (Store.booksQuery src.docSet src.patterns)) <;> rfl

theorem sent_discover (s : Session) :
    (src.discover store s).2.sent = s.sent ++ [src.booksQuery] := by
  simp only [discover, ask_eq, booksQuery]
  cases src.receive .books Corpus.BooksReply.ofJson
    (store s.sent (Store.booksQuery src.docSet src.patterns)) <;> rfl

theorem readBook_fst (book : CodePoints) (s : Session) :
    (src.readBook store book s).1 = src.fetched store s.sent book := by
  simp only [readBook, fetched, ask_eq, blocksQuery]
  cases src.receive .blocks Corpus.BlocksReply.ofJson
    (store s.sent (Store.blocksQuery book.shown src.patterns)) <;> rfl

theorem sent_readBook (book : CodePoints) (s : Session) :
    (src.readBook store book s).2.sent = s.sent ++ [src.blocksQuery book] := by
  simp only [readBook, ask_eq, blocksQuery]
  cases src.receive .blocks Corpus.BlocksReply.ofJson
    (store s.sent (Store.blocksQuery book.shown src.patterns)) <;> rfl

@[simp] theorem sent_notePulled (page : Paging.Page Candidate) (left : Nat) (s : Session) :
    (notePulled page left s).sent = s.sent := by
  unfold notePulled
  split <;> rfl

/-- An itinerary goes through the books of a tour, and exactly those before its place have been
asked for. -/
structure Follows (tour : Tour) (it : Itinerary) (sent : List String) : Prop where
  books : it.books = tour.books
  cursor_le : it.cursor ≤ tour.books.length
  sent : sent = src.asked tour it.cursor

variable {src store} {tour : Tour}

/-- The next book is the one at the place of the itinerary, and it is not visited again. -/
theorem Follows.readNext {it it' : Itinerary} {s s' : Session}
    {result : Except RetrievalError (List Candidate)} (h : src.Follows tour it s.sent)
    (hread : src.readNext store (it, s) = (result, it', s')) :
    result = src.visit store tour it.cursor ∧ src.Follows tour it' s'.sent ∧
      it'.cursor = min (it.cursor + 1) tour.books.length := by
  simp only [Source.readNext, h.books] at hread
  unfold visit
  cases hbook : tour.books[it.cursor]? with
  | none =>
    rw [hbook] at hread
    simp only [Prod.mk.injEq] at hread
    obtain ⟨rfl, rfl, rfl⟩ := hread
    have hend : tour.books.length ≤ it.cursor := List.getElem?_eq_none_iff.mp hbook
    have hle := h.cursor_le
    exact ⟨rfl, h, by omega⟩
  | some book =>
    rw [hbook] at hread
    simp only [Prod.mk.injEq] at hread
    obtain ⟨rfl, rfl, rfl⟩ := hread
    have hlt : it.cursor < tour.books.length := (List.getElem?_eq_some_iff.mp hbook).1
    refine ⟨by rw [readBook_fst, h.sent], ⟨rfl, hlt, ?_⟩, (Nat.min_eq_left hlt).symm⟩
    rw [sent_readBook, h.sent, src.asked_succ hbook]

/-- A producer that is called several times visits as many places, one behind the other. -/
theorem Follows.calls {a b : Itinerary × Session} {batches : List (Except _ (List Candidate))}
    (hcalls : (src.producer store).Calls a batches b) (h : src.Follows tour a.1 a.2.sent) :
    src.Follows tour b.1 b.2.sent ∧ a.1.cursor ≤ b.1.cursor ∧
      batches = (List.range' a.1.cursor (b.1.cursor - a.1.cursor)).map (src.visit store tour) := by
  induction hcalls with
  | none => exact ⟨h, Nat.le_refl _, by simp⟩
  | @call a b batches hleft _ ih =>
    have hread : src.readNext store a = (src.producer store).next a := rfl
    obtain ⟨hresult, hfollows, hcursor⟩ := h.readNext hread
    obtain ⟨hend, hle, hbatches⟩ := ih hfollows
    have hnext : ((src.producer store).next a).2.1.cursor = a.1.cursor + 1 := by
      have hlt : a.1.cursor < tour.books.length := by
        have hlen := congrArg List.length h.books
        have hleft : a.1.left ≠ 0 := of_decide_eq_false hleft
        unfold Itinerary.left at hleft
        omega
      exact hcursor.trans (by omega)
    rw [hnext] at hle hbatches
    refine ⟨hend, by omega, ?_⟩
    have hsplit : b.1.cursor - a.1.cursor = b.1.cursor - (a.1.cursor + 1) + 1 := by omega
    rw [hsplit, List.range'_succ, List.map_cons, ← hbatches]
    exact congrArg (· :: batches) hresult

/-- An itinerary has nothing left behind the last book only. -/
theorem Follows.cursor_of_exhausted {it : Itinerary} {s : Session} {sent : List String}
    (h : src.Follows tour it sent) (hend : (src.producer store).exhausted (it, s) = true) :
    it.cursor = tour.books.length := by
  have hleft : it.books.length - it.cursor = 0 := of_decide_eq_true hend
  rw [h.books] at hleft
  exact Nat.le_antisymm h.cursor_le (Nat.sub_eq_zero_iff_le.mp hleft)

/-- There is one tour at most from where a walk begins. -/
theorem Finds.unique {tour' : Tour} (h : src.Finds store tour) (h' : src.Finds store tour')
    (horigin : tour.origin = tour'.origin) : tour = tour' := by
  have hsought : src.sought tour = src.sought tour' := by
    funext times
    rw [sought, horigin, sought]
  -- What the one tour finds, the other one with more failures would not have found there.
  have hnot {tour₁ tour₂ : Tour} (h₁ : src.Finds store tour₁) (h₂ : src.Finds store tour₂)
      (heq : src.sought tour₁ = src.sought tour₂) : ¬tour₁.failures < tour₂.failures := by
    intro hlt
    obtain ⟨e, he⟩ := h₂.fails _ hlt
    rw [← heq, h₁.found] at he
    cases he
  have hfailures : tour.failures = tour'.failures := by
    have hle := Nat.le_of_not_lt (hnot h' h hsought.symm)
    have hge := Nat.le_of_not_lt (hnot h h' hsought)
    exact Nat.le_antisymm hle hge
  have hbooks : tour.books = tour'.books := by
    have hfound := h.found
    rw [hsought, hfailures, h'.found] at hfound
    exact (Except.ok.inj hfound).symm
  cases tour
  cases tour'
  simp_all

end Source

end Concordance.Search
