import Concordance.Proofs.Paging.Serving
import Concordance.Proofs.Search.Keeping

/-! The candidates that a walk has before it, when its store answers its queries. -/

namespace Concordance.Search

open Corpus (Candidate)
open Paging (Pager given)
open Store (RetrievalError)

/-- The places of a tour that a walk has still to visit. -/
def Tour.placesAhead (tour : Tour) (w : Walk) : List Nat :=
  List.range' w.place (tour.books.length - w.place)

theorem Walk.between_append_placesAhead {tour : Tour} {w w' : Walk} (h : w.place ≤ w'.place)
    (hend : w'.place ≤ tour.books.length) :
    w.between w' ++ tour.placesAhead w' = tour.placesAhead w :=
  -- What is ahead lies between here and a walk that has visited every place.
  Walk.between_append (c := ⟨some ⟨tour.books, tour.books.length⟩, {}⟩) h hend

namespace Source

variable {src : Source} {store : Store} {tour : Tour}

/-- A store answers whatever a source asks, and its replies have the shape they should have. -/
structure Answered (src : Source) (store : Store) : Prop where
  books : ∀ sent, ∃ reply books, store sent src.booksQuery = .ok reply ∧
    Corpus.BooksReply.ofJson reply = .ok books
  blocks : ∀ sent book, ∃ reply blocks, store sent (src.blocksQuery book) = .ok reply ∧
    Corpus.BlocksReply.ofJson reply = .ok blocks

theorem Answered.found (h : src.Answered store) (sent : List String) :
    ∃ books, src.found store sent = .ok books := by
  obtain ⟨reply, books, hreply, hbooks⟩ := h.books sent
  refine ⟨books.books, ?_⟩
  simp only [Source.found, hreply, receive, hbooks]
  rfl

theorem Answered.visit (h : src.Answered store) (tour : Tour) (place : Nat) :
    ∃ cs, src.visit store tour place = .ok cs := by
  unfold Source.visit
  split
  · exact ⟨[], rfl⟩
  · next book _ =>
    obtain ⟨reply, blocks, hreply, hblocks⟩ := h.blocks (src.asked tour place) book
    refine ⟨src.candidates book blocks, ?_⟩
    simp only [fetched, hreply, receive, hblocks]
    rfl

/-- The books are found at the first attempt. -/
theorem Answered.finds (h : src.Answered store) (origin : List String) :
    ∃ books, src.Finds store ⟨origin, 0, books⟩ := by
  obtain ⟨books, hbooks⟩ := h.found (src.sought ⟨origin, 0, []⟩ 0)
  refine ⟨books, ?_, hbooks⟩
  intro k hk
  exact absurd hk (Nat.not_lt_zero k)

/-- The books of a tour are found at once, and no visit fails. -/
structure Smooth (src : Source) (store : Store) (tour : Tour) : Prop where
  finds : src.Finds store tour
  atOnce : tour.failures = 0
  visits : ∀ place, ∃ cs, src.visit store tour place = .ok cs

theorem Smooth.itinerary {w : Walk} {s : Session} (h : src.Smooth store tour)
    (hkeeps : src.Keeps tour w s.sent) : ∃ it s', src.itinerary store w s = (.ok it, s') := by
  rcases hit : src.itinerary store w s with ⟨it | it, s'⟩
  · obtain ⟨hw, he, -⟩ := itinerary_eq_error hit
    obtain ⟨k, hk, hsent⟩ := hkeeps.seeks hw
    have hfound := h.finds.found
    obtain rfl : k = tour.failures := Nat.le_antisymm hk (h.atOnce ▸ Nat.zero_le k)
    rw [hsent, hfound] at he
    cases he
  · exact ⟨it, s', rfl⟩

/-- From its place on, an itinerary supplies what the visits ahead of it give. -/
theorem Follows.supplies {it : Itinerary} {s : Session} (h : src.Follows tour it s.sent)
    (hsmooth : src.Smooth store tour) :
    (src.producer store).Supplies (it, s)
      (src.harvest store tour
        (List.range' it.cursor (tour.books.length - it.cursor))) := by
  have hlength : it.books.length = tour.books.length := congrArg List.length h.books
  induction hn : tour.books.length - it.cursor generalizing it s with
  | zero =>
    refine .done (decide_eq_true ?_)
    show it.books.length - it.cursor = 0
    rw [hlength, hn]
  | succ n ih =>
    rcases hread : src.readNext store (it, s) with ⟨result, it', s'⟩
    obtain ⟨rfl, hfollows, hcursor⟩ := h.readNext hread
    obtain ⟨cs, hcs⟩ := hsmooth.visits it.cursor
    have hnext : it'.cursor = it.cursor + 1 := hcursor.trans (Nat.min_eq_left (by omega))
    have hrest := ih hfollows (congrArg List.length hfollows.books) (by omega)
    rw [hnext] at hrest
    have hhead : src.harvest store tour (List.range' it.cursor (n + 1)) =
        cs ++ src.harvest store tour (List.range' (it.cursor + 1) n) := by
      rw [List.range'_succ, harvest, List.flatMap_cons, hcs]
      rfl
    rw [hhead]
    refine .batch (decide_eq_false ?_) (hread.trans (by rw [hcs])) hrest
    show ¬it.books.length - it.cursor = 0
    omega

/-- The candidates that a walk has not served: those in its buffer, and those of the books it has
still to visit. -/
def ahead (src : Source) (store : Store) (tour : Tour) (w : Walk) : List Candidate :=
  w.pager.buffer ++ src.harvest store tour (tour.placesAhead w)

theorem Takes.append_ahead {w w' : Walk} {taken : List Candidate}
    (h : src.Takes store tour w w' taken) (hend : w'.place ≤ tour.books.length) :
    taken ++ src.ahead store tour w' = src.ahead store tour w := by
  unfold ahead
  rw [← List.append_assoc, h.append, List.append_assoc, ← harvest_append,
    Walk.between_append_placesAhead h.place_le hend]

theorem Keeps.place_le {w : Walk} {sent : List String} (h : src.Keeps tour w sent) :
    w.place ≤ tour.books.length := by
  unfold Walk.place
  cases hw : w.itinerary with
  | none => exact Nat.zero_le _
  | some it => exact (h.follows it hw).cursor_le

/-- A page is the beginning of what is ahead, and the rest stays ahead. -/
theorem Keeps.getVerses_serves {limit : Int} {w w' : Walk} {s s' : Session}
    {result : Except Failure (List Candidate)} (h : src.Keeps tour w s.sent)
    (hget : src.getVerses store limit w s = (result, w', s')) (hsmooth : src.Smooth store tour)
    (hsearch : src.isBlank = false) (hlimit : 0 ≤ limit) :
    ∃ page, result = .ok page ∧ src.Keeps tour w' s'.sent ∧
      Pager.serve limit.toNat (src.ahead store tour w) = (page, src.ahead store tour w') := by
  obtain ⟨hkeeps', htakes⟩ := h.getVerses hsmooth.finds hget
  have happend := htakes.append_ahead hkeeps'.place_le
  have hbound : src.Keeps tour w (s.bindDocSet src.docSet src.collection).sent := h
  obtain ⟨it, s₁, hit⟩ := hsmooth.itinerary hbound
  obtain ⟨hfollows, hplace⟩ := hbound.itinerary hsmooth.finds hit
  obtain ⟨page, hok, hitems⟩ := (hfollows.supplies hsmooth).read h.idle hlimit
  rw [hplace] at hitems
  have hfirst : (Pager.serve limit.toNat (src.ahead store tour w)).1 = page.items := hitems.symm
  obtain rfl : result = .ok page.items := by
    rcases hread : (src.producer store).read w.pager (it, s₁) limit with ⟨page?, pager, it', s₂⟩
    obtain rfl : page? = .ok page := by rwa [hread] at hok
    have hresult := congrArg Prod.fst hget
    simp only [Source.getVerses, hsearch, hit, hread] at hresult
    exact hresult.symm
  refine ⟨page.items, rfl, hkeeps', Prod.ext hfirst ?_⟩
  apply List.append_cancel_left
  rw [happend, ← hfirst]
  exact Pager.serve_append _ _

end Source

end Concordance.Search
