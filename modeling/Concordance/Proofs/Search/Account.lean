import Concordance.Proofs.Search.Course

/-! Where the candidates of a source go that is read by pages and by books in any order. -/

namespace Concordance.Search

open Corpus (Candidate)
open Paging (given given_mapError)

/-- What a caller asks of a source. -/
inductive Wish where
  /-- a page of at most so many candidates, or of all that are left if zero -/
  | page (limit : Int)
  /-- the candidates of the next book -/
  | book
  deriving Repr, DecidableEq

/-- A source grants a wish. -/
def Source.grant (src : Source) (store : Store) : Step Wish Candidate
  | .page limit, w, s => src.getVerses store limit w s
  | .book, w, s =>
    let (result, w, s) := src.nextBook store w s
    (result.mapError .producer, w, s)

/-- The turns in which a page was asked for. -/
def pageTurns (turns : List (Turn Wish Candidate)) : List (Turn Wish Candidate) :=
  turns.filter (·.call ≠ .book)

/-- A turn delivers the one book that it visits as its visit gives it, or neither visits a book nor
delivers anything. -/
def Turn.DeliversBook (src : Source) (store : Store) (tour : Tour) (t : Turn Wish Candidate) :
    Prop :=
  t.places = [] ∧ t.delivered = [] ∨
    ∃ place, t.places = [place] ∧ t.result = (src.visit store tour place).mapError .producer

/-- A turn deals with its visits as its wish demands. A page takes candidates from the buffer, and
a book passes it by. -/
def Turn.Grants (src : Source) (store : Store) (tour : Tour) (t : Turn Wish Candidate) : Prop :=
  match t.call with
  | .page _ => src.Takes store tour t.before t.after t.delivered
  | .book => t.DeliversBook src store tour ∧ t.after.pager = t.before.pager

/-- The account of the turns that brought a fresh walk here. -/
structure Accounted (src : Source) (store : Store) (tour : Tour)
    (turns : List (Turn Wish Candidate)) (w : Walk) : Prop where
  /-- the books before the next one have been visited, in order, each by one turn -/
  places : turns.flatMap Turn.places = List.range w.place
  /-- a book asked for is delivered whole -/
  books : ∀ t ∈ turns, t.call = .book → t.DeliversBook src store tour
  /-- the pages so far and the buffer are what the visits for pages gave -/
  pages : (pageTurns turns).flatMap Turn.delivered ++ w.pager.buffer =
    src.harvest store tour ((pageTurns turns).flatMap Turn.places)

namespace Source

variable {src : Source} {store : Store} {tour : Tour}

private theorem between_of_place_eq {w w' : Walk} (h : w'.place = w.place) : w.between w' = [] := by
  simp [Walk.between, h]

private theorem between_of_place_succ {w w' : Walk} (h : w'.place = w.place + 1) :
    w.between w' = [w.place] := by
  simp [Walk.between, h]

/-- A granted wish keeps the walk to its tour, and deals with the visits as it should. -/
theorem orderly_grant (src : Source) (store : Store) :
    src.Orderly store (src.grant store) (Turn.Grants src store) where
  misses call w s e hw he := by
    cases call with
    | page limit => exact getVerses_misses hw he
    | book =>
      have hmisses := nextBook_misses hw he
      unfold grant
      rcases src.nextBook store w s with ⟨batch, w₁, s₁⟩
      exact ⟨(given_mapError _ _).trans hmisses.gives, hmisses.walk, hmisses.sent⟩
  keeps tour call w s result w' s' htour hkeeps hstep := by
    cases call with
    | page limit =>
      obtain ⟨hkeeps', htakes⟩ := hkeeps.getVerses htour hstep
      exact ⟨hkeeps', htakes.place_le, htakes⟩
    | book =>
      rcases hnext : src.nextBook store w s with ⟨batch, w₁, s₁⟩
      simp only [grant, hnext, Prod.mk.injEq] at hstep
      obtain ⟨rfl, rfl, rfl⟩ := hstep
      obtain ⟨hkeeps', hpager, ⟨hplace, hgiven⟩ | ⟨hplace, rfl⟩⟩ := hkeeps.nextBook htour hnext
      · refine ⟨hkeeps', Nat.le_of_eq hplace.symm, .inl ⟨between_of_place_eq hplace, ?_⟩, hpager⟩
        exact (given_mapError _ _).trans hgiven
      · exact ⟨hkeeps', by omega, .inr ⟨_, between_of_place_succ hplace, rfl⟩, hpager⟩

/-- Pages and buffer are what the visits for pages gave, after any chain of turns. -/
private theorem flatMap_delivered_append {turns : List (Turn Wish Candidate)} {w w' : Walk}
    (h : Chain (Turn.Grants src store tour) w turns w') :
    (pageTurns turns).flatMap Turn.delivered ++ w'.pager.buffer =
      w.pager.buffer ++ src.harvest store tour ((pageTurns turns).flatMap Turn.places) := by
  induction h with
  | nil => simp [pageTurns]
  | @cons t turns w _ hgrants _ ih =>
    unfold Turn.Grants at hgrants
    unfold pageTurns at ih ⊢
    cases hcall : t.call with
    | page limit =>
      rw [hcall] at hgrants
      rw [List.filter_cons_of_pos (by simp [hcall]), List.flatMap_cons, List.flatMap_cons,
        harvest_append, List.append_assoc, ih, ← List.append_assoc, ← List.append_assoc]
      exact congrArg (· ++ _) hgrants.append
    | book =>
      rw [hcall] at hgrants
      rw [List.filter_cons_of_neg (by simp [hcall]), ih, hgrants.2]

private theorem deliversBook_of_mem {turns : List (Turn Wish Candidate)} {w w' : Walk}
    (h : Chain (Turn.Grants src store tour) w turns w') :
    ∀ t ∈ turns, t.call = .book → t.DeliversBook src store tour := by
  induction h with
  | nil =>
    intro t ht
    cases ht
  | @cons t turns w _ hgrants _ ih =>
    intro u hu hcall
    rcases List.mem_cons.mp hu with rfl | hlater
    · unfold Turn.Grants at hgrants
      rw [hcall] at hgrants
      exact hgrants.1
    · exact ih u hlater hcall

/-- However a source is read, and whatever its store answers: the books are asked for until they are
found and not again, the query for a book is sent once its turn has come and not again, and every
candidate received goes one way. The tour is the same at every moment, by `Finds.unique`. If the
books are never found, nothing is delivered. -/
theorem course_accounted (src : Source) (store : Store) (wishes : List Wish) (s : Session) :
    let run := course (src.grant store) wishes {} s
    (∃ tour : Tour, tour.origin = s.sent ∧ src.Finds store tour ∧
        src.Keeps tour run.2.1 run.2.2.sent ∧ Accounted src store tour run.1 run.2.1) ∨
      src.NeverFinds store s.sent ∧ run.2.1 = {} ∧
        (∃ k, run.2.2.sent = s.sent ++ List.replicate k src.booksQuery) ∧
        run.1.flatMap Turn.delivered = [] := by
  rcases hrun : course (src.grant store) wishes {} s with ⟨turns, w, s'⟩
  refine ((orderly_grant src store).course hrun).imp_left ?_
  rintro ⟨tour, horigin, htour, hkeeps, hchain⟩
  refine ⟨tour, horigin, htour, hkeeps, ?_, deliversBook_of_mem hchain, ?_⟩
  · rw [hchain.flatMap_places]
    exact w.between_fresh
  · exact flatMap_delivered_append hchain

end Source

end Concordance.Search
