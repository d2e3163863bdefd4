import Concordance.Proofs.Search.Tour
import Concordance.Search.Request

/-! What each call does to a walk that keeps to its tour. -/

namespace Concordance.Search

open Corpus (Candidate)
open Paging (given)
open Store (RetrievalError)

namespace Source

variable {src : Source} {store : Store} {tour : Tour}

/-- A walk keeps to a tour: it follows it, or asks for its books. No read is waiting. -/
structure Keeps (src : Source) (tour : Tour) (w : Walk) (sent : List String) : Prop where
  idle : w.pager.pending = none
  follows : ∀ it, w.itinerary = some it → src.Follows tour it sent
  seeks : w.itinerary = none → ∃ k ≤ tour.failures, sent = src.sought tour k

theorem Follows.keeps {it : Itinerary} {sent : List String} {pager : Paging.Pager Candidate}
    (h : src.Follows tour it sent) (hidle : pager.pending = none) :
    src.Keeps tour ⟨some it, pager⟩ sent where
  idle := hidle
  follows := by
    intro it' hit
    cases hit
    exact h
  seeks := by
    intro hnone
    cases hnone

/-- A walk that has not begun keeps to any tour. -/
theorem keeps_fresh (src : Source) (tour : Tour) : src.Keeps tour {} tour.origin where
  idle := rfl
  follows := by
    intro it hit
    cases hit
  seeks _ := ⟨0, Nat.zero_le _, by simp [sought]⟩

/-- It asks for its books once more if that was not the attempt that succeeds. -/
theorem Keeps.seek {w : Walk} {sent : List String} {e : RetrievalError}
    (h : src.Keeps tour w sent) (htour : src.Finds store tour) (hw : w.itinerary = none)
    (he : src.found store sent = .error e) : src.Keeps tour w (sent ++ [src.booksQuery]) := by
  obtain ⟨k, hk, rfl⟩ := h.seeks hw
  have hne : k ≠ tour.failures := by
    intro heq
    rw [heq, htour.found] at he
    cases he
  refine ⟨h.idle, by simp [hw], fun _ => ⟨k + 1, Nat.lt_of_le_of_ne hk hne, ?_⟩⟩
  rw [sought_succ]

theorem itinerary_eq_error {w : Walk} {s s' : Session} {e : RetrievalError}
    (hit : src.itinerary store w s = (.error e, s')) :
    w.itinerary = none ∧ src.found store s.sent = .error e ∧
      s'.sent = s.sent ++ [src.booksQuery] := by
  unfold Source.itinerary at hit
  cases hw : w.itinerary with
  | none =>
    simp only [hw] at hit
    have hfst := src.discover_fst store s
    have hsnd := src.sent_discover store s
    rw [hit] at hfst hsnd
    refine ⟨rfl, ?_, hsnd⟩
    cases hfound : src.found store s.sent with
    | ok books =>
      rw [hfound] at hfst
      cases hfst
    | error e' =>
      rw [hfound] at hfst
      rw [Except.error.inj hfst]
  | some it => simp [hw] at hit

theorem itinerary_eq_ok {w : Walk} {s s' : Session} {it : Itinerary}
    (hit : src.itinerary store w s = (.ok it, s')) :
    w.itinerary = some it ∧ s'.sent = s.sent ∨
      w.itinerary = none ∧ src.found store s.sent = .ok it.books ∧ it.cursor = 0 ∧
        s'.sent = s.sent ++ [src.booksQuery] := by
  unfold Source.itinerary at hit
  cases hw : w.itinerary with
  | none =>
    simp only [hw] at hit
    have hfst := src.discover_fst store s
    have hsnd := src.sent_discover store s
    rw [hit] at hfst hsnd
    cases hfound : src.found store s.sent with
    | ok books =>
      rw [hfound] at hfst
      obtain rfl : it = ⟨books, 0⟩ := Except.ok.inj hfst
      exact .inr ⟨rfl, rfl, rfl, hsnd⟩
    | error e =>
      rw [hfound] at hfst
      cases hfst
  | some it₀ =>
    simp only [hw, Prod.mk.injEq, Except.ok.injEq] at hit
    obtain ⟨rfl, rfl⟩ := hit
    exact .inl ⟨rfl, rfl⟩

/-- The books are known, or become known by the attempt that succeeds. -/
theorem Keeps.itinerary {w : Walk} {s s' : Session} {it : Itinerary}
    (h : src.Keeps tour w s.sent) (htour : src.Finds store tour)
    (hit : src.itinerary store w s = (.ok it, s')) :
    src.Follows tour it s'.sent ∧ it.cursor = w.place := by
  rcases itinerary_eq_ok hit with ⟨hw, hsent⟩ | ⟨hw, hfound, hcursor, hsent⟩
  · rw [hsent]
    exact ⟨h.follows it hw, by simp [Walk.place, hw]⟩
  obtain ⟨k, hk, hsought⟩ := h.seeks hw
  rw [hsought] at hfound hsent
  -- The attempt succeeds, so it is the one of the tour and none before it.
  rcases Nat.lt_or_eq_of_le hk with hlt | rfl
  · obtain ⟨e, he⟩ := htour.fails k hlt
    rw [he] at hfound
    cases hfound
  · rw [htour.found] at hfound
    refine ⟨⟨(Except.ok.inj hfound).symm, hcursor ▸ Nat.zero_le _, ?_⟩, ?_⟩
    · rw [hsent, hcursor, asked, sought_succ, List.take_zero, List.map_nil, List.append_nil]
    · simp [Walk.place, hw, hcursor]

theorem itinerary_of_error {w : Walk} {s : Session} {e : RetrievalError}
    (hw : w.itinerary = none) (he : src.found store s.sent = .error e) :
    ∃ s', src.itinerary store w s = (.error e, s') ∧
      s'.sent = s.sent ++ [src.booksQuery] := by
  refine ⟨(src.discover store s).2, ?_, src.sent_discover store s⟩
  unfold Source.itinerary
  rw [hw]
  refine Prod.ext ?_ rfl
  have hfst := src.discover_fst store s
  rw [he] at hfst
  exact hfst

/-- The books are not found: a call changes nothing but what has been asked, and gives nothing. -/
structure Misses (src : Source) {ε δ : Type} (w : Walk) (s : Session)
    (step : Except ε (List δ) × Walk × Session) : Prop where
  gives : given step.1 = []
  walk : step.2.1 = w
  sent : step.2.2.sent = s.sent ∨ step.2.2.sent = s.sent ++ [src.booksQuery]

theorem getVerses_misses {limit : Int} {w : Walk} {s : Session} {e : RetrievalError}
    (hw : w.itinerary = none) (he : src.found store s.sent = .error e) :
    src.Misses w s (src.getVerses store limit w s) := by
  have he' : src.found store (s.bindDocSet src.docSet src.collection).sent = .error e := he
  obtain ⟨s', hit, hsent⟩ := itinerary_of_error hw he'
  unfold Source.getVerses
  split
  · exact ⟨rfl, rfl, .inl rfl⟩
  · rw [hit]
    exact ⟨rfl, rfl, .inr hsent⟩

theorem nextBook_misses {w : Walk} {s : Session} {e : RetrievalError} (hw : w.itinerary = none)
    (he : src.found store s.sent = .error e) : src.Misses w s (src.nextBook store w s) := by
  obtain ⟨s', hit, hsent⟩ := itinerary_of_error hw he
  unfold Source.nextBook
  rw [hit]
  exact ⟨rfl, rfl, .inr hsent⟩

/-- Candidates that left the pager between two moments of a walk. With the buffer behind them they
are what was in the buffer before and what the visits gave. -/
structure Takes (src : Source) (store : Store) (tour : Tour) (w w' : Walk)
    (taken : List Candidate) : Prop where
  place_le : w.place ≤ w'.place
  append : taken ++ w'.pager.buffer = w.pager.buffer ++ src.harvest store tour (w.between w')

theorem Takes.refl (src : Source) (store : Store) (tour : Tour) (w : Walk) :
    src.Takes store tour w w [] := by
  refine ⟨Nat.le_refl _, ?_⟩
  rw [Walk.between_self, harvest_nil, List.append_nil, List.nil_append]

theorem Takes.trans {a b c : Walk} {taken taken' : List Candidate}
    (h : src.Takes store tour a b taken) (h' : src.Takes store tour b c taken') :
    src.Takes store tour a c (taken ++ taken') := by
  refine ⟨Nat.le_trans h.place_le h'.place_le, ?_⟩
  calc taken ++ taken' ++ c.pager.buffer
    _ = taken ++ b.pager.buffer ++ src.harvest store tour (b.between c) := by
        rw [List.append_assoc, h'.append, List.append_assoc]
    _ = a.pager.buffer ++ src.harvest store tour (a.between c) := by
        rw [h.append, List.append_assoc, ← harvest_append,
          Walk.between_append h.place_le h'.place_le]

/-- A call has no word to search for, does not find the books, or reads a page. -/
theorem getVerses_cases {limit : Int} {w w' : Walk} {s s' : Session}
    {result : Except Failure (List Candidate)}
    (h : src.getVerses store limit w s = (result, w', s')) :
    let bound := s.bindDocSet src.docSet src.collection
    (src.isBlank = true ∧ result = .ok [] ∧ w' = w ∧ s' = s) ∨
    (∃ e, src.itinerary store w bound = (.error e, s') ∧
      result = .error (.producer e) ∧ w' = w) ∨
    ∃ it s₁ page pager it' s₂, src.itinerary store w bound = (.ok it, s₁) ∧
      (src.producer store).read w.pager (it, s₁) limit = (page, pager, it', s₂) ∧
      result = page.map Paging.Page.items ∧ w' = ⟨some it', pager⟩ ∧
      (s' = s₂ ∨ ∃ page, s' = notePulled page pager.buffer.length s₂) := by
  rw [Source.getVerses] at h
  split at h
  · next hblank =>
    obtain ⟨rfl, rfl, rfl⟩ : .ok [] = result ∧ w = w' ∧ s = s' := by simpa using h
    exact .inl ⟨hblank, rfl, rfl, rfl⟩
  split at h
  · next e s₁ hit =>
    obtain ⟨rfl, rfl, rfl⟩ : .error (.producer e) = result ∧ w = w' ∧ s₁ = s' := by simpa using h
    exact .inr (.inl ⟨e, hit, rfl, rfl⟩)
  · next it s₁ hit =>
    rcases hread : (src.producer store).read w.pager (it, s₁) limit with ⟨page?, pager, it', s₂⟩
    simp only [hread] at h
    cases page? with
    | error e =>
      obtain ⟨rfl, rfl, rfl⟩ : .error e = result ∧ ⟨some it', pager⟩ = w' ∧ s₂ = s' := by
        simpa using h
      exact .inr (.inr ⟨it, s₁, _, pager, it', s₂, hit, hread, rfl, rfl, .inl rfl⟩)
    | ok page =>
      obtain ⟨rfl, rfl, rfl⟩ : .ok page.items = result ∧ ⟨some it', pager⟩ = w' ∧
        notePulled page pager.buffer.length s₂ = s' := by simpa using h
      exact .inr (.inr ⟨it, s₁, _, pager, it', s₂, hit, hread, rfl, rfl, .inr ⟨page, rfl⟩⟩)

theorem sent_of_noted {left : Nat} {s s' : Session}
    (h : s' = s ∨ ∃ page, s' = notePulled page left s) : s'.sent = s.sent := by
  rcases h with rfl | ⟨page, rfl⟩
  · rfl
  · exact sent_notePulled page left s

theorem Keeps.getVerses {limit : Int} {w w' : Walk} {s s' : Session}
    {result : Except Failure (List Candidate)}
    (h : src.Keeps tour w s.sent) (htour : src.Finds store tour)
    (hget : src.getVerses store limit w s = (result, w', s')) :
    src.Keeps tour w' s'.sent ∧ src.Takes store tour w w' (given result) := by
  rcases getVerses_cases hget with ⟨-, rfl, rfl, rfl⟩ | ⟨e, hit, rfl, rfl⟩ |
    ⟨it, s₁, page, pager, it', s₂, hit, hread, rfl, rfl, hnoted⟩
  · exact ⟨h, .refl src store tour w'⟩
  · obtain ⟨hw, he, hsent⟩ := itinerary_eq_error hit
    rw [hsent]
    exact ⟨h.seek htour hw he, .refl src store tour w'⟩
  · have hbound : src.Keeps tour w (s.bindDocSet src.docSet src.collection).sent := h
    obtain ⟨hfollows, hplace⟩ := hbound.itinerary htour hit
    obtain ⟨batches, hcalls, happend, hidle, -⟩ := Paging.Producer.read_conserves hread h.idle
    obtain ⟨hfollows', hle, rfl⟩ := Follows.calls hcalls hfollows
    rw [hplace, List.flatMap_map] at happend
    rw [hplace] at hle
    rw [sent_of_noted hnoted]
    exact ⟨hfollows'.keeps hidle, ⟨hle, happend⟩⟩

/-- The next book is read past the buffer, unless the books are not found. -/
theorem nextBook_cases {w w' : Walk} {s s' : Session}
    {result : Except RetrievalError (List Candidate)}
    (h : src.nextBook store w s = (result, w', s')) :
    (∃ e, src.itinerary store w s = (.error e, s') ∧ result = .error e ∧ w' = w) ∨
    ∃ it s₁ it', src.itinerary store w s = (.ok it, s₁) ∧
      src.readNext store (it, s₁) = (result, it', s') ∧
      w' = { w with itinerary := some it' } := by
  rw [Source.nextBook] at h
  split at h
  · next e s₁ hit =>
    obtain ⟨rfl, rfl, rfl⟩ : .error e = result ∧ w = w' ∧ s₁ = s' := by simpa using h
    exact .inl ⟨e, hit, rfl, rfl⟩
  · next it s₁ hit =>
    rcases hread : src.readNext store (it, s₁) with ⟨batch, it', s₂⟩
    rw [hread] at h
    obtain ⟨rfl, rfl, rfl⟩ : batch = result ∧ { w with itinerary := some it' } = w' ∧ s₂ = s' := by
      simpa using h
    exact .inr ⟨it, s₁, it', hit, hread, rfl⟩

/-- The next book is visited past the buffer, if there is one. -/
theorem Keeps.nextBook {w w' : Walk} {s s' : Session}
    {result : Except RetrievalError (List Candidate)} (h : src.Keeps tour w s.sent)
    (htour : src.Finds store tour) (hnext : src.nextBook store w s = (result, w', s')) :
    src.Keeps tour w' s'.sent ∧ w'.pager = w.pager ∧
      (w'.place = w.place ∧ given result = [] ∨
        w'.place = w.place + 1 ∧ result = src.visit store tour w.place) := by
  rcases nextBook_cases hnext with ⟨e, hit, rfl, rfl⟩ | ⟨it, s₁, it', hit, hread, rfl⟩
  · obtain ⟨hw, he, hsent⟩ := itinerary_eq_error hit
    rw [hsent]
    exact ⟨h.seek htour hw he, rfl, .inl ⟨rfl, rfl⟩⟩
  · obtain ⟨hfollows, hplace⟩ := h.itinerary htour hit
    obtain ⟨rfl, hfollows', hcursor⟩ := hfollows.readNext hread
    rw [hplace] at hcursor ⊢
    refine ⟨hfollows'.keeps h.idle, rfl, ?_⟩
    have hle : w.place ≤ tour.books.length := hplace ▸ hfollows.cursor_le
    rcases Nat.lt_or_eq_of_le hle with hlt | hend
    · exact .inr ⟨hcursor.trans (Nat.min_eq_left hlt), rfl⟩
    · refine .inl ⟨hcursor.trans (by omega), ?_⟩
      simp [visit, hend]

end Source

end Concordance.Search
