import Concordance.Proofs.Search.Course
import Concordance.Proofs.Search.Results

/-! Which matches a search loses when its store fails. -/

namespace Concordance.Search

open Corpus (Candidate Match)

/-- No book is left to be read, and no candidate to be served. -/
def Walk.Finished (w : Walk) : Prop :=
  w.itinerary.map Itinerary.left = some 0 ∧ w.pager.buffer = []

instance (w : Walk) : Decidable w.Finished := inferInstanceAs (Decidable (_ ∧ _))

/-- The candidates that left the pager during a turn: all that were in it or came in, but those
still in it. -/
def Turn.taken {γ δ : Type} (t : Turn γ δ) (src : Source) (store : Store) (tour : Tour) :
    List Candidate :=
  let held := t.before.pager.buffer ++ src.harvest store tour t.places
  held.take (held.length - t.after.pager.buffer.length)

namespace Request

variable {r : Request} {store : Store} {tour : Tour}

/-- A turn confirms what it takes, unless it fails. -/
structure Confirms (r : Request) (store : Store) (tour : Tour) (t : Turn Int Match) : Prop where
  takes : r.source.Takes store tour t.before t.after (t.taken r.source store tour)
  found : ∀ found, t.result = .ok found → found = r.confirmed (t.taken r.source store tour)

theorem orderly_getResults (r : Request) (store : Store) :
    r.source.Orderly store (r.getResults store) (r.Confirms store) where
  misses limit w s e hw he := getResults_misses hw he
  keeps tour limit w s result w' s' htour hkeeps hstep := by
    obtain ⟨hkeeps', taken, htakes, hfound⟩ := getResults_takes hstep htour hkeeps
    have htaken : (⟨limit, w, result, w'⟩ : Turn Int Match).taken r.source store tour = taken := by
      unfold Turn.taken Turn.places
      rw [← htakes.append]
      simp
    refine ⟨hkeeps', htakes.place_le, ?_, ?_⟩
    · rw [htaken]
      exact htakes
    · rw [htaken]
      exact hfound

/-- The matches that a failed turn has confirmed and does not give. -/
def lost (r : Request) (store : Store) (tour : Tour) (t : Turn Int Match) : List Match :=
  match t.result with
  | .ok _ => []
  | .error _ => r.confirmed (t.taken r.source store tour)

private theorem flatMap_taken {turns : List (Turn Int Match)} {w w' : Walk}
    (h : Chain (r.Confirms store tour) w turns w') :
    r.source.Takes store tour w w' (turns.flatMap (·.taken r.source store tour)) := by
  induction h with
  | nil w => exact .refl r.source store tour w
  | cons _ hconfirms _ ih =>
    rw [List.flatMap_cons]
    exact hconfirms.takes.trans ih

/-- What a turn confirms is delivered or lost as a whole. -/
private theorem Confirms.delivered_append_lost {t : Turn Int Match}
    (h : r.Confirms store tour t) :
    t.delivered ++ r.lost store tour t = r.confirmed (t.taken r.source store tour) := by
  unfold Turn.delivered lost
  cases hresult : t.result with
  | ok found => simpa using h.found found hresult
  | error e => rfl

/-- Confirmed matches are delivered in order, and those not delivered are the lost ones. -/
private theorem flatMap_delivered {turns : List (Turn Int Match)} {w w' : Walk}
    (h : Chain (r.Confirms store tour) w turns w') :
    (turns.flatMap Turn.delivered).Sublist
        (r.confirmed (turns.flatMap (·.taken r.source store tour))) ∧
      (turns.flatMap Turn.delivered).length + (turns.flatMap (r.lost store tour)).length =
        (r.confirmed (turns.flatMap (·.taken r.source store tour))).length := by
  induction h with
  | nil => exact ⟨.slnil, rfl⟩
  | @cons t turns w _ hconfirms _ ih =>
    obtain ⟨hsub, hlength⟩ := ih
    simp only [List.flatMap_cons, confirmed_append, ← hconfirms.delivered_append_lost]
    refine ⟨(List.sublist_append_left _ _).append hsub, ?_⟩
    simp only [List.length_append]
    omega

/-- A search that is carried on after failures until nothing is left delivers confirmed candidates
of the books in order and none twice. It delivers all of them exactly if no failed call had
confirmed a candidate before it failed. -/
theorem course_complete_iff (r : Request) (store : Store) (limits : List Int) (s : Session)
    (hdone : (course (r.getResults store) limits {} s).2.1.Finished) :
    let run := course (r.getResults store) limits {} s
    ∃ tour : Tour, tour.origin = s.sent ∧ r.source.Finds store tour ∧
      r.source.Keeps tour run.2.1 run.2.2.sent ∧
      let turns := run.1
      let all := r.confirmed (r.source.harvest store tour (List.range tour.books.length))
      (turns.flatMap Turn.delivered).Sublist all ∧
        (turns.flatMap Turn.delivered = all ↔ turns.flatMap (r.lost store tour) = []) := by
  rcases hcourse : course (r.getResults store) limits {} s with ⟨turns, w, s'⟩
  rw [hcourse] at hdone
  dsimp only at hdone ⊢
  obtain ⟨hfinished, hbuffer⟩ := hdone
  obtain ⟨it, hit, hleft⟩ := Option.map_eq_some_iff.mp hfinished
  rcases (r.orderly_getResults store).course hcourse with
    ⟨tour, horigin, htour, hkeeps, hchain⟩ | ⟨-, rfl, -⟩
  · have hplace : w.place = tour.books.length := by
      have hfollows := hkeeps.follows it hit
      have hle := hfollows.cursor_le
      have hcursor : w.place = it.cursor := by simp [Walk.place, hit]
      unfold Itinerary.left at hleft
      rw [hfollows.books] at hleft
      omega
    have hall : turns.flatMap (·.taken r.source store tour) =
        r.source.harvest store tour (List.range tour.books.length) := by
      have happend := (flatMap_taken hchain).append
      rwa [hbuffer, List.append_nil, w.between_fresh, hplace] at happend
    obtain ⟨hsub, hlength⟩ := flatMap_delivered hchain
    rw [hall] at hsub hlength
    refine ⟨tour, horigin, htour, hkeeps, hsub, ?_⟩
    rw [← List.length_eq_zero_iff]
    constructor
    · intro heq
      rw [heq] at hlength
      omega
    · intro hnone
      exact hsub.eq_of_length (by omega)
  · cases hit

/-- A search for one letter in a doc set of two books. -/
def letterSearch : Request := ⟨⟨"LIB", "eng", [['a']], {}⟩, 50⟩

/-- The first of the two books has the letter in one of its verses; the second cannot be read. -/
def brokenShelf : Store :=
  let books : Corpus.BooksReply := ⟨[⟨"A", some "book"⟩, ⟨"B", some "book"⟩]⟩
  let blocks : Corpus.BlocksReply := ⟨some "GEN",
    [[⟨["chapter/1", "verses/1"], "a"⟩, ⟨["chapter/1", "verses/2"], "b"⟩]]⟩
  Store.scripted [.ok books.toJson, .ok blocks.toJson, .error (.retrieval (.reported "down"))]

/-- Nothing has happened before. -/
def freshSession : Session := { ids := ⟨"trace", "span"⟩ }

/-- The tour of a search through the two books. -/
def shelfTour : Tour := ⟨[], 0, ["A", "B"]⟩

theorem finds_shelfTour : letterSearch.source.Finds brokenShelf shelfTour where
  fails := by
    intro k hk
    exact absurd hk (Nat.not_lt_zero k)
  found := by
    have hsome : (letterSearch.source.found brokenShelf []).toOption = some shelfTour.books := by
      decide +kernel
    show letterSearch.source.found brokenShelf [] = .ok shelfTour.books
    cases hfound : letterSearch.source.found brokenShelf [] with
    | ok books =>
      rw [hfound] at hsome
      exact congrArg Except.ok (Option.some.inj hsome)
    | error e =>
      rw [hfound] at hsome
      cases hsome

/-- Two calls for all that is left: the failure of the first leaves the first book to the second. -/
theorem course_complete_iff_letterSearch :
    let run := course (letterSearch.getResults brokenShelf) [0, 0] {} freshSession
    run.2.1.Finished ∧
    ∃ tour : Tour, tour.origin = freshSession.sent ∧ letterSearch.source.Finds brokenShelf tour ∧
      letterSearch.source.Keeps tour run.2.1 run.2.2.sent ∧
      let turns := run.1
      let all := letterSearch.confirmed
        (letterSearch.source.harvest brokenShelf tour (List.range tour.books.length))
      (turns.flatMap Turn.delivered).Sublist all ∧
        (turns.flatMap Turn.delivered = all ↔
          turns.flatMap (letterSearch.lost brokenShelf tour) = []) :=
  ⟨by decide +kernel, course_complete_iff _ _ _ _ (by decide +kernel)⟩

/-- Collecting in so many rounds at most, if they suffice. -/
def collectWithin (r : Request) (store : Store) (limit : Nat) :
    Nat → List Match → Walk → Session → Option (Except Failure (List Match) × Walk × Session)
  | 0, _, _, _ => none
  | rounds + 1, got, w, s =>
    if limit ≤ got.length then some (.ok got, w, s)
    else
      match r.source.getVerses store (limit - got.length : Nat) w s with
      | (.error e, w, s) => some (.error e, w, s)
      | (.ok [], w, s) => some (.ok got, w, s)
      | (.ok (c :: cs), w, s) =>
        let found := r.confirmed (c :: cs)
        let s := s.note searchLogger .debug
          s!"Confirmed {found.length} of {(c :: cs).length} candidates"
        r.collectWithin store limit rounds (got ++ found) w s

theorem collect_eq_of_collectWithin {limit rounds : Nat} {got : List Match} {w : Walk} {s : Session}
    {outcome : Except Failure (List Match) × Walk × Session}
    (h : r.collectWithin store limit rounds got w s = some outcome) :
    r.collect store limit got w s = outcome := by
  induction rounds generalizing got w s with
  | zero => cases h
  | succ rounds ih =>
    unfold collectWithin at h
    rw [collect]
    split at h
    · next hle => rw [if_pos hle, Option.some.inj h]
    · next hle =>
      rw [if_neg hle]
      split at h <;> split <;> simp_all

/-- A call for two matches confirms one in the first book and then fails at the second. No later
call delivers that match, though nothing is left. -/
theorem confirmed_match_lost :
    let run := course (letterSearch.getResults brokenShelf) [2, 0] {} freshSession
    run.2.1.Finished ∧ letterSearch.source.Finds brokenShelf shelfTour ∧
      run.1.flatMap Turn.delivered = [] ∧
      (letterSearch.confirmed
        (letterSearch.source.harvest brokenShelf shelfTour (List.range 2))).map (·.matched) =
          ([["a"]] : List (List CodePoints)) := by
  have hfirst : letterSearch.getResults brokenShelf 2 {} freshSession =
      (letterSearch.collectWithin brokenShelf 2 2 [] {} freshSession).get (by decide +kernel) :=
    collect_eq_of_collectWithin (Option.some_get _).symm
  have hrun : course (letterSearch.getResults brokenShelf) [2, 0] {} freshSession =
      let (result, w, s) :=
        (letterSearch.collectWithin brokenShelf 2 2 [] {} freshSession).get (by decide +kernel)
      let (turns, w', s') := course (letterSearch.getResults brokenShelf) [0] w s
      (⟨2, {}, result, w⟩ :: turns, w', s') := by
    rw [course, hfirst]
  intro run
  refine ⟨?_, finds_shelfTour, ?_, by decide +kernel⟩
  · show (course _ _ _ _).2.1.Finished
    rw [hrun]
    decide +kernel
  · show (course _ _ _ _).1.flatMap Turn.delivered = []
    rw [hrun]
    decide +kernel

end Request

end Concordance.Search
