import Concordance.Proofs.Search.Losses

/-! What a negative limit comes to, wherever a limit is taken. -/

namespace Concordance.Search

open Corpus (Candidate Match)
open Paging (Pager Producer)
open Request (letterSearch brokenShelf freshSession)

/-- A call is refused for its limit and leaves no trace: no query is sent, and the books, the place
among them and the buffer are as they were. -/
structure Refused {δ : Type} (limit : Int) (w : Walk) (s : Session)
    (step : Except Failure (List δ) × Walk × Session) : Prop where
  result : step.1 = .error (.negativeLimit limit)
  walk : step.2.1 = w
  sent : step.2.2.sent = s.sent

namespace Source

variable {src : Source} {store : Store} {limit : Int} {w : Walk}

theorem getVerses_of_blank (hblank : src.isBlank = true) (s : Session) :
    src.getVerses store limit w s = (.ok [], w, s) := by
  rw [getVerses, if_pos hblank]

/-- A negative limit is noticed once the books are known. -/
theorem getVerses_of_negative {it : Itinerary} {s s' : Session} (hlimit : limit < 0)
    (hsearch : src.isBlank = false)
    (hit : src.itinerary store w (s.bindDocSet src.docSet src.collection) = (.ok it, s')) :
    src.getVerses store limit w s =
      (.error (.negativeLimit limit), { w with itinerary := some it }, s') := by
  rw [getVerses, if_neg (by simp [hsearch]), hit]
  simp only [Producer.read_of_negative hlimit]

theorem refused_of_known {it : Itinerary} (hlimit : limit < 0) (hsearch : src.isBlank = false)
    (hw : w.itinerary = some it) (s : Session) :
    Refused limit w s (src.getVerses store limit w s) := by
  have hit : src.itinerary store w (s.bindDocSet src.docSet src.collection) =
      (.ok it, s.bindDocSet src.docSet src.collection) := by
    rw [itinerary, hw]
  rw [getVerses_of_negative hlimit hsearch hit, ← hw]
  exact ⟨rfl, rfl, rfl⟩

/-- Books that are not known are asked for first. If they are not found, that is the error. -/
theorem getVerses_of_negative_of_unknown {w' : Walk} {s s' : Session}
    {result : Except Failure (List Candidate)} (hlimit : limit < 0) (hsearch : src.isBlank = false)
    (hw : w.itinerary = none) (hget : src.getVerses store limit w s = (result, w', s')) :
    s'.sent = s.sent ++ [src.booksQuery] ∧ w'.pager = w.pager ∧
      (∀ e, src.found store s.sent = .error e →
        result = .error (.producer e) ∧ w'.itinerary = none) ∧
      (∀ books, src.found store s.sent = .ok books →
        result = .error (.negativeLimit limit) ∧ w'.itinerary = some ⟨books, 0⟩) := by
  rcases getVerses_cases hget with ⟨hblank, -⟩ | ⟨e, hit, rfl, rfl⟩ | ⟨it, s₁, _, _, _, _, hit, -⟩
  · rw [hsearch] at hblank
    cases hblank
  · obtain ⟨-, hfound, hsent⟩ := itinerary_eq_error hit
    refine ⟨hsent, rfl, fun e' he' => ?_, fun books hbooks => ?_⟩
    · obtain rfl : e' = e := Except.error.inj (he'.symm.trans hfound)
      exact ⟨rfl, hw⟩
    · cases hbooks.symm.trans hfound
  · rcases itinerary_eq_ok hit with ⟨hknown, -⟩ | ⟨-, hfound, hcursor, hsent⟩
    · cases hw.symm.trans hknown
    rw [getVerses_of_negative hlimit hsearch hit] at hget
    obtain ⟨rfl, rfl, rfl⟩ : .error (.negativeLimit limit) = result ∧
      { w with itinerary := some it } = w' ∧ s₁ = s' := by simpa using hget
    refine ⟨hsent, rfl, fun e he => ?_, fun books hbooks => ⟨rfl, ?_⟩⟩
    · cases he.symm.trans hfound
    · obtain rfl : books = it.books := Except.ok.inj (hbooks.symm.trans hfound)
      rcases it with ⟨books, cursor⟩
      obtain rfl : cursor = 0 := hcursor
      rfl

/-- A page with a negative limit is refused without a trace by a source that has words to search for
and knows its books, and by no other. -/
theorem refused_getVerses_iff (hlimit : limit < 0) (s : Session) :
    Refused limit w s (src.getVerses store limit w s) ↔
      src.isBlank = false ∧ w.itinerary.isSome = true := by
  constructor
  · intro hrefused
    cases hblank : src.isBlank with
    | true =>
      have hresult := hrefused.result
      rw [getVerses_of_blank hblank] at hresult
      cases hresult
    | false =>
      refine ⟨rfl, ?_⟩
      cases hw : w.itinerary with
      | some it => rfl
      | none =>
        obtain ⟨hsent, -⟩ := getVerses_of_negative_of_unknown hlimit hblank hw rfl
        have hlength := congrArg List.length (hsent.symm.trans hrefused.sent)
        simp at hlength
  · rintro ⟨hsearch, hknown⟩
    obtain ⟨it, hw⟩ := Option.isSome_iff_exists.mp hknown
    exact refused_of_known hlimit hsearch hw s

end Source

namespace Request

variable {r : Request} {store : Store}

theorem getResults_of_negative {limit : Int} (hlimit : limit < 0) (w : Walk) (s : Session) :
    r.getResults store limit w s = (.error (.negativeLimit limit), w, s) := by
  rw [getResults, if_pos hlimit]

/-- Calls with a negative limit can be left out of a course: the others give what they give, and
what is left in the end is the same. -/
theorem course_without_negative (r : Request) (store : Store) (limits : List Int) (w : Walk)
    (s : Session) :
    course (r.getResults store) (limits.filter (0 ≤ ·)) w s =
      ((course (r.getResults store) limits w s).1.filter (0 ≤ ·.call),
        (course (r.getResults store) limits w s).2) := by
  induction limits generalizing w s with
  | nil => rfl
  | cons limit limits ih =>
    by_cases hlimit : limit < 0
    · rw [List.filter_cons_of_neg (by simpa using hlimit), ih]
      simp [course, getResults_of_negative hlimit, hlimit]
    · rw [List.filter_cons_of_pos (by simpa using hlimit)]
      simp [course, ih, Int.not_lt.mp hlimit]

end Request

/-- A negative limit. A read of a pager is refused at once, also while another read is waiting, and
so is a page of results of any search; neither leaves a trace, so that a course of calls for results
goes as it would without those that are refused. A page of candidates is refused like that if there
are words to search for and the books are known. If there is no word, it is empty, as every page is,
and nothing happens. If the books are not known, they are asked for first, by one query: no book is
read, the buffer stays as it is, and the page is refused once they are found. -/
theorem negative_limits_refused {limit : Int} (hlimit : limit < 0) :
    (∀ (σ ε α : Type) (producer : Producer σ ε α) (p : Pager α) (exhausted : Bool) (s : σ),
      p.start (ε := ε) exhausted limit = (.ends (.error (.negativeLimit limit)), p) ∧
      producer.read p s limit = (.error (.negativeLimit limit), p, s)) ∧
    (∀ (r : Request) (store : Store) (w : Walk) (s : Session),
      r.getResults store limit w s = (.error (.negativeLimit limit), w, s) ∧
      ∀ limits : List Int, course (r.getResults store) (limits.filter (0 ≤ ·)) w s =
        ((course (r.getResults store) limits w s).1.filter (0 ≤ ·.call),
          (course (r.getResults store) limits w s).2)) ∧
    ∀ (src : Source) (store : Store) (w : Walk) (s : Session),
      let (result, w', s') := src.getVerses store limit w s
      (Refused limit w s (result, w', s') ↔
        src.isBlank = false ∧ w.itinerary.isSome = true) ∧
      (src.isBlank = true → result = .ok [] ∧ w' = w ∧ s' = s) ∧
      (src.isBlank = false → w.itinerary = none →
        s'.sent = s.sent ++ [src.booksQuery] ∧ w'.pager = w.pager ∧
        (∀ e, src.found store s.sent = .error e →
          result = .error (.producer e) ∧ w'.itinerary = none) ∧
        ∀ books, src.found store s.sent = .ok books →
          result = .error (.negativeLimit limit) ∧ w'.itinerary = some ⟨books, 0⟩) := by
  refine ⟨fun σ ε α producer p exhausted s => ⟨Pager.start_of_negative hlimit exhausted,
    Producer.read_of_negative hlimit p s⟩, fun r store w s => ⟨r.getResults_of_negative hlimit w s,
    fun limits => r.course_without_negative store limits w s⟩, fun src store w s => ?_⟩
  rcases hget : src.getVerses store limit w s with ⟨result, w', s'⟩
  refine ⟨hget ▸ Source.refused_getVerses_iff hlimit s, fun hblank => ?_, fun hsearch hw => ?_⟩
  · rw [Source.getVerses_of_blank hblank] at hget
    cases hget
    exact ⟨rfl, rfl, rfl⟩
  · exact Source.getVerses_of_negative_of_unknown hlimit hsearch hw hget

/-- One of the two candidates of the first book is in the buffer. -/
theorem negative_limits_refused_letterSearch :
    let first := letterSearch.source.getVerses brokenShelf 1 {} freshSession
    let w := first.2.1
    let s := first.2.2
    (-1 : Int) < 0 ∧ w.pager.buffer.length = 1 ∧
      letterSearch.getResults brokenShelf (-1) w s = (.error (.negativeLimit (-1)), w, s) ∧
      Refused (-1) w s (letterSearch.source.getVerses brokenShelf (-1) w s) := by
  intro first w s
  have hnegative : (-1 : Int) < 0 := by decide
  obtain ⟨-, hresults, hverses⟩ := negative_limits_refused hnegative
  exact ⟨hnegative, by decide +kernel, (hresults letterSearch brokenShelf w s).1,
    (hverses letterSearch.source brokenShelf w s).1.mpr ⟨rfl, by decide +kernel⟩⟩

/-- A page with a negative limit leaves its trace if it is the first, and is not refused if there is
no word to search for. -/
theorem negative_limit_leaves_trace :
    let first := letterSearch.source.getVerses brokenShelf (-1) {} freshSession
    let blank : Source := { letterSearch.source with words := [] }
    first.2.2.sent.length = 1 ∧ ¬Refused (-1) {} freshSession first ∧
      ¬Refused (-1) {} freshSession (blank.getVerses brokenShelf (-1) {} freshSession) := by
  intro first blank
  refine ⟨by decide +kernel, fun hrefused => ?_, fun hrefused => ?_⟩
  · exact absurd (congrArg List.length hrefused.sent) (by decide +kernel)
  · have hblank : blank.getVerses brokenShelf (-1) {} freshSession = (.ok [], {}, freshSession) :=
      Source.getVerses_of_blank rfl freshSession
    have hresult := hrefused.result
    rw [hblank] at hresult
    cases hresult

end Concordance.Search
