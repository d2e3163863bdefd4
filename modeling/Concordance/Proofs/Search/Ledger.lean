import Concordance.Proofs.Search.Account
import Concordance.Proofs.Search.Questions
import Concordance.Proofs.Telemetry.Tally

/-! What the questions of a source leave behind: a span, the counts of their phase, candidates. -/

namespace Concordance.Search

open Corpus (Candidate)
open Paging (given given_mapError served)
open Store (RetrievalError failureOf)
open Telemetry (Phase Tallied countOf querySpan querySpanName spansOf)

namespace Source

/-- The span of an exchange. -/
def spanOf (src : Source) (store : Store) (x : Exchange) : Telemetry.Span :=
  querySpan x.question.phase src.docSet (failureOf (src.outcome store x))

variable {src : Source} {store : Store}

/-- Questions bring one session to another: each is sent, leaves its span and is counted, and the
candidates are counted that it gives. -/
structure Records (src : Source) (store : Store) (s : Session) (questions : List Question)
    (s' : Session) : Prop where
  sent : s'.sent = s.sent ++ questions.map src.query
  spans : s'.spans = s.spans ++ (src.exchanges s.sent questions).map (src.spanOf store)
  tallied : Tallied s.metrics s.spans → Tallied s'.metrics s'.spans
  candidates : countOf s'.metrics.candidates src.docSet =
    countOf s.metrics.candidates src.docSet + (src.gathered store s.sent questions).length

/-- No question changes nothing but the context and the log. -/
theorem Records.quiet {s s' : Session} (hsent : s'.sent = s.sent) (hspans : s'.spans = s.spans)
    (hmetrics : s'.metrics = s.metrics) : src.Records store s [] s' where
  sent := by simpa using hsent
  spans := by simpa [exchanges] using hspans
  tallied := by
    rw [hspans, hmetrics]
    exact id
  candidates := by simp [hmetrics]

theorem Records.refl (s : Session) : src.Records store s [] s := .quiet rfl rfl rfl

theorem Records.trans {s s' s'' : Session} {questions questions' : List Question}
    (h : src.Records store s questions s') (h' : src.Records store s' questions' s'') :
    src.Records store s (questions ++ questions') s'' where
  sent := by rw [h'.sent, h.sent, List.map_append, List.append_assoc]
  spans := by
    rw [h'.spans, h.spans, h.sent, exchanges_append, List.map_append, List.append_assoc]
  tallied := h'.tallied ∘ h.tallied
  candidates := by
    rw [h'.candidates, h.candidates, h.sent, gathered_append, List.length_append, Nat.add_assoc]

/-- A session behind one question: it is observed as such, and its candidates are counted. -/
theorem Records.asked {s s' : Session} (q : Question)
    (hsent : s'.sent = s.sent ++ [src.query q])
    (hspans : s'.spans = s.spans ++ [src.spanOf store ⟨s.sent, q⟩])
    (htimed : s'.metrics.timed = (s.metrics.observe q.phase.name
      (failureOf (src.outcome store ⟨s.sent, q⟩)).isSome).timed)
    (hfailed : s'.metrics.failed = (s.metrics.observe q.phase.name
      (failureOf (src.outcome store ⟨s.sent, q⟩)).isSome).failed)
    (hcandidates : countOf s'.metrics.candidates src.docSet =
      countOf s.metrics.candidates src.docSet + (given (src.outcome store ⟨s.sent, q⟩)).length) :
    src.Records store s [q] s' where
  sent := hsent
  spans := hspans
  tallied h := by
    have hobserved := h.observe q.phase src.docSet (failureOf (src.outcome store ⟨s.sent, q⟩))
    rw [hspans]
    constructor
    · rw [htimed]
      exact hobserved.timed
    · rw [hfailed]
      exact hobserved.failed
  candidates := by
    rw [hcandidates, gathered_singleton]

theorem records_discover (src : Source) (store : Store) (s : Session) :
    src.Records store s [.books] (src.discover store s).2 := by
  apply Records.asked .books (src.sent_discover store s)
  all_goals
    simp only [discover, ask_eq, spanOf, outcome, found, booksQuery]
    cases src.receive .books Corpus.BooksReply.ofJson
      (store s.sent (Store.booksQuery src.docSet src.patterns)) <;> rfl

theorem records_readBook (src : Source) (store : Store) (book : CodePoints) (s : Session) :
    src.Records store s [.blocks book] (src.readBook store book s).2 := by
  apply Records.asked (.blocks book) (src.sent_readBook store book s)
  all_goals
    simp only [readBook, ask_eq, spanOf, outcome, fetched, blocksQuery]
    cases src.receive .blocks Corpus.BlocksReply.ofJson
      (store s.sent (Store.blocksQuery book.shown src.patterns))
  case hcandidates.ok =>
    dsimp only [Session.countCandidates, Telemetry.Metrics.addCandidates]
    rw [Telemetry.countOf_addTo, if_pos rfl]
    rfl
  all_goals rfl

/-- A call asks questions, and they are recorded. The candidates that they give are delivered or
wait in the buffer, as do those that waited there before. -/
structure Conserves (src : Source) (store : Store) (w : Walk) (s : Session)
    (questions : List Question) (delivered : List Candidate) (w' : Walk) (s' : Session) : Prop where
  records : src.Records store s questions s'
  idle : w'.pager.pending = none
  candidates : (delivered ++ w'.pager.buffer).Perm
    (w.pager.buffer ++ src.gathered store s.sent questions)

theorem Records.conserves {s s' : Session} {questions : List Question} {w w' : Walk}
    (h : src.Records store s questions s') (hidle : w.pager.pending = none)
    (hpager : w'.pager = w.pager) :
    src.Conserves store w s questions (src.gathered store s.sent questions) w' s' where
  records := h
  idle := by rw [hpager, hidle]
  candidates := by
    rw [hpager]
    exact List.perm_append_comm

theorem Conserves.refl {w : Walk} (s : Session) (hidle : w.pager.pending = none) :
    src.Conserves store w s [] [] w s := (Records.refl s).conserves hidle rfl

theorem Conserves.trans {a b c : Walk} {s s' s'' : Session} {questions questions' : List Question}
    {delivered delivered' : List Candidate}
    (h : src.Conserves store a s questions delivered b s')
    (h' : src.Conserves store b s' questions' delivered' c s'') :
    src.Conserves store a s (questions ++ questions') (delivered ++ delivered') c s'' where
  records := h.records.trans h'.records
  idle := h'.idle
  candidates := by
    rw [gathered_append, ← h.records.sent, List.append_assoc, ← List.append_assoc a.pager.buffer]
    have hlater := h'.candidates.append_left delivered
    rw [← List.append_assoc delivered b.pager.buffer] at hlater
    exact hlater.trans (h.candidates.append_right _)

/-- Asking for the books gives no candidates, and fails if it is not answered. -/
theorem conserves_itinerary {w : Walk} (w' : Walk) {s s' : Session}
    {result : Except RetrievalError Itinerary} (h : src.itinerary store w s = (result, s'))
    (hidle : w.pager.pending = none) (hpager : w'.pager = w.pager) :
    ∃ questions, src.Conserves store w s questions [] w' s' ∧
      ((∃ e, result = .error e) ↔ src.Stumbles store s.sent questions) := by
  rw [itinerary] at h
  cases hw : w.itinerary with
  | some it =>
    rw [hw] at h
    obtain ⟨rfl, rfl⟩ := Prod.mk.inj h
    exact ⟨[], (Records.refl s).conserves hidle hpager, by simp⟩
  | none =>
    rw [hw] at h
    obtain ⟨rfl, rfl⟩ : (src.discover store s).1 = result ∧ (src.discover store s).2 = s' :=
      Prod.mk.inj h
    have hconserves := (src.records_discover store s).conserves hidle hpager
    have hnone : src.gathered store s.sent [.books] = [] := by
      rw [gathered_singleton, outcome]
      cases src.found store s.sent <;> rfl
    rw [hnone] at hconserves
    refine ⟨[.books], hconserves, ?_⟩
    simp only [stumbles_singleton, outcome, discover_fst, map_eq_error_iff]

/-- A producer asks for the blocks of the next book, unless none is left. -/
theorem readNext_cases {it it' : Itinerary} {s s' : Session}
    {result : Except RetrievalError (List Candidate)}
    (h : src.readNext store (it, s) = (result, it', s')) :
    (it.left = 0 ∧ result = .ok [] ∧ it' = it ∧ s' = s) ∨
      ∃ book, it.books[it.cursor]? = some book ∧ it' = ⟨it.books, it.cursor + 1⟩ ∧
        src.Records store s [.blocks book] s' ∧
        result = src.outcome store ⟨s.sent, .blocks book⟩ := by
  rw [Source.readNext] at h
  cases hbook : it.books[it.cursor]? with
  | none =>
    rw [hbook] at h
    obtain ⟨rfl, rfl, rfl⟩ : .ok [] = result ∧ it = it' ∧ s = s' := by simpa using h
    have hend : it.books.length ≤ it.cursor := List.getElem?_eq_none_iff.mp hbook
    exact .inl ⟨Nat.sub_eq_zero_of_le hend, rfl, rfl, rfl⟩
  | some book =>
    rw [hbook] at h
    obtain ⟨rfl, rfl, rfl⟩ : (src.readBook store book s).1 = result ∧
      ⟨it.books, it.cursor + 1⟩ = it' ∧ (src.readBook store book s).2 = s' := by simpa using h
    exact .inr ⟨book, rfl, rfl, src.records_readBook store book s, src.readBook_fst store book s⟩

/-- Calls of a producer ask for the next books, one each. -/
theorem records_of_calls {a b : Itinerary × Session} {batches : List (Except _ (List Candidate))}
    (h : (src.producer store).Calls a batches b) :
    ∃ books, books <+: a.1.books.drop a.1.cursor ∧
      b.1 = ⟨a.1.books, a.1.cursor + books.length⟩ ∧
      src.Records store a.2 (books.map .blocks) b.2 ∧
      batches = (src.exchanges a.2.sent (books.map .blocks)).map (src.outcome store) := by
  induction h with
  | none a => exact ⟨[], List.nil_prefix, rfl, .refl a.2, rfl⟩
  | @call a b batches hleft _ ih =>
    obtain ⟨books, hahead, hend, hrest, hbatches⟩ := ih
    rcases hnext : (src.producer store).next a with ⟨result, it', s'⟩
    rw [hnext] at hahead hend hrest hbatches
    have hread : src.readNext store (a.1, a.2) = (result, it', s') := hnext
    have hmore : a.1.left ≠ 0 := of_decide_eq_false hleft
    rcases readNext_cases hread with ⟨hend, -⟩ | ⟨book, hbook, rfl, hrecords, hresult⟩
    · exact absurd hend hmore
    refine ⟨book :: books, ?_, ?_, hrecords.trans hrest, ?_⟩
    · obtain ⟨hlt, rfl⟩ := List.getElem?_eq_some_iff.mp hbook
      rw [List.drop_eq_getElem_cons hlt]
      exact List.cons_prefix_cons.mpr ⟨rfl, hahead⟩
    · rw [hend, List.length_cons]
      simp only [Itinerary.mk.injEq, true_and]
      omega
    · rw [hbatches, hresult, hrecords.sent]
      rfl

/-- A read asks a question for each batch. If it is not refused at once, it fails exactly if one of
them is not answered. -/
theorem conserves_read {it it' : Itinerary} {pager pager' : Paging.Pager Candidate}
    {s s' : Session} {limit : Int}
    {result : Except Failure (Paging.Page Candidate)}
    (h : (src.producer store).read pager (it, s) limit = (result, pager', it', s'))
    (hidle : pager.pending = none) :
    ∃ questions,
      src.Conserves store ⟨some it, pager⟩ s questions (served result) ⟨some it', pager'⟩ s' ∧
      (0 ≤ limit → ((∃ e, result = .error e) ↔ src.Stumbles store s.sent questions)) := by
  obtain ⟨batches, hcalls, happend, hidle', hfails⟩ := Paging.Producer.read_conserves h hidle
  obtain ⟨books, -, -, hrecords, rfl⟩ := records_of_calls hcalls
  rw [List.flatMap_map] at happend
  refine ⟨books.map .blocks, ⟨hrecords, hidle', .of_eq happend⟩, ?_⟩
  intro hlimit
  rw [hfails hlimit, Stumbles]
  simp only [List.mem_map]
  constructor
  · rintro ⟨e, x, hx, he⟩
    exact ⟨x, hx, e, he⟩
  · rintro ⟨x, hx, e, he⟩
    exact ⟨e, x, hx, he⟩

theorem records_notePulled (page : Paging.Page Candidate) (left : Nat) (s : Session) :
    src.Records store s [] (notePulled page left s) := by
  rw [notePulled]
  split
  · exact .refl s
  · exact .quiet rfl rfl rfl

/-- With a limit of zero or more, a page fails exactly if one of its questions is not answered. -/
theorem conserves_getVerses {limit : Int} {w w' : Walk} {s s' : Session}
    {result : Except Failure (List Candidate)}
    (hget : src.getVerses store limit w s = (result, w', s')) (hidle : w.pager.pending = none) :
    ∃ questions, src.Conserves store w s questions (given result) w' s' ∧
      (0 ≤ limit → ((∃ e, result = .error e) ↔ src.Stumbles store s.sent questions)) := by
  have hbind : src.Records store s [] (s.bindDocSet src.docSet src.collection) :=
    .quiet rfl rfl rfl
  have hbound := hbind.conserves hidle (rfl : w.pager = w.pager)
  rcases getVerses_cases hget with ⟨-, rfl, rfl, rfl⟩ | ⟨e, hit, rfl, rfl⟩ |
    ⟨it, s₁, page, pager, it', s₂, hit, hread, rfl, rfl, hnoted⟩
  · exact ⟨[], .refl s' hidle, by simp⟩
  · obtain ⟨questions, hconserves, hfails⟩ := conserves_itinerary w' hit hidle rfl
    refine ⟨questions, hbound.trans hconserves, ?_⟩
    intro _
    exact iff_of_true ⟨_, rfl⟩ (hfails.mp ⟨e, rfl⟩)
  · obtain ⟨asked, hasked, hfails⟩ := conserves_itinerary ⟨some it, w.pager⟩ hit hidle rfl
    obtain ⟨questions, hquestions, hbreaks⟩ := conserves_read hread hidle
    have hquiet : src.Records store s₂ [] s' := by
      rcases hnoted with rfl | ⟨page, rfl⟩
      · exact .refl s'
      · exact records_notePulled page _ s₂
    have hall := ((hbound.trans hasked).trans hquestions).trans
      (hquiet.conserves hquestions.idle rfl)
    simp only [gathered_nil, List.append_nil] at hall
    refine ⟨asked ++ questions, hall, ?_⟩
    intro hlimit
    have hanswered : ¬src.Stumbles store s.sent asked := by
      intro hstumbles
      obtain ⟨e, he⟩ := hfails.mpr hstumbles
      cases he
    rw [stumbles_append, or_iff_right hanswered]
    have hsent : s₁.sent = s.sent ++ asked.map src.query := hasked.records.sent
    rw [← hsent, ← hbreaks hlimit]
    cases page <;> simp [Except.map]

end Source

/-- What a caller asks of a source: a page or the next book, or a book of the caller's choice. -/
inductive Errand where
  | wish (wish : Wish)
  | volume (book : CodePoints)
  deriving Repr, DecidableEq

/-- A source runs an errand. -/
def Source.run (src : Source) (store : Store) : Step Errand Candidate
  | .wish wish, w, s => src.grant store wish w s
  | .volume book, w, s =>
    let (result, s) := src.readBook store book s
    (result.mapError .producer, w, s)

namespace Source

variable {src : Source} {store : Store}

end Source

end Concordance.Search
