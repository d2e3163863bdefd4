import Concordance.Proofs.Search.Ledger
import Concordance.Proofs.Search.Pages

/-! When a search fails, and what a limit leaves of one without limit. -/

namespace Concordance.Search

open Corpus (Candidate Match)
open Paging (Pager given)
open Store (RetrievalError)

namespace Source

variable {src : Source} {store : Store} {tour : Tour}

/-- What a walk on a tour has sent is the beginning of what the whole tour sends. -/
theorem Keeps.sent_prefix {w : Walk} {sent : List String} (h : src.Keeps tour w sent) :
    sent <+: src.asked tour tour.books.length := by
  cases hw : w.itinerary with
  | none =>
    obtain ⟨k, hk, rfl⟩ := h.seeks hw
    obtain ⟨n, hn⟩ : ∃ n, tour.failures + 1 = k + n :=
      Nat.exists_eq_add_of_le (Nat.le_succ_of_le hk)
    rw [asked, hn, sought, sought, ← List.replicate_append_replicate, List.append_assoc,
      List.append_assoc]
    exact (List.prefix_append_right_inj _).mpr (List.prefix_append _ _)
  | some it =>
    rw [(h.follows it hw).sent, asked, asked]
    apply (List.prefix_append_right_inj _).mpr
    apply List.IsPrefix.map
    rw [List.take_length]
    exact List.take_prefix _ _

theorem finds_of_itinerary {it : Itinerary} {s s' : Session}
    (hit : src.itinerary store {} s = (.ok it, s')) :
    ∃ books, src.Finds store ⟨s.sent, 0, books⟩ := by
  rcases itinerary_eq_ok hit with ⟨hnone, -⟩ | ⟨-, hbooks, -⟩
  · cases hnone
  · refine ⟨it.books, fun k hk => absurd hk (Nat.not_lt_zero k), ?_⟩
    simpa [sought] using hbooks

/-- A read for everything that does not fail has visited all books ahead, and none in vain. -/
theorem Follows.visits_of_read {it it' : Itinerary} {pager pager' : Pager Candidate}
    {s s' : Session} {page : Paging.Page Candidate} (h : src.Follows tour it s.sent)
    (hidle : pager.pending = none)
    (hread : (src.producer store).read pager (it, s) 0 = (.ok page, pager', it', s')) :
    s'.sent = src.asked tour tour.books.length ∧
      ∀ place, it.cursor ≤ place → ∃ cs, src.visit store tour place = .ok cs := by
  obtain ⟨batches, hcalls, -, -, hfails⟩ := Paging.Producer.read_conserves hread hidle
  obtain ⟨hfollows, hle, rfl⟩ := Follows.calls hcalls h
  have hend : it'.cursor = tour.books.length := by
    rw [Paging.Producer.read_eq_finish hidle (Int.le_refl 0)] at hread
    exact hfollows.cursor_of_exhausted (Paging.Producer.exhausted_of_finish rfl hread)
  refine ⟨by rw [hfollows.sent, hend], ?_⟩
  intro place hplace
  cases hvisit : src.visit store tour place with
  | ok cs => exact ⟨cs, rfl⟩
  | error e =>
    have hlt : place < tour.books.length := by
      apply Nat.lt_of_not_le
      intro hge
      rw [visit, List.getElem?_eq_none_iff.mpr hge] at hvisit
      cases hvisit
    have hmem : place ∈ List.range' it.cursor (it'.cursor - it.cursor) := by
      rw [List.mem_range'_1]
      omega
    obtain ⟨e', he'⟩ :=
      (hfails (Int.le_refl 0)).mpr ⟨e, List.mem_map.mpr ⟨place, hmem, hvisit⟩⟩
    cases he'

/-- A call for everything that does not fail shows that the tour is smooth, and sends all of it. -/
theorem smooth_of_getVerses {cs : List Candidate} {w' : Walk} {s s' : Session}
    (hsearch : src.isBlank = false) (hget : src.getVerses store 0 {} s = (.ok cs, w', s')) :
    ∃ tour : Tour, tour.origin = s.sent ∧ src.Smooth store tour ∧
      s'.sent = src.asked tour tour.books.length := by
  rcases getVerses_cases hget with ⟨hblank, -⟩ | ⟨e, -, hfails, -⟩ |
    ⟨it, s₁, page, pager, it', s₂, hit, hread, hok, rfl, hnoted⟩
  · rw [hsearch] at hblank
    cases hblank
  · cases hfails
  cases page with
  | error e => cases hok
  | ok page =>
    obtain ⟨books, htour⟩ := finds_of_itinerary hit
    have hfresh : src.Keeps ⟨s.sent, 0, books⟩ {} (s.bindDocSet src.docSet src.collection).sent :=
      src.keeps_fresh ⟨s.sent, 0, books⟩
    obtain ⟨hfollows, hplace⟩ := hfresh.itinerary htour hit
    obtain ⟨hsent, hvisits⟩ := hfollows.visits_of_read rfl hread
    refine ⟨⟨s.sent, 0, books⟩, rfl, ⟨htour, rfl, fun place => hvisits place ?_⟩, ?_⟩
    · rw [hplace]
      exact Nat.zero_le place
    · rw [sent_of_noted hnoted, hsent]

end Source

namespace Request

variable {r : Request} {store : Store}

theorem records_collect {limit : Nat} {got : List Match} {w w' : Walk} {s s' : Session}
    {result : Except Failure (List Match)} (h : r.collect store limit got w s = (result, w', s'))
    (hidle : w.pager.pending = none) :
    ∃ questions, r.source.Records store s questions s' ∧
      ((∃ e, result = .error e) ↔ r.source.Stumbles store s.sent questions) := by
  fun_induction r.collect store limit got w s with
  | case1 got w s _ =>
    obtain ⟨rfl, rfl, rfl⟩ : .ok got = result ∧ w = w' ∧ s = s' := by simpa using h
    exact ⟨[], .refl s, by simp⟩
  | case2 got w s _ e w₁ s₁ hget =>
    obtain ⟨rfl, rfl, rfl⟩ : .error e = result ∧ w₁ = w' ∧ s₁ = s' := by simpa using h
    obtain ⟨questions, hconserves, hfails⟩ := Source.conserves_getVerses hget hidle
    refine ⟨questions, hconserves.records, ?_⟩
    rw [← hfails (Int.natCast_nonneg _)]
    exact iff_of_true ⟨e, rfl⟩ ⟨e, rfl⟩
  | case3 got w s _ w₁ s₁ hget =>
    obtain ⟨rfl, rfl, rfl⟩ : .ok got = result ∧ w₁ = w' ∧ s₁ = s' := by simpa using h
    obtain ⟨questions, hconserves, hfails⟩ := Source.conserves_getVerses hget hidle
    refine ⟨questions, hconserves.records, ?_⟩
    rw [← hfails (Int.natCast_nonneg _)]
    simp
  | case4 got w s _ c cs w₁ s₁ hget found s₂ ih =>
    obtain ⟨questions, hconserves, hfails⟩ := Source.conserves_getVerses hget hidle
    obtain ⟨later, hlater, hbreaks⟩ := ih h hconserves.idle
    have hnote : r.source.Records store s₁ [] s₂ := .quiet rfl rfl rfl
    have hanswered : ¬r.source.Stumbles store s.sent questions := by
      rw [← hfails (Int.natCast_nonneg _)]
      simp
    refine ⟨questions ++ later, hconserves.records.trans (hnote.trans hlater), ?_⟩
    rw [hbreaks, Source.stumbles_append, or_iff_right hanswered, hnote.sent,
      hconserves.records.sent]
    simp

/-- A search fails exactly if one of its questions is not answered. -/
theorem records_getResults {limit : Int} {w w' : Walk} {s s' : Session}
    {result : Except Failure (List Match)}
    (h : r.getResults store limit w s = (result, w', s')) (hidle : w.pager.pending = none)
    (hlimit : 0 ≤ limit) :
    ∃ questions, r.source.Records store s questions s' ∧
      ((∃ e, result = .error e) ↔ r.source.Stumbles store s.sent questions) := by
  rcases getResults_cases h with ⟨hnegative, -⟩ | ⟨-, rfl, rfl, rfl⟩ |
    ⟨-, -, page, hget, rfl⟩ | ⟨-, -, hcollect⟩
  · exact absurd hnegative (Int.not_lt.mpr hlimit)
  · exact ⟨[], .refl s', by simp⟩
  · obtain ⟨questions, hconserves, hfails⟩ := Source.conserves_getVerses hget hidle
    refine ⟨questions, hconserves.records, ?_⟩
    rw [← hfails (Int.le_refl 0)]
    cases page <;> simp [Except.map]
  · exact records_collect hcollect hidle

/-- A search for everything that does not fail: for at most `limit` matches it gives the first of
its matches, and sends the first of its queries. -/
theorem getResults_take {limit : Nat} {found : List Match} {w' : Walk} {s s' : Session}
    (h : r.getResults store 0 {} s = (.ok found, w', s')) (hlimit : 0 < limit) :
    ∃ w'' s'', r.getResults store limit {} s = (.ok (found.take limit), w'', s'') ∧
      s''.sent <+: s'.sent := by
  rcases getResults_cases h with ⟨hnegative, -⟩ | ⟨hblank, hok, rfl, rfl⟩ |
    ⟨-, hsearch, page, hall, hok⟩ | ⟨hpos, -⟩
  · exact absurd hnegative (by decide)
  · cases hok
    refine ⟨{}, s', ?_, List.prefix_rfl⟩
    rw [getResults, if_neg (Int.not_lt.mpr (Int.natCast_nonneg limit)), if_pos hblank,
      List.take_nil]
  case inr.inr.inr => exact absurd hpos (by decide)
  obtain ⟨tour, horigin, hsmooth, hsent⟩ : ∃ tour : Tour, tour.origin = s.sent ∧
      r.source.Smooth store tour ∧ s'.sent = r.source.asked tour tour.books.length := by
    cases page with
    | error e => cases hok
    | ok cs => exact Source.smooth_of_getVerses hsearch hall
  have hfresh : r.source.Keeps tour {} s.sent := horigin ▸ r.source.keeps_fresh tour
  -- Both searches serve the matches of one tour, all of them or the first.
  obtain ⟨all, w₀, s₀, hget, -, hall⟩ :=
    getResults_serves_of_smooth hfresh hsmooth (Int.le_refl 0)
  obtain ⟨page, w₁, s₁, hget₁, hkeeps, hpage⟩ :=
    getResults_serves_of_smooth hfresh hsmooth (Int.natCast_nonneg limit)
  obtain ⟨rfl, -, -⟩ : found = all ∧ w' = w₀ ∧ s' = s₀ := by simpa using h.symm.trans hget
  have hmatches : r.matchesAhead store tour {} = found := congrArg Prod.fst hall
  have htake : page = found.take limit := by
    have hfirst : (Pager.serve limit (r.matchesAhead store tour {})).1 = page :=
      congrArg Prod.fst hpage
    rw [← hfirst, hmatches, Pager.serve, if_neg (Nat.ne_of_gt hlimit)]
  refine ⟨w₁, s₁, by rw [hget₁, htake], ?_⟩
  rw [hsent]
  exact hkeeps.sent_prefix

end Request

end Concordance.Search
