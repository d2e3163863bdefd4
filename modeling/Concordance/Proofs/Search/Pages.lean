import Concordance.Proofs.Search.Ahead
import Concordance.Proofs.Search.Losses

/-! The pages and the stream of a search, when its store answers every query. -/

namespace Concordance.Search

open Corpus (Candidate Match)
open Paging (Pager given)

namespace Request

variable {r : Request} {store : Store} {tour : Tour}

/-- The matches among the candidates that a walk has not served. -/
def matchesAhead (r : Request) (store : Store) (tour : Tour) (w : Walk) : List Match :=
  if r.source.isBlank then [] else r.confirmed (r.source.ahead store tour w)

theorem confirmed_of_serve {limit : Nat} {cs page rest : List Candidate}
    (h : Pager.serve limit cs = (page, rest)) :
    r.confirmed cs = r.confirmed page ++ r.confirmed rest := by
  rw [← Pager.append_of_serve h, confirmed_append]

theorem length_confirmed_of_serve {limit : Nat} (hlimit : limit ≠ 0) {cs page rest : List Candidate}
    (h : Pager.serve limit cs = (page, rest)) : (r.confirmed page).length ≤ limit := by
  have hpage := Pager.length_serve_fst_le hlimit cs
  rw [h] at hpage
  exact Nat.le_trans (List.length_filterMap_le _ _) hpage

/-- Collecting takes as many of the matches ahead as are missing, and leaves the others. -/
theorem collect_serves {w : Walk} {s : Session} (hkeeps : r.source.Keeps tour w s.sent)
    (hsmooth : r.source.Smooth store tour) (hsearch : r.source.isBlank = false) (limit : Nat)
    (got : List Match) :
    ∃ found w' s', r.collect store limit got w s = (.ok found, w', s') ∧
      r.source.Keeps tour w' s'.sent ∧
      found = got ++
        (r.confirmed (r.source.ahead store tour w)).take (limit - got.length) ∧
      r.confirmed (r.source.ahead store tour w') =
        (r.confirmed (r.source.ahead store tour w)).drop (limit - got.length) := by
  fun_induction r.collect store limit got w s with
  | case1 got w s hfull =>
    refine ⟨got, w, s, rfl, hkeeps, ?_, ?_⟩ <;> simp [Nat.sub_eq_zero_of_le hfull]
  | case2 got w s _ e w₁ s₁ hget =>
    obtain ⟨page, hok, -⟩ :=
      hkeeps.getVerses_serves hget hsmooth hsearch (Int.natCast_nonneg _)
    cases hok
  | case3 got w s _ w₁ s₁ hget =>
    obtain ⟨page, hok, hkeeps₁, hserve⟩ :=
      hkeeps.getVerses_serves hget hsmooth hsearch (Int.natCast_nonneg _)
    cases hok
    have hnone : r.source.ahead store tour w = [] :=
      Pager.eq_nil_of_serve_fst (congrArg Prod.fst hserve)
    have hconfirmed := r.confirmed_of_serve hserve
    rw [hnone] at hconfirmed ⊢
    refine ⟨got, w₁, s₁, rfl, hkeeps₁, by simp [confirmed], ?_⟩
    simpa [confirmed] using hconfirmed.symm
  | case4 got w s hmissing c cs w₁ s₁ hget found s₂ ih =>
    obtain ⟨page, hok, hkeeps₁, hserve⟩ :=
      hkeeps.getVerses_serves hget hsmooth hsearch (Int.natCast_nonneg _)
    cases hok
    rw [Int.toNat_natCast] at hserve
    -- What the page confirms is the beginning of the matches ahead, and no more than is missing.
    have hconfirmed : r.confirmed (r.source.ahead store tour w) =
        found ++ r.confirmed (r.source.ahead store tour w₁) := r.confirmed_of_serve hserve
    have hshort : found.length ≤ limit - got.length := r.length_confirmed_of_serve (by omega) hserve
    have hmore : limit - (got ++ found).length = limit - got.length - found.length := by
      rw [List.length_append]
      omega
    obtain ⟨all, w₂, s₃, hcollect, hkeeps₂, hall, hahead⟩ := ih hkeeps₁
    rw [hmore] at hall hahead
    refine ⟨all, w₂, s₃, hcollect, hkeeps₂, ?_, ?_⟩
    · rw [hall, hconfirmed, List.take_append, List.take_of_length_le hshort, List.append_assoc]
    · rw [hahead, hconfirmed, List.drop_append, List.drop_of_length_le hshort, List.nil_append]

/-- A call gives its page out of the matches ahead, and leaves the others ahead. -/
theorem getResults_serves_of_smooth {limit : Int} {w : Walk} {s : Session}
    (hkeeps : r.source.Keeps tour w s.sent) (hsmooth : r.source.Smooth store tour)
    (hlimit : 0 ≤ limit) :
    ∃ page w' s', r.getResults store limit w s = (.ok page, w', s') ∧
      r.source.Keeps tour w' s'.sent ∧
      Pager.serve limit.toNat (r.matchesAhead store tour w) =
        (page, r.matchesAhead store tour w') := by
  unfold getResults matchesAhead
  rw [if_neg (Int.not_lt.mpr hlimit)]
  by_cases hblank : r.source.isBlank = true
  · simp only [if_pos hblank]
    refine ⟨[], w, s, rfl, hkeeps, ?_⟩
    simp [Pager.serve]
  simp only [if_neg hblank]
  have hsearch : r.source.isBlank = false := eq_false_of_ne_true hblank
  by_cases hzero : limit = 0
  · rcases hget : r.source.getVerses store 0 w s with ⟨result, w', s'⟩
    obtain ⟨page, rfl, hkeeps', hserve⟩ :=
      hkeeps.getVerses_serves hget hsmooth hsearch (Int.le_refl 0)
    rw [if_pos hzero]
    refine ⟨r.confirmed page, w', s', rfl, hkeeps', ?_⟩
    obtain ⟨hpage, hrest⟩ : r.source.ahead store tour w = page ∧
        [] = r.source.ahead store tour w' := by simpa [Pager.serve] using hserve
    rw [← hpage, ← hrest, hzero]
    rfl
  · obtain ⟨found, w', s', hcollect, hkeeps', hfound, hahead⟩ :=
      collect_serves hkeeps hsmooth hsearch limit.toNat []
    rw [if_neg hzero]
    refine ⟨found, w', s', hcollect, hkeeps', ?_⟩
    rw [hfound, hahead, Pager.serve, if_neg (by omega)]
    rfl

/-- Pages pulled one after another, up to the first that is not full. -/
inductive Pulls (r : Request) (store : Store) (size : Int) :
    Walk → Session → List (List Match) → Walk → Session → Prop where
  | last {w w' : Walk} {s s' : Session} {page : List Match} :
      r.getResults store size w s = (.ok page, w', s') → page.length < size →
      Pulls r store size w s [page] w' s'
  | full {w w' w'' : Walk} {s s' s'' : Session} {page : List Match} {pages : List (List Match)} :
      r.getResults store size w s = (.ok page, w', s') → ¬page.length < size →
      Pulls r store size w' s' pages w'' s'' → Pulls r store size w s (page :: pages) w'' s''

/-- A stream that is not cut short goes on exactly behind a full page. -/
theorem streamFrom_of_getResults {size : Int} (hsize : 1 ≤ size) {w w' : Walk} {s s' : Session}
    {page : List Match} (hget : r.getResults store size w s = (.ok page, w', s'))
    (got : List Match) :
    r.streamFrom store size none got w s =
      if page.length < size then (⟨got ++ page, none⟩, w', s')
      else r.streamFrom store size none (got ++ page) w' s' := by
  have hstop : (page = [] ∨ page.length < size) ↔ page.length < size := by
    refine or_iff_right_of_imp ?_
    rintro rfl
    exact hsize
  rw [streamFrom]
  split
  · next hfails =>
    rw [hget] at hfails
    cases hfails
  · next hgives =>
    rw [hget] at hgives
    cases hgives
    simp only [Option.filter_none, hstop]
    split <;> rfl

/-- A stream gives the pages that it pulls. -/
theorem Pulls.streamFrom {size : Int} (hsize : 1 ≤ size) {w w' : Walk} {s s' : Session}
    {pages : List (List Match)} (h : r.Pulls store size w s pages w' s') (got : List Match) :
    r.streamFrom store size none got w s = (⟨got ++ pages.flatten, none⟩, w', s') := by
  induction h generalizing got with
  | last hget hshort =>
    rw [streamFrom_of_getResults hsize hget, if_pos hshort, List.flatten_cons, List.flatten_nil,
      List.append_nil]
  | full hget hfull _ ih =>
    rw [streamFrom_of_getResults hsize hget, if_neg hfull, ih, List.flatten_cons,
      List.append_assoc]

end Request

end Concordance.Search
