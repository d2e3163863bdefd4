import Concordance.Proofs.Search.Keeping

/-! What a page of results takes from the pager. -/

namespace Concordance.Search

open Corpus (Candidate Match)
open Store (RetrievalError)

namespace Request

variable {r : Request} {store : Store} {tour : Tour}

theorem confirmed_append (cs cs' : List Candidate) :
    r.confirmed (cs ++ cs') = r.confirmed cs ++ r.confirmed cs' := List.filterMap_append

/-- Collecting takes candidates, and gives the matches among them. If it fails, they are taken all
the same. -/
theorem collect_takes {limit : Nat} {got : List Match} {w w' : Walk} {s s' : Session}
    {result : Except Failure (List Match)} (h : r.collect store limit got w s = (result, w', s'))
    (htour : r.source.Finds store tour) (hkeeps : r.source.Keeps tour w s.sent) :
    r.source.Keeps tour w' s'.sent ∧ ∃ taken, r.source.Takes store tour w w' taken ∧
      ∀ found, result = .ok found → found = got ++ r.confirmed taken := by
  fun_induction r.collect store limit got w s with
  | case1 got w s _ =>
    obtain ⟨rfl, rfl, rfl⟩ : .ok got = result ∧ w = w' ∧ s = s' := by simpa using h
    exact ⟨hkeeps, [], .refl r.source store tour w, by simp [confirmed]⟩
  | case2 got w s _ e w₁ s₁ hget =>
    obtain ⟨rfl, rfl, rfl⟩ : .error e = result ∧ w₁ = w' ∧ s₁ = s' := by simpa using h
    obtain ⟨hkeeps₁, htakes⟩ := hkeeps.getVerses htour hget
    refine ⟨hkeeps₁, [], htakes, ?_⟩
    intro found hfound
    cases hfound
  | case3 got w s _ w₁ s₁ hget =>
    obtain ⟨rfl, rfl, rfl⟩ : .ok got = result ∧ w₁ = w' ∧ s₁ = s' := by simpa using h
    obtain ⟨hkeeps₁, htakes⟩ := hkeeps.getVerses htour hget
    exact ⟨hkeeps₁, [], htakes, by simp [confirmed]⟩
  | case4 got w s _ c cs w₁ s₁ hget found s₂ ih =>
    obtain ⟨hkeeps₁, htakes₁⟩ := hkeeps.getVerses htour hget
    obtain ⟨hkeeps', taken, htakes', hfound⟩ := ih h hkeeps₁
    refine ⟨hkeeps', (c :: cs) ++ taken, htakes₁.trans htakes', ?_⟩
    intro all hall
    rw [hfound all hall, confirmed_append, List.append_assoc]

/-- A call is refused, has no word to search for, confirms one page of all candidates, or
collects. -/
theorem getResults_cases {limit : Int} {w w' : Walk} {s s' : Session}
    {result : Except Failure (List Match)} (h : r.getResults store limit w s = (result, w', s')) :
    (limit < 0 ∧ result = .error (.negativeLimit limit) ∧ w' = w ∧ s' = s) ∨
    (r.source.isBlank = true ∧ result = .ok [] ∧ w' = w ∧ s' = s) ∨
    (limit = 0 ∧ r.source.isBlank = false ∧ ∃ page,
      r.source.getVerses store 0 w s = (page, w', s') ∧ result = page.map r.confirmed) ∨
    (0 < limit ∧ r.source.isBlank = false ∧
      r.collect store limit.toNat [] w s = (result, w', s')) := by
  rw [getResults] at h
  by_cases hnegative : limit < 0
  · rw [if_pos hnegative] at h
    obtain ⟨rfl, rfl, rfl⟩ : .error (.negativeLimit limit) = result ∧ w = w' ∧ s = s' := by
      simpa using h
    exact .inl ⟨hnegative, rfl, rfl, rfl⟩
  rw [if_neg hnegative] at h
  by_cases hblank : r.source.isBlank = true
  · rw [if_pos hblank] at h
    obtain ⟨rfl, rfl, rfl⟩ : .ok [] = result ∧ w = w' ∧ s = s' := by simpa using h
    exact .inr (.inl ⟨hblank, rfl, rfl, rfl⟩)
  rw [if_neg hblank] at h
  have hsearch : r.source.isBlank = false := eq_false_of_ne_true hblank
  by_cases hzero : limit = 0
  · rw [if_pos hzero] at h
    rcases hget : r.source.getVerses store 0 w s with ⟨page, w₁, s₁⟩
    rw [hget] at h
    cases page with
    | error e =>
      obtain ⟨rfl, rfl, rfl⟩ : .error e = result ∧ w₁ = w' ∧ s₁ = s' := by simpa using h
      exact .inr (.inr (.inl ⟨hzero, hsearch, .error e, rfl, rfl⟩))
    | ok cs =>
      obtain ⟨rfl, rfl, rfl⟩ : .ok (r.confirmed cs) = result ∧ w₁ = w' ∧ s₁ = s' := by
        simpa using h
      exact .inr (.inr (.inl ⟨hzero, hsearch, .ok cs, rfl, rfl⟩))
  · rw [if_neg hzero] at h
    exact .inr (.inr (.inr ⟨by omega, hsearch, h⟩))

theorem getResults_takes {limit : Int} {w w' : Walk} {s s' : Session}
    {result : Except Failure (List Match)} (h : r.getResults store limit w s = (result, w', s'))
    (htour : r.source.Finds store tour) (hkeeps : r.source.Keeps tour w s.sent) :
    r.source.Keeps tour w' s'.sent ∧ ∃ taken, r.source.Takes store tour w w' taken ∧
      ∀ found, result = .ok found → found = r.confirmed taken := by
  rcases getResults_cases h with ⟨-, rfl, rfl, rfl⟩ | ⟨-, rfl, rfl, rfl⟩ |
    ⟨-, -, page, hget, rfl⟩ | ⟨-, -, hcollect⟩
  · refine ⟨hkeeps, [], .refl r.source store tour w', ?_⟩
    intro found hfound
    cases hfound
  · exact ⟨hkeeps, [], .refl r.source store tour w', by simp [confirmed]⟩
  · obtain ⟨hkeeps', htakes⟩ := hkeeps.getVerses htour hget
    refine ⟨hkeeps', _, htakes, ?_⟩
    intro found hfound
    cases page with
    | error e => cases hfound
    | ok cs => exact (Except.ok.inj hfound).symm
  · obtain ⟨hkeeps', taken, htakes, hfound⟩ := collect_takes hcollect htour hkeeps
    exact ⟨hkeeps', taken, htakes, by simpa using hfound⟩

private theorem collect_misses {limit : Nat} {w : Walk} {s : Session} {e : RetrievalError}
    (hw : w.itinerary = none) (he : r.source.found store s.sent = .error e) :
    r.source.Misses w s (r.collect store limit [] w s) := by
  have hmisses : r.source.Misses w s
      (r.source.getVerses store (limit - ([] : List Match).length : Nat) w s) :=
    Source.getVerses_misses hw he
  unfold collect
  split
  · exact ⟨rfl, rfl, .inl rfl⟩
  split
  · next hget =>
    rw [hget] at hmisses
    exact ⟨rfl, hmisses.walk, hmisses.sent⟩
  · next hget =>
    rw [hget] at hmisses
    exact ⟨rfl, hmisses.walk, hmisses.sent⟩
  · next hget =>
    rw [hget] at hmisses
    cases hmisses.gives

theorem getResults_misses {limit : Int} {w : Walk} {s : Session} {e : RetrievalError}
    (hw : w.itinerary = none) (he : r.source.found store s.sent = .error e) :
    r.source.Misses w s (r.getResults store limit w s) := by
  unfold getResults
  split
  · exact ⟨rfl, rfl, .inl rfl⟩
  split
  · exact ⟨rfl, rfl, .inl rfl⟩
  split
  · have hmisses : r.source.Misses w s (r.source.getVerses store 0 w s) :=
      Source.getVerses_misses hw he
    split
    · next hget =>
      rw [hget] at hmisses
      exact ⟨rfl, hmisses.walk, hmisses.sent⟩
    · next cs _ _ hget =>
      rw [hget] at hmisses
      obtain rfl : cs = [] := hmisses.gives
      exact ⟨rfl, hmisses.walk, hmisses.sent⟩
  · exact collect_misses hw he

end Request

end Concordance.Search
