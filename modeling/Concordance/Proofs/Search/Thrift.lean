import Concordance.Proofs.Search.Pages
import Mathlib.Algebra.Order.BigOperators.Group.List
import Mathlib.Algebra.Order.Ring.Int
import Mathlib.Order.Bounds.Basic

/-! How few books a search reads, when its store answers every query. -/

namespace Concordance.Search

open Corpus (Candidate Match)
open Paging (Pager given)

namespace Source

variable {src : Source} {store : Store} {tour : Tour}

/-- What a walk would have in its buffer if it went on to a place and served nothing. -/
def heldAt (src : Source) (store : Store) (tour : Tour) (w : Walk) (place : Nat) :
    List Candidate :=
  w.pager.buffer ++ src.harvest store tour (List.range' w.place (place - w.place))

private theorem not_mem_visits (hsmooth : src.Smooth store tour) (places : List Nat)
    (e : Store.RetrievalError) : .error e ∉ places.map (src.visit store tour) := by
  intro he
  obtain ⟨place, -, hplace⟩ := List.mem_map.mp he
  obtain ⟨cs, hcs⟩ := hsmooth.visits place
  rw [hcs] at hplace
  cases hplace

private theorem heldAt_add (src : Source) (store : Store) (tour : Tour) (w : Walk)
    {count visits : Nat} (hcount : count ≤ visits) :
    src.heldAt store tour w (w.place + count) =
      w.pager.buffer ++ (((List.range' w.place visits).map
        (src.visit store tour)).take count).flatMap given := by
  obtain ⟨more, rfl⟩ := Nat.exists_eq_add_of_le hcount
  rw [← List.range'_append_1, List.map_append, List.take_left' (by simp), List.flatMap_map,
    heldAt, harvest, Nat.add_sub_cancel_left]

/-- A page that is not for everything visits a place only if it has not enough without it, and stops
short of the last place only if it has enough. -/
theorem Keeps.getVerses_pulls {limit : Nat} {w w' : Walk} {s s' : Session}
    {result : Except Failure (List Candidate)} (h : src.Keeps tour w s.sent)
    (hget : src.getVerses store limit w s = (result, w', s')) (hsmooth : src.Smooth store tour)
    (hsearch : src.isBlank = false) (hlimit : limit ≠ 0) :
    w'.itinerary ≠ none ∧
      (∀ place < w'.place, w.place ≤ place → (src.heldAt store tour w place).length < limit) ∧
      (limit ≤ (src.heldAt store tour w w'.place).length ∨ w'.place = tour.books.length) := by
  have hbound : src.Keeps tour w (s.bindDocSet src.docSet src.collection).sent := h
  rcases getVerses_cases hget with ⟨hblank, -⟩ | ⟨e, hit, -⟩ |
    ⟨it, s₁, page, pager, it', s₂, hit, hread, -, rfl, -⟩
  · rw [hsearch] at hblank
    cases hblank
  · obtain ⟨it, s₁, hok⟩ := hsmooth.itinerary hbound
    rw [hok] at hit
    cases hit
  obtain ⟨hfollows, hplace⟩ := hbound.itinerary hsmooth.finds hit
  rw [Paging.Producer.read_eq_finish h.idle (Int.natCast_nonneg limit), Int.toNat_natCast] at hread
  obtain ⟨batches, hcalls, hshort, hends⟩ := Paging.Producer.finish_cases hread
  obtain ⟨hfollows', hle, rfl⟩ := Follows.calls hcalls hfollows
  rw [hplace] at hle hshort hends
  obtain ⟨visits, hvisits⟩ := Nat.exists_eq_add_of_le hle
  have hend : Walk.place ⟨some it', pager⟩ = w.place + visits := hvisits
  rw [hvisits, Nat.add_sub_cancel_left] at hshort hends
  have henough (items : List Candidate) :
      Pager.isEnough limit items = true ↔ limit ≤ items.length := by
    simp [Pager.isEnough, hlimit]
  refine ⟨by simp, ?_, ?_⟩
  · intro place hlt hge
    obtain ⟨count, rfl⟩ := Nat.exists_eq_add_of_le hge
    have hcount : count < visits := by omega
    have hnot := hshort count (by simpa using hcount)
    rw [← src.heldAt_add store tour w hcount.le, ← Bool.not_eq_true, henough] at hnot
    exact Nat.lt_of_not_le hnot
  rcases hends with ⟨-, hstop, -⟩ | ⟨before, e, hbatches, -⟩
  · have hall := src.heldAt_add store tour w (Nat.le_refl visits)
    rw [List.take_of_length_le (by simp)] at hall
    rw [← hall, Bool.or_eq_true, henough] at hstop
    rw [hend]
    exact hstop.imp_right fun hend => hvisits.symm.trans (hfollows'.cursor_of_exhausted hend)
  · have hmem := not_mem_visits hsmooth (List.range' w.place visits) e
    rw [hbatches] at hmem
    exact absurd List.mem_concat_self hmem

/-- A page is empty only behind the last place. -/
theorem Keeps.place_of_getVerses_nil {limit : Nat} {w w' : Walk} {s s' : Session}
    (h : src.Keeps tour w s.sent) (hget : src.getVerses store limit w s = (.ok [], w', s'))
    (hsmooth : src.Smooth store tour) (hsearch : src.isBlank = false) (hlimit : limit ≠ 0) :
    w'.place = tour.books.length := by
  obtain ⟨-, -, hstop⟩ := h.getVerses_pulls hget hsmooth hsearch hlimit
  obtain ⟨-, htakes⟩ := h.getVerses hsmooth.finds hget
  obtain ⟨page, hpage, -, hserve⟩ :=
    h.getVerses_serves hget hsmooth hsearch (Int.natCast_nonneg limit)
  obtain rfl : [] = page := Except.ok.inj hpage
  rw [Int.toNat_natCast] at hserve
  have hnone : (Pager.serve limit (src.ahead store tour w)).2 = [] := by
    apply Pager.serve_snd_eq_nil
    rw [hserve]
    exact Nat.pos_of_ne_zero hlimit
  rw [hserve] at hnone
  have hempty : w'.pager.buffer = [] := (List.append_eq_nil_iff.mp hnone).1
  have hheld : [] ++ w'.pager.buffer = src.heldAt store tour w w'.place := htakes.append
  apply hstop.resolve_left
  rw [← hheld, hempty]
  simpa using hlimit

end Source

namespace Request

variable {r : Request} {store : Store} {tour : Tour}

/-- How many matches the first so many books hold. -/
def supply (r : Request) (store : Store) (tour : Tour) (count : Nat) : Nat :=
  (r.confirmed (r.source.harvest store tour (List.range count))).length

/-- How many matches wait in the buffer of a walk. -/
def backlog (r : Request) (w : Walk) : Nat := (r.confirmed w.pager.buffer).length

/-- The matches that a walk would hold, told by those in the books that it would have read. -/
theorem supply_add_backlog (r : Request) (store : Store) (tour : Tour) {w : Walk} {place : Nat}
    (hle : w.place ≤ place) :
    r.supply store tour place + r.backlog w =
      r.supply store tour w.place + (r.confirmed (r.source.heldAt store tour w place)).length := by
  have hsplit : List.range place =
      List.range w.place ++ List.range' w.place (place - w.place) := by
    obtain ⟨more, rfl⟩ := Nat.exists_eq_add_of_le hle
    rw [Nat.add_sub_cancel_left, List.range_eq_range', List.range_eq_range',
      ← List.range'_append_1, Nat.zero_add]
  rw [supply, hsplit, Source.harvest_append, confirmed_append, List.length_append, backlog,
    Source.heldAt, confirmed_append, List.length_append, supply]
  omega

/-- A walk that was to give so many matches and still misses some has read no book in vain: those
before it would not have done. It misses no more than it was to give, and no less unless nothing
is left to read. -/
structure Thrifty (r : Request) (store : Store) (tour : Tour) (wanted : Int) (missing : Nat)
    (w : Walk) (sent : List String) : Prop where
  keeps : r.source.Keeps tour w sent
  known : w.itinerary = none → wanted = missing
  needed : ∀ place < w.place, (r.supply store tour place : Int) < wanted
  le : (r.supply store tour w.place + missing : Int) ≤ wanted + r.backlog w
  enough : wanted + r.backlog w ≤ (r.supply store tour w.place + missing : Int) ∨
    w.place = tour.books.length

variable {wanted : Int} {missing : Nat} {w w' : Walk} {sent : List String} {s s' : Session}

/-- It is to give so many more. -/
theorem Thrifty.want (h : r.Thrifty store tour wanted 0 w sent) {limit : Int} (hlimit : 0 ≤ limit) :
    r.Thrifty store tour (wanted + limit) limit.toNat w sent where
  keeps := h.keeps
  known hw := by
    have hwanted := h.known hw
    omega
  needed place hlt := by
    have hneeded := h.needed place hlt
    omega
  le := by
    have hle := h.le
    omega
  enough := by
    have henough := h.enough
    omega

/-- Behind the last place nothing is missing that could still be given. -/
theorem Thrifty.settle (h : r.Thrifty store tour wanted missing w sent)
    (hknown : w.itinerary ≠ none) (hend : w.place = tour.books.length) :
    r.Thrifty store tour wanted 0 w sent where
  keeps := h.keeps
  known hw := absurd hw hknown
  needed := h.needed
  le := by
    have hle := h.le
    omega
  enough := .inr hend

theorem Thrifty.getVerses {cs : List Candidate} (h : r.Thrifty store tour wanted missing w s.sent)
    (hget : r.source.getVerses store missing w s = (.ok cs, w', s'))
    (hsmooth : r.source.Smooth store tour) (hsearch : r.source.isBlank = false)
    (hmissing : missing ≠ 0) :
    r.Thrifty store tour wanted (missing - (r.confirmed cs).length) w' s'.sent := by
  obtain ⟨hknown, hpulls, -⟩ := h.keeps.getVerses_pulls hget hsmooth hsearch hmissing
  obtain ⟨hkeeps, htakes⟩ := h.keeps.getVerses hsmooth.finds hget
  obtain ⟨page, hpage, -, hserve⟩ :=
    h.keeps.getVerses_serves hget hsmooth hsearch (Int.natCast_nonneg missing)
  obtain rfl : cs = page := Except.ok.inj hpage
  have hfew : (r.confirmed cs).length ≤ missing := r.length_confirmed_of_serve hmissing hserve
  have hheld : cs ++ w'.pager.buffer = r.source.heldAt store tour w w'.place := htakes.append
  -- What is confirmed on the page leaves the backlog, and is not missing any more.
  have hbalance : r.supply store tour w'.place + r.backlog w =
      r.supply store tour w.place + ((r.confirmed cs).length + r.backlog w') := by
    rw [r.supply_add_backlog store tour htakes.place_le, ← hheld, confirmed_append,
      List.length_append, backlog]
  have hle := h.le
  refine ⟨hkeeps, fun hw => absurd hw hknown, ?_, by omega, ?_⟩
  · intro place hlt
    rcases Nat.lt_or_ge place w.place with hbefore | hge
    · exact h.needed place hbefore
    have hhere := r.supply_add_backlog store tour hge
    have hmatches : (r.confirmed (r.source.heldAt store tour w place)).length ≤
      (r.source.heldAt store tour w place).length := List.length_filterMap_le _ _
    have hshort := hpulls place hlt hge
    omega
  · have hplace := htakes.place_le
    have hend := hkeeps.place_le
    rcases h.enough with henough | hdone <;> omega

theorem Thrifty.collect {limit : Nat} {got : List Match} {result : Except Failure (List Match)}
    (h : r.Thrifty store tour wanted (limit - got.length) w s.sent)
    (hcollect : r.collect store limit got w s = (result, w', s'))
    (hsmooth : r.source.Smooth store tour) (hsearch : r.source.isBlank = false) :
    r.Thrifty store tour wanted 0 w' s'.sent := by
  fun_induction r.collect store limit got w s with
  | case1 got w s hfull =>
    obtain ⟨-, rfl, rfl⟩ : _ ∧ w = w' ∧ s = s' := by simpa using hcollect
    rwa [Nat.sub_eq_zero_of_le hfull] at h
  | case2 got w s hmore e w₁ s₁ hget =>
    obtain ⟨page, hok, -⟩ :=
      h.keeps.getVerses_serves hget hsmooth hsearch (Int.natCast_nonneg _)
    cases hok
  | case3 got w s hmore w₁ s₁ hget =>
    obtain ⟨-, rfl, rfl⟩ : _ ∧ w₁ = w' ∧ s₁ = s' := by simpa using hcollect
    have hmissing : limit - got.length ≠ 0 := by omega
    obtain ⟨hknown, -⟩ := h.keeps.getVerses_pulls hget hsmooth hsearch hmissing
    exact (h.getVerses hget hsmooth hsearch hmissing).settle hknown
      (h.keeps.place_of_getVerses_nil hget hsmooth hsearch hmissing)
  | case4 got w s hmore c cs w₁ s₁ hget found s₂ ih =>
    have hthrifty := h.getVerses hget hsmooth hsearch (by omega)
    apply ih _ hcollect
    rwa [List.length_append, Nat.sub_add_eq]

theorem Thrifty.course {limits : List Int} {turns : List (Turn Int Match)}
    (h : r.Thrifty store tour wanted 0 w s.sent)
    (hcourse : course (r.getResults store) limits w s = (turns, w', s'))
    (hsmooth : r.source.Smooth store tour) (hsearch : r.source.isBlank = false)
    (hlimits : ∀ limit ∈ limits, 1 ≤ limit) :
    r.Thrifty store tour (wanted + limits.sum) 0 w' s'.sent := by
  induction limits generalizing wanted w s turns with
  | nil =>
    obtain ⟨-, rfl, rfl⟩ : [] = turns ∧ w = w' ∧ s = s' := by simpa [Search.course] using hcourse
    rwa [List.sum_nil, Int.add_zero]
  | cons limit limits ih =>
    have hlimit : 1 ≤ limit := hlimits limit List.mem_cons_self
    rcases hget : r.getResults store limit w s with ⟨result, w₁, s₁⟩
    rcases hrest : Search.course (r.getResults store) limits w₁ s₁ with ⟨later, w₂, s₂⟩
    simp only [Search.course, hget, hrest, Prod.mk.injEq] at hcourse
    obtain ⟨rfl, rfl, rfl⟩ := hcourse
    have hcollect : r.collect store limit.toNat [] w s = (result, w₁, s₁) := by
      rw [← hget, getResults, if_neg (by omega), if_neg (by simp [hsearch]), if_neg (by omega)]
    have hthrifty := (h.want (Int.le_of_lt hlimit)).collect hcollect hsmooth hsearch
    rw [List.sum_cons, ← Int.add_assoc]
    exact ih hthrifty hrest fun limit hmem => hlimits limit (List.mem_cons_of_mem _ hmem)

end Request

end Concordance.Search
