import Concordance.Search.Source

/-!
How far a walk through the books of a doc set has come. Every page with a candidate on it brings the
walk further, and no walk can be brought further without end.
-/

namespace Concordance.Search

open Corpus (Candidate)
open Store (RetrievalError)

/-- What is left of a walk: finding the books, reading them, serving what was read. -/
def Walk.rest (w : Walk) : Nat × Nat × Nat :=
  match w.itinerary with
  | none => (1, 0, 0)
  | some it => (0, it.left, w.pager.buffer.length)

/-- True if less is left of the first walk than of the second. -/
def Walk.Further (w' w : Walk) : Prop :=
  Prod.Lex (· < ·) (Prod.Lex (· < ·) (· < ·)) w'.rest w.rest

theorem Walk.wellFounded_further : WellFounded Walk.Further :=
  InvImage.wf Walk.rest (Prod.lex Nat.lt_wfRel (Prod.lex Nat.lt_wfRel Nat.lt_wfRel)).wf

instance : WellFoundedRelation Walk := ⟨Walk.Further, Walk.wellFounded_further⟩

theorem Walk.Further.trans {a b c : Walk} (hab : a.Further b) (hbc : b.Further c) :
    a.Further c := by
  unfold Walk.Further at *
  simp only [Prod.lex_def] at *
  omega

/-- A served page brings a walk further, unless it is empty and nothing happened. -/
theorem Source.further_or_of_getVerses {src : Source} {store : Store} {limit : Int} {w w' : Walk}
    {s s' : Session} {cs : List Candidate} (h : src.getVerses store limit w s = (.ok cs, w', s')) :
    w'.Further w ∨ w'.rest = w.rest ∧ cs = [] := by
  unfold Source.getVerses at h
  split at h
  · simp only [Prod.mk.injEq, Except.ok.injEq] at h
    obtain ⟨rfl, rfl, -⟩ := h
    exact .inr ⟨rfl, rfl⟩
  · split at h
    · simp at h
    · next it s₁ hit =>
      split at h
      · simp at h
      · next page pager it' s₂ hread =>
        simp only [Prod.mk.injEq, Except.ok.injEq] at h
        obtain ⟨rfl, rfl, -⟩ := h
        unfold Walk.Further Walk.rest
        cases hw : w.itinerary with
        | none => exact .inl (.left _ _ (by simp))
        | some it₀ =>
          obtain rfl : it₀ = it := by
            simp only [Source.itinerary, hw, Prod.mk.injEq, Except.ok.injEq] at hit
            exact hit.1
          rcases Paging.Producer.read_eq_ok hread with hl | ⟨he, hb⟩
          · exact .inl (.right _ (.left _ _ hl))
          · simp only [Prod.mk.injEq] at he
            rw [he.1]
            cases hi : page.items with
            | nil => exact .inr ⟨by simp [← hb, hi], rfl⟩
            | cons c cs =>
              refine .inl (.right _ (.right _ ?_))
              simp only [← hb, hi, List.length_append, List.length_cons]
              omega

/-- A page with a candidate on it brings a walk further. -/
theorem Source.further_of_getVerses {src : Source} {store : Store} {limit : Int} {w w' : Walk}
    {s s' : Session} {c : Candidate} {cs : List Candidate}
    (h : src.getVerses store limit w s = (.ok (c :: cs), w', s')) : w'.Further w := by
  simpa using Source.further_or_of_getVerses h

end Concordance.Search
