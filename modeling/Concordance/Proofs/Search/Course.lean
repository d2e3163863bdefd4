import Concordance.Proofs.Search.Keeping

/-! Courses of calls that are carried on whatever the calls give. -/

namespace Concordance.Search

open Paging (given)

/-- One call of a course: the walk before it, what it gave, and the walk after it. -/
structure Turn (γ δ : Type) where
  call : γ
  before : Walk
  result : Except Failure (List δ)
  after : Walk

variable {γ δ : Type}

/-- The places visited during a turn. -/
def Turn.places (t : Turn γ δ) : List Nat := t.before.between t.after

/-- What a turn delivers; a failed one delivers nothing. -/
def Turn.delivered (t : Turn γ δ) : List δ := given t.result

/-- What a call does. -/
abbrev Step (γ δ : Type) := γ → Walk → Session → Except Failure (List δ) × Walk × Session

/-- Calls one after another. A failure ends its call only. -/
def course (step : Step γ δ) : List γ → Walk → Session → List (Turn γ δ) × Walk × Session
  | [], w, s => ([], w, s)
  | call :: calls, w, s =>
    let (result, w', s) := step call w s
    let (turns, w'', s) := course step calls w' s
    (⟨call, w, result, w'⟩ :: turns, w'', s)

/-- Turns that bring one walk to another, all of them lawful. -/
inductive Chain (Lawful : Turn γ δ → Prop) : Walk → List (Turn γ δ) → Walk → Prop where
  | nil (w : Walk) : Chain Lawful w [] w
  | cons {t : Turn γ δ} {turns : List (Turn γ δ)} {w : Walk} :
      t.before.place ≤ t.after.place → Lawful t → Chain Lawful t.after turns w →
      Chain Lawful t.before (t :: turns) w

theorem Chain.place_le {Lawful : Turn γ δ → Prop} {turns : List (Turn γ δ)} {w w' : Walk}
    (h : Chain Lawful w turns w') : w.place ≤ w'.place := by
  induction h with
  | nil => exact Nat.le_refl _
  | cons hle _ _ ih => exact Nat.le_trans hle ih

/-- No place is visited by two turns, and none is passed over. -/
theorem Chain.flatMap_places {Lawful : Turn γ δ → Prop} {turns : List (Turn γ δ)} {w w' : Walk}
    (h : Chain Lawful w turns w') : turns.flatMap Turn.places = w.between w' := by
  induction h with
  | nil w => exact w.between_self.symm
  | @cons t turns w hle _ hchain ih =>
    rw [List.flatMap_cons, ih]
    exact Walk.between_append hle hchain.place_le

namespace Source

variable {src : Source} {store : Store} {tour : Tour} {step : Step γ δ}
  {Lawful : Tour → Turn γ δ → Prop}

/-- However often the books are asked for, they are not found. -/
def NeverFinds (src : Source) (store : Store) (origin : List String) : Prop :=
  ∀ k, ∃ e, src.found store (origin ++ List.replicate k src.booksQuery) = .error e

/-- The books are found some time, and then for the first time, or never. -/
theorem finds_or_neverFinds (src : Source) (store : Store) (origin : List String) :
    (∃ tour : Tour, tour.origin = origin ∧ src.Finds store tour) ∨
      src.NeverFinds store origin := by
  have hfirst (n : Nat) : (∃ tour : Tour, tour.origin = origin ∧ src.Finds store tour) ∨
      ∀ k < n, ∃ e, src.found store (origin ++ List.replicate k src.booksQuery) = .error e := by
    induction n with
    | zero => exact .inr fun k hk => absurd hk (Nat.not_lt_zero k)
    | succ n ih =>
      rcases ih with hfinds | hfails
      · exact .inl hfinds
      cases hn : src.found store (origin ++ List.replicate n src.booksQuery) with
      | ok books => exact .inl ⟨⟨origin, n, books⟩, rfl, hfails, hn⟩
      | error e =>
        right
        intro k hk
        rcases Nat.lt_succ_iff_lt_or_eq.mp hk with hlt | rfl
        · exact hfails k hlt
        · exact ⟨e, hn⟩
  apply Classical.or_iff_not_imp_left.mpr
  intro hnot k
  exact (hfirst (k + 1)).resolve_left hnot k (Nat.lt_succ_self k)

/-- Steps that miss while the books are not found, and are lawful on the tour. -/
structure Orderly (src : Source) (store : Store) (step : Step γ δ)
    (Lawful : Tour → Turn γ δ → Prop) : Prop where
  misses : ∀ call {w s e}, w.itinerary = none → src.found store s.sent = .error e →
    src.Misses w s (step call w s)
  keeps : ∀ tour call {w s result w' s'}, src.Finds store tour → src.Keeps tour w s.sent →
    step call w s = (result, w', s') →
    src.Keeps tour w' s'.sent ∧ w.place ≤ w'.place ∧ Lawful tour ⟨call, w, result, w'⟩

/-- All turns of a course are lawful on the tour to which the walk keeps. -/
theorem Orderly.chain (h : src.Orderly store step Lawful) (htour : src.Finds store tour)
    {calls : List γ} {w w' : Walk} {s s' : Session} {turns : List (Turn γ δ)}
    (hcourse : course step calls w s = (turns, w', s')) (hkeeps : src.Keeps tour w s.sent) :
    src.Keeps tour w' s'.sent ∧ Chain (Lawful tour) w turns w' := by
  induction calls generalizing w s turns with
  | nil =>
    obtain ⟨rfl, rfl, rfl⟩ : [] = turns ∧ w = w' ∧ s = s' := by simpa [course] using hcourse
    exact ⟨hkeeps, .nil w⟩
  | cons call calls ih =>
    rcases hstep : step call w s with ⟨result, w₁, s₁⟩
    rcases hrest : course step calls w₁ s₁ with ⟨later, w₂, s₂⟩
    simp only [course, hstep, hrest, Prod.mk.injEq] at hcourse
    obtain ⟨rfl, rfl, rfl⟩ := hcourse
    obtain ⟨hkeeps₁, hle, hlawful⟩ := h.keeps tour call htour hkeeps hstep
    obtain ⟨hkeeps₂, hchain⟩ := ih hrest hkeeps₁
    exact ⟨hkeeps₂, .cons (t := ⟨call, w, result, w₁⟩) hle hlawful hchain⟩

/-- No turn of a course delivers anything if the books are never found. -/
theorem Orderly.nothing (h : src.Orderly store step Lawful) {origin : List String}
    (hnever : src.NeverFinds store origin) {calls : List γ} {w w' : Walk} {s s' : Session}
    {turns : List (Turn γ δ)} (hcourse : course step calls w s = (turns, w', s'))
    (hw : w.itinerary = none)
    (hsent : ∃ k, s.sent = origin ++ List.replicate k src.booksQuery) :
    w' = w ∧ (∃ k, s'.sent = origin ++ List.replicate k src.booksQuery) ∧
      turns.flatMap Turn.delivered = [] := by
  induction calls generalizing s turns with
  | nil =>
    obtain ⟨rfl, rfl, rfl⟩ : [] = turns ∧ w = w' ∧ s = s' := by simpa [course] using hcourse
    exact ⟨rfl, hsent, rfl⟩
  | cons call calls ih =>
    -- The walk stays as it is, so the rest of the course begins where this call began.
    obtain ⟨k, hk⟩ := hsent
    obtain ⟨e, he⟩ := hnever k
    obtain ⟨hgives, hwalk, hmore⟩ := h.misses call hw (hk ▸ he)
    rcases hstep : step call w s with ⟨result, w₁, s₁⟩
    rw [hstep] at hgives hwalk hmore
    obtain rfl : w₁ = w := hwalk
    rcases hrest : course step calls w₁ s₁ with ⟨later, w₂, s₂⟩
    simp only [course, hstep, hrest, Prod.mk.injEq] at hcourse
    obtain ⟨rfl, rfl, rfl⟩ := hcourse
    have hsent₁ : ∃ k, s₁.sent = origin ++ List.replicate k src.booksQuery := by
      rcases hmore with hsame | hmore
      · exact ⟨k, hsame.trans hk⟩
      · exact ⟨k + 1, by simp_all [List.replicate_succ']⟩
    obtain ⟨hwalk₂, hsent₂, hdelivered⟩ := ih hrest hsent₁
    refine ⟨hwalk₂, hsent₂, ?_⟩
    rw [List.flatMap_cons, hdelivered, List.append_nil]
    exact hgives

/-- A course from the beginning is a chain on the tour that its first calls find, or delivers
nothing. -/
theorem Orderly.course (h : src.Orderly store step Lawful) {calls : List γ} {w' : Walk}
    {s s' : Session} {turns : List (Turn γ δ)}
    (hcourse : Search.course step calls {} s = (turns, w', s')) :
    (∃ tour : Tour, tour.origin = s.sent ∧ src.Finds store tour ∧ src.Keeps tour w' s'.sent ∧
        Chain (Lawful tour) {} turns w') ∨
      src.NeverFinds store s.sent ∧ w' = {} ∧
        (∃ k, s'.sent = s.sent ++ List.replicate k src.booksQuery) ∧
        turns.flatMap Turn.delivered = [] := by
  rcases src.finds_or_neverFinds store s.sent with ⟨tour, horigin, htour⟩ | hnever
  · have hfresh : src.Keeps tour {} s.sent := horigin ▸ src.keeps_fresh tour
    obtain ⟨hkeeps, hchain⟩ := h.chain htour hcourse hfresh
    exact .inl ⟨tour, horigin, htour, hkeeps, hchain⟩
  · exact .inr ⟨hnever, h.nothing hnever hcourse rfl ⟨0, by simp⟩⟩

end Source

end Concordance.Search
