import Concordance.Text.Quoted
import Mathlib.Data.List.Basic

/-! Texts with halves of surrogate pairs in them: the characters between the halves, and the texts
that have none. -/

namespace Concordance.CodePoints

variable {s : List Char} {t before after : CodePoints}

@[simp] theorem ofChars_nil : ofChars [] = [] := rfl

@[simp] theorem ofChars_cons (c : Char) (s : List Char) :
    ofChars (c :: s) = .char c :: ofChars s := rfl

@[simp] theorem ofChars_append (s more : List Char) :
    ofChars (s ++ more) = ofChars s ++ ofChars more := List.map_append

@[simp] theorem length_ofChars (s : List Char) : (ofChars s).length = s.length := List.length_map _

theorem isWhole_iff : t.isWhole = true ↔ ∃ s, t = ofChars s := by
  constructor
  · intro h
    induction t with
    | nil => exact ⟨[], rfl⟩
    | cons p t ih =>
      rw [isWhole, List.all_cons, Bool.and_eq_true] at h
      obtain ⟨s, rfl⟩ := ih h.2
      cases p with
      | char c => exact ⟨c :: s, rfl⟩
      | half => cases h.1
  · rintro ⟨s, rfl⟩
    simp [isWhole, ofChars, CodePoint.passes]

theorem isWhole_iff_forall : t.isWhole = true ↔ ∀ n, CodePoint.half n ∉ t := by
  rw [isWhole, List.all_eq_true]
  constructor
  · intro h n hn
    cases h _ hn
  · intro h p hp
    cases p with
    | char c => rfl
    | half n => exact absurd hp (h n)

theorem spanChars_append {test : Char → Bool} (hs : ∀ c ∈ s, test c = true) (t : CodePoints) :
    (ofChars s ++ t).spanChars test = (s ++ (t.spanChars test).1, (t.spanChars test).2) := by
  induction s with
  | nil => rfl
  | cons c s ih =>
    rw [List.forall_mem_cons] at hs
    simp [spanChars, hs.1, ih hs.2]

theorem append_spanChars (test : Char → Bool) (t : CodePoints) :
    ofChars (t.spanChars test).1 ++ (t.spanChars test).2 = t := by
  induction t with
  | nil => rfl
  | cons p t ih =>
    cases p with
    | char c => by_cases hc : test c <;> simp [spanChars, hc, ih]
    | half => rfl

@[simp] theorem shown_ofChars (s : List Char) : (ofChars s).shown = String.ofList s := by
  rw [shown, ofChars, List.flatMap_map, List.flatMap_singleton']

section Stretches

/-- The first stretch is what stands at the front, and the others stand further behind. -/
private theorem stretches_eq_cons (t : CodePoints) :
    ∃ first others, t.stretches = first :: others ∧ ofChars first <+: t ∧
      ∀ s ∈ others, ofChars s <:+: t := by
  induction t with
  | nil => exact ⟨[], [], rfl, List.nil_prefix, List.forall_mem_nil _⟩
  | cons p t ih =>
    obtain ⟨first, others, hstretches, hfirst, hothers⟩ := ih
    have hlater : ∀ s ∈ others, ofChars s <:+: p :: t := fun s hs => List.infix_cons (hothers s hs)
    cases p with
    | char c =>
      refine ⟨c :: first, others, by rw [stretches, hstretches]; rfl, ?_, hlater⟩
      exact List.prefix_cons_iff.mpr (.inr ⟨_, rfl, hfirst⟩)
    | half n =>
      refine ⟨[], first :: others, by rw [stretches, hstretches], List.nil_prefix, ?_⟩
      exact List.forall_mem_cons.mpr ⟨List.infix_cons hfirst.isInfix, hlater⟩

/-- A stretch stands in its text. -/
theorem isInfix_of_mem_stretches (h : s ∈ t.stretches) : ofChars s <:+: t := by
  obtain ⟨first, others, hstretches, hfirst, hothers⟩ := stretches_eq_cons t
  rw [hstretches] at h
  rcases List.mem_cons.mp h with rfl | hs
  · exact hfirst.isInfix
  · exact hothers s hs

/-- No character stands at the front of a text. -/
def Sealed (t : CodePoints) : Prop := ∀ c, t.head? ≠ some (.char c)

theorem mem_stretches_append (h : after.Sealed) (s : List Char) :
    s ∈ (ofChars s ++ after).stretches := by
  have hfirst : ∃ others, (ofChars s ++ after).stretches = s :: others := by
    induction s with
    | nil =>
      rcases after with _ | ⟨c | n, rest⟩
      · exact ⟨[], rfl⟩
      · exact absurd rfl (h c)
      · exact ⟨_, rfl⟩
    | cons c s ih =>
      obtain ⟨others, hothers⟩ := ih
      exact ⟨others, by rw [ofChars_cons, List.cons_append, stretches, hothers]; rfl⟩
  obtain ⟨others, hothers⟩ := hfirst
  rw [hothers]
  exact List.mem_cons_self

@[simp] theorem stretches_ofChars (s : List Char) : (ofChars s).stretches = [s] := by
  induction s with
  | nil => rfl
  | cons c s ih => rw [ofChars_cons, stretches, ih, List.modifyHead_cons]

theorem mem_stretches_of_half (h : s ∈ t.stretches) (before : CodePoints) (n : Fin 2048) :
    s ∈ (before ++ .half n :: t).stretches := by
  have htail : s ∈ (before ++ .half n :: t).stretches.tail := by
    induction before with
    | nil => exact h
    | cons p before ih =>
      cases p with
      | char c =>
        rw [List.cons_append, stretches, List.tail_modifyHead]
        exact ih
      | half => exact List.mem_of_mem_tail ih
  exact List.mem_of_mem_tail htail

private theorem exists_trailing (before : CodePoints) :
    ∃ left, before = ofChars left ∨ ∃ front n, before = front ++ .half n :: ofChars left := by
  induction before with
  | nil => exact ⟨[], .inl rfl⟩
  | cons p before ih =>
    obtain ⟨left, rfl | ⟨front, n, rfl⟩⟩ := ih
    · cases p with
      | char c => exact ⟨c :: left, .inl rfl⟩
      | half n => exact ⟨left, .inr ⟨[], n, rfl⟩⟩
    · exact ⟨left, .inr ⟨p :: front, n, rfl⟩⟩

private theorem exists_leading (after : CodePoints) :
    ∃ right rest, after = ofChars right ++ rest ∧ rest.Sealed := by
  induction after with
  | nil => exact ⟨[], [], rfl, by simp [Sealed]⟩
  | cons p after ih =>
    cases p with
    | char c =>
      obtain ⟨right, rest, rfl, hrest⟩ := ih
      exact ⟨c :: right, rest, rfl, hrest⟩
    | half n => exact ⟨[], _, rfl, by simp [Sealed]⟩

/-- Characters stand in a stretch together with those around them. -/
theorem exists_stretch_around (before after : CodePoints) (s : List Char) :
    ∃ front left right back, before = front ++ ofChars left ∧ after = ofChars right ++ back ∧
      left ++ s ++ right ∈ (before ++ ofChars s ++ after).stretches := by
  obtain ⟨right, back, rfl, hback⟩ := exists_leading after
  obtain ⟨left, rfl | ⟨front, n, rfl⟩⟩ := exists_trailing before
  · refine ⟨[], left, right, back, rfl, rfl, ?_⟩
    simpa using mem_stretches_append hback (left ++ s ++ right)
  · refine ⟨front ++ [.half n], left, right, back, by simp, rfl, ?_⟩
    simpa using mem_stretches_of_half (mem_stretches_append hback (left ++ s ++ right)) front n

end Stretches

end Concordance.CodePoints
