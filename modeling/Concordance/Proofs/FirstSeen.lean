import Mathlib.Data.List.Induction
import Mathlib.Data.List.Nodup

/-! Lists read from left to right: what is seen before what, and what is new at each place. -/

namespace Concordance

variable {α : Type} [BEq α] {l m : List α} {a b : α}

/-- One element is seen before another. -/
def SeenBefore (l : List α) (a b : α) : Prop := l.idxOf a < l.idxOf b

instance (l : List α) (a b : α) : Decidable (SeenBefore l a b) :=
  inferInstanceAs (Decidable (_ < _))

theorem SeenBefore.asymm (h : SeenBefore l a b) : ¬ SeenBefore l b a := Nat.lt_asymm h

variable [LawfulBEq α]

theorem eraseDups_append_singleton (l : List α) (a : α) :
    (l ++ [a]).eraseDups = if a ∈ l then l.eraseDups else l.eraseDups ++ [a] := by
  rw [List.eraseDups_append, List.removeAll]
  by_cases ha : a ∈ l
  · rw [if_pos ha, List.filter_cons_of_neg (by simpa using ha)]
    exact List.append_nil _
  · rw [if_neg ha, List.filter_cons_of_pos (by simpa using ha)]
    rfl

theorem nodup_eraseDups (l : List α) : l.eraseDups.Nodup := by
  induction l using List.reverseRec with
  | nil => exact .nil
  | append_singleton l a ih =>
    rw [eraseDups_append_singleton]
    split
    · exact ih
    next ha =>
      refine List.nodup_append.mpr ⟨ih, List.nodup_singleton a, ?_⟩
      rintro b hb c hc rfl
      rw [List.mem_singleton.mp hc] at hb
      exact ha (List.mem_eraseDups.mp hb)

theorem eraseDups_of_nodup {l : List α} (h : l.Nodup) : l.eraseDups = l := by
  induction l using List.reverseRec with
  | nil => rfl
  | append_singleton l a ih =>
    obtain ⟨hl, -, hdisjoint⟩ := List.nodup_append.mp h
    have ha : a ∉ l := fun ha => hdisjoint a ha a List.mem_cons_self rfl
    rw [eraseDups_append_singleton, if_neg ha, ih hl]

/-- Repetitions among the images are those among the elements exactly if no two elements have one
image. -/
theorem map_eraseDups_iff {β : Type} [BEq β] [LawfulBEq β] (f : α → β) (l : List α) :
    l.eraseDups.map f = (l.map f).eraseDups ↔ ∀ a ∈ l, ∀ b ∈ l, f a = f b → a = b := by
  constructor
  · intro h a ha b hb
    have hnodup : (l.eraseDups.map f).Nodup := by
      rw [h]
      exact nodup_eraseDups _
    exact List.inj_on_of_nodup_map hnodup (List.mem_eraseDups.mpr ha) (List.mem_eraseDups.mpr hb)
  · intro hinj
    induction l using List.reverseRec with
    | nil => rfl
    | append_singleton l a ih =>
      have hl := ih fun b hb c hc => hinj b (by simp [hb]) c (by simp [hc])
      have hmem : f a ∈ l.map f ↔ a ∈ l := by
        constructor
        · intro hfa
          obtain ⟨b, hb, hba⟩ := List.mem_map.mp hfa
          rwa [← hinj b (by simp [hb]) a (by simp) hba]
        · exact List.mem_map_of_mem
      rw [List.map_append, List.map_singleton, eraseDups_append_singleton,
        eraseDups_append_singleton, ← hl]
      by_cases ha : a ∈ l <;> simp [ha, hmem]

/-- What is read later changes nothing in the order of what was seen. -/
theorem seenBefore_append (ha : a ∈ l) (hb : b ∈ l) :
    SeenBefore (l ++ m) a b ↔ SeenBefore l a b := by
  rw [SeenBefore, List.idxOf_append_of_mem ha, List.idxOf_append_of_mem hb, SeenBefore]

theorem seenBefore_append_of_notMem (ha : a ∈ l) (hb : b ∉ l) : SeenBefore (l ++ m) a b := by
  rw [SeenBefore, List.idxOf_append_of_mem ha, List.idxOf_append_of_notMem hb]
  exact Nat.lt_add_right _ (List.idxOf_lt_length_iff.mpr ha)

/-- Without its repetitions a list stands in the order in which it is seen. -/
theorem pairwise_seenBefore_eraseDups (l : List α) : l.eraseDups.Pairwise (SeenBefore l) := by
  induction l using List.reverseRec with
  | nil => exact .nil
  | append_singleton l a ih =>
    have hold : l.eraseDups.Pairwise (SeenBefore (l ++ [a])) := by
      apply ih.imp_of_mem
      intro b c hb hc
      exact (seenBefore_append (List.mem_eraseDups.mp hb) (List.mem_eraseDups.mp hc)).mpr
    rw [eraseDups_append_singleton]
    split
    · exact hold
    next ha =>
      refine List.pairwise_append.mpr ⟨hold, List.pairwise_singleton _ a, ?_⟩
      intro b hb c hc
      rw [List.mem_singleton.mp hc]
      exact seenBefore_append_of_notMem (List.mem_eraseDups.mp hb) ha

end Concordance
