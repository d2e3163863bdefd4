import Concordance.Pattern.Equivalence
import Concordance.Proofs.FirstSeen
import Mathlib.Logic.Relation

/-! The classes that pairs make are the connected components of the graph that the pairs span. -/

namespace Concordance.Pattern

section Graph

variable {α : Type} {pairs : List (α × α)} {x y a b c : α}

/-- The elements of pairs, read from left to right. -/
def mentioned (pairs : List (α × α)) : List α := pairs.flatMap fun p => [p.1, p.2]

@[simp] theorem mem_mentioned : a ∈ mentioned pairs ↔ ∃ p ∈ pairs, a = p.1 ∨ a = p.2 := by
  simp [mentioned]

@[simp] theorem mentioned_append (pairs more : List (α × α)) :
    mentioned (pairs ++ more) = mentioned pairs ++ mentioned more := List.flatMap_append

/-- A chain of pairs, each read either way, leads from one element to the other. -/
def Linked (pairs : List (α × α)) : α → α → Prop := Relation.EqvGen fun x y => (x, y) ∈ pairs

theorem Linked.refl (a : α) : Linked pairs a a := Relation.EqvGen.refl a

theorem Linked.symm (h : Linked pairs a b) : Linked pairs b a := Relation.EqvGen.symm _ _ h

theorem Linked.trans (hab : Linked pairs a b) (hbc : Linked pairs b c) : Linked pairs a c :=
  Relation.EqvGen.trans _ _ _ hab hbc

theorem Linked.mono {more : List (α × α)} (hsub : pairs ⊆ more) (h : Linked pairs a b) :
    Linked more a b := Relation.EqvGen.mono (fun _ _ hmem => hsub hmem) _ _ h

/-- A pair links its elements whichever of them it names first. -/
theorem Linked.of_pair_or_swap {more : List (α × α)}
    (hsub : ∀ x y, (x, y) ∈ pairs → (x, y) ∈ more ∨ (y, x) ∈ more) (h : Linked pairs a b) :
    Linked more a b := by
  induction h with
  | rel a b hpair =>
    rcases hsub a b hpair with hmore | hmore
    · exact .rel _ _ hmore
    · exact .symm (.rel _ _ hmore)
  | refl a => exact .refl a
  | symm a b _ ih => exact ih.symm
  | trans a b c _ _ hab hbc => exact hab.trans hbc

/-- A chain that is not empty runs through elements of pairs only. -/
theorem Linked.eq_or_mentioned (h : Linked pairs a b) :
    a = b ∨ a ∈ mentioned pairs ∧ b ∈ mentioned pairs := by
  induction h with
  | rel a b hpair =>
    exact .inr ⟨mem_mentioned.mpr ⟨_, hpair, .inl rfl⟩, mem_mentioned.mpr ⟨_, hpair, .inr rfl⟩⟩
  | refl a => exact .inl rfl
  | symm a b _ ih => exact ih.imp Eq.symm And.symm
  | trans a b c _ _ hab hbc =>
    rcases hab with rfl | ⟨ha, hb⟩
    · exact hbc
    rcases hbc with rfl | ⟨-, hc⟩
    · exact .inr ⟨ha, hb⟩
    · exact .inr ⟨ha, hc⟩

/-- Linked with one of two elements. -/
def LinkedWith (pairs : List (α × α)) (x y a : α) : Prop := Linked pairs x a ∨ Linked pairs y a

theorem LinkedWith.trans (h : LinkedWith pairs x y a) (hab : Linked pairs a b) :
    LinkedWith pairs x y b := h.imp (·.trans hab) (·.trans hab)

/-- One more pair links what is linked with one of its elements, and nothing else. -/
theorem linked_append_singleton :
    Linked (pairs ++ [(x, y)]) a b ↔
      Linked pairs a b ∨ LinkedWith pairs x y a ∧ LinkedWith pairs x y b := by
  constructor
  · intro h
    induction h with
    | rel a b hpair =>
      rcases List.mem_append.mp hpair with hpair | hpair
      · exact .inl (.rel _ _ hpair)
      · obtain ⟨rfl, rfl⟩ := Prod.mk.inj (List.mem_singleton.mp hpair)
        exact .inr ⟨.inl (.refl a), .inr (.refl b)⟩
    | refl a => exact .inl (.refl a)
    | symm a b _ ih => exact ih.imp Linked.symm And.symm
    | trans a b c _ _ hab hbc =>
      -- Where both parts use the pair, the middle of the chain is of no interest.
      rcases hab with hab | ⟨ha, hb⟩
      · rcases hbc with hbc | ⟨hb, hc⟩
        · exact .inl (hab.trans hbc)
        · exact .inr ⟨hb.trans hab.symm, hc⟩
      · rcases hbc with hbc | ⟨-, hc⟩
        · exact .inr ⟨ha, hb.trans hbc⟩
        · exact .inr ⟨ha, hc⟩
  · have hold {a b : α} (h : Linked pairs a b) : Linked (pairs ++ [(x, y)]) a b :=
      h.mono (List.subset_append_left _ _)
    have hnew : Linked (pairs ++ [(x, y)]) x y := .rel _ _ (by simp)
    have hwith {a : α} (h : LinkedWith pairs x y a) : Linked (pairs ++ [(x, y)]) x a :=
      h.elim hold fun hy => hnew.trans (hold hy)
    rintro (h | ⟨ha, hb⟩)
    · exact hold h
    · exact (hwith ha).symm.trans (hwith hb)

variable {classes : List (List α)} {cls : List α}

/-- The classes are the connected components of the graph that the pairs span. -/
structure AreComponents (pairs : List (α × α)) (classes : List (List α)) : Prop where
  nodup : classes.flatten.Nodup
  ne_nil : ∀ cls ∈ classes, cls ≠ []
  mem_flatten : ∀ a, a ∈ classes.flatten ↔ a ∈ mentioned pairs
  mem_iff : ∀ cls ∈ classes, ∀ a ∈ cls, ∀ b, b ∈ cls ↔ Linked pairs a b

theorem AreComponents.exists_mem (h : AreComponents pairs classes) (ha : a ∈ mentioned pairs) :
    ∃ cls ∈ classes, a ∈ cls := List.mem_flatten.mp ((h.mem_flatten a).mpr ha)

theorem AreComponents.mem_mentioned (h : AreComponents pairs classes) (hcls : cls ∈ classes)
    (ha : a ∈ cls) : a ∈ mentioned pairs :=
  (h.mem_flatten a).mp (List.mem_flatten.mpr ⟨cls, hcls, ha⟩)

end Graph

section Classes

variable {α : Type} [DecidableEq α] {pairs : List (α × α)} {classes : List (List α)}
  {cls : List α} {x y a : α}

theorem touches_iff : touches x y cls = true ↔ x ∈ cls ∨ y ∈ cls := by
  simp [touches]

theorem not_touches_iff : (!touches x y cls) = true ↔ x ∉ cls ∧ y ∉ cls := by
  simp [touches]

/-- What becomes of the classes that a pair touches. -/
def merged (classes : List (List α)) (x y : α) : List α :=
  ((classes.filter (touches x y)).flatten ++ [x, y]).eraseDups

private theorem exists_absorb_eq {new : List α} (h : classes.filter (touches x y) ≠ []) :
    ∃ front back, classes = front ++ back ∧ (∀ cls ∈ front, touches x y cls = false) ∧
      (∀ cls ∈ back.head?, touches x y cls = true) ∧
      absorb x y new classes = front ++ new :: back.filter (!touches x y ·) := by
  induction classes with
  | nil => exact absurd rfl h
  | cons cls classes ih =>
    unfold absorb
    cases hcls : touches x y cls with
    | true => exact ⟨[], cls :: classes, rfl, by simp, by simpa using hcls, by simp [hcls]⟩
    | false =>
      rw [List.filter_cons_of_neg (by simp [hcls])] at h
      obtain ⟨front, back, rfl, hfront, hback, heq⟩ := ih h
      exact ⟨cls :: front, back, rfl, by simpa [hcls] using hfront, hback, by simp [heq]⟩

/-- A pair leaves the classes that it does not touch as they are. Where the first of the others
stood, or behind all of them if there is none, stands what they have become. -/
theorem exists_joinPair_eq (classes : List (List α)) (x y : α) :
    ∃ front back, classes = front ++ back ∧ (∀ cls ∈ front, touches x y cls = false) ∧
      (∀ cls ∈ back.head?, touches x y cls = true) ∧
      joinPair classes (x, y) = front ++ merged classes x y :: back.filter (!touches x y ·) := by
  unfold joinPair merged
  dsimp only
  split
  next hnone =>
    have hnone := List.isEmpty_iff.mp hnone
    refine ⟨classes, [], by simp, by simpa [List.filter_eq_nil_iff] using hnone, by simp, ?_⟩
    rw [hnone]
    rfl
  next hsome => exact exists_absorb_eq (mt List.isEmpty_iff.mpr hsome)

theorem joinPair_perm (classes : List (List α)) (x y : α) :
    (joinPair classes (x, y)).Perm (merged classes x y :: classes.filter (!touches x y ·)) := by
  obtain ⟨front, back, hsplit, hfront, -, heq⟩ := exists_joinPair_eq classes x y
  have hothers : classes.filter (!touches x y ·) = front ++ back.filter (!touches x y ·) := by
    rw [hsplit, List.filter_append, List.filter_eq_self.mpr]
    intro cls hcls
    rw [hfront cls hcls]
    rfl
  rw [heq, hothers]
  exact List.perm_middle

theorem mem_joinPair : cls ∈ joinPair classes (x, y) ↔
    cls = merged classes x y ∨ cls ∈ classes ∧ x ∉ cls ∧ y ∉ cls := by
  rw [(joinPair_perm classes x y).mem_iff, List.mem_cons, List.mem_filter, not_touches_iff]

namespace AreComponents

/-- A pair makes one class of what is linked with one of its elements. -/
theorem mem_merged (h : AreComponents pairs classes) :
    a ∈ merged classes x y ↔ LinkedWith pairs x y a := by
  have hmem : a ∈ merged classes x y ↔
      (∃ cls ∈ classes, (x ∈ cls ∨ y ∈ cls) ∧ a ∈ cls) ∨ a = x ∨ a = y := by
    simp [merged, touches_iff, and_assoc]
  have hclass {z : α} (hz : Linked pairs z a) : a = z ∨ ∃ cls ∈ classes, z ∈ cls ∧ a ∈ cls := by
    rcases hz.eq_or_mentioned with rfl | ⟨hmentioned, -⟩
    · exact .inl rfl
    · obtain ⟨cls, hcls, hzcls⟩ := h.exists_mem hmentioned
      exact .inr ⟨cls, hcls, hzcls, (h.mem_iff cls hcls z hzcls a).mpr hz⟩
  rw [hmem]
  constructor
  · rintro (⟨cls, hcls, hx | hy, ha⟩ | rfl | rfl)
    · exact .inl ((h.mem_iff cls hcls x hx a).mp ha)
    · exact .inr ((h.mem_iff cls hcls y hy a).mp ha)
    · exact .inl (.refl a)
    · exact .inr (.refl a)
  · rintro (hx | hy)
    · rcases hclass hx with rfl | ⟨cls, hcls, hx, ha⟩
      · exact .inr (.inl rfl)
      · exact .inl ⟨cls, hcls, .inl hx, ha⟩
    · rcases hclass hy with rfl | ⟨cls, hcls, hy, ha⟩
      · exact .inr (.inr rfl)
      · exact .inl ⟨cls, hcls, .inr hy, ha⟩

theorem nodup_joinPair (h : AreComponents pairs classes) (x y : α) :
    (joinPair classes (x, y)).flatten.Nodup := by
  have hsplit := h.nodup
  rw [← (List.filter_append_perm (touches x y) classes).flatten.nodup_iff, List.flatten_append,
    List.nodup_append] at hsplit
  obtain ⟨-, hothers, hdisjoint⟩ := hsplit
  rw [(joinPair_perm classes x y).flatten.nodup_iff, List.flatten_cons, List.nodup_append]
  refine ⟨nodup_eraseDups _, hothers, ?_⟩
  rintro a ha b hb rfl
  obtain ⟨cls, hcls, hacls⟩ := List.mem_flatten.mp hb
  have hfree := not_touches_iff.mp (List.mem_filter.mp hcls).2
  rcases List.mem_append.mp (List.mem_eraseDups.mp ha) with htouching | hpair
  · exact hdisjoint a htouching a hb rfl
  · rcases List.mem_pair.mp hpair with rfl | rfl
    · exact hfree.1 hacls
    · exact hfree.2 hacls

/-- Reading one more pair, the classes stay components. -/
theorem join (h : AreComponents pairs classes) (x y : α) :
    AreComponents (pairs ++ [(x, y)]) (joinPair classes (x, y)) where
  nodup := h.nodup_joinPair x y
  ne_nil := by
    intro cls hcls
    rcases mem_joinPair.mp hcls with rfl | ⟨hold, -⟩
    · exact List.ne_nil_of_mem (h.mem_merged.mpr (.inl (.refl x)))
    · exact h.ne_nil cls hold
  mem_flatten := by
    intro a
    have hnew : a ∈ mentioned (pairs ++ [(x, y)]) ↔ a ∈ mentioned pairs ∨ a = x ∨ a = y := by
      rw [mentioned_append, List.mem_append]
      exact or_congr_right List.mem_pair
    have hold : a ∈ classes.flatten ↔ a ∈ (classes.filter (touches x y)).flatten ∨
        a ∈ (classes.filter (!touches x y ·)).flatten := by
      rw [← (List.filter_append_perm (touches x y) classes).flatten.mem_iff, List.flatten_append,
        List.mem_append]
    rw [(joinPair_perm classes x y).flatten.mem_iff, List.flatten_cons, List.mem_append, merged,
      List.mem_eraseDups, List.mem_append, List.mem_pair, hnew, ← h.mem_flatten, hold]
    exact or_right_comm
  mem_iff := by
    intro cls hcls a ha b
    rw [linked_append_singleton]
    rcases mem_joinPair.mp hcls with rfl | ⟨hold, hx, hy⟩
    · have ha := h.mem_merged.mp ha
      rw [h.mem_merged]
      constructor
      · exact fun hb => .inr ⟨ha, hb⟩
      · rintro (hab | ⟨-, hb⟩)
        · exact ha.trans hab
        · exact hb
    · have hapart : ¬ LinkedWith pairs x y a := by
        rintro (hxa | hya)
        · exact hx ((h.mem_iff cls hold a ha x).mpr hxa.symm)
        · exact hy ((h.mem_iff cls hold a ha y).mpr hya.symm)
      rw [h.mem_iff cls hold a ha]
      simp [hapart]

end AreComponents

theorem equivalenceClasses_append_singleton (pairs : List (α × α)) (p : α × α) :
    equivalenceClasses (pairs ++ [p]) = joinPair (equivalenceClasses pairs) p :=
  List.foldl_concat joinPair [] p pairs

theorem areComponents_equivalenceClasses (pairs : List (α × α)) :
    AreComponents pairs (equivalenceClasses pairs) := by
  induction pairs using List.reverseRec with
  | nil => exact ⟨List.nodup_nil, by simp [equivalenceClasses], by simp [equivalenceClasses],
      by simp [equivalenceClasses]⟩
  | append_singleton pairs p ih =>
    rw [equivalenceClasses_append_singleton]
    exact ih.join p.1 p.2

/-- What pairs mention stands in exactly one of their classes and once in it, nothing else stands in
any, no class is empty, and two elements share a class if and only if a chain of pairs, each read
either way, links them. -/
theorem equivalenceClasses_are_components (pairs : List (α × α)) :
    (∀ a, (equivalenceClasses pairs).flatten.count a = if a ∈ mentioned pairs then 1 else 0) ∧
      [] ∉ equivalenceClasses pairs ∧
      ∀ a b, (∃ cls ∈ equivalenceClasses pairs, a ∈ cls ∧ b ∈ cls) ↔
        a ∈ mentioned pairs ∧ Linked pairs a b := by
  have h := areComponents_equivalenceClasses pairs
  refine ⟨fun a => ?_, fun hnil => h.ne_nil [] hnil rfl, fun a b => ?_⟩
  · simp only [h.nodup.count, h.mem_flatten]
  · constructor
    · rintro ⟨cls, hcls, ha, hb⟩
      exact ⟨h.mem_mentioned hcls ha, (h.mem_iff cls hcls a ha b).mp hb⟩
    · rintro ⟨ha, hab⟩
      obtain ⟨cls, hcls, ha⟩ := h.exists_mem ha
      exact ⟨cls, hcls, ha, (h.mem_iff cls hcls a ha b).mpr hab⟩

end Classes

end Concordance.Pattern
