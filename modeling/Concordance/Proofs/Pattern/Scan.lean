import Concordance.Search.Confirm

/-! Searching a text is trying its positions from left to right. -/

namespace Concordance.Pattern

section Ranges

variable {β : Type} {f : Nat → Option β}

/-- The first position of a range that yields something. -/
theorem findSome?_range'_eq_some {a n : Nat} {b : β} :
    (List.range' a n).findSome? f = some b ↔
      ∃ i, a ≤ i ∧ i < a + n ∧ f i = some b ∧ ∀ j, a ≤ j → j < i → f j = none := by
  induction n generalizing a with
  | zero =>
    simp only [List.range'_zero, List.findSome?_nil]
    constructor
    · intro h
      cases h
    · rintro ⟨i, hai, hin, -⟩
      omega
  | succ n ih =>
    rw [List.range'_succ, List.findSome?_cons]
    cases ha : f a with
    | some x =>
      constructor
      · rintro ⟨⟩
        exact ⟨a, Nat.le_refl a, by omega, ha, fun j haj hja => absurd hja (Nat.not_lt.mpr haj)⟩
      · rintro ⟨i, hai, -, hi, hfirst⟩
        rcases Nat.eq_or_lt_of_le hai with rfl | hlt
        · rwa [ha] at hi
        · rw [hfirst a (Nat.le_refl a) hlt] at ha
          cases ha
    | none =>
      rw [ih]
      constructor
      · rintro ⟨i, hai, hin, hi, hfirst⟩
        refine ⟨i, by omega, by omega, hi, fun j haj hji => ?_⟩
        rcases Nat.eq_or_lt_of_le haj with rfl | hlt
        · exact ha
        · exact hfirst j hlt hji
      · rintro ⟨i, hai, hin, hi, hfirst⟩
        have hne : i ≠ a := by
          rintro rfl
          rw [ha] at hi
          cases hi
        exact ⟨i, by omega, by omega, hi, fun j haj hji => hfirst j (by omega) hji⟩

theorem findSome?_congr {g : Nat → Option β} {l : List Nat} (h : ∀ i ∈ l, f i = g i) :
    l.findSome? f = l.findSome? g := by
  induction l with
  | nil => rfl
  | cons i l ih =>
    rw [List.findSome?_cons, List.findSome?_cons, h i List.mem_cons_self,
      ih fun j hj => h j (List.mem_cons_of_mem i hj)]

theorem findSome?_range_eq_some {n : Nat} {b : β} :
    (List.range n).findSome? f = some b ↔ ∃ i < n, f i = some b ∧ ∀ j < i, f j = none := by
  rw [List.range_eq_range', findSome?_range'_eq_some]
  simp

end Ranges

/-- The match that starts at a position of the text, if one does. -/
def WordPattern.occurrenceAt (p : WordPattern) (text : List Char) (i : Nat) : Option Occurrence :=
  (p.matchAt (i = 0) (text.drop i)).map fun rest =>
    ⟨(text.take i).reverse, (text.drop i).take ((text.drop i).length - rest.length), rest⟩

variable {p : WordPattern}

private theorem occurrenceAt_length (before s : List Char) :
    p.occurrenceAt (before.reverse ++ s) before.length =
      (p.matchAt before.isEmpty s).map fun rest =>
        ⟨before, s.take (s.length - rest.length), rest⟩ := by
  have htake : (before.reverse ++ s).take before.length = before.reverse :=
    List.take_left' (by simp)
  have hdrop : (before.reverse ++ s).drop before.length = s := List.drop_left' (by simp)
  have hempty : decide (before.length = 0) = before.isEmpty := by cases before <;> rfl
  simp only [WordPattern.occurrenceAt, htake, hdrop, hempty, List.reverse_reverse]

/-- The first match is that of the first position that has one. -/
theorem WordPattern.searchFrom_eq_findSome? (before s : List Char) :
    p.searchFrom before s =
      (List.range' before.length (s.length + 1)).findSome?
        (p.occurrenceAt (before.reverse ++ s)) := by
  induction s generalizing before with
  | nil =>
    rw [WordPattern.searchFrom, List.length_nil, List.range'_one, List.findSome?_cons,
      occurrenceAt_length]
    cases h : p.matchAt before.isEmpty [] <;> rfl
  | cons c s ih =>
    rw [WordPattern.searchFrom, List.length_cons, List.range'_succ, List.findSome?_cons,
      occurrenceAt_length]
    cases h : p.matchAt before.isEmpty (c :: s) with
    | some rest => rfl
    | none => simpa using ih (c :: before)

theorem WordPattern.search_eq_findSome? (text : List Char) :
    p.search text = (List.range (text.length + 1)).findSome? (p.occurrenceAt text) := by
  rw [List.range_eq_range']
  exact p.searchFrom_eq_findSome? [] text

theorem WordPattern.start_of_occurrenceAt {text : List Char} {i : Nat} {o : Occurrence}
    (hi : i ≤ text.length) (h : p.occurrenceAt text i = some o) : o.start = i := by
  obtain ⟨rest, -, rfl⟩ := Option.map_eq_some_iff.mp h
  simp [Occurrence.start, hi]

/-- The match of a search is that of its own start, and no earlier position has one. -/
theorem WordPattern.first_of_searchFrom_eq_some {before s : List Char} {o : Occurrence}
    (h : p.searchFrom before s = some o) :
    before.length ≤ o.start ∧ o.start ≤ before.length + s.length ∧
      p.occurrenceAt (before.reverse ++ s) o.start = some o ∧
      ∀ j, before.length ≤ j → j < o.start → p.occurrenceAt (before.reverse ++ s) j = none := by
  rw [WordPattern.searchFrom_eq_findSome?, findSome?_range'_eq_some] at h
  obtain ⟨i, hbi, hin, hi, hfirst⟩ := h
  obtain rfl : o.start = i := WordPattern.start_of_occurrenceAt (by simp; omega) hi
  exact ⟨hbi, by omega, hi, hfirst⟩

theorem WordPattern.restart_append {before s rest : List Char} {c : Char} {o : Occurrence}
    (h : p.searchFrom before s = some o) (hrest : o.found ++ o.after = c :: rest) :
    (c :: o.before).reverse ++ rest = before.reverse ++ s := by
  have htext := (WordPattern.of_searchFrom_eq_some h).2
  rw [List.append_assoc, hrest] at htext
  simpa using htext

end Concordance.Pattern

namespace Concordance.Search

open Pattern (Occurrence WordPattern)

/-- Behind a first match that is rejected, only the positions behind its start count. -/
private theorem findSome?_of_rejected {p : WordPattern} {before s : List Char} {o : Occurrence}
    (h : p.searchFrom before s = some o) (halone : ¬ standsAlone o) :
    ((List.range' before.length (s.length + 1)).findSome? fun i =>
        (p.occurrenceAt (before.reverse ++ s) i).filter standsAlone) =
      (List.range' (o.start + 1) (before.length + s.length - o.start)).findSome? fun i =>
        (p.occurrenceAt (before.reverse ++ s) i).filter standsAlone := by
  obtain ⟨hbi, hin, hi, hfirst⟩ := WordPattern.first_of_searchFrom_eq_some h
  have hsplit : List.range' before.length (s.length + 1) =
      List.range' before.length (o.start + 1 - before.length) ++
        List.range' (o.start + 1) (before.length + s.length - o.start) := by
    rw [show o.start + 1 = before.length + (o.start + 1 - before.length) by omega,
      Nat.add_sub_cancel_left, List.range'_append_1]
    congr 1
    omega
  rw [hsplit, List.findSome?_append]
  refine Option.or_eq_right_of_none (List.findSome?_eq_none_iff.mpr fun j hj => ?_)
  obtain ⟨hbj, hji⟩ := List.mem_range'_1.mp hj
  rcases Nat.eq_or_lt_of_le (show j ≤ o.start by omega) with rfl | hlt
  · simp [hi, halone]
  · simp [hfirst j hbj hlt]

/-- The first match that stands alone is that of the first position whose match does. Beginning
again one character behind a rejected start passes over no position. -/
theorem searchWholeFrom_eq_findSome? (p : WordPattern) (before s : List Char) :
    searchWholeFrom p before s =
      (List.range' before.length (s.length + 1)).findSome? fun i =>
        (p.occurrenceAt (before.reverse ++ s) i).filter standsAlone := by
  fun_induction searchWholeFrom p before s with
  | case1 before s h =>
    rw [WordPattern.searchFrom_eq_findSome?, List.findSome?_eq_none_iff] at h
    symm
    apply List.findSome?_eq_none_iff.mpr
    intro i hi
    rw [h i hi]
    rfl
  | case2 before s o h halone =>
    obtain ⟨hbi, hin, hi, hfirst⟩ := WordPattern.first_of_searchFrom_eq_some h
    refine (Pattern.findSome?_range'_eq_some.mpr
      ⟨o.start, hbi, by omega, ?_, fun j hbj hji => ?_⟩).symm
    · simp [hi, halone]
    · simp [hfirst j hbj hji]
  | case3 before s o h halone hend =>
    have htext := congrArg List.length (WordPattern.of_searchFrom_eq_some h).2
    rw [List.append_assoc, hend] at htext
    have hzero : before.length + s.length - o.start = 0 := by
      simp [Occurrence.start] at htext ⊢
      omega
    rw [findSome?_of_rejected h halone, hzero]
    rfl
  | case4 before s o h halone c rest hrest ih =>
    have htext := WordPattern.restart_append h hrest
    have hlen := congrArg List.length htext
    have hcount : before.length + s.length - o.start = rest.length + 1 := by
      simp [Occurrence.start] at hlen ⊢
      omega
    rw [ih, findSome?_of_rejected h halone, hcount, htext]
    simp [Occurrence.start]

end Concordance.Search
