import Concordance.Proofs.Pattern.Leftmost
import Concordance.Proofs.Pattern.Strip

/-! When a whole word is found. -/

namespace Concordance.Search

open Pattern (Interspersed Occurrence Options WordPattern occurrenceBetween)
open Store (WordOptions)

/-- The options of the pattern with which a word is looked for in a candidate. -/
def localOptions (o : WordOptions) : Options :=
  { equivalent := o.equivalent, ignore := o.ignore, capture := true }

/-- The part of a text between two positions touches no character that would be part of a word. -/
def Detached (text : List Char) (i j : Nat) : Prop :=
  (∀ c, 0 < i → text[i - 1]? = some c → continuesWord c = false) ∧
    ∀ c, text[j]? = some c → continuesWord c = false

/-- Some text of the word stands between two positions as a whole word. -/
def CountsAsWhole (o : WordOptions) (word text : List Char) (i j : Nat) : Prop :=
  (localOptions o).Occurs word text i j ∧ Detached text i j

/-- A text of the word that no longer one from the same position contains. -/
def IsLongest (o : WordOptions) (word text : List Char) (i j : Nat) : Prop :=
  ∀ k, (localOptions o).Occurs word text i k → k ≤ j

private theorem not_any_continuesWord {c? : Option Char} :
    (!c?.any continuesWord) = true ↔ ∀ c, c? = some c → continuesWord c = false := by
  cases c? <;> simp

theorem standsAlone_occurrenceBetween {text : List Char} {i j : Nat} (hi : i ≤ text.length) :
    standsAlone (occurrenceBetween text i j) = true ↔ Detached text i j := by
  have hbefore : (text.take i).reverse.head? = if 0 < i then text[i - 1]? else none := by
    rw [List.head?_reverse, List.getLast?_take]
    rcases Nat.eq_zero_or_pos i with rfl | hpos
    · rfl
    · rw [if_neg (by omega), if_pos hpos, List.getElem?_eq_getElem (by omega), Option.some_or]
  have hafter : (text.drop j).head? = text[j]? := List.head?_drop
  simp only [standsAlone, occurrenceBetween, hbefore, hafter, Bool.and_eq_true,
    not_any_continuesWord, Detached]
  rcases Nat.eq_zero_or_pos i with rfl | hpos
  · simp
  · simp [hpos]

/-- Searching for a whole word is trying the positions from left to right for a match that stands
alone. -/
theorem find_whole_eq_findSome? (o : WordOptions) (word text : List Char) :
    find true (localPattern o word) text =
      (List.range (text.length + 1)).findSome? fun i =>
        ((localPattern o word).occurrenceAt text i).filter standsAlone := by
  rw [List.range_eq_range']
  exact searchWholeFrom_eq_findSome? (localPattern o word) [] text

/-- A position yields the longest text of the word from there, if that stands alone. -/
theorem filter_occurrenceAt_eq_some_iff {o : WordOptions} {word text : List Char} {i : Nat}
    (hi : i ≤ text.length) {m : Occurrence} :
    ((localPattern o word).occurrenceAt text i).filter standsAlone = some m ↔
      ∃ j, m = occurrenceBetween text i j ∧ CountsAsWhole o word text i j ∧
        IsLongest o word text i j := by
  have hat : (localPattern o word).occurrenceAt text i = some m ↔ _ :=
    (localOptions o).occurrenceAt_eq_some_iff rfl hi
  rw [Option.filter_eq_some_iff]
  constructor
  · rintro ⟨hm, halone⟩
    obtain ⟨j, rfl, hoccurs, hmax⟩ := hat.mp hm
    exact ⟨j, rfl, ⟨hoccurs, (standsAlone_occurrenceBetween hi).mp halone⟩, hmax⟩
  · rintro ⟨j, rfl, ⟨hoccurs, hdetached⟩, hmax⟩
    exact ⟨hat.mpr ⟨j, rfl, hoccurs, hmax⟩, (standsAlone_occurrenceBetween hi).mpr hdetached⟩

/-- A whole word is found where the longest text of the word from some position stands alone. -/
theorem find_whole_isSome_iff (o : WordOptions) (word text : List Char) :
    (find true (localPattern o word) text).isSome ↔
      ∃ i j, CountsAsWhole o word text i j ∧ IsLongest o word text i j := by
  rw [find_whole_eq_findSome?, List.findSome?_isSome_iff]
  constructor
  · rintro ⟨i, hi, hsome⟩
    have hi : i ≤ text.length := Nat.le_of_lt_succ (List.mem_range.mp hi)
    obtain ⟨m, hm⟩ := Option.isSome_iff_exists.mp hsome
    obtain ⟨j, -, hcounts, hmax⟩ := (filter_occurrenceAt_eq_some_iff hi).mp hm
    exact ⟨i, j, hcounts, hmax⟩
  · rintro ⟨i, j, hcounts, hmax⟩
    have hi : i ≤ text.length := Nat.le_trans hcounts.1.1 hcounts.1.2.1
    have hm := (filter_occurrenceAt_eq_some_iff hi).mpr ⟨j, rfl, hcounts, hmax⟩
    exact ⟨i, List.mem_range.mpr (by omega), Option.isSome_iff_exists.mpr ⟨_, hm⟩⟩

/-- The search for a whole word finds it exactly where some text of it counts. -/
def FindsWhatCounts (o : WordOptions) (word text : List Char) : Prop :=
  (find true (localPattern o word) text).isSome ↔ ∃ i j, CountsAsWhole o word text i j

theorem findsWhatCounts_iff {o : WordOptions} {word text : List Char} :
    FindsWhatCounts o word text ↔ ((∃ i j, CountsAsWhole o word text i j) →
      ∃ i j, CountsAsWhole o word text i j ∧ IsLongest o word text i j) := by
  unfold FindsWhatCounts
  rw [find_whole_isSome_iff]
  exact ⟨fun h => h.mpr, fun h => ⟨fun ⟨i, j, hcounts, _⟩ => ⟨i, j, hcounts⟩, h⟩⟩

/-- No text of the word goes on to a longer one with a character that is no part of words. -/
def GoesOnWithinWords (o : WordOptions) (word : List Char) : Prop :=
  ∀ w c x, Interspersed o.ignore ((localOptions o).places word) w →
    Interspersed o.ignore ((localOptions o).places word) (w ++ c :: x) → continuesWord c = true

/-- What counts is then longest: else it would touch the character that makes it longer. -/
theorem CountsAsWhole.isLongest {o : WordOptions} {word text : List Char} {i j : Nat}
    (h : CountsAsWhole o word text i j) (ho : GoesOnWithinWords o word) :
    IsLongest o word text i j := by
  obtain ⟨⟨hij, hj, hw⟩, -, hafter⟩ := h
  rintro k ⟨hik, hk, hlonger⟩
  apply Nat.le_of_not_lt
  intro hjk
  have hsplit : text.extract i k = text.extract i j ++ text[j] :: text.extract (j + 1) k := by
    have hlen : k - i = (j - i) + (k - (j + 1) + 1) := by omega
    have hdrop : text.drop j = text[j] :: text.drop (j + 1) := List.drop_eq_getElem_cons (by omega)
    rw [List.extract_eq_take_drop, hlen, List.take_add, List.drop_drop, Nat.add_sub_cancel' hij,
      hdrop, List.take_succ_cons]
  rw [hsplit] at hlonger
  have hcontinues := ho _ _ _ hw hlonger
  rw [hafter text[j] (List.getElem?_eq_getElem (by omega))] at hcontinues
  cases hcontinues

/-- A character that no text of the word holds. -/
def Foreign (o : WordOptions) (word : List Char) (z : Char) : Prop :=
  z ∉ o.ignore ∧ ∀ place ∈ (localOptions o).places word, z ∉ place

theorem Foreign.notMem {o : WordOptions} {word w : List Char} {z : Char} (hz : Foreign o word z)
    (hw : Interspersed o.ignore ((localOptions o).places word) w) : z ∉ w := fun hmem =>
  match hw.mem_or_mem z hmem with
  | .inl hi => hz.1 hi
  | .inr ⟨place, hplace, hmem⟩ => hz.2 place hplace hmem

/-- Before a foreign character that ends a text of the word, every longest text of the word ends as
well: by the exchange it can go on as the whole does. -/
theorem not_detached_of_foreign {o : WordOptions} {word l : List Char} {z : Char} {i j : Nat}
    (hz : Foreign o word z) (hcontinues : continuesWord z = true)
    (hl : Interspersed o.ignore ((localOptions o).places word) l)
    (hoccurs : (localOptions o).Occurs word (l ++ [z]) i j)
    (hmax : IsLongest o word (l ++ [z]) i j) : ¬ Detached (l ++ [z]) i j := by
  rintro ⟨hbefore, hafter⟩
  obtain ⟨hij, hj, hu⟩ := hoccurs
  rw [List.length_append, List.length_singleton] at hj
  have hlast : (l ++ [z])[l.length]? = some z := by simp
  have hi : i ≤ l.length := by
    refine Nat.le_of_lt_succ (Nat.lt_of_le_of_ne (Nat.le_trans hij hj) fun hi => ?_)
    rw [hbefore z (by omega) (by rw [hi]; exact hlast)] at hcontinues
    cases hcontinues
  have hdrop : (l ++ [z]).drop i = l.drop i ++ [z] := List.drop_append_of_le_length hi
  have hjl : j ≤ l.length := by
    refine Nat.le_of_lt_succ (Nat.lt_of_le_of_ne hj fun hj => hz.notMem hu ?_)
    rw [List.extract_eq_take_drop, hdrop, List.take_of_length_le (by simp; omega)]
    simp
  have hshort : (l ++ [z]).extract i j = (l.drop i).take (j - i) := by
    rw [List.extract_eq_take_drop, hdrop, List.take_append_of_le_length (by simp; omega)]
  have hlong : (l ++ [z]).extract i l.length = l.drop i := by
    rw [List.extract_eq_take_drop, hdrop, List.take_left' (by simp)]
  obtain ⟨left, hsuf, hleft⟩ : ∃ left, left <:+ (localOptions o).places word ∧
      Interspersed o.ignore left ((l.drop i).take (j - i) ++ (l.drop i).drop (j - i)) := by
    rw [List.take_append_drop]
    rw [← List.take_append_drop i l] at hl
    exact hl.exists_of_append
  rw [hshort] at hu
  have hexchange := hu.exchange hleft hsuf
  rw [List.take_append_drop, ← hlong] at hexchange
  have hle : l.length ≤ j := hmax l.length ⟨hi, by simp, hexchange⟩
  rw [hafter z (by rw [Nat.le_antisymm hjl hle]; exact hlast)] at hcontinues
  cases hcontinues

/-- If the search finds what counts in every text, then texts of the word go on within words. Else
the longer text with a foreign part of a word behind it makes up a text in which the shorter one
counts and no longest one does. -/
theorem goesOnWithinWords_of_findsWhatCounts {o : WordOptions} {word : List Char} {z : Char}
    (hz : Foreign o word z) (hcontinues : continuesWord z = true)
    (h : ∀ text, FindsWhatCounts o word text) : GoesOnWithinWords o word := by
  intro w c x hw hlonger
  cases hc : continuesWord c with
  | true => rfl
  | false =>
    have hcounts : CountsAsWhole o word (w ++ c :: x ++ [z]) 0 w.length := by
      have hfront : (w ++ c :: x ++ [z]).extract 0 w.length = w := by simp
      refine ⟨⟨Nat.zero_le _, by simp, ?_⟩, by simp, by simp [hc]⟩
      rw [hfront]
      exact hw
    obtain ⟨i, j, ⟨hoccurs, hdetached⟩, hmax⟩ :=
      findsWhatCounts_iff.mp (h _) ⟨0, w.length, hcounts⟩
    exact absurd hdetached (not_detached_of_foreign hz hcontinues hlonger hoccurs hmax)

/-- Ignorable characters that are parts of words and in no class, as combining marks are, make texts
of a word go on within words. -/
theorem goesOnWithinWords_of_ignore {o : WordOptions}
    (hparts : ∀ c ∈ o.ignore, continuesWord c = true)
    (hclasses : ∀ cls ∈ o.equivalent, ∀ c ∈ cls, c ∉ o.ignore) (word : List Char) :
    GoesOnWithinWords o word := by
  intro w c x hw hlonger
  refine hparts c ?_
  rcases Options.places_disjoint_or_subset (o := localOptions o) hclasses word with
    hdisjoint | hsubset
  · have hshort := hw.length_strip hdisjoint
    have hlong := hlonger.length_strip hdisjoint
    rw [← hshort, Pattern.strip, Pattern.strip, List.filter_append, List.length_append] at hlong
    have hnone : (c :: x).filter (!o.ignore.contains ·) = [] :=
      List.length_eq_zero_iff.mp (by simpa using hlong)
    simpa using List.filter_eq_nil_iff.mp hnone c List.mem_cons_self
  · exact hlonger.mem_ignorable hsubset c (by simp)

/-- When a whole word is found. On a text, where the longest text of the word from some position
counts; so the search finds what counts exactly if a longest text of the word counts as soon as any
does. On all texts it finds what counts exactly if texts of the word go on within words, provided
that some part of words is foreign to the word; ignorable characters that are parts of words and in
no class are enough for that. -/
theorem find_whole_exact (o : WordOptions) (word : List Char) :
    (∀ text, (find true (localPattern o word) text).isSome ↔
      ∃ i j, CountsAsWhole o word text i j ∧ IsLongest o word text i j) ∧
    (∀ text, FindsWhatCounts o word text ↔ ((∃ i j, CountsAsWhole o word text i j) →
      ∃ i j, CountsAsWhole o word text i j ∧ IsLongest o word text i j)) ∧
    ((∃ z, continuesWord z = true ∧ Foreign o word z) →
      ((∀ text, FindsWhatCounts o word text) ↔ GoesOnWithinWords o word)) ∧
    ((∀ c ∈ o.ignore, continuesWord c = true) → (∀ cls ∈ o.equivalent, ∀ c ∈ cls, c ∉ o.ignore) →
      ∀ text, FindsWhatCounts o word text) := by
  have hfinds (ho : GoesOnWithinWords o word) (text : List Char) : FindsWhatCounts o word text :=
    findsWhatCounts_iff.mpr fun ⟨i, j, hcounts⟩ => ⟨i, j, hcounts, hcounts.isLongest ho⟩
  refine ⟨find_whole_isSome_iff o word, fun text => findsWhatCounts_iff, ?_, ?_⟩
  · rintro ⟨z, hcontinues, hz⟩
    exact ⟨goesOnWithinWords_of_findsWhatCounts hz hcontinues, hfinds⟩
  · exact fun hparts hclasses => hfinds (goesOnWithinWords_of_ignore hparts hclasses word)

/-- Behind `ab` stands a hyphen that may be ignored. The longest text of the word takes it and
touches the next letter, so nothing is found, although `ab` counts. -/
theorem whole_word_before_hyphen_missed :
    ¬ FindsWhatCounts { wholeWords := true, ignore := ['-'] } ['a', 'b'] ['a', 'b', '-', 'c'] := by
  intro h
  have hcounts : CountsAsWhole { wholeWords := true, ignore := ['-'] } ['a', 'b']
      ['a', 'b', '-', 'c'] 0 2 := by
    refine ⟨⟨by decide, by decide, ?_⟩, by simp, ?_⟩
    · exact .take (by decide) (.take (by decide) .nil)
    · simp
      decide
  have hnone : find true (localPattern { wholeWords := true, ignore := ['-'] } ['a', 'b'])
      ['a', 'b', '-', 'c'] = none := by
    decide +kernel
  have hsome := h.mpr ⟨0, 2, hcounts⟩
  rw [hnone] at hsome
  cases hsome

end Concordance.Search
