import Concordance.Proofs.Pattern.Capture
import Concordance.Proofs.Pattern.Longest

/-! Where a word stands in a text, and which of these places a search reports. -/

namespace Concordance.Pattern

/-- A text of the word stands in `text` from position `i` up to position `j`. -/
def Options.Occurs (o : Options) (word text : List Char) (i j : Nat) : Prop :=
  i ≤ j ∧ j ≤ text.length ∧ Interspersed o.ignore (o.places word) (text.extract i j)

/-- The part of a text between two positions, with its surroundings. -/
def occurrenceBetween (text : List Char) (i j : Nat) : Occurrence :=
  ⟨(text.take i).reverse, text.extract i j, text.drop j⟩

/-- Where a match starts and where it ends. -/
def Occurrence.span (m : Occurrence) : Nat × Nat := (m.start, m.stop)

section Between

variable {text : List Char} {i j : Nat}

theorem start_occurrenceBetween (hij : i ≤ j) (hj : j ≤ text.length) :
    (occurrenceBetween text i j).start = i := by
  simp [Occurrence.start, occurrenceBetween]
  omega

theorem stop_occurrenceBetween (hij : i ≤ j) (hj : j ≤ text.length) :
    (occurrenceBetween text i j).stop = j := by
  rw [Occurrence.stop, start_occurrenceBetween hij hj]
  simp [occurrenceBetween]
  omega

theorem span_occurrenceBetween (hij : i ≤ j) (hj : j ≤ text.length) :
    (occurrenceBetween text i j).span = (i, j) := by
  rw [Occurrence.span, start_occurrenceBetween hij hj, stop_occurrenceBetween hij hj]

theorem drop_eq_extract_append (hij : i ≤ j) :
    text.drop i = text.extract i j ++ text.drop j := by
  rw [List.extract_eq_take_drop, ← Nat.add_sub_cancel' hij, ← List.drop_drop,
    Nat.add_sub_cancel_left, List.take_append_drop]

private theorem length_extract_of_le (hij : i ≤ j) (hj : j ≤ text.length) :
    i + (text.extract i j).length = j := by
  rw [List.extract_eq_take_drop, List.length_take, List.length_drop]
  omega

/-- What stands at the front of the text behind a position ends where its length says. -/
theorem between_of_drop {w rest : List Char} (hi : i ≤ text.length)
    (h : text.drop i = w ++ rest) :
    i + w.length ≤ text.length ∧ text.extract i (i + w.length) = w ∧
      text.drop (i + w.length) = rest := by
  have hlen := congrArg List.length h
  rw [List.length_drop, List.length_append] at hlen
  refine ⟨by omega, ?_, ?_⟩
  · rw [List.extract_eq_take_drop, h, Nat.add_sub_cancel_left, List.take_left]
  · rw [← List.drop_drop, h, List.drop_left]

end Between

variable {o : Options} {word text : List Char}

/-- At a position of the text the search takes the longest text of the word. -/
theorem Options.occurrenceAt_eq_some_iff (hline : o.wholeLine = false) {i : Nat}
    (hi : i ≤ text.length) {m : Occurrence} :
    (o.pattern word).occurrenceAt text i = some m ↔
      ∃ j, m = occurrenceBetween text i j ∧ o.Occurs word text i j ∧
        ∀ k, o.Occurs word text i k → k ≤ j := by
  have hany (rest : List Char) : o.mayPrecede rest := by simp [mayPrecede, hline]
  simp only [WordPattern.occurrenceAt, o.matchAt_pattern, hline, Bool.false_and, Bool.false_eq_true,
    if_false, Option.map_eq_some_iff]
  constructor
  · rintro ⟨rest, hrest, rfl⟩
    obtain ⟨w, hs, hw, -, hmax⟩ := interweave_guard_eq_some_iff.mp hrest
    obtain ⟨hj, hextract, hdrop⟩ := between_of_drop hi hs
    refine ⟨i + w.length, ?_, ⟨Nat.le_add_right i w.length, hj, by rwa [hextract]⟩, ?_⟩
    · simp [occurrenceBetween, hs, hdrop]
    · rintro k ⟨hik, hk, hmem⟩
      have hle := hmax _ _ (drop_eq_extract_append hik) hmem (hany _)
      have hlen := length_extract_of_le hik hk
      omega
  · rintro ⟨j, rfl, ⟨hij, hj, hmem⟩, hmax⟩
    refine ⟨text.drop j, interweave_guard_eq_some_iff.mpr
      ⟨_, drop_eq_extract_append hij, hmem, hany _, fun w rest hs hw _ => ?_⟩, ?_⟩
    · obtain ⟨hk, hextract, -⟩ := between_of_drop hi hs
      have hle := hmax (i + w.length) ⟨Nat.le_add_right i w.length, hk, by rwa [hextract]⟩
      have hlen := length_extract_of_le hij hj
      omega
    · simp only [occurrenceBetween, Occurrence.mk.injEq, true_and, and_true, List.length_drop,
        List.extract_eq_take_drop]
      congr 1
      omega

theorem Options.occurrenceAt_eq_none_iff (hline : o.wholeLine = false) {i : Nat}
    (hi : i ≤ text.length) :
    (o.pattern word).occurrenceAt text i = none ↔ ∀ j, ¬ o.Occurs word text i j := by
  have hany (rest : List Char) : o.mayPrecede rest := by simp [mayPrecede, hline]
  simp only [WordPattern.occurrenceAt, o.matchAt_pattern, hline, Bool.false_and, Bool.false_eq_true,
    if_false, Option.map_eq_none_iff, interweave_guard_eq_none_iff]
  constructor
  · rintro h j ⟨hij, -, hmem⟩
    exact h _ _ (drop_eq_extract_append hij) hmem (hany _)
  · intro h w rest hs hw _
    obtain ⟨hj, hextract, -⟩ := between_of_drop hi hs
    exact h (i + w.length) ⟨Nat.le_add_right i w.length, hj, by rwa [hextract]⟩

/-- The search reports the part of the text that starts first and, of those, ends last. -/
theorem Options.search_eq_some_iff (hline : o.wholeLine = false) {m : Occurrence} :
    (o.pattern word).search text = some m ↔
      ∃ i j, m = occurrenceBetween text i j ∧ o.Occurs word text i j ∧
        (∀ i' j', o.Occurs word text i' j' → i ≤ i') ∧ ∀ k, o.Occurs word text i k → k ≤ j := by
  rw [WordPattern.search_eq_findSome?, findSome?_range_eq_some]
  constructor
  · rintro ⟨i, hi, hm, hfirst⟩
    obtain ⟨j, rfl, hoccurs, hmax⟩ := (occurrenceAt_eq_some_iff hline (by omega)).mp hm
    refine ⟨i, j, rfl, hoccurs, fun i' j' hoccurs' => Nat.le_of_not_lt fun hlt => ?_, hmax⟩
    exact (occurrenceAt_eq_none_iff hline (by omega)).mp (hfirst i' hlt) j' hoccurs'
  · rintro ⟨i, j, rfl, hoccurs, hfirst, hmax⟩
    have hi : i ≤ text.length := Nat.le_trans hoccurs.1 hoccurs.2.1
    refine ⟨i, by omega, (occurrenceAt_eq_some_iff hline hi).mpr ⟨j, rfl, hoccurs, hmax⟩,
      fun i' hlt => (occurrenceAt_eq_none_iff hline (by omega)).mpr fun j' hoccurs' => ?_⟩
    exact absurd (hfirst i' j' hoccurs') (Nat.not_le.mpr hlt)

theorem Options.search_eq_none_iff (hline : o.wholeLine = false) :
    (o.pattern word).search text = none ↔ ∀ i j, ¬ o.Occurs word text i j := by
  rw [WordPattern.search_eq_findSome?, List.findSome?_eq_none_iff]
  constructor
  · intro h i j hoccurs
    have hi : i ≤ text.length := Nat.le_trans hoccurs.1 hoccurs.2.1
    exact (occurrenceAt_eq_none_iff hline hi).mp (h i (List.mem_range.mpr (by omega))) j hoccurs
  · intro h i hi
    exact (occurrenceAt_eq_none_iff hline (Nat.le_of_lt_succ (List.mem_range.mp hi))).mpr (h i)

/-- If a text of the word stands somewhere, a match is found that starts no later. -/
theorem Options.exists_search_of_occurs (hline : o.wholeLine = false) {i j : Nat}
    (h : o.Occurs word text i j) :
    ∃ m, (o.pattern word).search text = some m ∧ m.start ≤ i ∧ (m.start = i → j ≤ m.stop) := by
  cases hsearch : (o.pattern word).search text with
  | none => exact absurd h ((search_eq_none_iff hline).mp hsearch i j)
  | some m =>
    obtain ⟨i', j', rfl, hoccurs, hfirst, hlast⟩ := (search_eq_some_iff hline).mp hsearch
    refine ⟨_, rfl, ?_⟩
    rw [start_occurrenceBetween hoccurs.1 hoccurs.2.1, stop_occurrenceBetween hoccurs.1 hoccurs.2.1]
    exact ⟨hfirst i j h, fun heq => hlast j (heq ▸ h)⟩

theorem Options.span_search_eq_some_iff (hline : o.wholeLine = false) {i j : Nat} :
    ((o.pattern word).search text).map Occurrence.span = some (i, j) ↔
      o.Occurs word text i j ∧ (∀ i' j', o.Occurs word text i' j' → i ≤ i') ∧
        ∀ k, o.Occurs word text i k → k ≤ j := by
  simp only [Option.map_eq_some_iff, search_eq_some_iff hline]
  constructor
  · rintro ⟨m, ⟨i', j', rfl, hoccurs, hfirst, hlast⟩, hspan⟩
    rw [span_occurrenceBetween hoccurs.1 hoccurs.2.1] at hspan
    obtain ⟨rfl, rfl⟩ := Prod.mk.inj hspan
    exact ⟨hoccurs, hfirst, hlast⟩
  · rintro ⟨hoccurs, hfirst, hlast⟩
    exact ⟨_, ⟨i, j, rfl, hoccurs, hfirst, hlast⟩, span_occurrenceBetween hoccurs.1 hoccurs.2.1⟩

/-- Where a match starts and ends depends only on where texts of the word stand. -/
theorem Options.span_search_congr {o' : Options} {word' text' : List Char}
    (hline : o.wholeLine = false) (hline' : o'.wholeLine = false)
    (h : ∀ i j, o.Occurs word text i j ↔ o'.Occurs word' text' i j) :
    ((o.pattern word).search text).map Occurrence.span =
      ((o'.pattern word').search text').map Occurrence.span := by
  apply Option.ext
  rintro ⟨i, j⟩
  simp only [span_search_eq_some_iff hline, span_search_eq_some_iff hline', h]

theorem Options.exists_occurs_iff :
    (∃ i j, o.Occurs word text i j) ↔
      ∃ w, w <:+: text ∧ Interspersed o.ignore (o.places word) w := by
  constructor
  · rintro ⟨i, j, hij, -, hw⟩
    refine ⟨text.extract i j, ⟨text.take i, text.drop j, ?_⟩, hw⟩
    rw [List.append_assoc, ← drop_eq_extract_append hij, List.take_append_drop]
  · rintro ⟨w, ⟨before, after, rfl⟩, hw⟩
    have hdrop : (before ++ w ++ after).drop before.length = w ++ after := by
      rw [List.append_assoc, List.drop_left]
    obtain ⟨hj, hextract, -⟩ := between_of_drop (by simp) hdrop
    exact ⟨before.length, before.length + w.length, Nat.le_add_right _ _, hj, by rwa [hextract]⟩

theorem Options.search_isSome_iff (hline : o.wholeLine = false) :
    ((o.pattern word).search text).isSome ↔
      ∃ w, w <:+: text ∧ Interspersed o.ignore (o.places word) w := by
  rw [← o.exists_occurs_iff, ← Option.ne_none_iff_isSome, ne_eq, search_eq_none_iff hline]
  simp only [Classical.not_forall, Classical.not_not]

/-- A parenthesis around a pattern changes nothing about what is found. -/
theorem WordPattern.search_capture (p : WordPattern) (capture : Bool) (text : List Char) :
    { p with capture }.search text = p.search text := by
  rw [WordPattern.search_eq_findSome?, WordPattern.search_eq_findSome?]
  rfl

/-- What a search by the text of a word's pattern comes to, as long as it is not confined to whole
lines. It fails only where no text of the word stands anywhere. Otherwise its match starts at the
first position where one stands and reaches to the last position where one from there ends. With a
parenthesis the match is the same, and the group that is reported is all of it. -/
theorem Options.search_leftmost_longest (o : Options) (hline : o.wholeLine = false)
    (word text : List Char) :
    ∃ found, searchBy? (o.pattern word).text text = some found ∧
      (found = none ↔ ∀ i j, ¬ o.Occurs word text i j) ∧
      (∀ m group, found = some (m, group) →
        m = occurrenceBetween text m.start m.stop ∧ o.Occurs word text m.start m.stop ∧
        (∀ i j, o.Occurs word text i j → m.start ≤ i) ∧
        (∀ j, o.Occurs word text m.start j → j ≤ m.stop) ∧
        group = if o.capture then some m.found else none) ∧
      searchBy? ({ o with capture := true }.pattern word).text text =
        some (found.map fun (m, _) => (m, some m.found)) := by
  refine ⟨_, (o.pattern word).searchBy?_text text, ?_, fun m group hm => ?_, ?_⟩
  · rw [Option.map_eq_none_iff]
    exact search_eq_none_iff hline
  · obtain ⟨m', hm', heq⟩ := Option.map_eq_some_iff.mp hm
    obtain ⟨rfl, rfl⟩ := Prod.mk.inj heq
    obtain ⟨i, j, rfl, hoccurs, hfirst, hmax⟩ := (search_eq_some_iff hline).mp hm'
    have hstart := start_occurrenceBetween hoccurs.1 hoccurs.2.1
    have hstop := stop_occurrenceBetween hoccurs.1 hoccurs.2.1
    rw [hstart, hstop]
    exact ⟨rfl, hoccurs, hfirst, hmax, rfl⟩
  · have hcapture := (o.pattern word).search_capture true text
    rw [WordPattern.searchBy?_text, Option.map_map]
    exact congrArg (fun found => some (Option.map _ found)) hcapture

/-- The letter `a` may be ignored and is one with `b`, and the dot may be ignored too, so `a` is
wanted twice; the search for `ab` gives back what its runs took first, and takes the whole middle of
the text. -/
theorem search_ab_leftmost_longest :
    let o : Options := { equivalent := [['a', 'b']], ignore := ['a', '.'] }
    let text := ['x', 'a', 'a', '.', 'b', 'a', 'y']
    o.wholeLine = false ∧
      (o.pattern ['a', 'b']).text = "(?:a|\\.)*(?:a|b)(?:a|\\.)*(?:a|b)(?:a|\\.)*".toList ∧
      searchBy? (o.pattern ['a', 'b']).text text = some (some (occurrenceBetween text 1 6, none)) ∧
      o.Occurs ['a', 'b'] text 1 6 ∧ (∀ i j, o.Occurs ['a', 'b'] text i j → 1 ≤ i) ∧
      (∀ j, o.Occurs ['a', 'b'] text 1 j → j ≤ 6) ∧
      searchBy? ({ o with capture := true }.pattern ['a', 'b']).text text =
        some (some (occurrenceBetween text 1 6, some ['a', 'a', '.', 'b', 'a'])) := by
  intro o text
  obtain ⟨found, hfound, -, hsome, hcapture⟩ :=
    Options.search_leftmost_longest o rfl ['a', 'b'] text
  have hsearch : searchBy? (o.pattern ['a', 'b']).text text =
      some (some (occurrenceBetween text 1 6, none)) := by
    decide +kernel
  obtain rfl := Option.some.inj (hfound.symm.trans hsearch)
  obtain ⟨-, hoccurs, hfirst, hlast, -⟩ := hsome _ _ rfl
  exact ⟨rfl, rfl, hsearch, hoccurs, hfirst, hlast, hcapture⟩

end Concordance.Pattern
