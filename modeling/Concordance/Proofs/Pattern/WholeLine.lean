import Concordance.Proofs.Pattern.Leftmost

/-! Searches that are confined to whole lines: the lines on which a word is found, and what the
match takes of them. -/

namespace Concordance.Pattern

variable {o : Options} {word text : List Char}

private theorem search_eq_front (hline : o.wholeLine = true) :
    (o.pattern word).search text =
      (interweave o.ignore (o.places word) text (Option.guard endsLine)).map fun rest =>
        ⟨[], text.take (text.length - rest.length), rest⟩ := by
  have hprecede : o.mayPrecede = endsLine := by
    funext rest
    simp [Options.mayPrecede, hline]
  have hfront : (o.pattern word).occurrenceAt text 0 =
      (interweave o.ignore (o.places word) text (Option.guard endsLine)).map fun rest =>
        ⟨[], text.take (text.length - rest.length), rest⟩ := by
    simp [WordPattern.occurrenceAt, o.matchAt_pattern, hprecede]
  have hlater (i : Nat) : (o.pattern word).occurrenceAt text (i + 1) = none := by
    simp [WordPattern.occurrenceAt, o.matchAt_pattern, hline]
  rw [WordPattern.search_eq_findSome?, List.range_succ_eq_map, List.findSome?_cons, hfront,
    List.findSome?_map]
  cases interweave o.ignore (o.places word) text (Option.guard endsLine) with
  | some rest => rfl
  | none => simp [hlater]

/-- A line that matches is a text of the word, with nothing behind it but the line feed that may end
the line. -/
theorem Options.search_isSome_iff_of_wholeLine (hline : o.wholeLine = true) :
    ((o.pattern word).search text).isSome ↔
      ∃ w rest, text = w ++ rest ∧ Interspersed o.ignore (o.places word) w ∧ endsLine rest := by
  rw [search_eq_front hline, Option.isSome_map, interweave_guard_isSome_iff]

/-- A line feed at the end is taken if it can be, because the search takes as much as it can. -/
theorem Options.search_eq_some_iff_of_wholeLine (hline : o.wholeLine = true) {m : Occurrence} :
    (o.pattern word).search text = some m ↔
      (Interspersed o.ignore (o.places word) text ∧ m = occurrenceBetween text 0 text.length) ∨
      ¬ Interspersed o.ignore (o.places word) text ∧
        ∃ s, text = s ++ ['\n'] ∧ Interspersed o.ignore (o.places word) s ∧
          m = occurrenceBetween text 0 s.length := by
  simp only [search_eq_front hline, Option.map_eq_some_iff, interweave_guard_eq_some_iff,
    endsLine_iff]
  constructor
  · rintro ⟨rest, ⟨w, rfl, hw, hrest, hmax⟩, rfl⟩
    rcases hrest with rfl | rfl
    · left
      rw [List.append_nil]
      exact ⟨hw, by simp [occurrenceBetween]⟩
    · right
      refine ⟨fun hall => ?_, w, rfl, hw, by simp [occurrenceBetween]⟩
      have hle := hmax _ [] (List.append_nil _).symm hall (.inl rfl)
      rw [List.length_append] at hle
      exact Nat.not_succ_le_self w.length hle
  · rintro (⟨hall, rfl⟩ | ⟨hnot, s, rfl, hs, rfl⟩)
    · refine ⟨[], ⟨text, (List.append_nil text).symm, hall, .inl rfl, fun w rest h _ _ => ?_⟩, ?_⟩
      · simp [h]
      · simp [occurrenceBetween]
    · refine ⟨['\n'], ⟨s, rfl, hs, .inr rfl, fun w rest h hw hrest => ?_⟩, ?_⟩
      · rcases hrest with rfl | rfl
        · rw [List.append_nil] at h
          exact absurd (h ▸ hw) hnot
        · exact Nat.le_of_eq (congrArg List.length (List.append_cancel_right h).symm)
      · simp [occurrenceBetween]

/-- What a search for whole lines comes to. It finds the word exactly if all of the text is a text
of the word, or all of it but one line feed at its end. The match is then all of the text, or all
but that line feed where the text is none of the word with it; it never starts or ends elsewhere, so
no inner line is ever reported. -/
theorem Options.search_whole_line (o : Options) (hline : o.wholeLine = true)
    (word text : List Char) :
    (((o.pattern word).search text).isSome ↔ Interspersed o.ignore (o.places word) text ∨
      ∃ s, text = s ++ ['\n'] ∧ Interspersed o.ignore (o.places word) s) ∧
    (Interspersed o.ignore (o.places word) text →
      (o.pattern word).search text = some (occurrenceBetween text 0 text.length)) ∧
    (∀ s, text = s ++ ['\n'] → Interspersed o.ignore (o.places word) s →
      ¬ Interspersed o.ignore (o.places word) text →
      (o.pattern word).search text = some (occurrenceBetween text 0 s.length)) ∧
    ∀ m, (o.pattern word).search text = some m →
      m.start = 0 ∧ (m.stop = text.length ∨ m.stop + 1 = text.length ∧ m.after = ['\n']) := by
  refine ⟨?_, fun hall => ?_, fun s htext hs hnot => ?_, fun m hm => ?_⟩
  · rw [search_isSome_iff_of_wholeLine hline]
    constructor
    · rintro ⟨w, rest, rfl, hw, hrest⟩
      rcases endsLine_iff.mp hrest with rfl | rfl
      · rw [List.append_nil]
        exact .inl hw
      · exact .inr ⟨w, rfl, hw⟩
    · rintro (hall | ⟨s, htext, hs⟩)
      · exact ⟨text, [], (List.append_nil text).symm, hall, rfl⟩
      · exact ⟨s, ['\n'], htext, hs, rfl⟩
  · exact (search_eq_some_iff_of_wholeLine hline).mpr (.inl ⟨hall, rfl⟩)
  · exact (search_eq_some_iff_of_wholeLine hline).mpr (.inr ⟨hnot, s, htext, hs, rfl⟩)
  · rcases (search_eq_some_iff_of_wholeLine hline).mp hm with ⟨-, rfl⟩ | ⟨-, s, rfl, -, rfl⟩
    · exact ⟨rfl, .inl (stop_occurrenceBetween (Nat.zero_le _) (Nat.le_refl _))⟩
    · have hle : s.length ≤ (s ++ ['\n']).length := by simp
      have hstop := stop_occurrenceBetween (Nat.zero_le _) hle
      exact ⟨rfl, .inr ⟨by rw [hstop, List.length_append]; rfl, List.drop_left⟩⟩

/-- The line feed behind `ab` is left out of the match, unless it may be ignored. In the second line
of a text `ab` is not found. -/
theorem search_whole_line_feeds :
    let o : Options := { wholeLine := true }
    let feeds : Options := { ignore := ['\n'], wholeLine := true }
    let word := ['a', 'b']
    let text := ['a', 'b', '\n']
    let inner := ['x', '\n', 'a', 'b']
    (o.wholeLine = true ∧ Interspersed o.ignore (o.places word) word ∧
        ¬ Interspersed o.ignore (o.places word) text ∧
        (o.pattern word).search text = some (occurrenceBetween text 0 2)) ∧
      (feeds.wholeLine = true ∧ Interspersed feeds.ignore (feeds.places word) text ∧
        (feeds.pattern word).search text = some (occurrenceBetween text 0 3)) ∧
      (o.pattern word).search inner = none ∧ ¬ Interspersed o.ignore (o.places word) inner := by
  intro o feeds word text inner
  have hword : Interspersed o.ignore (o.places word) word :=
    .take (by decide) (.take (by decide) .nil)
  have htext : Interspersed feeds.ignore (feeds.places word) text :=
    .take (by decide) (.take (by decide) (.skip (by decide) .nil))
  have hshort : (o.pattern word).search text = some (occurrenceBetween text 0 2) := by
    decide +kernel
  have hnone : (o.pattern word).search inner = none := by decide +kernel
  obtain ⟨-, hall, hfeed, -⟩ := o.search_whole_line rfl word text
  have hnot : ¬ Interspersed o.ignore (o.places word) text := fun h => by
    have hlong := hshort.symm.trans (hall h)
    revert hlong
    decide
  obtain ⟨-, hfeeds, -⟩ := feeds.search_whole_line rfl word text
  obtain ⟨hinner, -⟩ := o.search_whole_line rfl word inner
  rw [hnone] at hinner
  exact ⟨⟨rfl, hword, hnot, hfeed word rfl hword hnot⟩, ⟨rfl, htext, hfeeds htext⟩, hnone,
    fun h => nomatch hinner.mpr (.inl h)⟩

end Concordance.Pattern
