import Concordance.Proofs.Pattern.Leftmost

/-! Searches for patterns of any groups: literals of any length, the empty one among them, and any
quantifiers. A search misses nothing, because no way through a pattern needs a round of a repetition
that takes nothing. -/

namespace Concordance.Pattern

section Completeness

variable {β : Type} {literals : List Literal} {rest : List Char} {next : List Char → Option β}

theorem matchOne_isSome {t : Literal} (ht : t ∈ literals) (hnext : (next rest).isSome) :
    (matchOne literals (t ++ rest) next).isSome := by
  have hstrip : stripLiteral? t (t ++ rest) = some rest := stripLiteral?_eq_some_iff.mpr rfl
  rw [matchOne, List.findSome?_isSome_iff]
  exact ⟨t, ht, by rwa [hstrip]⟩

private theorem matchMany_isSome_of_next {s : List Char} (hnext : (next s).isSome) :
    (matchMany literals s next).isSome := by
  rw [matchMany_eq, Option.orElse_eq_orElse, Option.orElse_eq_or, Option.isSome_or, hnext,
    Bool.or_true]

private theorem matchMany_isSome_of_round {t : Literal} {s : List Char} (ht : t ∈ literals)
    (hne : t ≠ []) (hs : (matchMany literals s next).isSome) :
    (matchMany literals (t ++ s) next).isSome := by
  have hstrip : stripLiteral? t (t ++ s) = some s := stripLiteral?_eq_some_iff.mpr rfl
  rw [matchMany_eq, Option.orElse_eq_orElse, Option.orElse_eq_or, Option.isSome_or, Bool.or_eq_true,
    List.findSome?_isSome_iff]
  refine .inl ⟨t, ht, ?_⟩
  rwa [hstrip, Option.bind_some, if_neg hne]

theorem matchMany_isSome {ts : List Literal} (hts : ∀ t ∈ ts, t ∈ literals)
    (hnext : (next rest).isSome) : (matchMany literals (ts.flatten ++ rest) next).isSome := by
  induction ts with
  | nil => exact matchMany_isSome_of_next hnext
  | cons t ts ih =>
    obtain ⟨ht, hts⟩ := List.forall_mem_cons.mp hts
    rw [List.flatten_cons, List.append_assoc]
    -- An empty round is left out: the way without it takes the same.
    by_cases hne : t = []
    · rw [hne]
      exact ih hts
    · exact matchMany_isSome_of_round ht hne (ih hts)

theorem Group.run_isSome {g : Group} {w : List Char} (hw : g.Accepts w)
    (hnext : (next rest).isSome) : (g.run (w ++ rest) next).isSome := by
  unfold Group.Accepts at hw
  unfold Group.run
  cases hq : g.quantifier with
  | once =>
    rw [hq] at hw
    exact matchOne_isSome hw hnext
  | many =>
    rw [hq] at hw
    obtain ⟨ts, hts, rfl⟩ := hw
    exact matchMany_isSome hts hnext
  | atMostOnce =>
    rw [hq] at hw
    rw [Option.orElse_eq_orElse, Option.orElse_eq_or, Option.isSome_or, Bool.or_eq_true]
    rcases hw with rfl | hw
    · exact .inr hnext
    · exact .inl (matchOne_isSome hw hnext)

theorem runAll_isSome {gs : List Group} {w : List Char} (hw : Spells gs w)
    (hnext : (next rest).isSome) : (runAll gs (w ++ rest) next).isSome := by
  induction hw with
  | nil => exact hnext
  | cons hw _ ih =>
    rw [List.append_assoc]
    exact Group.run_isSome hw ih

end Completeness

section Threads

theorem spells_append_iff {gs hs : List Group} {w : List Char} :
    Spells (gs ++ hs) w ↔ ∃ u v, w = u ++ v ∧ Spells gs u ∧ Spells hs v := by
  induction gs generalizing w with
  | nil =>
    constructor
    · exact fun h => ⟨[], w, rfl, .nil, h⟩
    · rintro ⟨u, v, rfl, hu, hv⟩
      cases hu
      exact hv
  | cons g gs ih =>
    constructor
    · intro h
      cases h with
      | cons hg h =>
        obtain ⟨u, v, rfl, hu, hv⟩ := ih.mp h
        exact ⟨_, v, (List.append_assoc ..).symm, .cons hg hu, hv⟩
    · rintro ⟨u, v, rfl, hu, hv⟩
      cases hu with
      | cons hg hu =>
        rw [List.append_assoc]
        exact .cons hg (ih.mpr ⟨_, v, rfl, hu, hv⟩)

theorem spells_nil_iff {w : List Char} : Spells [] w ↔ w = [] := by
  constructor
  · intro h
    cases h
    rfl
  · rintro rfl
    exact .nil

theorem spells_singleton_iff {g : Group} {w : List Char} : Spells [g] w ↔ g.Accepts w := by
  constructor
  · intro h
    cases h with
    | cons hg hnil =>
      cases hnil
      rwa [List.append_nil]
  · intro hg
    rw [← List.append_nil w]
    exact .cons hg .nil

/-- Texts of groups, one of each in order, with a run before each and behind the last. -/
inductive Threaded (run : List Char → Prop) : List Group → List Char → Prop where
  | last {r : List Char} : run r → Threaded run [] r
  | cons {r w s : List Char} {g : Group} {gs : List Group} :
    run r → g.Accepts w → Threaded run gs s → Threaded run (g :: gs) (r ++ w ++ s)

/-- Any number of ignorable literals in a row. -/
def WordPattern.IsRun (p : WordPattern) (r : List Char) : Prop :=
  ∃ ts : List Literal, (∀ t ∈ ts, ∃ g, p.ignore = some g ∧ t ∈ g.tokens) ∧ r = ts.flatten

variable {p : WordPattern} {text : List Char} {i j : Nat}

theorem WordPattern.IsRun.append {r s : List Char} (hr : p.IsRun r) (hs : p.IsRun s) :
    p.IsRun (r ++ s) := by
  obtain ⟨ts, hts, rfl⟩ := hr
  obtain ⟨us, hus, rfl⟩ := hs
  refine ⟨ts ++ us, fun t ht => ?_, (List.flatten_append ..).symm⟩
  exact (List.mem_append.mp ht).elim (hts t) (hus t)

theorem WordPattern.isRun_nil (p : WordPattern) : p.IsRun [] := ⟨[], by simp, rfl⟩

theorem WordPattern.spells_gap_iff {r : List Char} : Spells p.gap r ↔ p.IsRun r := by
  have hnone (hgap : p.gap = []) (hno : ∀ g, p.ignore = some g → g.tokens = []) :
      Spells p.gap r ↔ p.IsRun r := by
    rw [hgap, spells_nil_iff]
    constructor
    · rintro rfl
      exact p.isRun_nil
    · rintro ⟨ts, hts, rfl⟩
      cases ts with
      | nil => rfl
      | cons t ts =>
        obtain ⟨g, hg, ht⟩ := hts t List.mem_cons_self
        rw [hno g hg] at ht
        cases ht
  cases hi : p.ignore with
  | none => exact hnone (by simp [gap, hi]) (by simp [hi])
  | some g =>
    by_cases hg : g.tokens = []
    · exact hnone (by simp [gap, hi, hg]) (by simp [hi, hg])
    · have hgap : p.gap = [{ g with quantifier := .many }] := by simp [gap, hi, hg]
      have hliterals : ({ g with quantifier := .many } : Group).literals = g.tokens := by
        simp [Group.literals, hg]
      simp only [hgap, spells_singleton_iff, Group.Accepts, hliterals, IsRun, hi, Option.some.injEq,
        exists_eq_left']

private theorem threaded_cons_iff {g : Group} {gs rest : List Group} {w : List Char}
    (hrest : ∀ s, Spells rest s ↔ Threaded p.IsRun gs s) :
    Spells (p.gap ++ g :: rest) w ↔ Threaded p.IsRun (g :: gs) w := by
  rw [spells_append_iff]
  constructor
  · rintro ⟨r, v, rfl, hr, hv⟩
    cases hv with
    | cons hg hs =>
      rw [← List.append_assoc]
      exact .cons (p.spells_gap_iff.mp hr) hg ((hrest _).mp hs)
  · intro h
    cases h with
    | cons hr hg hs =>
      exact ⟨_, _, List.append_assoc .., p.spells_gap_iff.mpr hr, .cons hg ((hrest _).mpr hs)⟩

/-- What the parts of a pattern spell one after another. -/
theorem WordPattern.accepts_iff {w : List Char} : p.Accepts w ↔ Threaded p.IsRun p.groups w := by
  unfold WordPattern.Accepts WordPattern.parts
  induction p.groups generalizing w with
  | nil =>
    rw [joinGroups, List.append_nil, spells_append_iff]
    constructor
    · rintro ⟨r, s, rfl, hr, hs⟩
      exact .last ((p.spells_gap_iff.mp hr).append (p.spells_gap_iff.mp hs))
    · intro h
      cases h with
      | last hr =>
        have hnil := p.spells_gap_iff.mpr p.isRun_nil
        exact ⟨w, [], (List.append_nil w).symm, p.spells_gap_iff.mpr hr, hnil⟩
  | cons g gs ih =>
    cases gs with
    | nil =>
      have hlast (s : List Char) : Spells p.gap s ↔ Threaded p.IsRun [] s := by
        rw [p.spells_gap_iff]
        constructor
        · exact .last
        · intro h
          cases h with
          | last hr => exact hr
      rw [joinGroups, List.append_assoc]
      exact threaded_cons_iff hlast
    | cons h gs =>
      have hsplit : p.gap ++ joinGroups p.gap (g :: h :: gs) ++ p.gap =
          p.gap ++ g :: (p.gap ++ joinGroups p.gap (h :: gs) ++ p.gap) := by
        simp [joinGroups]
      rw [hsplit]
      exact threaded_cons_iff fun s => ih

end Threads

section Searches

variable {p : WordPattern} {text : List Char} {i : Nat}

/-- A text of the pattern stands in `text` from position `i` up to position `j`. -/
def WordPattern.Stands (p : WordPattern) (text : List Char) (i j : Nat) : Prop :=
  i ≤ j ∧ j ≤ text.length ∧ Threaded p.IsRun p.groups (text.extract i j)

theorem WordPattern.matchAt_eq (hline : p.wholeLine = false) (atStart : Bool) (s : List Char) :
    p.matchAt atStart s = runAll p.parts s some := by
  simp [matchAt, hline]

theorem WordPattern.stands_of_occurrenceAt (hi : i ≤ text.length) {m : Occurrence}
    (h : p.occurrenceAt text i = some m) :
    ∃ j, m = occurrenceBetween text i j ∧ p.Stands text i j := by
  obtain ⟨rest, hrest, rfl⟩ := Option.map_eq_some_iff.mp h
  obtain ⟨w, hw, hs⟩ := WordPattern.exists_of_matchAt_eq_some hrest
  obtain ⟨hj, hextract, hdrop⟩ := between_of_drop hi hs
  refine ⟨i + w.length, ?_, Nat.le_add_right i w.length, hj, ?_⟩
  · simp [occurrenceBetween, hs, hdrop]
  · rw [hextract]
    exact WordPattern.accepts_iff.mp hw

theorem WordPattern.occurrenceAt_isSome_of_stands (hline : p.wholeLine = false) {j : Nat}
    (h : p.Stands text i j) : (p.occurrenceAt text i).isSome := by
  obtain ⟨hij, -, hw⟩ := h
  rw [occurrenceAt, Option.isSome_map, matchAt_eq hline, drop_eq_extract_append hij]
  exact runAll_isSome (WordPattern.accepts_iff.mpr hw) rfl

private theorem search_isSome_iff_stands (hline : p.wholeLine = false) :
    (p.search text).isSome ↔ ∃ i j, p.Stands text i j := by
  rw [WordPattern.search_eq_findSome?, List.findSome?_isSome_iff]
  constructor
  · rintro ⟨i, hi, hsome⟩
    have hi : i ≤ text.length := Nat.le_of_lt_succ (List.mem_range.mp hi)
    obtain ⟨m, hm⟩ := Option.isSome_iff_exists.mp hsome
    obtain ⟨j, -, hstands⟩ := WordPattern.stands_of_occurrenceAt hi hm
    exact ⟨i, j, hstands⟩
  · rintro ⟨i, j, h⟩
    have hi : i < text.length + 1 := Nat.lt_succ_of_le (Nat.le_trans h.1 h.2.1)
    exact ⟨i, List.mem_range.mpr hi, WordPattern.occurrenceAt_isSome_of_stands hline h⟩

private theorem first_of_search (hline : p.wholeLine = false) {m : Occurrence}
    (hm : p.search text = some m) :
    m = occurrenceBetween text m.start m.stop ∧ p.Stands text m.start m.stop ∧
      ∀ i j, p.Stands text i j → m.start ≤ i := by
  rw [WordPattern.search_eq_findSome?] at hm
  obtain ⟨i, hi, hat, hfirst⟩ := findSome?_range_eq_some.mp hm
  obtain ⟨j, rfl, hstands⟩ := WordPattern.stands_of_occurrenceAt (Nat.le_of_lt_succ hi) hat
  rw [start_occurrenceBetween hstands.1 hstands.2.1, stop_occurrenceBetween hstands.1 hstands.2.1]
  refine ⟨rfl, hstands, fun i' j' h' => Nat.le_of_not_lt fun hlt => ?_⟩
  have hsome := WordPattern.occurrenceAt_isSome_of_stands hline h'
  rw [hfirst i' hlt] at hsome
  cases hsome

/-- What a search by the text of a pattern comes to, for a pattern of any groups that is not
confined to whole lines. It finds something exactly where some part of the text is one of the texts
of the groups, one after another, with a run of ignorable literals before each and behind the last.
The match is such a part, and none starts before it. -/
theorem WordPattern.search_leftmost (p : WordPattern) (hline : p.wholeLine = false)
    (text : List Char) :
    ∃ found, searchBy? p.text text = some found ∧
      (found.isSome ↔ ∃ i j, p.Stands text i j) ∧
      ∀ m group, found = some (m, group) →
        m = occurrenceBetween text m.start m.stop ∧ p.Stands text m.start m.stop ∧
        ∀ i j, p.Stands text i j → m.start ≤ i := by
  refine ⟨_, p.searchBy?_text text, ?_, fun m group hm => ?_⟩
  · rw [Option.isSome_map]
    exact search_isSome_iff_stands hline
  · obtain ⟨m', hm', heq⟩ := Option.map_eq_some_iff.mp hm
    obtain ⟨rfl, -⟩ := Prod.mk.inj heq
    exact first_of_search hline hm'

/-- A repeated group whose first literal is empty, a group without literals, and one that may be
left out. The repetition would take nothing at first; the search comes back to it for `ab` and
`a`. -/
theorem search_leftmost_emptyRounds :
    let p : WordPattern :=
      { groups := [⟨[[], ['a'], ['a', 'b']], .many⟩, ⟨[], .once⟩, ⟨[['b']], .atMostOnce⟩,
          ⟨[['c']], .once⟩]
        ignore := some ⟨[['-'], []], .once⟩ }
    let text := ['x', 'a', 'b', 'a', '-', 'b', 'c', 'y']
    p.wholeLine = false ∧
      p.text = "(?:\\-|)*(?:|a|ab)*(?:\\-|)*(?:)(?:\\-|)*(?:b)?(?:\\-|)*(?:c)(?:\\-|)*".toList ∧
      searchBy? p.text text = some (some (occurrenceBetween text 1 7, none)) ∧
      p.Stands text 1 7 ∧ ∀ i j, p.Stands text i j → 1 ≤ i := by
  intro p text
  obtain ⟨found, hfound, -, hmatch⟩ := p.search_leftmost rfl text
  have hsearch : searchBy? p.text text = some (some (occurrenceBetween text 1 7, none)) := by
    decide +kernel
  obtain rfl := Option.some.inj (hfound.symm.trans hsearch)
  obtain ⟨-, hstands, hfirst⟩ := hmatch _ _ rfl
  exact ⟨rfl, rfl, hsearch, hstands, hfirst⟩

end Searches

end Concordance.Pattern
