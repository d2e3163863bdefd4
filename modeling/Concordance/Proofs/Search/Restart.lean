import Concordance.Proofs.Search.WholeWord

/-! The search for a whole word begins again behind each start it rejects. Which starts it rejects
on the way, and where it ends up. -/

namespace Concordance.Search

open Pattern (Interspersed Occurrence Options WordPattern occurrenceBetween)
open Store (WordOptions)

/-- The course of a search behind `before`: the matches it rejects one after the other, and its
answer. A rejected match is followed by a search one character behind its start. -/
inductive Passes (p : WordPattern) :
    List Char → List Char → List Occurrence → Option Occurrence → Prop where
  | absent {before s : List Char} : p.searchFrom before s = none → Passes p before s [] none
  | alone {before s : List Char} {m : Occurrence} :
    p.searchFrom before s = some m → standsAlone m = true → Passes p before s [] (some m)
  | rejected {before s rest : List Char} {c : Char} {m : Occurrence} {ms : List Occurrence}
      {answer : Option Occurrence} :
    p.searchFrom before s = some m → standsAlone m = false → m.found ++ m.after = c :: rest →
      Passes p (c :: m.before) rest ms answer → Passes p before s (m :: ms) answer

section Courses

variable {p : WordPattern} {before s : List Char} {ms : List Occurrence}
  {answer : Option Occurrence}

/-- A search whose matches take something has a course, and answers what the course does. -/
theorem passes_searchWholeFrom (hp : ∀ {before s m}, p.searchFrom before s = some m → m.found ≠ [])
    (before s : List Char) : ∃ ms, Passes p before s ms (searchWholeFrom p before s) := by
  fun_induction searchWholeFrom p before s with
  | case1 before s h => exact ⟨[], .absent h⟩
  | case2 before s m h halone => exact ⟨[], .alone h halone⟩
  | case3 before s m h halone hend =>
    exact absurd (List.append_eq_nil_iff.mp hend).1 (hp h)
  | case4 before s m h halone c rest hrest ih =>
    obtain ⟨ms, hms⟩ := ih
    exact ⟨m :: ms, .rejected h (Bool.eq_false_iff.mpr halone) hrest hms⟩

theorem Passes.unique {ms' : List Occurrence} {answer' : Option Occurrence}
    (h : Passes p before s ms answer) (h' : Passes p before s ms' answer') :
    ms' = ms ∧ answer' = answer := by
  induction h generalizing ms' answer' with
  | absent hnone =>
    cases h' with
    | absent => exact ⟨rfl, rfl⟩
    | alone hsome | rejected hsome => simp [hnone] at hsome
  | alone hsome halone =>
    cases h' with
    | absent hnone => simp [hsome] at hnone
    | alone hsome' => exact ⟨rfl, hsome'.symm.trans hsome⟩
    | rejected hsome' halone' =>
      obtain rfl := Option.some.inj (hsome.symm.trans hsome')
      simp [halone] at halone'
  | rejected hsome halone hrest _ ih =>
    cases h' with
    | absent hnone => simp [hsome] at hnone
    | alone hsome' halone' =>
      obtain rfl := Option.some.inj (hsome.symm.trans hsome')
      simp [halone] at halone'
    | rejected hsome' _ hrest' hpasses' =>
      obtain rfl := Option.some.inj (hsome.symm.trans hsome')
      obtain ⟨rfl, rfl⟩ := List.cons.inj (hrest.symm.trans hrest')
      obtain ⟨rfl, rfl⟩ := ih hpasses'
      exact ⟨rfl, rfl⟩

/-- A course rejects nothing that starts before it begins, and every later start it rejects lies
behind the earlier ones. -/
theorem Passes.starts (h : Passes p before s ms answer) :
    (ms.map Occurrence.start).Pairwise (· < ·) ∧
      (∀ m ∈ ms, before.length ≤ m.start) ∧ ∀ m, answer = some m → before.length ≤ m.start := by
  induction h with
  | absent => simp
  | alone hsome =>
    have hle := (WordPattern.first_of_searchFrom_eq_some hsome).1
    simpa using hle
  | @rejected before s rest c m ms answer hsome halone hrest hpasses ih =>
    have hle := (WordPattern.first_of_searchFrom_eq_some hsome).1
    obtain ⟨hsorted, hstarts, hanswer⟩ := ih
    have hlater : (c :: m.before).length = m.start + 1 := rfl
    rw [hlater] at hstarts hanswer
    refine ⟨?_, ?_, fun m' hm' => ?_⟩
    · rw [List.map_cons, List.pairwise_cons]
      refine ⟨fun i hi => ?_, hsorted⟩
      obtain ⟨m', hm', rfl⟩ := List.mem_map.mp hi
      exact hstarts m' hm'
    · intro m' hm'
      rcases List.mem_cons.mp hm' with rfl | hm'
      · exact hle
      · have := hstarts m' hm'
        omega
    · have := hanswer m' hm'
      omega

/-- A course rejects every position with a match that stands before its answer, and no other. -/
theorem Passes.mem_starts (h : Passes p before s ms answer) (i : Nat) :
    i ∈ ms.map Occurrence.start ↔
      before.length ≤ i ∧ i ≤ before.length + s.length ∧
        (p.occurrenceAt (before.reverse ++ s) i).isSome ∧ ∀ m, answer = some m → i < m.start := by
  induction h with
  | absent hnone =>
    rw [WordPattern.searchFrom_eq_findSome?, List.findSome?_eq_none_iff] at hnone
    simp only [List.map_nil, List.not_mem_nil, false_iff]
    rintro ⟨hi, hin, hat, -⟩
    rw [hnone i (List.mem_range'_1.mpr ⟨hi, by omega⟩)] at hat
    cases hat
  | alone hsome =>
    obtain ⟨-, -, -, hfirst⟩ := WordPattern.first_of_searchFrom_eq_some hsome
    simp only [List.map_nil, List.not_mem_nil, false_iff]
    rintro ⟨hi, -, hat, hlt⟩
    rw [hfirst i hi (hlt _ rfl)] at hat
    cases hat
  | @rejected before s rest c m ms answer hsome halone hrest hpasses ih =>
    obtain ⟨hstart, hstop, hm, hfirst⟩ := WordPattern.first_of_searchFrom_eq_some hsome
    have htext := WordPattern.restart_append hsome hrest
    have hlater : (c :: m.before).length = m.start + 1 := rfl
    have hlen := congrArg List.length htext
    simp only [List.length_append, List.length_reverse, hlater] at hlen
    rw [List.map_cons, List.mem_cons, ih, htext, hlater, hlen]
    -- Before the rejected start no position has a match; those behind it are left to the rest.
    constructor
    · rintro (rfl | ⟨hi, hin, hat, hlt⟩)
      · exact ⟨hstart, hstop, by rw [hm]; rfl, fun m' hm' => hpasses.starts.2.2 m' hm'⟩
      · exact ⟨by omega, hin, hat, hlt⟩
    · rintro ⟨hi, hin, hat, hlt⟩
      rcases Nat.lt_trichotomy i m.start with hbefore | rfl | hbehind
      · rw [hfirst i hi hbefore] at hat
        cases hat
      · exact Or.inl rfl
      · exact Or.inr ⟨hbehind, hin, hat, hlt⟩

end Courses

section Words

variable {o : WordOptions} {word text : List Char}

theorem find_whole_eq_some_iff {m : Occurrence} :
    find true (localPattern o word) text = some m ↔
      ∃ i j, m = occurrenceBetween text i j ∧ CountsAsWhole o word text i j ∧
        IsLongest o word text i j ∧
        ∀ i' j', CountsAsWhole o word text i' j' → IsLongest o word text i' j' → i ≤ i' := by
  rw [find_whole_eq_findSome?, Pattern.findSome?_range_eq_some]
  constructor
  · rintro ⟨i, hi, hm, hfirst⟩
    obtain ⟨j, rfl, hcounts, hmax⟩ := (filter_occurrenceAt_eq_some_iff (by omega)).mp hm
    refine ⟨i, j, rfl, hcounts, hmax, fun i' j' hcounts' hmax' => Nat.le_of_not_lt fun hlt => ?_⟩
    have hm' := (filter_occurrenceAt_eq_some_iff (by omega)).mpr ⟨j', rfl, hcounts', hmax'⟩
    rw [hfirst i' hlt] at hm'
    cases hm'
  · rintro ⟨i, j, rfl, hcounts, hmax, hfirst⟩
    have hi : i ≤ text.length := Nat.le_trans hcounts.1.1 hcounts.1.2.1
    refine ⟨i, by omega, (filter_occurrenceAt_eq_some_iff hi).mpr ⟨j, rfl, hcounts, hmax⟩,
      fun i' hlt => Option.eq_none_iff_forall_ne_some.mpr fun m' hm' => ?_⟩
    obtain ⟨j', -, hcounts', hmax'⟩ := (filter_occurrenceAt_eq_some_iff (by omega)).mp hm'
    exact absurd (hfirst i' j' hcounts' hmax') (Nat.not_le.mpr hlt)

theorem find_whole_eq_none_iff :
    find true (localPattern o word) text = none ↔
      ∀ i j, CountsAsWhole o word text i j → ¬ IsLongest o word text i j := by
  rw [← Option.not_isSome_iff_eq_none, find_whole_isSome_iff]
  simp only [not_exists, not_and]

theorem isSome_occurrenceAt_iff {i : Nat} (hi : i ≤ text.length) :
    ((localPattern o word).occurrenceAt text i).isSome ↔
      ∃ j, (localOptions o).Occurs word text i j := by
  have hnone : (localPattern o word).occurrenceAt text i = none ↔ _ :=
    (localOptions o).occurrenceAt_eq_none_iff rfl hi
  rw [Option.isSome_iff_ne_none, ne_eq, hnone]
  simp only [Classical.not_forall, Classical.not_not]

theorem places_ne_nil (o : Options) (hword : word ≠ []) : o.places word ≠ [] := by
  unfold Options.places
  intro h
  have hkept := List.map_eq_nil_iff.mp h
  split at hkept
  · exact hword hkept
  · next hne => exact hne (List.isEmpty_iff.mpr hkept)

/-- A word that has a character takes one wherever it is found. -/
theorem found_ne_nil (hword : word ≠ []) {before s : List Char} {m : Occurrence}
    (h : (localPattern o word).searchFrom before s = some m) : m.found ≠ [] := by
  obtain ⟨-, hstop, hat, -⟩ := WordPattern.first_of_searchFrom_eq_some h
  have hi : m.start ≤ (before.reverse ++ s).length := by simpa using hstop
  obtain ⟨j, hm, ⟨-, -, hfound⟩, -⟩ :=
    ((localOptions o).occurrenceAt_eq_some_iff rfl hi).mp hat
  have hplaces := places_ne_nil (localOptions o) hword
  intro hnil
  have hextract : (before.reverse ++ s).extract m.start j = [] :=
    (congrArg Occurrence.found hm).symm.trans hnil
  rw [hextract] at hfound
  generalize (localOptions o).places word = places at hfound hplaces
  cases hfound
  exact hplaces rfl

end Words

/-- What the search for a whole word comes to. Of the positions from which the longest text of the
word stands alone it finds the first, and nothing if there is none. On the way it rejects, each once
and from left to right, exactly the positions before that one where some text of the word begins; so
no start is skipped and none is repeated. -/
theorem find_whole_eq_scan (o : WordOptions) (word text : List Char) :
    (∀ m, find true (localPattern o word) text = some m ↔
      ∃ i j, m = occurrenceBetween text i j ∧ CountsAsWhole o word text i j ∧
        IsLongest o word text i j ∧
        ∀ i' j', CountsAsWhole o word text i' j' → IsLongest o word text i' j' → i ≤ i') ∧
    (find true (localPattern o word) text = none ↔
      ∀ i j, CountsAsWhole o word text i j → ¬ IsLongest o word text i j) ∧
    (word ≠ [] → ∃ rejected,
      (∀ ms answer, Passes (localPattern o word) [] text ms answer ↔
        ms = rejected ∧ answer = find true (localPattern o word) text) ∧
      (rejected.map Occurrence.start).Pairwise (· < ·) ∧
      ∀ i, i ∈ rejected.map Occurrence.start ↔
        (∃ j, (localOptions o).Occurs word text i j) ∧
          ∀ m, find true (localPattern o word) text = some m → i < m.start) := by
  refine ⟨fun m => find_whole_eq_some_iff, find_whole_eq_none_iff, fun hword => ?_⟩
  obtain ⟨rejected, hcourse⟩ := passes_searchWholeFrom (found_ne_nil (o := o) hword) [] text
  refine ⟨rejected, fun ms answer => ⟨hcourse.unique, ?_⟩, hcourse.starts.1, fun i => ?_⟩
  · rintro ⟨rfl, rfl⟩
    exact hcourse
  · rw [hcourse.mem_starts i]
    constructor
    · rintro ⟨-, hi, hat, hlt⟩
      exact ⟨(isSome_occurrenceAt_iff (by simpa using hi)).mp hat, hlt⟩
    · rintro ⟨⟨j, hoccurs⟩, hlt⟩
      have hi : i ≤ text.length := Nat.le_trans hoccurs.1 hoccurs.2.1
      exact ⟨Nat.zero_le i, by simpa using hi, (isSome_occurrenceAt_iff hi).mpr ⟨j, hoccurs⟩, hlt⟩

/-- In the text `aaa aa` the word `aa` is found at the end; two starts are rejected before, and the
second of them lies within the match of the first. -/
theorem find_whole_eq_scan_overlapping :
    let text := ['a', 'a', 'a', ' ', 'a', 'a']
    let p := localPattern { wholeWords := true } ['a', 'a']
    find true p text = some (occurrenceBetween text 4 6) ∧
      ∃ rejected, Passes p [] text rejected (some (occurrenceBetween text 4 6)) ∧
        0 ∈ rejected.map Occurrence.start ∧ 1 ∈ rejected.map Occurrence.start := by
  intro text p
  have hfind : find true p text = some (occurrenceBetween text 4 6) := by decide +kernel
  obtain ⟨-, -, hpasses⟩ := find_whole_eq_scan { wholeWords := true } ['a', 'a'] text
  obtain ⟨rejected, hcourse, -, hmem⟩ := hpasses (by decide)
  have hbefore {i : Nat} (hi : i < 4) (m : Occurrence) (hm : find true p text = some m) :
      i < m.start := by
    obtain rfl := Option.some.inj (hfind.symm.trans hm)
    exact hi
  have hoccurs {i : Nat} (hi : i < 2) :
      ∃ j, (localOptions { wholeWords := true }).Occurs ['a', 'a'] text i j := by
    refine ⟨i + 2, by omega, by simp [text]; omega, ?_⟩
    obtain rfl | rfl : i = 0 ∨ i = 1 := by omega
    all_goals exact .take (by decide) (.take (by decide) .nil)
  exact ⟨hfind, rejected, (hcourse _ _).mpr ⟨rfl, hfind.symm⟩,
    (hmem 0).mpr ⟨hoccurs (by decide), hbefore (by decide)⟩,
    (hmem 1).mpr ⟨hoccurs (by decide), hbefore (by decide)⟩⟩

end Concordance.Search
