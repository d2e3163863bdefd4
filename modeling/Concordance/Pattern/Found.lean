import Concordance.Pattern.Language
import Concordance.Pattern.Search

/-!
What a search takes is a text of its pattern: a match at the front of a text leaves a rest of it,
and the part taken is spelled by the groups.
-/

namespace Concordance.Pattern

variable {β : Type}

theorem exists_of_matchOne_eq_some {literals : List Literal} {s : List Char}
    {next : List Char → Option β} {b : β} (h : matchOne literals s next = some b) :
    ∃ t ∈ literals, ∃ rest, s = t ++ rest ∧ next rest = some b := by
  obtain ⟨t, ht, h⟩ := List.exists_of_findSome?_eq_some h
  obtain ⟨rest, hs, hn⟩ := Option.bind_eq_some_iff.mp h
  exact ⟨t, ht, rest, stripLiteral?_eq_some_iff.mp hs, hn⟩

theorem exists_of_matchMany_eq_some {literals : List Literal} {s : List Char}
    {next : List Char → Option β} {b : β} (h : matchMany literals s next = some b) :
    ∃ ws : List (List Char), (∀ x ∈ ws, x ∈ literals) ∧
      ∃ rest, s = ws.flatten ++ rest ∧ next rest = some b := by
  induction hn : s.length using Nat.strongRecOn generalizing s with
  | ind n ih =>
    rw [matchMany_eq] at h
    cases hf : literals.findSome? (fun t => (stripLiteral? t s).bind fun rest =>
        if t = [] then next rest else matchMany literals rest next) with
    | none =>
      rw [hf] at h
      exact ⟨[], by simp, s, by simp, by simpa using h⟩
    | some b' =>
      rw [hf] at h
      obtain ⟨t, ht, hb⟩ := List.exists_of_findSome?_eq_some hf
      obtain rfl : b' = b := by simpa using h
      obtain ⟨rest, hs, hb⟩ := Option.bind_eq_some_iff.mp hb
      have hs' := stripLiteral?_eq_some_iff.mp hs
      split at hb
      · next he => exact ⟨[], by simp, s, by simp, by simp_all⟩
      · next he =>
        have hlt : rest.length < n := by
          have := List.length_pos_iff.mpr he
          simp [← hn, hs']; omega
        obtain ⟨ws, hw, r, hr, hnext⟩ := ih _ hlt hb rfl
        exact ⟨t :: ws, by simpa [ht] using hw, r, by simp [hs', hr], hnext⟩

theorem Group.exists_of_run_eq_some {g : Group} {s : List Char}
    {next : List Char → Option β} {b : β} (h : g.run s next = some b) :
    ∃ w, g.Accepts w ∧ ∃ rest, s = w ++ rest ∧ next rest = some b := by
  unfold Group.run at h
  unfold Group.Accepts
  split at h
  · obtain ⟨t, ht, rest, hs, hn⟩ := exists_of_matchOne_eq_some h
    exact ⟨t, by simp_all, rest, hs, hn⟩
  · obtain ⟨ws, hw, rest, hs, hn⟩ := exists_of_matchMany_eq_some h
    exact ⟨ws.flatten, by simp_all; exact ⟨ws, hw, rfl⟩, rest, hs, hn⟩
  · cases hm : matchOne g.literals s next with
    | none =>
      rw [hm] at h
      exact ⟨[], by simp_all, s, by simp, by simpa using h⟩
    | some b' =>
      rw [hm] at h
      obtain rfl : b' = b := by simpa using h
      obtain ⟨t, ht, rest, hs, hn⟩ := exists_of_matchOne_eq_some hm
      exact ⟨t, by simp_all, rest, hs, hn⟩

theorem exists_of_runAll_eq_some {gs : List Group} {s : List Char}
    {next : List Char → Option β} {b : β} (h : runAll gs s next = some b) :
    ∃ w, Spells gs w ∧ ∃ rest, s = w ++ rest ∧ next rest = some b := by
  induction gs generalizing s with
  | nil => exact ⟨[], .nil, s, rfl, h⟩
  | cons g gs ih =>
    obtain ⟨w, hw, rest, hs, hr⟩ := Group.exists_of_run_eq_some h
    obtain ⟨v, hv, r, hrest, hn⟩ := ih hr
    exact ⟨w ++ v, .cons hw hv, r, by simp [hs, hrest], hn⟩

/-- A match at the front of a text takes a text of the pattern and leaves the rest. -/
theorem WordPattern.exists_of_matchAt_eq_some {p : WordPattern} {atStart : Bool}
    {s rest : List Char} (h : p.matchAt atStart s = some rest) :
    ∃ w, p.Accepts w ∧ s = w ++ rest := by
  unfold WordPattern.matchAt at h
  split at h
  · split at h
    · obtain ⟨w, hw, r, hs, hr⟩ := exists_of_runAll_eq_some h
      split at hr
      · exact ⟨w, hw, by simpa [Option.some.inj hr] using hs⟩
      · cases hr
    · cases h
  · obtain ⟨w, hw, r, hs, hr⟩ := exists_of_runAll_eq_some h
    exact ⟨w, hw, by simpa [Option.some.inj hr] using hs⟩

/-- A found match is a text of the pattern, and a part of the text searched. -/
theorem WordPattern.of_searchFrom_eq_some {p : WordPattern} {before s : List Char} {o : Occurrence}
    (h : p.searchFrom before s = some o) :
    p.Accepts o.found ∧ o.before.reverse ++ o.found ++ o.after = before.reverse ++ s := by
  induction s generalizing before with
  | nil =>
    unfold WordPattern.searchFrom at h
    split at h
    · next rest hm =>
      obtain ⟨w, hw, hs⟩ := WordPattern.exists_of_matchAt_eq_some hm
      obtain rfl := Option.some.inj h
      obtain ⟨rfl, rfl⟩ : w = [] ∧ rest = [] := by simpa [eq_comm] using hs
      exact ⟨by simpa using hw, by simp⟩
    · cases h
  | cons c s ih =>
    unfold WordPattern.searchFrom at h
    split at h
    · next rest hm =>
      obtain ⟨w, hw, hs⟩ := WordPattern.exists_of_matchAt_eq_some hm
      obtain rfl := Option.some.inj h
      have hlen : (c :: s).length - rest.length = w.length := by simp [hs]
      rw [hlen, hs]
      exact ⟨by simpa using hw, by simp⟩
    · obtain ⟨hw, hs⟩ := ih h
      exact ⟨hw, by simpa using hs⟩

/-- A match does not reach beyond the text. -/
theorem WordPattern.length_found_after_le {p : WordPattern} {before s : List Char} {o : Occurrence}
    (h : p.searchFrom before s = some o) : (o.found ++ o.after).length ≤ s.length := by
  fun_induction p.searchFrom before s with
  | case1 before s rest hm =>
    obtain ⟨w, -, hs⟩ := WordPattern.exists_of_matchAt_eq_some hm
    obtain rfl := Option.some.inj h
    simp [hs]
  | case2 before hm => cases h
  | case3 before hm c s ih => exact Nat.le_trans (ih h) (by simp)

end Concordance.Pattern
