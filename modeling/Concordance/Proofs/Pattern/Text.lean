import Concordance.Proofs.Pattern.Interweave
import Mathlib.Tactic.Tauto

/-! Which characters stand in the text of a pattern. -/

namespace Concordance.Pattern

variable {x : Char}

/-- What has been escaped holds the same characters, but for those that mean something. -/
theorem mem_escape (hx : x ∉ special) {literal : Literal} : x ∈ escape literal ↔ x ∈ literal := by
  have hchar (c : Char) : x ∈ escapeChar c ↔ x = c := by
    have hslash : x ≠ '\\' := by
      rintro rfl
      exact hx (by decide)
    unfold escapeChar
    split <;> simp [hslash]
  simp [escape, hchar]

theorem mem_alternatives (hx : x ∉ special) {literals : List Literal} :
    x ∈ alternatives literals ↔ ∃ literal ∈ literals, x ∈ literal := by
  have hbar : x ≠ '|' := by
    rintro rfl
    exact hx (by decide)
  induction literals with
  | nil => simp [alternatives]
  | cons literal literals ih =>
    cases literals with
    | nil => simp [alternatives, mem_escape hx]
    | cons next literals => simp [alternatives, mem_escape hx, hbar, ih]

theorem Group.mem_text (hx : x ∉ special) (hcolon : x ≠ ':') {g : Group} :
    x ∈ g.text ↔ ∃ literal ∈ g.tokens, x ∈ literal := by
  have hquantifier : x ∉ g.quantifier.text := by
    simp only [special, List.mem_cons, not_or] at hx
    cases g.quantifier <;> simp [Quantifier.text, hx]
  rw [← mem_alternatives hx]
  simp only [special, List.mem_cons, not_or] at hx
  simp [Group.text, hquantifier, hcolon, hx]

theorem Group.mem_text_ofChars (hx : x ∉ special) (hcolon : x ≠ ':') {chars : List Char}
    (q : Quantifier) : x ∈ (Group.ofChars chars q).text ↔ x ∈ chars := by
  rw [Group.mem_text hx hcolon]
  simp [mem_tokens_ofChars]

theorem WordPattern.mem_parts {p : WordPattern} {g : Group} :
    g ∈ p.parts ↔ g ∈ p.gap ∨ g ∈ p.groups := by
  have hjoin (sep groups : List Group) :
      g ∈ sep ∨ g ∈ joinGroups sep groups ↔ g ∈ sep ∨ g ∈ groups := by
    induction groups with
    | nil => simp [joinGroups]
    | cons first groups ih =>
      cases groups with
      | nil => simp [joinGroups]
      | cons next groups =>
        simp only [joinGroups, List.cons_append, List.mem_cons, List.mem_append] at ih ⊢
        tauto
  simp only [parts, List.mem_append]
  rw [hjoin]
  tauto

/-- The text of a pattern holds what may be ignored and what its places accept. -/
theorem Options.mem_text (hx : x ∉ special) (hcolon : x ≠ ':') (o : Options) (word : List Char) :
    x ∈ (o.pattern word).text ↔ x ∈ o.ignore ∨ ∃ place ∈ o.places word, x ∈ place := by
  have hgap : (∃ g ∈ (o.pattern word).gap, x ∈ g.text) ↔ x ∈ o.ignore := by
    rw [o.gap_eq]
    split
    · next hignore => simp [hignore]
    · simp [Group.mem_text_ofChars hx hcolon]
  have hgroups : (∃ g ∈ (o.pattern word).groups, x ∈ g.text) ↔
      ∃ place ∈ o.places word, x ∈ place := by
    have hplaces : (o.pattern word).groups = (o.places word).map (Group.ofChars · .once) :=
      o.groups_eq word
    simp [hplaces, Group.mem_text_ofChars hx hcolon]
  have hbody : x ∈ (o.pattern word).body ↔ ∃ g ∈ (o.pattern word).parts, x ∈ g.text := by
    simp only [special, List.mem_cons, not_or] at hx
    unfold WordPattern.body
    dsimp only
    split <;> simp [hx]
  have htext : x ∈ (o.pattern word).text ↔ x ∈ (o.pattern word).body := by
    simp only [special, List.mem_cons, not_or] at hx
    unfold WordPattern.text
    split <;> simp [hx]
  rw [htext, hbody, ← hgap, ← hgroups, ← exists_or]
  simp only [WordPattern.mem_parts, or_and_right]

theorem Options.mem_of_mem_places {o : Options} {word place : List Char}
    (hplace : place ∈ o.places word) (hx : x ∈ place) :
    x ∈ word ∨ ∃ cls ∈ o.equivalent, x ∈ cls := by
  obtain ⟨c, hc, rfl⟩ := List.mem_map.mp hplace
  have hword : c ∈ word := by
    split at hc
    · exact hc
    · exact (List.mem_filter.mp hc).1
  unfold accepted at hx
  cases hcls : classOf? [c] o.equivalent with
  | none =>
    rw [hcls] at hx
    rw [List.mem_singleton.mp hx]
    exact .inl hword
  | some cls =>
    rw [hcls] at hx
    exact .inr ⟨cls, (mem_of_classOf?_eq_some hcls).1, hx⟩

end Concordance.Pattern
