import Concordance.Proofs.Pattern.Compile
import Concordance.Proofs.Pattern.Text

/-! The text of a pattern of plain and starred groups has one reading, that of the pattern. -/

namespace Concordance.Pattern

/-- A row of groups, each with a star behind it or without. -/
inductive ReadsGroups : List Char → List Group → Prop where
  | nil : ReadsGroups [] []
  | once {s u : List Char} {ts : List Literal} {gs : List Group} : ReadsAlternatives s ts →
      ReadsGroups u gs → ReadsGroups ('(' :: '?' :: ':' :: s ++ ')' :: u) (⟨ts, .once⟩ :: gs)
  | many {s u : List Char} {ts : List Literal} {gs : List Group} : ReadsAlternatives s ts →
      ReadsGroups u gs →
      ReadsGroups ('(' :: '?' :: ':' :: s ++ ')' :: '*' :: u) (⟨ts, .many⟩ :: gs)

/-- Groups in a row, perhaps in a parenthesis, and that perhaps between anchors. -/
def Reads (s : List Char) (r : Reading) : Prop :=
  ∃ body, ReadsGroups body r.groups ∧
    s = optionally r.lineStart '^' ++ optionally r.capture '(' ++ body ++
      optionally r.capture ')' ++ optionally r.lineEnd '$'

theorem ReadsGroups.readsParts {s : List Char} {gs : List Group} (h : ReadsGroups s gs) :
    ReadsParts s gs := by
  induction h with
  | nil => exact .nil
  | once hs _ ih => exact .cons (q := .once) hs ih
  | many hs _ ih => exact .cons (q := .many) hs ih

/-- A group as it can be told from its text: some literal, and a star or nothing. -/
def Group.Legible (g : Group) : Prop := g.quantifier ≠ .atMostOnce ∧ g.tokens ≠ []

theorem readsGroups_text {gs : List Group} (hgs : ∀ g ∈ gs, g.Legible) :
    ReadsGroups (gs.flatMap Group.text) gs := by
  induction gs with
  | nil => exact .nil
  | cons g gs ih =>
    obtain ⟨hg, hlater⟩ := List.forall_mem_cons.mp hgs
    obtain ⟨tokens, quantifier⟩ := g
    have htokens := readsAlternatives_alternatives hg.2
    cases quantifier with
    | once => simpa [Group.text, Quantifier.text] using ReadsGroups.once htokens (ih hlater)
    | many => simpa [Group.text, Quantifier.text] using ReadsGroups.many htokens (ih hlater)
    | atMostOnce => exact absurd rfl hg.1

theorem Reads.compile?_eq_some {s : List Char} {r : Reading} (h : Reads s r) :
    compile? s = some r := by
  obtain ⟨body, hbody, rfl⟩ := h
  exact compile?_of_reads ⟨body, hbody.readsParts, rfl⟩

/-- No text has two readings. -/
theorem Reads.unique {s : List Char} {r r' : Reading} (h : Reads s r) (h' : Reads s r') : r = r' :=
  Option.some.inj (h.compile?_eq_some.symm.trans h'.compile?_eq_some)

section Patterns

/-- A pattern whose text says all about it: each place wants some literal once, and there is some
ignorable literal if there are any. -/
structure WordPattern.Legible (p : WordPattern) : Prop where
  once : ∀ g ∈ p.groups, g.quantifier = .once
  tokens_ne_nil : ∀ g ∈ p.groups, g.tokens ≠ []
  ignore_ne_nil : ∀ g, p.ignore = some g → g.tokens ≠ []

/-- What the text of a pattern is meant to say. The ignorable literals stand, with a star, at both
ends and at every gap. -/
def WordPattern.reading (p : WordPattern) : Reading where
  lineStart := p.wholeLine
  capture := p.capture
  groups :=
    match p.ignore with
    | none => p.groups
    | some g =>
      let run : Group := ⟨g.tokens, .many⟩
      run :: p.groups.intersperse run ++ [run]
  lineEnd := p.wholeLine

variable {p : WordPattern}

private theorem joinGroups_nil (gs : List Group) : joinGroups [] gs = gs := by
  induction gs with
  | nil => rfl
  | cons g gs ih =>
    cases gs with
    | nil => rfl
    | cons h gs => simp [joinGroups, ih]

private theorem joinGroups_singleton (run : Group) (gs : List Group) :
    joinGroups [run] gs = gs.intersperse run := by
  induction gs with
  | nil => rfl
  | cons g gs ih =>
    cases gs with
    | nil => rfl
    | cons h gs => simp [joinGroups, ih, List.intersperse_cons_cons]

theorem WordPattern.Legible.parts_eq (hp : p.Legible) : p.parts = p.reading.groups := by
  unfold parts gap reading
  cases hi : p.ignore with
  | none => simp [joinGroups_nil]
  | some g => simp [hp.ignore_ne_nil g hi, joinGroups_singleton]

theorem WordPattern.Legible.legible_of_mem_parts (hp : p.Legible) {g : Group} (hg : g ∈ p.parts) :
    g.Legible := by
  rcases WordPattern.mem_parts.mp hg with hgap | hgroup
  · unfold gap at hgap
    cases hi : p.ignore with
    | none => simp [hi] at hgap
    | some ignored =>
      have htokens := hp.ignore_ne_nil ignored hi
      obtain rfl : g = { ignored with quantifier := .many } := by
        simpa [hi, htokens] using hgap
      exact ⟨by simp, htokens⟩
  · refine ⟨?_, hp.tokens_ne_nil g hgroup⟩
    simp [hp.once g hgroup]

theorem WordPattern.Legible.reads (hp : p.Legible) : Reads p.text p.reading := by
  have hgroups := readsGroups_text fun g => hp.legible_of_mem_parts (g := g)
  refine ⟨p.parts.flatMap Group.text, hp.parts_eq ▸ hgroups, ?_⟩
  unfold text body
  cases hw : p.wholeLine <;> cases hc : p.capture <;> simp [reading, optionally, hw, hc]

/-- The groups without a star. -/
def Reading.places (r : Reading) : List Group := r.groups.filter (·.quantifier = .once)

/-- The literals of the first group with a star. -/
def Reading.run (r : Reading) : Option (List Literal) :=
  (r.groups.find? (·.quantifier = .many)).map Group.tokens

private theorem filter_intersperse {run : Group} (hrun : run.quantifier = .many) {gs : List Group}
    (hgs : ∀ g ∈ gs, g.quantifier = .once) :
    (gs.intersperse run).filter (·.quantifier = .once) = gs := by
  induction gs with
  | nil => rfl
  | cons g gs ih =>
    obtain ⟨hg, hlater⟩ := List.forall_mem_cons.mp hgs
    cases gs with
    | nil => simp [hg]
    | cons h gs => simp [List.intersperse_cons_cons, hg, hrun, ih hlater]

theorem WordPattern.Legible.places_reading (hp : p.Legible) : p.reading.places = p.groups := by
  unfold Reading.places reading
  cases p.ignore with
  | none => exact List.filter_eq_self.mpr fun g hg => by simp [hp.once g hg]
  | some g =>
    have hrun : (⟨g.tokens, .many⟩ : Group).quantifier = .many := rfl
    have hplaces := filter_intersperse hrun hp.once
    simpa using hplaces

theorem WordPattern.Legible.run_reading (hp : p.Legible) :
    p.reading.run = p.ignore.map Group.tokens := by
  unfold Reading.run reading
  cases p.ignore with
  | none => simpa using fun g hg => by simp [hp.once g hg]
  | some g => rfl

/-- The text of a pattern has one reading: the anchors, the parenthesis, the literals of each place
in order, and the ignorable ones at every gap and at both ends, all as they were before their
special characters got backslashes. So patterns with the same text have the same anchors,
parenthesis, places and ignorable literals. -/
theorem WordPattern.text_uniquely_readable (p : WordPattern) (hp : p.Legible) :
    (∀ r, Reads p.text r ↔ r = p.reading) ∧
    ∀ q : WordPattern, q.Legible → q.text = p.text →
      q.wholeLine = p.wholeLine ∧ q.capture = p.capture ∧ q.groups = p.groups ∧
        q.ignore.map Group.tokens = p.ignore.map Group.tokens := by
  refine ⟨fun r => ⟨fun hr => hr.unique hp.reads, fun hr => hr ▸ hp.reads⟩, fun q hq htext => ?_⟩
  have hreading : q.reading = p.reading := by
    have hreads := hq.reads
    rw [htext] at hreads
    exact hreads.unique hp.reads
  refine ⟨congrArg Reading.lineStart hreading, congrArg Reading.capture hreading, ?_, ?_⟩
  · rw [← hq.places_reading, hreading, hp.places_reading]
  · rw [← hq.run_reading, hreading, hp.run_reading]

/-- Literals that look like the end of a group, and an empty one. Two patterns that differ in the
quantifier of their ignorable literals only, which has no effect, have the same text. -/
theorem text_uniquely_readable_lookalikes :
    let p : WordPattern :=
      { groups := [⟨[[')', '*'], []], .once⟩, ⟨[['|']], .once⟩], ignore := some ⟨[['$']], .once⟩
        capture := true, wholeLine := true }
    let q : WordPattern := { p with ignore := some ⟨[['$']], .many⟩ }
    p.Legible ∧ q.Legible ∧ q.text = p.text ∧
      p.text = "^((?:\\$)*(?:\\)\\*|)(?:\\$)*(?:\\|)(?:\\$)*)$".toList ∧
      Reads p.text p.reading ∧ q.ignore.map Group.tokens = p.ignore.map Group.tokens := by
  intro p q
  have hp : p.Legible := ⟨by decide, by decide, by simp [p]⟩
  have hq : q.Legible := ⟨by decide, by decide, by simp [q]⟩
  obtain ⟨hreads, hsame⟩ := p.text_uniquely_readable hp
  obtain ⟨-, -, -, hignore⟩ := hsame q hq rfl
  exact ⟨hp, hq, rfl, rfl, (hreads _).mpr rfl, hignore⟩

end Patterns

end Concordance.Pattern
