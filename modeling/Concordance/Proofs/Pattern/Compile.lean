import Concordance.Pattern.Compile

/-! The texts that can be read as patterns, and the text that a pattern has. What ends a literal, a
group or the row of groups stands behind a backslash wherever it is part of a literal. -/

namespace Concordance.Pattern

section Grammar

/-- Text inside a group, up to a bar or a parenthesis. A backslash makes the next character literal;
without one only characters that are not part of the syntax are. -/
inductive ReadsLiteral : List Char → Literal → Prop where
  | nil : ReadsLiteral [] []
  | plain {c : Char} {s t : List Char} : c ∉ metacharacters → ReadsLiteral s t →
      ReadsLiteral (c :: s) (c :: t)
  | escaped {c : Char} {s t : List Char} : ReadsLiteral s t →
      ReadsLiteral ('\\' :: c :: s) (c :: t)

inductive ReadsAlternatives : List Char → List Literal → Prop where
  | last {s : List Char} {t : Literal} : ReadsLiteral s t → ReadsAlternatives s [t]
  | cons {s u : List Char} {t : Literal} {ts : List Literal} : ReadsLiteral s t →
      ReadsAlternatives u ts → ReadsAlternatives (s ++ '|' :: u) (t :: ts)

/-- A row of groups, each with a quantifier behind it or without. -/
inductive ReadsParts : List Char → List Group → Prop where
  | nil : ReadsParts [] []
  | cons {s u : List Char} {ts : List Literal} {q : Quantifier} {gs : List Group} :
      ReadsAlternatives s ts → ReadsParts u gs →
      ReadsParts ('(' :: '?' :: ':' :: s ++ ')' :: (q.text ++ u)) (⟨ts, q⟩ :: gs)

def optionally (present : Bool) (c : Char) : List Char := if present then [c] else []

/-- Groups in a row, perhaps in a parenthesis, and that perhaps between anchors. -/
def ReadsPattern (s : List Char) (r : Reading) : Prop :=
  ∃ body, ReadsParts body r.groups ∧
    s = optionally r.lineStart '^' ++ optionally r.capture '(' ++ body ++
      optionally r.capture ')' ++ optionally r.lineEnd '$'

end Grammar

section Reader

variable {s e : List Char}

theorem readAlternatives?_plain {c : Char} (hc : c ∉ metacharacters) :
    readAlternatives? (c :: s) = (readAlternatives? s).map (Prod.map (startWith c) id) := by
  have hplain : c ≠ '\\' ∧ c ≠ ')' ∧ c ≠ '|' := by
    simp only [metacharacters, List.mem_cons, not_or] at hc
    simp [hc]
  rw [readAlternatives?]
  · simp [hplain, hc]
  · exact fun h => absurd h hplain.1
  · exact fun _ _ h => absurd h hplain.1

/-- A literal is read as the front of the first alternative. -/
theorem readAlternatives?_append {t u : Literal} {ts : List Literal} {rest : List Char}
    (h : ReadsLiteral s t) (he : readAlternatives? e = some (u :: ts, rest)) :
    readAlternatives? (s ++ e) = some ((t ++ u) :: ts, rest) := by
  induction h with
  | nil => exact he
  | plain hc _ ih => simp [readAlternatives?_plain hc, ih, startWith]
  | escaped _ ih => simp [readAlternatives?, ih, startWith]

theorem readAlternatives?_of_reads {ts : List Literal} (h : ReadsAlternatives s ts) :
    readAlternatives? (s ++ ')' :: e) = some (ts, e) := by
  induction h with
  | @last s t h =>
    have hend : readAlternatives? (')' :: e) = some ([[]], e) := by simp [readAlternatives?]
    simpa using readAlternatives?_append h hend
  | @cons s u t ts h _ ih =>
    have hbar : readAlternatives? ('|' :: (u ++ ')' :: e)) = some ([] :: ts, e) := by
      simp [readAlternatives?, ih]
    simpa using readAlternatives?_append h hbar

theorem ReadsAlternatives.startWith {ts : List Literal} {c : Char} (h : ReadsAlternatives s ts)
    (front : List Char)
    (hfront : ∀ {s t}, ReadsLiteral s t → ReadsLiteral (front ++ s) (c :: t)) :
    ReadsAlternatives (front ++ s) (startWith c ts) := by
  cases h with
  | last h => exact .last (hfront h)
  | cons h hs =>
    rw [← List.append_assoc]
    exact .cons (hfront h) hs

theorem reads_of_readAlternatives? {ts : List Literal} (h : readAlternatives? s = some (ts, e)) :
    ∃ body, s = body ++ ')' :: e ∧ ReadsAlternatives body ts := by
  have hread {f : List Literal → List Literal} {ts : List Literal} {s : List Char}
      (h : (readAlternatives? s).map (Prod.map f id) = some (ts, e)) :
      ∃ us, readAlternatives? s = some (us, e) ∧ f us = ts := by
    obtain ⟨⟨us, rest⟩, hus, heq⟩ := Option.map_eq_some_iff.mp h
    obtain ⟨rfl, rfl⟩ := Prod.mk.inj heq
    exact ⟨us, hus, rfl⟩
  fun_induction readAlternatives? s generalizing ts with
  | case1 => cases h
  | case2 => cases h
  | case3 c s ih =>
    obtain ⟨us, hus, rfl⟩ := hread h
    obtain ⟨body, rfl, hbody⟩ := ih hus
    exact ⟨'\\' :: c :: body, rfl, hbody.startWith ['\\', c] .escaped⟩
  | case4 s =>
    obtain ⟨rfl, rfl⟩ := Prod.mk.inj (Option.some.inj h)
    exact ⟨[], rfl, .last .nil⟩
  | case5 s _ _ _ ih =>
    obtain ⟨us, hus, rfl⟩ := hread h
    obtain ⟨body, rfl, hbody⟩ := ih hus
    exact ⟨'|' :: body, rfl, .cons .nil hbody⟩
  | case6 => cases h
  | case7 c s _ _ _ _ hc ih =>
    obtain ⟨us, hus, rfl⟩ := hread h
    obtain ⟨body, rfl, hbody⟩ := ih hus
    exact ⟨c :: body, rfl, hbody.startWith [c] (.plain hc)⟩

/-- What may stand behind a row of groups: no further group, and no quantifier for the last one. -/
private def EndsParts (e : List Char) : Prop := ∀ c ∈ e.head?, c ∉ ['(', '*', '?']

private theorem stripLiteral?_self_append (t : Literal) (s : List Char) :
    stripLiteral? t (t ++ s) = some s := stripLiteral?_eq_some_iff.mpr rfl

private theorem stripLiteral?_eq_none {c : Char} {t : Literal} (h : s.head? ≠ some c) :
    stripLiteral? (c :: t) s = none := by
  cases s with
  | nil => rfl
  | cons d s =>
    have hne : c ≠ d := fun heq => h (congrArg some heq.symm)
    simp [stripLiteral?, hne]

private theorem EndsParts.head?_ne {c : Char} (h : EndsParts e) (hc : c ∈ ['(', '*', '?']) :
    e.head? ≠ some c := fun heq => h c heq hc

private theorem ReadsParts.head?_append {gs : List Group} (h : ReadsParts s gs) (he : EndsParts e) :
    (s ++ e).head? ≠ some '*' ∧ (s ++ e).head? ≠ some '?' := by
  cases h with
  | nil => exact ⟨he.head?_ne (by decide), he.head?_ne (by decide)⟩
  | cons => simp

private theorem readQuantifier_append {q : Quantifier} {u : List Char}
    (hu : u.head? ≠ some '*' ∧ u.head? ≠ some '?') : readQuantifier (q.text ++ u) = (q, u) := by
  cases q with
  | many => rfl
  | atMostOnce => rfl
  | once =>
    cases u with
    | nil => rfl
    | cons c u =>
      obtain ⟨hstar, hquestion⟩ : c ≠ '*' ∧ c ≠ '?' := by simpa using hu
      simp [Quantifier.text, readQuantifier, hstar, hquestion]

private theorem text_readQuantifier (s : List Char) :
    (readQuantifier s).1.text ++ (readQuantifier s).2 = s := by
  unfold readQuantifier
  split <;> rfl

theorem readGroups?_eq_nil (h : stripLiteral? groupOpening s = none) :
    readGroups? s = some ([], s) := by
  rw [readGroups?]
  split
  · rfl
  · next hsome =>
    rw [h] at hsome
    cases hsome

theorem readGroups?_group {ts : List Literal} {behind : List Char}
    (h : readAlternatives? s = some (ts, behind)) :
    readGroups? (groupOpening ++ s) =
      (readGroups? (readQuantifier behind).2).map fun (gs, rest) =>
        (⟨ts, (readQuantifier behind).1⟩ :: gs, rest) := by
  have hopen := stripLiteral?_self_append groupOpening s
  rw [readGroups?]
  split
  · next hnone =>
    rw [hopen] at hnone
    cases hnone
  · next body hsome =>
    obtain rfl := Option.some.inj (hopen.symm.trans hsome)
    split
    · next hnone =>
      rw [h] at hnone
      cases hnone
    · next ts' behind' hread =>
      obtain ⟨rfl, rfl⟩ := Prod.mk.inj (Option.some.inj (h.symm.trans hread))
      rfl

theorem readGroups?_of_reads {gs : List Group} (h : ReadsParts s gs) (he : EndsParts e) :
    readGroups? (s ++ e) = some (gs, e) := by
  induction h with
  | nil => exact readGroups?_eq_nil (stripLiteral?_eq_none (he.head?_ne (by decide)))
  | @cons s u ts q gs hs hu ih =>
    have hsplit : '(' :: '?' :: ':' :: s ++ ')' :: (q.text ++ u) ++ e =
        groupOpening ++ (s ++ ')' :: (q.text ++ (u ++ e))) := by simp [groupOpening]
    rw [hsplit, readGroups?_group (readAlternatives?_of_reads hs),
      readQuantifier_append (hu.head?_append he), ih]
    rfl

theorem reads_of_readGroups? {gs : List Group} (h : readGroups? s = some (gs, e)) :
    ∃ body, s = body ++ e ∧ ReadsParts body gs := by
  fun_induction readGroups? s generalizing gs with
  | case1 s hopen =>
    obtain ⟨rfl, rfl⟩ := Prod.mk.inj (Option.some.inj h)
    exact ⟨[], rfl, .nil⟩
  | case2 => cases h
  | case3 s inner hopen ts behind hread ih =>
    obtain ⟨⟨gs', rest⟩, hgs, heq⟩ := Option.map_eq_some_iff.mp h
    obtain ⟨rfl, rfl⟩ := Prod.mk.inj heq
    obtain ⟨u, hbehind, hu⟩ := ih hgs
    obtain ⟨body, rfl, hbody⟩ := reads_of_readAlternatives? hread
    have htext := text_readQuantifier behind
    rw [hbehind] at htext
    refine ⟨_, ?_, .cons hbody hu⟩
    rw [stripLiteral?_eq_some_iff.mp hopen]
    simp [groupOpening, htext]

private theorem readMark_optionally {c : Char} (present : Bool) (h : s.head? ≠ some c) :
    readMark c (optionally present c ++ s) = (present, s) := by
  unfold readMark
  cases present with
  | true => rw [optionally, if_pos rfl, stripLiteral?_self_append]
  | false =>
    rw [optionally, if_neg (by decide), List.nil_append, stripLiteral?_eq_none h]

private theorem optionally_readMark (c : Char) (s : List Char) :
    optionally (readMark c s).1 c ++ (readMark c s).2 = s := by
  unfold readMark
  split
  · next rest h => exact (stripLiteral?_eq_some_iff.mp h).symm
  · rfl

private theorem optionally_readOpening (s : List Char) :
    optionally (readOpening s).1 '(' ++ (readOpening s).2 = s := by
  unfold readOpening
  split
  · rfl
  · exact optionally_readMark '(' s

private theorem endsParts_marks (capture lineEnd : Bool) :
    EndsParts (optionally capture ')' ++ optionally lineEnd '$') := by
  cases capture <;> cases lineEnd <;> simp [EndsParts, optionally]

private theorem ReadsParts.eq_nil_or_append {gs : List Group} (h : ReadsParts s gs) :
    s = [] ∨ ∃ u, s = groupOpening ++ u := by
  cases h with
  | nil => exact .inl rfl
  | cons => exact .inr ⟨_, rfl⟩

/-- A parenthesis around groups is told from that of a first group by the next character. -/
private theorem readOpening_append {gs : List Group} (h : ReadsParts s gs)
    (capture lineEnd : Bool) :
    let rest := s ++ (optionally capture ')' ++ optionally lineEnd '$')
    readOpening (optionally capture '(' ++ rest) = (capture, rest) := by
  intro rest
  rcases h.eq_nil_or_append with rfl | ⟨u, rfl⟩
  · cases capture <;> cases lineEnd <;> decide
  · cases capture with
    | true => rfl
    | false => rfl

private theorem head?_ne_lineStart {gs : List Group} (h : ReadsParts s gs) (capture d : Bool) :
    (optionally capture '(' ++ (s ++ (optionally capture ')' ++ optionally d '$'))).head? ≠
      some '^' := by
  rcases h.eq_nil_or_append with rfl | ⟨u, rfl⟩ <;> cases capture <;> cases d <;>
    simp [optionally, groupOpening]

theorem compile?_of_reads {r : Reading} (h : ReadsPattern s r) : compile? s = some r := by
  obtain ⟨start, capture, groups, stop⟩ := r
  obtain ⟨body, hbody, rfl⟩ := h
  have hclose : (if capture then stripLiteral? [')'] (optionally capture ')' ++ optionally stop '$')
      else some (optionally capture ')' ++ optionally stop '$')) = some (optionally stop '$') := by
    cases capture with
    | true => exact stripLiteral?_self_append [')'] _
    | false => rfl
  have hstop := readMark_optionally (c := '$') (s := []) stop (by simp)
  rw [List.append_nil] at hstop
  unfold compile?
  simp only [List.append_assoc]
  rw [readMark_optionally start (head?_ne_lineStart hbody capture stop)]
  simp only [readOpening_append hbody, readGroups?_of_reads hbody (endsParts_marks capture stop),
    Option.bind_some, hclose, hstop, if_true]

theorem reads_of_compile? {r : Reading} (h : compile? s = some r) : ReadsPattern s r := by
  unfold compile? at h
  dsimp only at h
  have hstart := optionally_readMark '^' s
  generalize readMark '^' s = start at h hstart
  have hopen := optionally_readOpening start.2
  generalize readOpening start.2 = opening at h hopen
  obtain ⟨groups, hgroups, h⟩ := Option.bind_eq_some_iff.mp h
  obtain ⟨body, hbody, hreads⟩ := reads_of_readGroups? hgroups
  obtain ⟨rest, hclose, h⟩ := Option.bind_eq_some_iff.mp h
  have hbehind : optionally opening.1 ')' ++ rest = groups.2 := by
    cases hcapture : opening.1 with
    | true =>
      rw [hcapture, if_pos rfl] at hclose
      exact (stripLiteral?_eq_some_iff.mp hclose).symm
    | false =>
      rw [hcapture, if_neg (by decide)] at hclose
      exact (Option.some.inj hclose).symm
  have hstop := optionally_readMark '$' rest
  split at h
  · next hend =>
    obtain rfl := Option.some.inj h
    rw [hend, List.append_nil] at hstop
    refine ⟨body, hreads, ?_⟩
    rw [← hstart, ← hopen, hbody, ← hbehind]
    simp [hstop]
  · cases h

/-- The texts that can be read are those of the grammar, and what is read is what it says. -/
theorem compile?_eq_some_iff {r : Reading} : compile? s = some r ↔ ReadsPattern s r :=
  ⟨reads_of_compile?, compile?_of_reads⟩

end Reader

section Written

theorem metacharacters_subset_special : metacharacters ⊆ special := by decide

theorem readsLiteral_escape (t : Literal) : ReadsLiteral (escape t) t := by
  induction t with
  | nil => exact .nil
  | cons c t ih =>
    rw [escape, List.flatMap_cons, escapeChar]
    split
    · exact .escaped ih
    next hc => exact .plain (fun hmeta => hc (metacharacters_subset_special hmeta)) ih

theorem readsAlternatives_alternatives {ts : List Literal} (hts : ts ≠ []) :
    ReadsAlternatives (alternatives ts) ts := by
  induction ts with
  | nil => exact absurd rfl hts
  | cons t ts ih =>
    cases ts with
    | nil => exact .last (readsLiteral_escape t)
    | cons u ts => exact .cons (readsLiteral_escape t) (ih (List.cons_ne_nil u ts))

/-- A group as its text tells it: one without literals looks like one with an empty literal. -/
def Group.told (g : Group) : Group := ⟨g.literals, g.quantifier⟩

theorem readsAlternatives_literals (g : Group) :
    ReadsAlternatives (alternatives g.tokens) g.literals := by
  unfold Group.literals
  split
  · next hempty =>
    rw [List.isEmpty_iff.mp hempty]
    exact .last .nil
  · next hsome => exact readsAlternatives_alternatives fun hnil => hsome (hnil ▸ rfl)

theorem readsParts_text (gs : List Group) :
    ReadsParts (gs.flatMap Group.text) (gs.map Group.told) := by
  induction gs with
  | nil => exact .nil
  | cons g gs ih => simpa [Group.text, Group.told] using ih.cons (readsAlternatives_literals g)

/-- What the text of a pattern says. -/
def WordPattern.told (p : WordPattern) : Reading where
  lineStart := p.wholeLine
  capture := p.capture
  groups := p.parts.map Group.told
  lineEnd := p.wholeLine

/-- Whatever its groups are, a pattern is read from its text. -/
theorem WordPattern.compile?_text (p : WordPattern) : compile? p.text = some p.told := by
  refine compile?_of_reads ⟨p.parts.flatMap Group.text, readsParts_text p.parts, ?_⟩
  unfold text body
  cases hw : p.wholeLine <;> cases hc : p.capture <;> simp [told, optionally, hw, hc]

end Written

end Concordance.Pattern
