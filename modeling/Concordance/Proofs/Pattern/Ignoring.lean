import Concordance.Proofs.Pattern.Comparison
import Mathlib.Logic.Relation

/-! Ignorable characters lose no match: neither do more of them in a text, nor more characters that
are made ignorable. -/

namespace Concordance.Pattern

variable {ignorable more w s t : List Char} {places : List (List Char)}

/-- The text with one ignorable character more, at any place. -/
def Inserts (ignorable s t : List Char) : Prop :=
  ∃ front back, ∃ c ∈ ignorable, s = front ++ back ∧ t = front ++ c :: back

/-- Inside a text of the word an ignorable character lengthens a run or parts two of them. -/
theorem Interspersed.insert {front back : List Char} {c : Char} (hc : c ∈ ignorable)
    (h : Interspersed ignorable places (front ++ back)) :
    Interspersed ignorable places (front ++ c :: back) := by
  induction front generalizing places with
  | nil => exact .skip hc h
  | cons d front ih =>
    cases h with
    | skip hd h => exact .skip hd (ih h)
    | take hd h => exact .take hd (ih h)

/-- Wherever the new character falls, a text of the word is still there. -/
theorem Inserts.exists_infix (h : Inserts ignorable s t) (hw : w <:+: s)
    (hword : Interspersed ignorable places w) :
    ∃ w', w' <:+: t ∧ Interspersed ignorable places w' := by
  obtain ⟨front, back, c, hc, rfl, rfl⟩ := h
  obtain ⟨before, after, hsplit⟩ := hw
  rcases List.append_eq_append_iff.mp hsplit with ⟨x, hfront, hafter⟩ | ⟨x, hleft, hback⟩
  · -- behind the text of the word
    exact ⟨w, ⟨before, x ++ c :: back, by simp [hfront]⟩, hword⟩
  rcases List.append_eq_append_iff.mp hleft with ⟨y, hfront, hw⟩ | ⟨y, hbefore, hx⟩
  · -- inside of it, or at one of its ends
    exact ⟨y ++ c :: x, ⟨before, after, by simp [hfront, hback]⟩, (hw ▸ hword).insert hc⟩
  · -- before it
    exact ⟨w, ⟨front ++ c :: y, after, by simp [hback, hx]⟩, hword⟩

theorem Inserts.strip_eq (h : Inserts ignorable s t) : strip ignorable t = strip ignorable s := by
  obtain ⟨front, back, c, hc, rfl, rfl⟩ := h
  simp [strip, hc]

section Inserting

variable (h : Relation.ReflTransGen (Inserts ignorable) s t)
include h

/-- A text of the word survives any number of insertions. -/
theorem exists_infix_of_inserts (hs : ∃ w, w <:+: s ∧ Interspersed ignorable places w) :
    ∃ w, w <:+: t ∧ Interspersed ignorable places w := by
  induction h with
  | refl => exact hs
  | tail _ hlast ih =>
    obtain ⟨w, hw, hword⟩ := ih
    exact hlast.exists_infix hw hword

theorem strip_eq_of_inserts : strip ignorable t = strip ignorable s := by
  induction h with
  | refl => rfl
  | tail _ hlast ih => exact hlast.strip_eq.trans ih

/-- Where no place accepts an ignorable character, what stands in the longer text stands in the
shorter one as well. -/
theorem exists_infix_of_inserts_of_disjoint
    (hdisjoint : ∀ place ∈ places, ∀ c ∈ place, c ∉ ignorable)
    (ht : ∃ w, w <:+: t ∧ Interspersed ignorable places w) :
    ∃ w, w <:+: s ∧ Interspersed ignorable places w := by
  obtain ⟨w, hw, hword⟩ := ht
  have hslice : strip ignorable w <:+: strip ignorable s := by
    rw [← strip_eq_of_inserts h]
    exact hw.filter _
  obtain ⟨v, hv, hstrip⟩ := exists_infix_strip_eq hslice
  refine ⟨v, hv, interspersed_of_forall₂_strip ?_⟩
  rw [hstrip]
  exact hword.forall₂_strip hdisjoint

end Inserting

/-- Ignorable characters that are put into a text, as many as one likes and wherever one likes, hide
no match of a word. Where no place of the word accepts an ignorable character, they make none
either. -/
theorem Options.search_isSome_of_inserts (o : Options) (hline : o.wholeLine = false)
    (word : List Char) {text text' : List Char}
    (hinserts : Relation.ReflTransGen (Inserts o.ignore) text text') :
    (((o.pattern word).search text).isSome → ((o.pattern word).search text').isSome) ∧
    ((∀ place ∈ o.places word, ∀ c ∈ place, c ∉ o.ignore) →
      ((o.pattern word).search text').isSome → ((o.pattern word).search text).isSome) := by
  rw [search_isSome_iff hline, search_isSome_iff hline]
  exact ⟨exists_infix_of_inserts hinserts, exists_infix_of_inserts_of_disjoint hinserts⟩

/-- Acute accents before and inside of what the word `ab` finds. Without them `ba` is not found, so
it is not found among them. -/
theorem search_isSome_of_inserts_acutes :
    let o : Options := { equivalent := [['a', 'å']], ignore := ['\u0301'] }
    let text := ['x', 'å', 'b']
    let text' := ['x', '\u0301', 'å', '\u0301', 'b']
    o.wholeLine = false ∧ Relation.ReflTransGen (Inserts o.ignore) text text' ∧
      ((o.pattern ['a', 'b']).search text).isSome ∧ ((o.pattern ['a', 'b']).search text').isSome ∧
      (∀ place ∈ o.places ['b', 'a'], ∀ c ∈ place, c ∉ o.ignore) ∧
      ¬((o.pattern ['b', 'a']).search text').isSome := by
  intro o text text'
  have hbefore : Inserts o.ignore text ['x', '\u0301', 'å', 'b'] :=
    ⟨['x'], ['å', 'b'], '\u0301', by decide, rfl, rfl⟩
  have hinside : Inserts o.ignore ['x', '\u0301', 'å', 'b'] text' :=
    ⟨['x', '\u0301', 'å'], ['b'], '\u0301', by decide, rfl, rfl⟩
  have hinserts : Relation.ReflTransGen (Inserts o.ignore) text text' :=
    (Relation.ReflTransGen.single hbefore).tail hinside
  have hfound : ((o.pattern ['a', 'b']).search text).isSome := by decide +kernel
  have hmissed : ¬((o.pattern ['b', 'a']).search text).isSome := by decide +kernel
  have hplaces : o.places ['b', 'a'] = [['b'], ['a', 'å']] := rfl
  have hdisjoint : ∀ place ∈ o.places ['b', 'a'], ∀ c ∈ place, c ∉ o.ignore := by
    simp [hplaces, o]
  obtain ⟨hkept, -⟩ := o.search_isSome_of_inserts rfl ['a', 'b'] hinserts
  obtain ⟨-, hnone⟩ := o.search_isSome_of_inserts rfl ['b', 'a'] hinserts
  exact ⟨rfl, hinserts, hfound, hkept hfound, hdisjoint, mt (hnone hdisjoint) hmissed⟩

/-- Fewer of the characters of a word must occur, and those that need not are ignorable. -/
theorem Interspersed.enlarge {accepts : Char → List Char} {kept : Char → Bool} {chars : List Char}
    (hsub : ignorable ⊆ more) (hdropped : ∀ c ∈ chars, kept c = false → accepts c ⊆ more)
    (h : Interspersed ignorable (chars.map accepts) w) :
    Interspersed more ((chars.filter kept).map accepts) w := by
  generalize hplaces : chars.map accepts = places at h
  induction h generalizing chars with
  | nil =>
    obtain rfl := List.map_eq_nil_iff.mp hplaces
    exact .nil
  | skip hc _ ih => exact .skip (hsub hc) (ih hdropped hplaces)
  | take hc _ ih =>
    obtain ⟨d, chars, rfl, rfl, hrest⟩ := List.map_eq_cons_iff.mp hplaces
    have ih := ih (fun x hx => hdropped x (List.mem_cons_of_mem d hx)) hrest
    cases hd : kept d with
    | true =>
      rw [List.filter_cons_of_pos hd]
      exact .take hc ih
    | false =>
      rw [List.filter_cons_of_neg (by simp [hd])]
      exact .skip (hdropped d List.mem_cons_self hd hc) ih

section Enlarging

variable {o : Options} {word text : List Char}

/-- What stands for a word stands for it still if more is ignored, as long as some character of the
word must occur. -/
theorem Options.occurs_of_ignore_subset (hsub : o.ignore ⊆ more)
    (hword : ∃ c ∈ word, c ∉ more ∨ ∃ cls ∈ o.equivalent, c ∈ cls) {i j : Nat}
    (h : o.Occurs word text i j) : { o with ignore := more }.Occurs word text i j := by
  obtain ⟨hij, hj, hinterspersed⟩ := h
  let wider : Options := { o with ignore := more }
  have hmandatory (c : Char) (hc : wider.mandatory c = true) : o.mandatory c = true := by
    rw [Options.mandatory_iff] at hc ⊢
    exact hc.imp_left (mt (@hsub c))
  obtain ⟨c, hc, hstays⟩ : ∃ c ∈ word, wider.mandatory c = true := by
    simpa only [Options.mandatory_iff] using hword
  have hfilter :
      word.filter wider.mandatory = (word.filter o.mandatory).filter wider.mandatory := by
    rw [List.filter_filter]
    apply List.filter_congr
    intro c _
    cases hwider : wider.mandatory c with
    | true => simp [hmandatory c hwider]
    | false => rfl
  rw [places_eq_of_mandatory ⟨c, hc, hmandatory c hstays⟩] at hinterspersed
  refine ⟨hij, hj, ?_⟩
  rw [places_eq_of_mandatory ⟨c, hc, hstays⟩, hfilter]
  exact hinterspersed.enlarge hsub fun d _ hd => wider.accepted_subset_of_not_mandatory hd

end Enlarging

/-- Making more characters ignorable loses no match of a word, as long as some character of the word
is still one that must occur: one that may not be ignored, or one that belongs to a class. The match
then starts no later, and reaches no less far if it starts at the same place. -/
theorem Options.search_of_ignore_subset (o : Options) (hline : o.wholeLine = false)
    {more : List Char} (hsub : o.ignore ⊆ more) {word : List Char}
    (hword : ∃ c ∈ word, c ∉ more ∨ ∃ cls ∈ o.equivalent, c ∈ cls) {text : List Char}
    {m : Occurrence} (hm : (o.pattern word).search text = some m) :
    ∃ m', ({ o with ignore := more }.pattern word).search text = some m' ∧ m'.start ≤ m.start ∧
      (m'.start = m.start → m.stop ≤ m'.stop) := by
  obtain ⟨i, j, rfl, hoccurs, -, -⟩ := (search_eq_some_iff hline).mp hm
  have hwider := occurs_of_ignore_subset hsub hword hoccurs
  rw [start_occurrenceBetween hoccurs.1 hoccurs.2.1, stop_occurrenceBetween hoccurs.1 hoccurs.2.1]
  exact exists_search_of_occurs (o := { o with ignore := more }) hline hwider

/-- With the hyphen and `b` ignored as well, of the word `a-b` only the `a` must occur, and the
match takes in what stands before it. -/
theorem search_of_ignore_subset_hyphen :
    let o : Options := { equivalent := [['a', 'å']], ignore := ['\u0301'] }
    let more := ['-', 'b', '\u0301']
    let word := ['a', '-', 'b']
    let text := ['x', 'b', 'å', '\u0301', '-', 'b']
    o.wholeLine = false ∧ o.ignore ⊆ more ∧
      (∃ c ∈ word, c ∉ more ∨ ∃ cls ∈ o.equivalent, c ∈ cls) ∧
      (o.pattern word).search text = some (occurrenceBetween text 2 6) ∧
      ∃ m, ({ o with ignore := more }.pattern word).search text = some m ∧ m.start ≤ 2 := by
  intro o more word text
  have hsub : o.ignore ⊆ more := by decide
  have hword : ∃ c ∈ word, c ∉ more ∨ ∃ cls ∈ o.equivalent, c ∈ cls :=
    ⟨'a', by decide, .inr ⟨['a', 'å'], by decide, by decide⟩⟩
  have hfound : (o.pattern word).search text = some (occurrenceBetween text 2 6) := by
    decide +kernel
  obtain ⟨m, hm, hstart, -⟩ := o.search_of_ignore_subset rfl hsub hword hfound
  exact ⟨rfl, hsub, hword, hfound, m, hm, hstart⟩

-- If all of `ab` may be ignored, then all of it must occur again.
example :
    (({ ignore := ['a'] } : Options).pattern ['a', 'b']).search ['b'] =
        some (occurrenceBetween ['b'] 0 1) ∧
      (({ ignore := ['a', 'b'] } : Options).pattern ['a', 'b']).search ['b'] = none := by
  decide +kernel

end Concordance.Pattern
