import Mathlib.Data.List.Forall2
import Concordance.Proofs.Pattern.Leftmost
import Concordance.Proofs.Pattern.Strip
import Concordance.Proofs.Pattern.WholeLine

/-! Searching for a word is comparing texts that have lost their ignorable characters. -/

namespace Concordance.Pattern

variable {ignorable w : List Char} {places : List (List Char)}

theorem Interspersed.forall₂_strip (h : Interspersed ignorable places w)
    (hdisjoint : ∀ place ∈ places, ∀ c ∈ place, c ∉ ignorable) :
    List.Forall₂ (fun place c => c ∈ place) places (strip ignorable w) := by
  induction h with
  | nil => exact .nil
  | @skip places c w hc h ih =>
    have hstrip : strip ignorable (c :: w) = strip ignorable w := by simp [strip, hc]
    rw [hstrip]
    exact ih hdisjoint
  | @take place places c w hc h ih =>
    have hnot : c ∉ ignorable := hdisjoint place List.mem_cons_self c hc
    have hstrip : strip ignorable (c :: w) = c :: strip ignorable w := by simp [strip, hnot]
    rw [hstrip]
    exact .cons hc (ih fun q hq => hdisjoint q (List.mem_cons_of_mem place hq))

theorem interspersed_of_forall₂_strip
    (h : List.Forall₂ (fun place c => c ∈ place) places (strip ignorable w)) :
    Interspersed ignorable places w := by
  induction w generalizing places with
  | nil =>
    cases h
    exact .nil
  | cons c w ih =>
    by_cases hc : c ∈ ignorable
    · have hstrip : strip ignorable (c :: w) = strip ignorable w := by simp [strip, hc]
      rw [hstrip] at h
      exact .skip hc (ih h)
    · have hstrip : strip ignorable (c :: w) = c :: strip ignorable w := by simp [strip, hc]
      rw [hstrip] at h
      cases h with
      | cons hplace hrest => exact .take hplace (ih hrest)

/-- A part of the stripped text comes from a part of the text. -/
theorem exists_infix_strip_eq {slice text : List Char} (h : slice <:+: strip ignorable text) :
    ∃ w, w <:+: text ∧ strip ignorable w = slice := by
  obtain ⟨before, after, heq⟩ := h
  obtain ⟨front, back, rfl, hfront, -⟩ := List.filter_eq_append_iff.mp heq.symm
  obtain ⟨lead, w, rfl, -, hw⟩ := List.filter_eq_append_iff.mp hfront
  exact ⟨w, ⟨lead, back, rfl⟩, hw⟩

/-- What may stand for a character of a word: the characters of the first class that has it, or only
itself if no class has it. -/
def StandsFor (classes : List (List Char)) (p c : Char) : Prop :=
  match classes.find? (p ∈ ·) with
  | some cls => c ∈ cls
  | none => c = p

/-- A text agrees with a word: without the ignorable characters of the word they have the same
length, and character by character the one stands for the other. -/
def Options.Agrees (o : Options) (word s : List Char) : Prop :=
  List.Forall₂ (StandsFor o.equivalent) (strip o.ignore word) s

theorem mem_accepted_iff {classes : List (List Char)} {p c : Char} :
    c ∈ accepted classes p ↔ StandsFor classes p c := by
  have hfind : classOf? [p] classes = classes.find? (p ∈ ·) := by
    unfold classOf?
    congr 1
    funext cls
    rw [Bool.eq_iff_iff, mentions_singleton, decide_eq_true_eq]
  unfold accepted StandsFor
  rw [hfind]
  cases classes.find? (p ∈ ·) <;> simp

/-- If classes have no ignorable characters, then the characters of the word that are not ignorable
must occur, and no others. -/
theorem Options.places_eq_map_strip {o : Options} {word : List Char}
    (hclasses : ∀ cls ∈ o.equivalent, ∀ c ∈ cls, c ∉ o.ignore) (hword : ∃ c ∈ word, c ∉ o.ignore) :
    o.places word = (strip o.ignore word).map (accepted o.equivalent) := by
  have hkept : word.filter o.mandatory = strip o.ignore word := by
    apply List.filter_congr
    intro c _
    unfold Options.mandatory
    cases hcls : classOf? [c] o.equivalent with
    | none => simp
    | some cls =>
      obtain ⟨hmem, hc⟩ := mem_of_classOf?_eq_some hcls
      simpa using hclasses cls hmem c hc
  obtain ⟨c, hc, hnot⟩ := hword
  rw [places_eq_of_mandatory ⟨c, hc, mandatory_iff.mpr (.inl hnot)⟩, hkept]

private theorem places_disjoint {o : Options} {word : List Char}
    (hclasses : ∀ cls ∈ o.equivalent, ∀ c ∈ cls, c ∉ o.ignore) (hword : ∃ c ∈ word, c ∉ o.ignore) :
    ∀ place ∈ o.places word, ∀ c ∈ place, c ∉ o.ignore := by
  apply (Options.places_disjoint_or_subset hclasses word).resolve_right
  intro hsubset
  obtain ⟨c, hc, hnot⟩ := hword
  have hmem : accepted o.equivalent c ∈ o.places word := by
    rw [Options.places_eq_map_strip hclasses ⟨c, hc, hnot⟩]
    exact List.mem_map_of_mem (List.mem_filter.mpr ⟨hc, by simpa using hnot⟩)
  exact hnot (hsubset _ hmem c (mem_accepted o.equivalent c))

/-- The texts of a word are those that agree with it once they have lost their ignorable
characters. -/
theorem Options.interspersed_places_iff {o : Options} {word s : List Char}
    (hclasses : ∀ cls ∈ o.equivalent, ∀ c ∈ cls, c ∉ o.ignore) (hword : ∃ c ∈ word, c ∉ o.ignore) :
    Interspersed o.ignore (o.places word) s ↔ o.Agrees word (strip o.ignore s) := by
  have hagrees : List.Forall₂ (fun place c => c ∈ place) (o.places word) (strip o.ignore s) ↔
      o.Agrees word (strip o.ignore s) := by
    rw [places_eq_map_strip hclasses hword, List.forall₂_map_left_iff]
    simp only [mem_accepted_iff]
    rfl
  rw [← hagrees]
  constructor
  · intro h
    exact h.forall₂_strip (places_disjoint hclasses hword)
  · exact interspersed_of_forall₂_strip

/-- What may stand behind a text that ends in no line feed is nothing. -/
private theorem eq_nil_of_endsLine {s rest : List Char} (hend : (s ++ rest).getLast? ≠ some '\n')
    (hrest : endsLine rest) : rest = [] := by
  refine (endsLine_iff.mp hrest).resolve_right fun hfeed => hend ?_
  rw [hfeed, List.getLast?_append]
  rfl

/-- Where classes hold no ignorable characters and the word is more than ignorable characters, the
search compares texts without them: it looks for a part of the text that agrees with the word or, if
it is confined to whole lines, at all of the text. -/
theorem Options.search_isSome_iff_agrees (o : Options) (word text : List Char)
    (hclasses : ∀ cls ∈ o.equivalent, ∀ c ∈ cls, c ∉ o.ignore) (hword : ∃ c ∈ word, c ∉ o.ignore) :
    (o.wholeLine = false → (((o.pattern word).search text).isSome ↔
      ∃ slice, slice <:+: strip o.ignore text ∧ o.Agrees word slice)) ∧
    (o.wholeLine = true → text.getLast? ≠ some '\n' → (((o.pattern word).search text).isSome ↔
      o.Agrees word (strip o.ignore text))) := by
  refine ⟨fun hline => ?_, fun hline hend => ?_⟩
  · rw [search_isSome_iff hline]
    constructor
    · rintro ⟨w, hinfix, hw⟩
      exact ⟨strip o.ignore w, hinfix.filter _, (interspersed_places_iff hclasses hword).mp hw⟩
    · rintro ⟨slice, hinfix, hagrees⟩
      obtain ⟨w, hw, rfl⟩ := exists_infix_strip_eq hinfix
      exact ⟨w, hw, (interspersed_places_iff hclasses hword).mpr hagrees⟩
  · rw [search_isSome_iff_of_wholeLine hline, ← interspersed_places_iff hclasses hword]
    constructor
    · rintro ⟨w, rest, rfl, hw, hrest⟩
      rwa [eq_nil_of_endsLine hend hrest, List.append_nil]
    · intro h
      exact ⟨text, [], (List.append_nil text).symm, h, rfl⟩

/-- Acute accents are ignored and `a` is one with `å`, in the word as in the text. The text holds
the word, but as a line it has an `x` too many. -/
theorem search_isSome_iff_agrees_accents :
    let o : Options := { equivalent := [['a', 'å']], ignore := ['\u0301'] }
    let line : Options := { o with wholeLine := true }
    let word := ['a', '\u0301', 'b']
    let text := ['x', '\u0301', 'å', '\u0301', '\u0301', 'b', '\u0301']
    (∀ cls ∈ o.equivalent, ∀ c ∈ cls, c ∉ o.ignore) ∧ (∃ c ∈ word, c ∉ o.ignore) ∧
      text.getLast? ≠ some '\n' ∧ ((o.pattern word).search text).isSome ∧
      (∃ slice, slice <:+: strip o.ignore text ∧ o.Agrees word slice) ∧
      ¬((line.pattern word).search text).isSome ∧ ¬line.Agrees word (strip o.ignore text) := by
  intro o line word text
  have hclasses : ∀ cls ∈ o.equivalent, ∀ c ∈ cls, c ∉ o.ignore := by simp [o]
  have hword : ∃ c ∈ word, c ∉ o.ignore := ⟨'a', by decide, by decide⟩
  have hend : text.getLast? ≠ some '\n' := by decide
  have hpart := (o.search_isSome_iff_agrees word text hclasses hword).1 rfl
  have hall := (line.search_isSome_iff_agrees word text hclasses hword).2 rfl hend
  have hfound : ((o.pattern word).search text).isSome := by decide +kernel
  have hmissed : ¬((line.pattern word).search text).isSome := by decide +kernel
  exact ⟨hclasses, hword, hend, hfound, hpart.mp hfound, hmissed, fun h => hmissed (hall.mpr h)⟩

end Concordance.Pattern
