import Concordance.Proofs.Accent.Coverage
import Concordance.Proofs.Pattern.Alike
import Concordance.Proofs.Search.WholeWord
import Mathlib.Data.List.Perm.Basic

/-! A directive is a set of declarations: on what a search confirms, neither the order of its items
has an effect nor which of the two characters of a pair is named first. -/

namespace Concordance.Search

open Pattern (WordPattern)
open Store (WordOptions)

theorem find_congr {p p' : WordPattern} (h : p.occurrenceAt = p'.occurrenceAt) (whole : Bool)
    (text : List Char) : find whole p text = find whole p' text := by
  cases whole with
  | false =>
    have hscan := p.search_eq_findSome? text
    rw [h, ← p'.search_eq_findSome? text] at hscan
    exact hscan
  | true =>
    have hscan := searchWholeFrom_eq_findSome? p [] text
    rw [h, ← searchWholeFrom_eq_findSome? p' [] text] at hscan
    exact hscan

section Alike

variable {o o' : WordOptions} (hwhole : o.wholeWords = o'.wholeWords)
  (halike : (localOptions o).Alike (localOptions o'))
include hwhole halike

theorem matchedIn_congr (text : CodePoints) (words : List (List Char)) :
    matchedIn o text words = matchedIn o' text words := by
  induction words with
  | nil => rfl
  | cons word words ih =>
    have hfind : find o.wholeWords (localPattern o word) =
        find o'.wholeWords (localPattern o' word) := by
      rw [hwhole]
      exact funext (find_congr (halike.occurrenceAt word) _)
    rw [matchedIn, matchedIn, findIn, findIn, hfind, ih]

theorem confirm_congr (words : List (List Char)) (c : Corpus.Candidate) :
    confirm o words c = confirm o' words c := by
  rw [confirm, confirm, matchedIn_congr hwhole halike]

end Alike

end Concordance.Search

namespace Concordance.Accent

open Pattern (Linked areComponents_equivalenceClasses mem_mentioned mentioned)
open Search (confirm localOptions)
open Store (WordOptions)

/-- The text of an item, and one that says the same: a pair may be read either way. -/
inductive Restates : List Char → List Char → Prop where
  | same (text : List Char) : Restates text text
  | swapped (x y : Char) : Restates [x, '>', y] [y, '>', x]

/-- The items of a directive in any order, some of the pairs the other way round. -/
def Redeclares (directive directive' : List Char) : Prop :=
  ∃ texts, (Text.words directive).Perm texts ∧ List.Forall₂ Restates texts (Text.words directive')

/-- What the one directive says, the other says too. -/
def Includes (directive directive' : List Char) : Prop :=
  ∀ text ∈ Text.words directive, ∃ text' ∈ Text.words directive', Restates text text'

variable {directive directive' text text' : List Char} {items items' : List Item}

theorem Restates.symm (h : Restates text text') : Restates text' text := by
  cases h with
  | same => exact .same text
  | swapped x y => exact .swapped y x

theorem Redeclares.includes (h : Redeclares directive directive') :
    Includes directive directive' ∧ Includes directive' directive := by
  obtain ⟨texts, hperm, hforall⟩ := h
  constructor
  · intro text htext
    exact exists_right_of_mem hforall (hperm.mem_iff.mp htext)
  · intro text' htext'
    obtain ⟨text, htext, hrestates⟩ := exists_left_of_mem hforall htext'
    exact ⟨text, hperm.mem_iff.mpr htext, hrestates.symm⟩

/-- The second character of `X>Y` tells it from an escape. -/
theorem spells_pair_iff {x y : Char} {item : Item} : Spells [x, '>', y] item ↔
    Text.isBlank x = false ∧ Text.isBlank y = false ∧ item = .pair x y := by
  constructor
  · generalize htext : [x, '>', y] = text
    intro h
    cases h with
    | pair hx hy =>
      simp only [List.cons.injEq, and_true, true_and] at htext
      obtain ⟨rfl, rfl⟩ := htext
      exact ⟨hx, hy, rfl⟩
    | point hs =>
      obtain ⟨rest, rfl⟩ := hs.exists_eq_cons
      simp at htext
    | range hs =>
      obtain ⟨rest, rfl⟩ := hs.exists_eq_cons
      simp at htext
  · rintro ⟨hx, hy, rfl⟩
    exact .pair hx hy

theorem Restates.exists_spells (h : Restates text text') {item : Item} (hs : Spells text item) :
    ∃ item', Spells text' item' := by
  cases h with
  | same => exact ⟨item, hs⟩
  | swapped x y =>
    obtain ⟨hx, hy, -⟩ := spells_pair_iff.mp hs
    exact ⟨_, .pair hy hx⟩

theorem Restates.spells_span (h : Restates text text') {first last : Nat}
    (hs : Spells text (.span first last)) : Spells text' (.span first last) := by
  cases h with
  | same => exact hs
  | swapped x y => cases (spells_pair_iff.mp hs).2.2

namespace Includes

theorem ignored_subset (hsub : Includes directive directive') (h : parse directive = .ok items)
    (h' : parse directive' = .ok items') : ignored items ⊆ ignored items' := by
  intro c hc
  obtain ⟨text, htext, first, last, hs, hcovers⟩ := (mem_ignored_iff h).mp hc
  obtain ⟨text', htext', hrestates⟩ := hsub text htext
  exact (mem_ignored_iff h').mpr ⟨text', htext', first, last, hrestates.spells_span hs, hcovers⟩

theorem pair_or_swap (hsub : Includes directive directive') (h : parse directive = .ok items)
    (h' : parse directive' = .ok items') (x y : Char) (hxy : (x, y) ∈ pairs items) :
    (x, y) ∈ pairs items' ∨ (y, x) ∈ pairs items' := by
  obtain ⟨text', htext', hrestates⟩ := hsub _ ((mem_pairs_iff h).mp hxy)
  generalize htext : [x, '>', y] = text at hrestates
  cases hrestates with
  | same => exact .inl ((mem_pairs_iff h').mpr (htext ▸ htext'))
  | swapped u v =>
    simp only [List.cons.injEq, and_true, true_and] at htext
    obtain ⟨rfl, rfl⟩ := htext
    exact .inr ((mem_pairs_iff h').mpr htext')

theorem mentioned_subset (hsub : Includes directive directive') (h : parse directive = .ok items)
    (h' : parse directive' = .ok items') : mentioned (pairs items) ⊆ mentioned (pairs items') := by
  intro c hc
  obtain ⟨⟨x, y⟩, hxy, hend⟩ := mem_mentioned.mp hc
  rcases hsub.pair_or_swap h h' x y hxy with hpair | hpair
  · exact mem_mentioned.mpr ⟨_, hpair, hend⟩
  · exact mem_mentioned.mpr ⟨_, hpair, hend.symm⟩

end Includes

/-- The options of a search under rules. -/
def Rules.options (rules : Rules) (wholeWords : Bool) : WordOptions :=
  ⟨wholeWords, rules.ignore, rules.classes⟩

theorem alike_of_includes (hsub : Includes directive directive')
    (hsup : Includes directive' directive) (h : parse directive = .ok items)
    (h' : parse directive' = .ok items') (wholeWords : Bool) :
    (localOptions ((Rules.ofItems items).options wholeWords)).Alike
      (localOptions ((Rules.ofItems items').options wholeWords)) where
  ignore c := ⟨fun hc => hsub.ignored_subset h h' hc, fun hc => hsup.ignored_subset h' h hc⟩
  accepted c d := by
    have hlinked : Linked (pairs items) c d ↔ Linked (pairs items') c d :=
      ⟨Linked.of_pair_or_swap (hsub.pair_or_swap h h'),
        Linked.of_pair_or_swap (hsup.pair_or_swap h' h)⟩
    rw [← (areComponents_equivalenceClasses _).mem_accepted_iff_linked,
      ← (areComponents_equivalenceClasses _).mem_accepted_iff_linked] at hlinked
    exact hlinked
  inClass c := by
    have hmentioned : c ∈ mentioned (pairs items) ↔ c ∈ mentioned (pairs items') :=
      ⟨fun hc => hsub.mentioned_subset h h' hc, fun hc => hsup.mentioned_subset h' h hc⟩
    rw [← (areComponents_equivalenceClasses _).inClass_iff,
      ← (areComponents_equivalenceClasses _).inClass_iff, ← Bool.eq_iff_iff] at hmentioned
    exact hmentioned
  wholeLine := rfl

theorem Includes.exists_parse_eq_ok (hsup : Includes directive' directive)
    (h : parse directive = .ok items) : ∃ items', parse directive' = .ok items' := by
  have hspells := exists_parse_eq_ok_iff.mp ⟨items, h⟩
  apply exists_parse_eq_ok_iff.mpr
  intro text' htext'
  obtain ⟨text, htext, hrestates⟩ := hsup text' htext'
  obtain ⟨item, hitem⟩ := hspells text htext
  exact hrestates.symm.exists_spells hitem

/-- A directive with its items in another order, and some of its pairs the other way round, is
accepted if the directive is, and then a search under the one confirms the same candidates with the
same texts as under the other. -/
theorem Rules.confirm_of_redeclares {rules : Rules} (h : Rules.parse directive = .ok rules)
    (hredeclares : Redeclares directive directive') :
    ∃ rules', Rules.parse directive' = .ok rules' ∧
      ∀ (wholeWords : Bool) (phrase : List Char) (c : Corpus.Candidate),
        confirm (rules'.options wholeWords) (Text.words phrase) c =
          confirm (rules.options wholeWords) (Text.words phrase) c := by
  obtain ⟨items, hitems, rfl⟩ := rulesParse_eq_ok_iff.mp h
  obtain ⟨hsub, hsup⟩ := hredeclares.includes
  obtain ⟨items', hitems'⟩ := hsup.exists_parse_eq_ok hitems
  refine ⟨Rules.ofItems items', rulesParse_eq_ok_iff.mpr ⟨items', hitems', rfl⟩, ?_⟩
  intro wholeWords phrase c
  apply Search.confirm_congr
  · rfl
  · exact alike_of_includes hsup hsub hitems' hitems wholeWords

/-- The class of `a`, `b` and `c` comes out in another order, and `a` may be ignored as well. -/
theorem confirm_of_redeclares_reversed :
    let directive := "\\u0061 a>b b>c".toList
    let directive' := "c>b a>b \\u0061".toList
    Rules.parse directive = .ok ⟨['a'], [['a', 'b', 'c']]⟩ ∧ Redeclares directive directive' ∧
      Rules.parse directive' = .ok ⟨['a'], [['c', 'b', 'a']]⟩ ∧
      ∀ (wholeWords : Bool) (phrase : List Char) (c : Corpus.Candidate),
        confirm ⟨wholeWords, ['a'], [['c', 'b', 'a']]⟩ (Text.words phrase) c =
          confirm ⟨wholeWords, ['a'], [['a', 'b', 'c']]⟩ (Text.words phrase) c := by
  intro directive directive'
  have hparse : Rules.parse directive = .ok ⟨['a'], [['a', 'b', 'c']]⟩ := rfl
  have hparse' : Rules.parse directive' = .ok ⟨['a'], [['c', 'b', 'a']]⟩ := rfl
  have hredeclares : Redeclares directive directive' := by
    refine ⟨["b>c".toList, "a>b".toList, "\\u0061".toList], by decide +kernel, ?_⟩
    exact .cons (.swapped 'b' 'c') (.cons (.same _) (.cons (.same _) .nil))
  obtain ⟨rules', hrules', hsame⟩ := Rules.confirm_of_redeclares hparse hredeclares
  rw [hparse'] at hrules'
  obtain rfl := Except.ok.inj hrules'
  exact ⟨hparse, hredeclares, hparse', hsame⟩

end Concordance.Accent
