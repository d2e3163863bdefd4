import Concordance.Proofs.Accent.Coverage
import Concordance.Proofs.Pattern.Ignoring

/-! Characters that a directive makes equivalent stand for one another, in the words of a search and
in the texts that are searched. -/

namespace Concordance.Pattern

/-- Characters of one class, or the same character twice. -/
def Classmates (classes : List (List Char)) (c d : Char) : Prop :=
  c = d ∨ ∃ cls ∈ classes, c ∈ cls ∧ d ∈ cls

theorem Classmates.symm {classes : List (List Char)} {c d : Char} (h : Classmates classes c d) :
    Classmates classes d c :=
  h.imp Eq.symm fun ⟨cls, hcls, hc, hd⟩ => ⟨cls, hcls, hd, hc⟩

section Disjoint

variable {classes : List (List Char)} {cls : List Char} {c d p : Char}
  (hnodup : classes.flatten.Nodup)
include hnodup

/-- Where classes share no character, the first class of a character is any class that has it. -/
theorem classOf?_eq_some_of_mem (hcls : cls ∈ classes) (hc : c ∈ cls) :
    classOf? [c] classes = some cls := by
  induction classes with
  | nil => cases hcls
  | cons first classes ih =>
    rw [List.flatten_cons, List.nodup_append] at hnodup
    obtain ⟨-, hrest, hdisjoint⟩ := hnodup
    by_cases hfirst : c ∈ first
    · have hothers : cls ∉ classes := fun hmem =>
        hdisjoint c hfirst c (List.mem_flatten.mpr ⟨cls, hmem, hc⟩) rfl
      obtain rfl := (List.mem_cons.mp hcls).resolve_right hothers
      exact List.find?_cons_of_pos ((mentions_singleton c cls).mpr hc)
    · have hmem : cls ∈ classes := by
        refine (List.mem_cons.mp hcls).resolve_left ?_
        rintro rfl
        exact hfirst hc
      rw [classOf?, List.find?_cons_of_neg (mt (mentions_singleton c first).mp hfirst)]
      exact ih hrest hmem

theorem Classmates.accepted_eq (h : Classmates classes c d) :
    accepted classes c = accepted classes d := by
  rcases h with rfl | ⟨cls, hcls, hc, hd⟩
  · rfl
  · rw [accepted, accepted, classOf?_eq_some_of_mem hnodup hcls hc,
      classOf?_eq_some_of_mem hnodup hcls hd, Option.getD_some, Option.getD_some]

theorem mem_accepted_iff_classmates : d ∈ accepted classes c ↔ Classmates classes c d := by
  constructor
  · intro hd
    unfold accepted at hd
    cases hcls : classOf? [c] classes with
    | none =>
      rw [hcls] at hd
      exact .inl (List.mem_singleton.mp hd).symm
    | some cls =>
      rw [hcls] at hd
      obtain ⟨hmem, hc⟩ := mem_of_classOf?_eq_some hcls
      exact .inr ⟨cls, hmem, hc, hd⟩
  · intro h
    rw [h.accepted_eq hnodup]
    exact mem_accepted classes d

/-- A place that accepts a character accepts its classmates. -/
theorem Classmates.mem_accepted (h : Classmates classes c d) (hc : c ∈ accepted classes p) :
    d ∈ accepted classes p := by
  have hp := (mem_accepted_iff_classmates hnodup).mp hc
  rw [hp.accepted_eq hnodup, h.accepted_eq hnodup]
  exact Pattern.mem_accepted classes d

end Disjoint

section Words

variable {o : Options}

theorem Classmates.mandatory_eq {c d : Char} (h : Classmates o.equivalent c d) :
    o.mandatory c = o.mandatory d := by
  rcases h with rfl | ⟨cls, hcls, hc, hd⟩
  · rfl
  · rw [Bool.eq_iff_iff, Options.mandatory_iff, Options.mandatory_iff]
    exact iff_of_true (.inr ⟨cls, hcls, hc⟩) (.inr ⟨cls, hcls, hd⟩)

/-- Classmates in a word want the same in the same places. -/
theorem Options.places_eq_of_classmates (hnodup : o.equivalent.flatten.Nodup)
    {word word' : List Char} (h : List.Forall₂ (Classmates o.equivalent) word word') :
    o.places word = o.places word' := by
  have hmap {l l' : List Char} (h : List.Forall₂ (Classmates o.equivalent) l l') :
      l.map (accepted o.equivalent) = l'.map (accepted o.equivalent) := by
    rw [← List.forall₂_eq_eq_eq, List.forall₂_map_left_iff, List.forall₂_map_right_iff]
    exact h.imp fun _ _ hmates => hmates.accepted_eq hnodup
  have hkept : List.Forall₂ (Classmates o.equivalent) (word.filter o.mandatory)
      (word'.filter o.mandatory) := by
    apply List.rel_filter _ h
    intro c d hmates
    exact iff_of_eq (congrArg (· = true) hmates.mandatory_eq)
  have hempty : (word.filter o.mandatory).isEmpty = (word'.filter o.mandatory).isEmpty := by
    rw [Bool.eq_iff_iff, List.isEmpty_iff_length_eq_zero, List.isEmpty_iff_length_eq_zero,
      hkept.length_eq]
  unfold Options.places
  dsimp only
  rw [hempty]
  split
  · exact hmap h
  · exact hmap hkept

theorem Options.pattern_congr {word word' : List Char} (h : o.places word = o.places word') :
    o.pattern word = o.pattern word' := by
  have hgroups : o.groups word = o.groups word' := by
    rw [o.groups_eq, o.groups_eq, h]
  rw [Options.pattern, hgroups, Options.pattern]

end Words

section Texts

/-- A text of the word stays one if its characters are replaced by others that may be ignored if
they may, and are accepted where they are. -/
theorem Interspersed.of_forall₂ {ignorable w v : List Char} {places : List (List Char)}
    {R : Char → Char → Prop} (hignorable : ∀ c d, R c d → c ∈ ignorable → d ∈ ignorable)
    (hplaces : ∀ place ∈ places, ∀ c d, R c d → c ∈ place → d ∈ place)
    (h : Interspersed ignorable places w) (hv : List.Forall₂ R w v) :
    Interspersed ignorable places v := by
  induction h generalizing v with
  | nil =>
    cases hv
    exact .nil
  | skip hc _ ih =>
    cases hv with
    | cons hR hv => exact .skip (hignorable _ _ hR hc) (ih hplaces hv)
  | take hc _ ih =>
    cases hv with
    | cons hR hv =>
      have hplace := hplaces _ List.mem_cons_self _ _ hR hc
      exact .take hplace (ih (fun q hq => hplaces q (List.mem_cons_of_mem _ hq)) hv)

variable {o : Options} {word text text' : List Char}

/-- Classmates of which both may be ignored or neither. -/
def Interchangeable (ignorable : List Char) (classes : List (List Char)) (c d : Char) : Prop :=
  Classmates classes c d ∧ (c ∈ ignorable ↔ d ∈ ignorable)

theorem Interchangeable.symm {ignorable : List Char} {classes : List (List Char)} {c d : Char}
    (h : Interchangeable ignorable classes c d) : Interchangeable ignorable classes d c :=
  ⟨h.1.symm, h.2.symm⟩

theorem Options.occurs_of_interchangeable (hnodup : o.equivalent.flatten.Nodup)
    (h : List.Forall₂ (Interchangeable o.ignore o.equivalent) text text') {i j : Nat}
    (hoccurs : o.Occurs word text i j) : o.Occurs word text' i j := by
  obtain ⟨hij, hj, hw⟩ := hoccurs
  have hextract : List.Forall₂ (Interchangeable o.ignore o.equivalent) (text.extract i j)
      (text'.extract i j) := by
    rw [List.extract_eq_take_drop, List.extract_eq_take_drop]
    exact List.forall₂_take _ (List.forall₂_drop _ h)
  refine ⟨hij, h.length_eq ▸ hj, hw.of_forall₂ (fun c d hR => hR.2.mp) ?_ hextract⟩
  intro place hplace c d hR hc
  obtain ⟨p, -, rfl⟩ := List.mem_map.mp hplace
  exact hR.1.mem_accepted hnodup hc

theorem Options.span_search_of_interchangeable (hnodup : o.equivalent.flatten.Nodup)
    (hline : o.wholeLine = false)
    (h : List.Forall₂ (Interchangeable o.ignore o.equivalent) text text') :
    ((o.pattern word).search text').map Occurrence.span =
      ((o.pattern word).search text).map Occurrence.span := by
  have hback : List.Forall₂ (Interchangeable o.ignore o.equivalent) text' text :=
    List.Forall₂.flip (h.imp fun _ _ hR => hR.symm)
  apply span_search_congr hline hline
  intro i j
  exact ⟨occurs_of_interchangeable hnodup hback, occurs_of_interchangeable hnodup h⟩

end Texts

end Concordance.Pattern

namespace Concordance.Accent

open Pattern (Classmates Interchangeable Occurrence)

/-- The options with which words are made into patterns under rules. -/
def Rules.patternOptions (rules : Rules) (wholeLine capture : Bool) : Pattern.Options :=
  { equivalent := rules.classes, ignore := rules.ignore, wholeLine, capture }

theorem Rules.nodup_classes {directive : List Char} {rules : Rules}
    (h : Rules.parse directive = .ok rules) : rules.classes.flatten.Nodup := by
  obtain ⟨items, -, rfl⟩ := rulesParse_eq_ok_iff.mp h
  exact (Pattern.areComponents_equivalenceClasses _).nodup

/-- What a directive makes equivalent is equivalent on both sides of a search. Replacing characters
of a word by others of their classes changes nothing in the text of its pattern. Replacing
characters of a text by others of their classes, ignorable ones by ignorable ones and those that are
not by such as are not, changes neither whether a word is found nor where its match starts and ends,
unless the search is confined to whole lines. -/
theorem Rules.search_of_interchanged {directive : List Char} {rules : Rules}
    (h : Rules.parse directive = .ok rules) (capture : Bool) :
    (∀ (wholeLine : Bool) (word word' : List Char),
      List.Forall₂ (Classmates rules.classes) word word' →
      ((rules.patternOptions wholeLine capture).pattern word').text =
        ((rules.patternOptions wholeLine capture).pattern word).text) ∧
    ∀ word text text' : List Char,
      List.Forall₂ (Interchangeable rules.ignore rules.classes) text text' →
      (((rules.patternOptions false capture).pattern word).search text').map Occurrence.span =
        (((rules.patternOptions false capture).pattern word).search text).map Occurrence.span := by
  have hnodup := rules.nodup_classes h
  constructor
  · intro wholeLine word word' hwords
    let o := rules.patternOptions wholeLine capture
    have hplaces : o.places word = o.places word' := o.places_eq_of_classmates hnodup hwords
    exact congrArg Pattern.WordPattern.text (o.pattern_congr hplaces).symm
  · intro word text text' htexts
    exact Pattern.Options.span_search_of_interchangeable hnodup rfl htexts

/-- Of `a`, `b` and `c` only `a` may be ignored. In a word it is replaced all the same; in a text
`b` and `c` are replaced by each other. -/
theorem search_of_interchanged_ignorable :
    let rules : Rules := ⟨['a'], [['a', 'b', 'c']]⟩
    let o := rules.patternOptions false false
    let text := ['x', 'b', 'a', 'x']
    let text' := ['x', 'c', 'a', 'x']
    Rules.parse "\\u0061 a>b b>c".toList = .ok rules ∧
      List.Forall₂ (Classmates rules.classes) ['a', 'x'] ['c', 'x'] ∧
      (o.pattern ['c', 'x']).text = (o.pattern ['a', 'x']).text ∧
      List.Forall₂ (Interchangeable rules.ignore rules.classes) text text' ∧
      ((o.pattern ['b']).search text).map Occurrence.span = some (1, 3) ∧
      ((o.pattern ['b']).search text').map Occurrence.span = some (1, 3) := by
  intro rules o text text'
  have hparse : Rules.parse "\\u0061 a>b b>c".toList = .ok rules := rfl
  have hmates {c d : Char} (h : c ∈ ['a', 'b', 'c'] ∧ d ∈ ['a', 'b', 'c']) :
      Classmates rules.classes c d := .inr ⟨_, List.mem_singleton_self _, h⟩
  have hwords : List.Forall₂ (Classmates rules.classes) ['a', 'x'] ['c', 'x'] :=
    .cons (hmates (by decide)) (.cons (.inl rfl) .nil)
  have htexts : List.Forall₂ (Interchangeable rules.ignore rules.classes) text text' :=
    .cons ⟨.inl rfl, .rfl⟩ (.cons ⟨hmates (by decide), by decide⟩
      (.cons ⟨.inl rfl, .rfl⟩ (.cons ⟨.inl rfl, .rfl⟩ .nil)))
  have hspan : ((o.pattern ['b']).search text).map Occurrence.span = some (1, 3) := by
    decide +kernel
  obtain ⟨hpattern, hsearch⟩ := Rules.search_of_interchanged hparse false
  have hsame := hsearch ['b'] text text' htexts
  exact ⟨hparse, hwords, hpattern false _ _ hwords, htexts, hspan, hsame.trans hspan⟩

-- A match takes in the `a` behind it and not the `b`, so the one may not replace the other there.
example :
    let o := Rules.patternOptions ⟨['a'], [['a', 'b', 'c']]⟩ false false
    ((o.pattern ['b']).search ['b', 'a']).map Occurrence.span = some (0, 2) ∧
      ((o.pattern ['b']).search ['b', 'b']).map Occurrence.span = some (0, 1) := by
  decide +kernel

end Concordance.Accent
