import Concordance.Proofs.Accent.Grammar
import Concordance.Proofs.Pattern.Components

/-! Which characters a directive makes ignorable and in which order, and which ones its classes
hold. -/

namespace Concordance.Accent

/-- The code points of an item, surrogates included. -/
def Item.points : Item → List Nat
  | .span first last => List.range' first (last + 1 - first)
  | .pair _ _ => []

/-- The code points of characters that items cover, read from left to right. -/
def covered (items : List Item) : List Nat :=
  (items.flatMap Item.points).filter (!isSurrogate ·)

theorem Item.mem_points {item : Item} {n : Nat} : n ∈ item.points ↔ item.covers n = true := by
  cases item with
  | span first last =>
    simp [Item.points, Item.covers, List.mem_range'_1]
    omega
  | pair x y => simp [Item.points, Item.covers]

theorem mem_covered {items : List Item} {n : Nat} :
    n ∈ covered items ↔ (∃ item ∈ items, item.covers n = true) ∧ isSurrogate n = false := by
  simp [covered, Item.mem_points]

theorem Item.nodup_points (item : Item) : item.points.Nodup := by
  cases item with
  | span first last => exact List.nodup_range'
  | pair x y => exact List.nodup_nil

theorem covered_cons (item : Item) (items : List Item) :
    covered (item :: items) = item.points.filter (!isSurrogate ·) ++ covered items := by
  rw [covered, List.flatMap_cons, List.filter_append, covered]

private theorem fresh_eq (earlier : List Item) (item : Item) :
    item.fresh earlier = (item.points.filter (!isSurrogate ·)).filter
      fun n => !earlier.any (Item.covers n) := by
  cases item with
  | span first last => simp [Item.fresh, Item.points, List.filter_filter, Bool.and_comm]
  | pair x y => rfl

/-- Each character is made ignorable by the first item that covers it. -/
theorem ignoredFrom_eq (earlier items : List Item) :
    ignoredFrom earlier items =
      ((covered items).filter fun n => !earlier.any (Item.covers n)).eraseDups.map Char.ofNat := by
  induction items generalizing earlier with
  | nil => rfl
  | cons item items ih =>
    have hnodup : (item.fresh earlier).Nodup := by
      rw [fresh_eq]
      exact (item.nodup_points.filter _).filter _
    -- What the item covers is not taken again from the later ones, be it new here or not.
    have hlater : ((covered items).filter fun n => !earlier.any (Item.covers n)).removeAll
        (item.fresh earlier) =
        (covered items).filter fun n => !(item :: earlier).any (Item.covers n) := by
      rw [List.removeAll, List.filter_filter]
      apply List.filter_congr
      intro n hn
      have hchar := (mem_covered.mp hn).2
      have hmem : n ∈ item.fresh earlier ↔
          item.covers n = true ∧ earlier.any (Item.covers n) = false := by
        simp [fresh_eq, Item.mem_points, hchar]
      have helem : (item.fresh earlier).elem n =
          (item.covers n && !earlier.any (Item.covers n)) := by
        rw [Bool.eq_iff_iff, List.elem_eq_mem, decide_eq_true_iff, hmem]
        simp
      rw [helem, List.any_cons]
      cases item.covers n <;> cases earlier.any (Item.covers n) <;> rfl
    rw [ignoredFrom, ih, covered_cons, List.filter_append, ← fresh_eq, List.eraseDups_append,
      eraseDups_of_nodup hnodup, hlater, List.map_append]

theorem ignored_eq (items : List Item) :
    ignored items = (covered items).eraseDups.map Char.ofNat := by
  have hnone : (covered items).filter (fun n => !([] : List Item).any (Item.covers n)) =
      covered items := List.filter_eq_self.mpr fun _ _ => rfl
  rw [ignored, ignoredFrom_eq, hnone]

/-- The characters of a pair, if the item is one. -/
def pair? : List Char → Option (Char × Char)
  | [x, '>', y] => some (x, y)
  | _ => none

private theorem pair?_of_escapes {s : List Char} {n : Nat} (h : Escapes s n) (rest : List Char) :
    pair? (s ++ rest) = none := by
  obtain ⟨digits, rfl⟩ := h.exists_eq_cons
  unfold pair?
  split
  · next heq => simp at heq
  · rfl

theorem pairs_eq {texts : List (List Char)} {items : List Item}
    (h : List.Forall₂ Spells texts items) : pairs items = texts.filterMap pair? := by
  induction h with
  | nil => rfl
  | @cons text item texts items hfirst _ ih =>
    have hpairs : pairs (item :: items) = pairs [item] ++ pairs items :=
      @List.filterMap_append _ _ [item] items _
    rw [hpairs, ih]
    cases hfirst with
    | pair => rfl
    | point hs _ =>
      have hnone := pair?_of_escapes hs []
      rw [List.append_nil] at hnone
      rw [List.filterMap_cons_none hnone]
      rfl
    | range hs =>
      rw [List.filterMap_cons_none (pair?_of_escapes hs _)]
      rfl

section Accepted

variable {directive : List Char} {items : List Item}

theorem isScalar_of_mem_covered (h : parse directive = .ok items) {n : Nat}
    (hn : n ∈ covered items) : isScalar n = true := by
  obtain ⟨⟨item, hitem, hcovers⟩, hchar⟩ := mem_covered.mp hn
  obtain ⟨text, -, hspells⟩ := exists_left_of_mem (parse_eq_ok_iff.mp h) hitem
  have hbound {first last : Nat} (hcovers : (Item.span first last).covers n = true)
      (hlast : isScalar last = true) : isScalar n = true := by
    simp [Item.covers] at hcovers
    simp [isScalar] at hlast ⊢
    exact ⟨by omega, hchar⟩
  cases hspells with
  | pair => cases hcovers
  | point _ hscalar => exact hbound hcovers hscalar
  | range _ _ _ hlast _ => exact hbound hcovers hlast

/-- The ignorable characters are the covered code points in the order in which they are first
covered, each once. -/
theorem map_toNat_ignored (h : parse directive = .ok items) :
    (ignored items).map Char.toNat = (covered items).eraseDups := by
  have hsame : ∀ n ∈ (covered items).eraseDups, (Char.ofNat n).toNat = n := by
    intro n hn
    have hscalar := isScalar_of_mem_covered h (List.mem_eraseDups.mp hn)
    have hvalid : n.isValidChar := by
      simp [isScalar, isSurrogate] at hscalar
      simp [Nat.isValidChar]
      omega
    rw [Char.ofNat, dif_pos hvalid]
    rfl
  rw [ignored_eq, List.map_map]
  exact (List.map_congr_left hsame).trans (List.map_id _)

theorem mem_ignored_iff (h : parse directive = .ok items) {c : Char} :
    c ∈ ignored items ↔ ∃ text ∈ Text.words directive, ∃ first last,
      Spells text (.span first last) ∧ first ≤ c.toNat ∧ c.toNat ≤ last := by
  have hchar : isSurrogate c.toNat = false := by
    have hvalid : c.toNat.isValidChar := c.valid
    simp [Nat.isValidChar] at hvalid
    simp [isSurrogate]
    omega
  have hmem : c ∈ ignored items ↔ ∃ item ∈ items, item.covers c.toNat = true := by
    have hmap : c ∈ ignored items ↔ c.toNat ∈ (ignored items).map Char.toNat := by
      simp [Char.toNat_inj]
    rw [hmap, map_toNat_ignored h, List.mem_eraseDups, mem_covered]
    simp [hchar]
  have hforall := parse_eq_ok_iff.mp h
  rw [hmem]
  constructor
  · rintro ⟨item, hitem, hcovers⟩
    obtain ⟨text, htext, hspells⟩ := exists_left_of_mem hforall hitem
    cases item with
    | span first last =>
      simp [Item.covers] at hcovers
      exact ⟨text, htext, first, last, hspells, hcovers⟩
    | pair => cases hcovers
  · rintro ⟨text, htext, first, last, hspells, hfirst, hlast⟩
    obtain ⟨item, hitem, hspells'⟩ := exists_right_of_mem hforall htext
    obtain rfl : Item.span first last = item := by
      have hread := parse_of_spells hspells
      rw [parse_of_spells hspells'] at hread
      exact (Except.ok.inj hread).symm
    exact ⟨_, hitem, by simp [Item.covers, hfirst, hlast]⟩

theorem mem_pairs_iff (h : parse directive = .ok items) {x y : Char} :
    (x, y) ∈ pairs items ↔ [x, '>', y] ∈ Text.words directive := by
  rw [pairs_eq (parse_eq_ok_iff.mp h), List.mem_filterMap]
  constructor
  · rintro ⟨text, htext, hpair⟩
    unfold pair? at hpair
    split at hpair
    · cases hpair
      exact htext
    · cases hpair
  · intro hword
    exact ⟨_, hword, rfl⟩

theorem rulesParse_eq_ok_iff {rules : Rules} :
    Rules.parse directive = .ok rules ↔ ∃ items, parse directive = .ok items ∧
      Rules.ofItems items = rules := by
  unfold Rules.parse
  cases parse directive with
  | error e => simp [Except.map]
  | ok items => simp [Except.map]

/-- The members of classes stand in a directive as they are, so none is a blank. -/
theorem not_isBlank_of_mem_classes {rules : Rules} (h : Rules.parse directive = .ok rules)
    {cls : List Char} {c : Char} (hcls : cls ∈ rules.classes) (hc : c ∈ cls) :
    Text.isBlank c = false := by
  obtain ⟨items, hitems, rfl⟩ := rulesParse_eq_ok_iff.mp h
  have hmentioned := (Pattern.areComponents_equivalenceClasses _).mem_mentioned hcls hc
  obtain ⟨⟨x, y⟩, hpair, hxy⟩ := Pattern.mem_mentioned.mp hmentioned
  have hword := (mem_pairs_iff hitems).mp hpair
  rcases hxy with rfl | rfl
  · exact Text.not_isBlank_of_mem_words hword (by simp)
  · exact Text.not_isBlank_of_mem_words hword (by simp)

end Accepted

/-- A directive is accepted exactly if each of its words is an item of the grammar, and then it says
what they say: the ignorable characters are those that an escape or a range covers, each once and in
the order in which they are first covered, and the pairs are those of the words that are pairs.
Else the first word that is no item is reported with what is wrong with it. -/
theorem parse_follows_grammar (directive : List Char) :
    (∀ items, parse directive = .ok items ↔ List.Forall₂ Spells (Text.words directive) items) ∧
    ((∃ items, parse directive = .ok items) ↔
      ∀ text ∈ Text.words directive, ∃ item, Spells text item) ∧
    (∀ items, parse directive = .ok items →
      (∀ c, c ∈ ignored items ↔ ∃ text ∈ Text.words directive, ∃ first last,
        Spells text (.span first last) ∧ first ≤ c.toNat ∧ c.toNat ≤ last) ∧
      (ignored items).Nodup ∧
      (ignored items).Pairwise (fun c d => SeenBefore (covered items) c.toNat d.toNat) ∧
      pairs items = (Text.words directive).filterMap pair?) ∧
    ∀ e, parse directive = .error e ↔
      ∃ before text after, Text.words directive = before ++ text :: after ∧
        (∀ t ∈ before, ∃ item, Spells t item) ∧ Offends text e.problem ∧ e.item = text := by
  refine ⟨fun items => parse_eq_ok_iff, exists_parse_eq_ok_iff, ?_, fun e => parse_eq_error_iff⟩
  intro items h
  have horder := pairwise_seenBefore_eraseDups (covered items)
  rw [← map_toNat_ignored h, List.pairwise_map] at horder
  have hnodup := nodup_eraseDups (covered items)
  rw [← map_toNat_ignored h] at hnodup
  exact ⟨fun c => mem_ignored_iff h, hnodup.of_map _, horder, pairs_eq (parse_eq_ok_iff.mp h)⟩

/-- Two ranges that overlap, one of them with both spellings of an escape, and a pair between. -/
theorem parse_follows_grammar_overlapping :
    let directive := "\\u0302-\\u\x7b304\x7d á>a \\u0300-\\u0303".toList
    let items := [Item.span 0x302 0x304, Item.pair 'á' 'a', Item.span 0x300 0x303]
    parse directive = .ok items ∧
      ignored items = ['\u0302', '\u0303', '\u0304', '\u0300', '\u0301'] ∧
      (ignored items).Nodup ∧ pairs items = [('á', 'a')] := by
  intro directive items
  have hok : parse directive = .ok items := rfl
  obtain ⟨-, -, hmeans, -⟩ := parse_follows_grammar directive
  obtain ⟨-, hnodup, -, hpairs⟩ := hmeans items hok
  exact ⟨hok, rfl, hnodup, hpairs⟩

end Concordance.Accent
