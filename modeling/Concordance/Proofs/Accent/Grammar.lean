import Concordance.Accent.Directive
import Mathlib.Data.List.Forall2
import Mathlib.Data.List.TakeDrop
import Mathlib.Data.List.TakeWhile

/-! The grammar of accent directives, and that reading follows it. -/

namespace Concordance.Accent

/-- An escape and the code point that it names. -/
inductive Escapes : List Char → Nat → Prop where
  | four {digits : List Char} : digits.length = 4 → (∀ d ∈ digits, (Json.hexDigit? d).isSome) →
      Escapes ('\\' :: 'u' :: digits) (hexValue digits)
  | braced {digits : List Char} : 1 ≤ digits.length → digits.length ≤ 6 →
      (∀ d ∈ digits, (Json.hexDigit? d).isSome) →
      Escapes ('\\' :: 'u' :: '\x7b' :: digits ++ ['\x7d']) (hexValue digits)

/-- An item and what it says. -/
inductive Spells : List Char → Item → Prop where
  | pair {x y : Char} : Text.isBlank x = false → Text.isBlank y = false →
      Spells [x, '>', y] (.pair x y)
  | point {s : List Char} {n : Nat} : Escapes s n → isScalar n = true → Spells s (.span n n)
  | range {s t : List Char} {first last : Nat} : Escapes s first → Escapes t last →
      isScalar first = true → isScalar last = true → first ≤ last →
      Spells (s ++ '-' :: t) (.span first last)

/-- An item that says nothing, and what is wrong with it. -/
inductive Offends : List Char → Problem → Prop where
  | point {s : List Char} {n : Nat} : Escapes s n → isScalar n = false →
      Offends s .invalidCodePoint
  | ends {s t : List Char} {first last : Nat} : Escapes s first → Escapes t last →
      isScalar first = false ∨ isScalar last = false → Offends (s ++ '-' :: t) .invalidCodePoint
  | reversed {s t : List Char} {first last : Nat} : Escapes s first → Escapes t last →
      isScalar first = true → isScalar last = true → last < first →
      Offends (s ++ '-' :: t) .reversedRange
  | formless {text : List Char} : (∀ n, ¬ Escapes text n) →
      (∀ s t first last, text = s ++ '-' :: t → Escapes s first → ¬ Escapes t last) →
      (∀ x y, text ≠ [x, '>', y]) → Offends text .unrecognized

private theorem hexValue_four {a b c d : Char} {i j k l : Nat} (ha : Json.hexDigit? a = some i)
    (hb : Json.hexDigit? b = some j) (hc : Json.hexDigit? c = some k)
    (hd : Json.hexDigit? d = some l) :
    hexValue [a, b, c, d] = 4096 * i + 256 * j + 16 * k + l := by
  simp only [hexValue, List.foldl_cons, List.foldl_nil, ha, hb, hc, hd, Option.getD_some]
  omega

theorem hexFour?_eq_some_iff {s rest : List Char} {n : Nat} :
    Json.hexFour? s = some (n, rest) ↔ ∃ digits, digits.length = 4 ∧
      (∀ d ∈ digits, (Json.hexDigit? d).isSome) ∧ s = digits ++ rest ∧ n = hexValue digits := by
  constructor
  · intro h
    unfold Json.hexFour? at h
    split at h
    · next a b c d rest' =>
      simp only [Option.bind_eq_bind, Option.bind_eq_some_iff, Option.pure_def, Option.some.injEq,
        Prod.mk.injEq] at h
      obtain ⟨i, ha, j, hb, k, hc, l, hd, rfl, rfl⟩ := h
      exact ⟨[a, b, c, d], rfl, by simp [ha, hb, hc, hd], rfl, (hexValue_four ha hb hc hd).symm⟩
    · cases h
  · rintro ⟨digits, hlength, hhex, rfl, rfl⟩
    obtain ⟨a, b, c, d, rfl⟩ := List.length_eq_four.mp hlength
    simp only [List.forall_mem_cons, Option.isSome_iff_exists] at hhex
    obtain ⟨⟨i, ha⟩, ⟨j, hb⟩, ⟨k, hc⟩, ⟨l, hd⟩, -⟩ := hhex
    simp [Json.hexFour?, ha, hb, hc, hd, hexValue_four ha hb hc hd]

/-- The second character of an escape tells it from a pair. -/
theorem Escapes.exists_eq_cons {s : List Char} {n : Nat} (h : Escapes s n) :
    ∃ rest, s = '\\' :: 'u' :: rest := by
  cases h with
  | four => exact ⟨_, rfl⟩
  | braced => exact ⟨_, rfl⟩

theorem escape?_append {s : List Char} {n : Nat} (h : Escapes s n) (rest : List Char) :
    escape? (s ++ rest) = some (n, rest) := by
  cases h with
  | @four digits hlength hhex =>
    have hfour : Json.hexFour? (digits ++ rest) = some (hexValue digits, rest) :=
      hexFour?_eq_some_iff.mpr ⟨digits, hlength, hhex, rfl, rfl⟩
    obtain ⟨a, b, c, d, rfl⟩ := List.length_eq_four.mp hlength
    -- A digit is no brace, so the other spelling is not tried.
    have hbrace : a ≠ '\x7b' := by
      rintro rfl
      simp [Json.hexDigit?] at hhex
    unfold escape?
    split
    · next heq =>
      simp only [List.cons_append, List.cons.injEq, true_and] at heq
      exact absurd heq.1 hbrace
    · next heq =>
      obtain rfl := (List.cons_eq_cons.mp (List.cons_eq_cons.mp heq).2).2
      exact hfour
    · next hne => exact absurd rfl (hne _)
  | @braced digits hmin hmax hhex =>
    have hspan : (digits ++ '\x7d' :: rest).span (fun c => (Json.hexDigit? c).isSome) =
        (digits, '\x7d' :: rest) := by
      rw [List.span_eq_takeWhile_dropWhile, List.takeWhile_append_of_pos hhex,
        List.dropWhile_append_of_pos hhex]
      simp [Json.hexDigit?]
    have hcount : (1 ≤ digits.length && digits.length ≤ 6) = true := by simp [hmin, hmax]
    simp only [List.cons_append, List.append_assoc, List.nil_append, escape?, hspan, hcount,
      if_true]

theorem exists_of_escape?_eq_some {s rest : List Char} {n : Nat}
    (h : escape? s = some (n, rest)) : ∃ t, Escapes t n ∧ s = t ++ rest := by
  unfold escape? at h
  split at h
  · next inner =>
    simp only [List.span_eq_takeWhile_dropWhile] at h
    split at h
    · next after hafter =>
      split at h
      · next hcount =>
        obtain ⟨rfl, rfl⟩ := Prod.mk.inj (Option.some.inj h)
        simp only [Bool.and_eq_true, decide_eq_true_eq] at hcount
        have hinner : inner = inner.takeWhile (fun c => (Json.hexDigit? c).isSome) ++
            '\x7d' :: after := by
          rw [← hafter, List.takeWhile_append_dropWhile]
        refine ⟨_, .braced hcount.1 hcount.2 fun d => List.mem_takeWhile_imp, ?_⟩
        conv_lhs => rw [hinner]
        simp
      · cases h
    · cases h
  · next inner =>
    obtain ⟨digits, hlength, hhex, rfl, rfl⟩ := hexFour?_eq_some_iff.mp h
    exact ⟨_, .four hlength hhex, rfl⟩
  · cases h

theorem escapes?_eq_point_iff {text : List Char} {n : Nat} :
    escapes? text = some (n, none) ↔ Escapes text n := by
  constructor
  · intro h
    unfold escapes? at h
    split at h
    · next first hfirst =>
      obtain ⟨rfl, -⟩ := Prod.mk.inj (Option.some.inj h)
      obtain ⟨s, hs, htext⟩ := exists_of_escape?_eq_some hfirst
      rwa [htext, List.append_nil]
    · split at h <;> cases h
    · cases h
  · intro h
    have hescape := escape?_append h []
    rw [List.append_nil] at hescape
    simp only [escapes?, hescape]

theorem escapes?_eq_range_iff {text : List Char} {first last : Nat} :
    escapes? text = some (first, some last) ↔
      ∃ s t, text = s ++ '-' :: t ∧ Escapes s first ∧ Escapes t last := by
  constructor
  · intro h
    unfold escapes? at h
    split at h
    · cases h
    · next rest hfirst =>
      split at h
      · next hlast =>
        obtain ⟨rfl, hlast'⟩ := Prod.mk.inj (Option.some.inj h)
        obtain rfl := Option.some.inj hlast'
        obtain ⟨s, hs, rfl⟩ := exists_of_escape?_eq_some hfirst
        obtain ⟨t, ht, rfl⟩ := exists_of_escape?_eq_some hlast
        exact ⟨s, t, by rw [List.append_nil], hs, ht⟩
      · cases h
    · cases h
  · rintro ⟨s, t, rfl, hs, ht⟩
    have hescape := escape?_append ht []
    rw [List.append_nil] at hescape
    simp only [escapes?, escape?_append hs, hescape]

theorem escapes?_eq_none_iff {text : List Char} :
    escapes? text = none ↔ (∀ n, ¬ Escapes text n) ∧
      ∀ s t first last, text = s ++ '-' :: t → Escapes s first → ¬ Escapes t last := by
  constructor
  · intro h
    refine ⟨fun n hn => ?_, fun s t first last htext hs ht => ?_⟩
    · rw [escapes?_eq_point_iff.mpr hn] at h
      cases h
    · rw [escapes?_eq_range_iff.mpr ⟨s, t, htext, hs, ht⟩] at h
      cases h
  · rintro ⟨hpoint, hrange⟩
    cases h : escapes? text with
    | none => rfl
    | some ends =>
      obtain ⟨first, last⟩ := ends
      cases last with
      | none => exact absurd (escapes?_eq_point_iff.mp h) (hpoint first)
      | some last =>
        obtain ⟨s, t, htext, hs, ht⟩ := escapes?_eq_range_iff.mp h
        exact absurd ht (hrange s t first last htext hs)

private theorem escapes?_pair (x y : Char) : escapes? [x, '>', y] = none := by
  refine escapes?_eq_none_iff.mpr ⟨fun n hn => ?_, fun s t first last htext hs _ => ?_⟩
  · obtain ⟨rest, hrest⟩ := hn.exists_eq_cons
    simp at hrest
  · obtain ⟨rest, rfl⟩ := hs.exists_eq_cons
    simp at htext

theorem parse_of_spells {text : List Char} {item : Item} (h : Spells text item) :
    Item.parse text = .ok item := by
  unfold Item.parse
  cases h with
  | pair => simp only [escapes?_pair]
  | point hs hscalar => simp only [escapes?_eq_point_iff.mpr hs, hscalar, if_true]
  | range hs ht hfirst hlast hle =>
    simp [escapes?_eq_range_iff.mpr ⟨_, _, rfl, hs, ht⟩, hfirst, hlast, Nat.not_lt.mpr hle]

theorem parse_of_offends {text : List Char} {problem : Problem} (h : Offends text problem) :
    Item.parse text = .error ⟨problem, text⟩ := by
  unfold Item.parse
  cases h with
  | point hs hscalar => simp [escapes?_eq_point_iff.mpr hs, hscalar]
  | @ends _ _ first last hs ht hscalar =>
    have hbad : (!isScalar first || !isScalar last) = true := by simpa using hscalar
    simp only [escapes?_eq_range_iff.mpr ⟨_, _, rfl, hs, ht⟩, hbad, if_true]
  | reversed hs ht hfirst hlast hlt =>
    simp [escapes?_eq_range_iff.mpr ⟨_, _, rfl, hs, ht⟩, hfirst, hlast, hlt]
  | formless hpoint hrange hpair =>
    simp [escapes?_eq_none_iff.mpr ⟨hpoint, hrange⟩]

/-- An item either says something or has something wrong with it. -/
theorem spells_or_offends {text : List Char} (htext : ∀ c ∈ text, Text.isBlank c = false) :
    (∃ item, Spells text item) ∨ ∃ problem, Offends text problem := by
  cases hends : escapes? text with
  | none =>
    obtain ⟨hpoint, hrange⟩ := escapes?_eq_none_iff.mp hends
    by_cases hpair : ∃ x y, text = [x, '>', y]
    · obtain ⟨x, y, rfl⟩ := hpair
      exact .inl ⟨_, .pair (htext x (by simp)) (htext y (by simp))⟩
    · exact .inr ⟨_, .formless hpoint hrange fun x y heq => hpair ⟨x, y, heq⟩⟩
  | some ends =>
    obtain ⟨first, last⟩ := ends
    cases last with
    | none =>
      have hs := escapes?_eq_point_iff.mp hends
      cases hscalar : isScalar first with
      | true => exact .inl ⟨_, .point hs hscalar⟩
      | false => exact .inr ⟨_, .point hs hscalar⟩
    | some last =>
      obtain ⟨s, t, rfl, hs, ht⟩ := escapes?_eq_range_iff.mp hends
      cases hfirst : isScalar first with
      | false => exact .inr ⟨_, .ends hs ht (.inl hfirst)⟩
      | true =>
        cases hlast : isScalar last with
        | false => exact .inr ⟨_, .ends hs ht (.inr hlast)⟩
        | true =>
          rcases Nat.lt_or_ge last first with hlt | hle
          · exact .inr ⟨_, .reversed hs ht hfirst hlast hlt⟩
          · exact .inl ⟨_, .range hs ht hfirst hlast hle⟩

theorem Item.parse_eq_ok_iff {text : List Char} (htext : ∀ c ∈ text, Text.isBlank c = false)
    {item : Item} : Item.parse text = .ok item ↔ Spells text item := by
  refine ⟨fun h => ?_, parse_of_spells⟩
  rcases spells_or_offends htext with ⟨item', hitem⟩ | ⟨problem, hproblem⟩
  · rw [parse_of_spells hitem] at h
    exact Except.ok.inj h ▸ hitem
  · rw [parse_of_offends hproblem] at h
    cases h

theorem Item.parse_eq_error_iff {text : List Char} (htext : ∀ c ∈ text, Text.isBlank c = false)
    {e : DirectiveError} :
    Item.parse text = .error e ↔ Offends text e.problem ∧ e.item = text := by
  constructor
  · intro h
    rcases spells_or_offends htext with ⟨item, hitem⟩ | ⟨problem, hproblem⟩
    · rw [parse_of_spells hitem] at h
      cases h
    · rw [parse_of_offends hproblem] at h
      obtain rfl := Except.error.inj h
      exact ⟨hproblem, rfl⟩
  · rintro ⟨hproblem, rfl⟩
    exact parse_of_offends hproblem

section Items

variable {texts : List (List Char)} {items : List Item} {e : DirectiveError}

theorem parseItems_eq_ok_iff (htexts : ∀ text ∈ texts, ∀ c ∈ text, Text.isBlank c = false) :
    parseItems texts = .ok items ↔ List.Forall₂ Spells texts items := by
  induction texts generalizing items with
  | nil => simp [parseItems, eq_comm]
  | cons text texts ih =>
    obtain ⟨htext, htexts⟩ := List.forall_mem_cons.mp htexts
    unfold parseItems
    constructor
    · intro h
      split at h
      · cases h
      next item hfirst =>
        cases hrest : parseItems texts with
        | error e =>
          rw [hrest] at h
          cases h
        | ok rest =>
          rw [hrest] at h
          obtain rfl := Except.ok.inj h
          exact .cons ((Item.parse_eq_ok_iff htext).mp hfirst) ((ih htexts).mp hrest)
    · intro h
      cases h with
      | cons hfirst hrest =>
        rw [parse_of_spells hfirst, (ih htexts).mpr hrest]
        rfl

/-- Of several items with something wrong the first one is reported. -/
theorem parseItems_eq_error_iff (htexts : ∀ text ∈ texts, ∀ c ∈ text, Text.isBlank c = false) :
    parseItems texts = .error e ↔ ∃ before text after, texts = before ++ text :: after ∧
      (∀ t ∈ before, ∃ item, Spells t item) ∧ Offends text e.problem ∧ e.item = text := by
  induction texts with
  | nil => simp [parseItems]
  | cons text texts ih =>
    obtain ⟨htext, htexts⟩ := List.forall_mem_cons.mp htexts
    unfold parseItems
    constructor
    · intro h
      split at h
      · next hfirst =>
        obtain rfl := Except.error.inj h
        have hwrong := (Item.parse_eq_error_iff htext).mp hfirst
        exact ⟨[], text, texts, rfl, by simp, hwrong⟩
      next item hfirst =>
        cases hrest : parseItems texts with
        | ok rest =>
          rw [hrest] at h
          cases h
        | error e' =>
          rw [hrest] at h
          obtain rfl := Except.error.inj h
          obtain ⟨before, t, after, rfl, hbefore, ht⟩ := (ih htexts).mp hrest
          refine ⟨text :: before, t, after, rfl, List.forall_mem_cons.mpr ⟨?_, hbefore⟩, ht⟩
          exact ⟨item, (Item.parse_eq_ok_iff htext).mp hfirst⟩
    · rintro ⟨before, t, after, hsplit, hbefore, ht⟩
      cases before with
      | nil =>
        obtain ⟨rfl, rfl⟩ := List.cons_eq_cons.mp hsplit
        rw [(Item.parse_eq_error_iff htext).mpr ht]
      | cons first before =>
        obtain ⟨rfl, rfl⟩ := List.cons_eq_cons.mp hsplit
        obtain ⟨⟨item, hfirst⟩, hbefore⟩ := List.forall_mem_cons.mp hbefore
        rw [parse_of_spells hfirst, (ih htexts).mpr ⟨before, t, after, rfl, hbefore, ht⟩]
        rfl

end Items

theorem parse_eq_ok_iff {directive : List Char} {items : List Item} :
    parse directive = .ok items ↔ List.Forall₂ Spells (Text.words directive) items :=
  parseItems_eq_ok_iff fun _ hword _ => Text.not_isBlank_of_mem_words hword

theorem parse_eq_error_iff {directive : List Char} {e : DirectiveError} :
    parse directive = .error e ↔
      ∃ before text after, Text.words directive = before ++ text :: after ∧
        (∀ t ∈ before, ∃ item, Spells t item) ∧ Offends text e.problem ∧ e.item = text :=
  parseItems_eq_error_iff fun _ hword _ => Text.not_isBlank_of_mem_words hword

section Members

variable {α β : Type} {R : α → β → Prop} {l : List α} {m : List β}

theorem exists_left_of_mem (h : List.Forall₂ R l m) {b : β} (hb : b ∈ m) : ∃ a ∈ l, R a b := by
  induction h with
  | nil => cases hb
  | @cons a _ l m hfirst _ ih =>
    rcases List.mem_cons.mp hb with rfl | hb
    · exact ⟨a, List.mem_cons_self, hfirst⟩
    · obtain ⟨a', ha', hR⟩ := ih hb
      exact ⟨a', List.mem_cons_of_mem a ha', hR⟩

theorem exists_right_of_mem (h : List.Forall₂ R l m) {a : α} (ha : a ∈ l) : ∃ b ∈ m, R a b :=
  exists_left_of_mem (R := flip R) h.flip ha

end Members

theorem exists_parse_eq_ok_iff {directive : List Char} : (∃ items, parse directive = .ok items) ↔
    ∀ text ∈ Text.words directive, ∃ item, Spells text item := by
  constructor
  · rintro ⟨items, h⟩ text htext
    obtain ⟨item, -, hspells⟩ := exists_right_of_mem (parse_eq_ok_iff.mp h) htext
    exact ⟨item, hspells⟩
  · intro hall
    cases h : parse directive with
    | ok items => exact ⟨items, rfl⟩
    | error e =>
      obtain ⟨before, text, after, hwords, -, hoffends, -⟩ := parse_eq_error_iff.mp h
      obtain ⟨item, hspells⟩ := hall text (by simp [hwords])
      have hread := parse_of_spells hspells
      rw [parse_of_offends hoffends] at hread
      cases hread

end Concordance.Accent
