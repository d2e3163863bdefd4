import Concordance.Proofs.Accent.Coverage
import Concordance.Proofs.Pattern.Text
import Concordance.Proofs.Store.Reading

/-! Which string literals of a query the grammar of the query language admits, and what they denote
by it. -/

namespace Concordance.Store

/-- True if neither of the two characters that end a line occurs. -/
def OneLine (s : List Char) : Prop := '\n' ∉ s ∧ '\r' ∉ s

instance (s : List Char) : Decidable (OneLine s) := inferInstanceAs (Decidable (_ ∧ _))

/-- The escapes of one character, and what each denotes. -/
def shortEscapes : List (Char × Char) :=
  [('"', '"'), ('\\', '\\'), ('/', '/'), ('b', '\x08'), ('f', '\x0C'), ('n', '\n'), ('r', '\r'),
   ('t', '\t')]

/-- What may stand between the quotes of a string literal for one character of its value. -/
inductive SpellsChar : List Char → Char → Prop where
  | plain {c : Char} : c ≠ '"' → c ≠ '\\' → OneLine [c] → SpellsChar [c] c
  | short {c d : Char} : (c, d) ∈ shortEscapes → SpellsChar ['\\', c] d
  | four {digits : List Char} {n : Nat} :
      Json.hexFour? digits = some (n, []) → Accent.isScalar n = true →
      SpellsChar ('\\' :: 'u' :: digits) (Char.ofNat n)
  | surrogates {digits digits' : List Char} {high low : Nat} :
      Json.hexFour? digits = some (high, []) → 0xD800 ≤ high → high < 0xDC00 →
      Json.hexFour? digits' = some (low, []) → 0xDC00 ≤ low → low < 0xE000 →
      SpellsChar ('\\' :: 'u' :: digits ++ '\\' :: 'u' :: digits')
        (Char.ofNat (0x10000 + (high - 0xD800) * 0x400 + (low - 0xDC00)))
  | braced {digits : List Char} :
      digits ≠ [] → (∀ d ∈ digits, (Json.hexDigit? d).isSome) →
      Accent.isScalar (Accent.hexValue digits) = true →
      SpellsChar ('\\' :: 'u' :: '\x7b' :: digits ++ ['\x7d'])
        (Char.ofNat (Accent.hexValue digits))

/-- What may stand between the quotes of a string literal for its value. -/
inductive Spells : List Char → List Char → Prop where
  | nil : Spells [] []
  | cons {text rest value : List Char} {c : Char} :
      SpellsChar text c → Spells rest value → Spells (text ++ rest) (c :: value)

/-- The literal is a string literal of the query language, with that value. -/
def Denotes (literal value : List Char) : Prop :=
  ∃ body, literal = '"' :: body ++ ['"'] ∧ Spells body value

theorem SpellsChar.ne_nil {text : List Char} {c : Char} (h : SpellsChar text c) : text ≠ [] := by
  cases h <;> simp

theorem SpellsChar.text_cases {text : List Char} {c : Char} (h : SpellsChar text c) :
    (text = [c] ∧ c ≠ '"' ∧ c ≠ '\\' ∧ OneLine [c]) ∨
      (∃ letter, text = ['\\', letter] ∧ (letter, c) ∈ shortEscapes) ∨
      ∃ digits, text = '\\' :: 'u' :: digits := by
  cases h with
  | plain hquote hslash hline => exact .inl ⟨rfl, hquote, hslash, hline⟩
  | short hshort => exact .inr (.inl ⟨_, rfl, hshort⟩)
  | four => exact .inr (.inr ⟨_, rfl⟩)
  | surrogates => exact .inr (.inr ⟨_, rfl⟩)
  | braced => exact .inr (.inr ⟨_, rfl⟩)

/-- What begins with the characters of a literal spells the first of them, if that ends no line, and
nothing else. -/
theorem spellsChar_of_append {c d : Char} {text rest body : List Char}
    (happend : text ++ rest = literalChar c ++ body) (h : SpellsChar text d) :
    d = c ∧ rest = body ∧ OneLine [c] := by
  unfold literalChar at happend
  split at happend
  · next hescaped =>
    have hc : c = '\\' ∨ c = '"' := by simpa using hescaped
    rcases h.text_cases with ⟨rfl, -, hslash, -⟩ | ⟨letter, rfl, hshort⟩ | ⟨digits, rfl⟩
    · cases happend
      exact absurd rfl hslash
    · obtain ⟨rfl, rfl⟩ : letter = c ∧ rest = body := by simpa using happend
      rcases hc with rfl | rfl
      · obtain rfl : d = '\\' := by simpa [shortEscapes] using hshort
        exact ⟨rfl, rfl, by decide⟩
      · obtain rfl : d = '"' := by simpa [shortEscapes] using hshort
        exact ⟨rfl, rfl, by decide⟩
    · obtain ⟨rfl, -⟩ : 'u' = c ∧ digits ++ rest = body := by simpa using happend
      rcases hc with hc | hc <;> cases hc
  · next hplain =>
    obtain ⟨hslash, -⟩ : c ≠ '\\' ∧ c ≠ '"' := by simpa using hplain
    rcases h.text_cases with ⟨rfl, -, -, hline⟩ | ⟨letter, rfl, -⟩ | ⟨digits, rfl⟩
    · obtain ⟨rfl, rfl⟩ : d = c ∧ rest = body := by simpa using happend
      exact ⟨rfl, rfl, hline⟩
    · exact absurd (List.cons.inj happend).1.symm hslash
    · exact absurd (List.cons.inj happend).1.symm hslash

theorem literalChar_ne_nil (c : Char) : literalChar c ≠ [] := by
  unfold literalChar
  split <;> simp

theorem spellsChar_literalChar {c : Char} (h : OneLine [c]) : SpellsChar (literalChar c) c := by
  unfold literalChar
  split
  · next hescaped =>
    have hc : c = '\\' ∨ c = '"' := by simpa using hescaped
    rcases hc with rfl | rfl
    · exact .short (by decide)
    · exact .short (by decide)
  · next hplain =>
    obtain ⟨hslash, hquote⟩ : c ≠ '\\' ∧ c ≠ '"' := by simpa using hplain
    exact .plain hquote hslash h

theorem oneLine_cons {c : Char} {s : List Char} : OneLine (c :: s) ↔ OneLine [c] ∧ OneLine s := by
  simp only [OneLine, List.mem_cons, List.not_mem_nil, or_false, not_or]
  tauto

theorem spells_literalChars {value denoted : List Char} :
    Spells (value.flatMap literalChar) denoted ↔ denoted = value ∧ OneLine value := by
  constructor
  · intro h
    induction value generalizing denoted with
    | nil =>
      generalize htext : [].flatMap literalChar = text at h
      cases h with
      | nil => exact ⟨rfl, by decide⟩
      | cons hchar => exact absurd (List.append_eq_nil_iff.mp htext.symm).1 hchar.ne_nil
    | cons c value ih =>
      generalize htext : (c :: value).flatMap literalChar = text at h
      rw [List.flatMap_cons] at htext
      cases h with
      | nil => exact absurd (List.append_eq_nil_iff.mp htext).1 (literalChar_ne_nil c)
      | cons hchar hrest =>
        obtain ⟨rfl, rfl, hline⟩ := spellsChar_of_append htext.symm hchar
        obtain ⟨rfl, hlines⟩ := ih hrest
        exact ⟨rfl, oneLine_cons.mpr ⟨hline, hlines⟩⟩
  · rintro ⟨rfl, h⟩
    induction denoted with
    | nil => exact .nil
    | cons c value ih =>
      obtain ⟨hline, hlines⟩ := oneLine_cons.mp h
      exact .cons (spellsChar_literalChar hline) (ih hlines)

/-- A literal denotes the value it was made of, if that has one line, and nothing else. -/
theorem denotes_quoteLiteral {value denoted : List Char} :
    Denotes (quoteLiteral value) denoted ↔ denoted = value ∧ OneLine value := by
  rw [← spells_literalChars]
  constructor
  · rintro ⟨body, hliteral, hspells⟩
    obtain rfl : value.flatMap literalChar = body := by simpa [quoteLiteral] using hliteral
    exact hspells
  · intro hspells
    exact ⟨_, rfl, hspells⟩

theorem literalsOf_booksPieces (docSet : List Char) (patterns : List (List Char)) :
    literalsOf (booksPieces docSet patterns) = docSet :: patterns ++ ["paratext".toList] := by
  simp [booksPieces, filterPieces, literalsOf_append, literalsOf_commaLiterals, literalsOf]

theorem literalsOf_blocksPieces (book : List Char) (patterns : List (List Char)) :
    literalsOf (blocksPieces book patterns) =
      book :: "bookCode".toList :: patterns ++ ["chapter/".toList, "verses/".toList] := by
  simp [blocksPieces, filterPieces, literalsOf_append, literalsOf_commaLiterals, literalsOf]

/-- No blank comes into a pattern but through what may be ignored. -/
theorem mem_text_remotePattern {directive phrase word : List Char} {rules : Accent.Rules}
    (hrules : Accent.Rules.parse directive = .ok rules) (hword : word ∈ Text.words phrase)
    (whole : Bool) {x : Char} (hblank : Text.isBlank x = true) (hx : x ∉ Pattern.special)
    (hcolon : x ≠ ':') :
    x ∈ ((⟨whole, rules.ignore, rules.classes⟩ : WordOptions).remotePattern word).text ↔
      x ∈ rules.ignore := by
  unfold WordOptions.remotePattern
  rw [Pattern.Options.mem_text hx hcolon]
  apply or_iff_left
  rintro ⟨place, hplace, hmem⟩
  have hnot : Text.isBlank x = false := by
    rcases Pattern.Options.mem_of_mem_places hplace hmem with hchar | ⟨cls, hcls, hchar⟩
    · exact Text.not_isBlank_of_mem_words hword hchar
    · exact Accent.not_isBlank_of_mem_classes hrules hcls hchar
  rw [hblank] at hnot
  cases hnot

theorem oneLine_remotePattern {directive phrase word : List Char} {rules : Accent.Rules}
    (hrules : Accent.Rules.parse directive = .ok rules) (hword : word ∈ Text.words phrase)
    (whole : Bool) :
    OneLine ((⟨whole, rules.ignore, rules.classes⟩ : WordOptions).remotePattern word).text ↔
      OneLine rules.ignore := by
  unfold OneLine
  rw [mem_text_remotePattern hrules hword whole (by decide) (by decide) (by decide),
    mem_text_remotePattern hrules hword whole (by decide) (by decide) (by decide)]

/-- A literal that stands in a query denotes its value by the grammar of the query language if the
value is on one line, and denotes nothing otherwise. Of the values in a query, those of the program
are on one line; a pattern is, for every search word, exactly if the directive makes neither end of
a line ignorable; and the names of a doc set and a book come as they are. -/
theorem literals_denote_iff {directive : List Char} {rules : Accent.Rules}
    (hrules : Accent.Rules.parse directive = .ok rules) (whole : Bool)
    (phrase docSet book : List Char) :
    let o : WordOptions := ⟨whole, rules.ignore, rules.classes⟩
    let words := Text.words phrase
    (∀ value denoted, Denotes (quoteLiteral value) denoted ↔ denoted = value ∧ OneLine value) ∧
      (∀ word ∈ words, OneLine (o.remotePattern word).text ↔ OneLine rules.ignore) ∧
      ∀ value ∈ literalsOf (booksPieces docSet (o.patterns words)) ++
          literalsOf (blocksPieces book (o.patterns words)),
        OneLine value ∨ value = docSet ∨ value = book ∨
          value ∈ words.map fun word => (o.remotePattern word).text := by
  intro o words
  refine ⟨fun _ _ => denotes_quoteLiteral, ?_, ?_⟩
  · intro word hword
    exact oneLine_remotePattern hrules hword whole
  · intro value hvalue
    rw [literalsOf_booksPieces, literalsOf_blocksPieces] at hvalue
    simp only [List.mem_append, List.mem_cons, List.not_mem_nil, or_false] at hvalue
    rcases hvalue with ((hdocSet | hpattern) | rfl) | (hbook | rfl | hpattern) | rfl | rfl
    · exact .inr (.inl hdocSet)
    · exact .inr (.inr (.inr hpattern))
    · exact .inl (by decide)
    · exact .inr (.inr (.inl hbook))
    · exact .inl (by decide)
    · exact .inr (.inr (.inr hpattern))
    · exact .inl (by decide)
    · exact .inl (by decide)

/-- A directive for one accent and one pair: every literal of a query denotes its value, whatever
the word, as long as the names of the doc set and the book are on one line. -/
theorem literals_denote_iff_acute :
    Accent.Rules.parse "\\u0301 á>a".toList = .ok ⟨['\u0301'], [['á', 'a']]⟩ ∧
    OneLine ['\u0301'] ∧
    let o : WordOptions := ⟨true, ['\u0301'], [['á', 'a']]⟩
    let words := Text.words "más".toList
    (∀ value denoted, Denotes (quoteLiteral value) denoted ↔ denoted = value ∧ OneLine value) ∧
      (∀ word ∈ words, OneLine (o.remotePattern word).text ↔ OneLine ['\u0301']) ∧
      ∀ value ∈ literalsOf (booksPieces "LIB".toList (o.patterns words)) ++
          literalsOf (blocksPieces "B1".toList (o.patterns words)),
        OneLine value ∨ value = "LIB".toList ∨ value = "B1".toList ∨
          value ∈ words.map fun word => (o.remotePattern word).text := by
  have hrules : Accent.Rules.parse "\\u0301 á>a".toList = .ok ⟨['\u0301'], [['á', 'a']]⟩ := rfl
  exact ⟨hrules, by decide,
    literals_denote_iff hrules true "más".toList "LIB".toList "B1".toList⟩

/-- A line feed stands in a literal as it is, and then the literal is none. It comes there with a
name, or with a directive that makes it ignorable. -/
theorem line_feed_breaks_literal :
    (¬∃ value, Denotes (quoteLiteral "a\nb".toList) value) ∧
      ∃ rules, Accent.Rules.parse "\\u000A".toList = .ok rules ∧
        ¬∃ value, Denotes
          (quoteLiteral (({ ignore := rules.ignore } : WordOptions).remotePattern ['a']).text)
          value := by
  refine ⟨?_, ⟨['\n'], []⟩, rfl, ?_⟩
  · rintro ⟨value, hdenotes⟩
    exact absurd (denotes_quoteLiteral.mp hdenotes).2 (by decide)
  · rintro ⟨value, hdenotes⟩
    exact absurd (denotes_quoteLiteral.mp hdenotes).2 (by decide +kernel)

end Concordance.Store
