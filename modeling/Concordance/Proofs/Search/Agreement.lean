import Concordance.Proofs.Corpus.Joining
import Concordance.Proofs.Pattern.WholeLine
import Concordance.Proofs.Search.WholeWord
import Concordance.Proofs.Text.CodePoint

/-! What the store's filter finds in the tokens of a candidate, the search confirms in its text. -/

namespace Concordance.Search

open Corpus (Candidate Token joined location)
open Pattern (Interspersed Options WordPattern endsLine)
open Store (WordOptions)

/-- In a text of characters a match is what `find` finds. -/
@[simp] theorem findIn_ofChars (whole : Bool) (p : WordPattern) (text : List Char) :
    findIn whole p (.ofChars text) = find whole p text := by
  rw [findIn, CodePoints.stretches_ofChars, List.findSome?_singleton]

theorem findIn_isSome_iff {whole : Bool} {p : WordPattern} {text : CodePoints} :
    (findIn whole p text).isSome ↔ ∃ s ∈ text.stretches, (find whole p s).isSome := by
  rw [findIn, List.findSome?_isSome_iff]

theorem matchedIn_isSome_iff {o : WordOptions} {text : CodePoints} {words : List (List Char)} :
    (matchedIn o text words).isSome ↔
      ∀ word ∈ words, (findIn o.wholeWords (localPattern o word) text).isSome := by
  induction words with
  | nil => simp [matchedIn]
  | cons word words ih =>
    rw [matchedIn, List.forall_mem_cons, ← ih]
    cases findIn o.wholeWords (localPattern o word) text <;> simp

theorem confirm_isSome_iff {o : WordOptions} {words : List (List Char)} {c : Candidate} :
    (confirm o words c).isSome ↔
      ∀ word ∈ words, (findIn o.wholeWords (localPattern o word) c.text).isSome := by
  rw [confirm, Option.isSome_map, matchedIn_isSome_iff]

/-- The pattern that the store is given for a word matches the payload of a token: a stretch of it
between halves of surrogate pairs, or all of it if the pattern is to match a whole payload. -/
def MatchesToken (o : WordOptions) (word : List Char) (t : Token) : Prop :=
  ∃ s ∈ t.payload.stretches, ((o.remotePattern word).search s).isSome ∧
    (o.wholeWords = true → t.payload = s)

/-- The part of a text between two positions touches no character that would be part of a word. -/
def DetachedIn (text : CodePoints) (i j : Nat) : Prop :=
  (∀ c, 0 < i → text[i - 1]? = some (.char c) → continuesWord c = false) ∧
    ∀ c, text[j]? = some (.char c) → continuesWord c = false

/-- A part that is detached in a text is detached in the stretch in which it stands. -/
theorem DetachedIn.stretch {front back : CodePoints} {s : List Char} {i j : Nat}
    (h : DetachedIn (front ++ .ofChars s ++ back) (front.length + i) (front.length + j)) :
    Detached s i j := by
  have hat {k : Nat} {c : Char} (hc : s[k]? = some c) :
      (front ++ .ofChars s ++ back)[front.length + k]? = some (.char c) := by
    obtain ⟨hk, -⟩ := List.getElem?_eq_some_iff.mp hc
    rw [List.append_assoc, List.getElem?_append_right (by omega), Nat.add_sub_cancel_left,
      List.getElem?_append_left (by simpa using hk), CodePoints.ofChars, List.getElem?_map, hc,
      Option.map_some]
  refine ⟨fun c hi hc => h.1 c (by omega) ?_, fun c hc => h.2 c (hat hc)⟩
  rw [Nat.add_sub_assoc hi]
  exact hat hc

/-- A word is found in any text that holds a payload in which it is found. -/
theorem findIn_isSome_of_infix {o : WordOptions} {word : List Char} {t : Token}
    (hwhole : o.wholeWords = false) (hmatches : MatchesToken o word t) (before after : CodePoints) :
    (findIn false (localPattern o word) (before ++ t.payload ++ after)).isSome := by
  obtain ⟨s, hs, hsearch, -⟩ := hmatches
  obtain ⟨w, hw, hi⟩ := (Options.search_isSome_iff hwhole).mp hsearch
  obtain ⟨front, back, hpayload⟩ := CodePoints.isInfix_of_mem_stretches hs
  obtain ⟨_, left, right, _, -, -, hstretch⟩ :=
    CodePoints.exists_stretch_around (before ++ front) (back ++ after) s
  have htext : before ++ front ++ .ofChars s ++ (back ++ after) = before ++ t.payload ++ after := by
    simp [← hpayload]
  rw [htext] at hstretch
  have hlocal : ((localOptions o).pattern word).search (left ++ s ++ right) =
      find false (localPattern o word) (left ++ s ++ right) := rfl
  refine findIn_isSome_iff.mpr ⟨_, hstretch, ?_⟩
  rw [← hlocal, Options.search_isSome_iff rfl]
  exact ⟨w, hw.trans (List.infix_append _ _ _), hi⟩

/-- Behind a match of a whole payload that stands alone stands no part of a word: a line feed that
ends the payload is none. -/
private theorem detached_of_endsLine {before w rest after : List Char} (hrest : endsLine rest)
    (h : Detached (before ++ (w ++ rest) ++ after) before.length
      (before.length + (w ++ rest).length)) :
    Detached (before ++ (w ++ rest) ++ after) before.length (before.length + w.length) := by
  obtain rfl | rfl := Pattern.endsLine_iff.mp hrest
  · rwa [List.append_nil] at *
  · refine ⟨h.1, ?_⟩
    intro c hc
    have hfeed : (before ++ (w ++ ['\n']) ++ after)[before.length + w.length]? = some '\n' := by
      simp
    obtain rfl := Option.some.inj (hfeed.symm.trans hc)
    decide

/-- A whole word is found where a text that is one of it as a whole stands alone, provided that
texts of the word go on within words. -/
theorem find_isSome_of_detached {o : WordOptions} {word before s after : List Char}
    (hwhole : o.wholeWords = true) (ho : GoesOnWithinWords o word)
    (hsearch : ((o.remotePattern word).search s).isSome)
    (hdetached : Detached (before ++ s ++ after) before.length (before.length + s.length)) :
    (find true (localPattern o word) (before ++ s ++ after)).isSome := by
  obtain ⟨w, rest, rfl, hw, hrest⟩ :=
    (Options.search_isSome_iff_of_wholeLine hwhole).mp hsearch
  have hslice : (before ++ (w ++ rest) ++ after).extract before.length
      (before.length + w.length) = w := by
    simp [List.extract_eq_take_drop]
  have hcounts : CountsAsWhole o word (before ++ (w ++ rest) ++ after) before.length
      (before.length + w.length) := by
    refine ⟨⟨by omega, by simp, ?_⟩, detached_of_endsLine hrest hdetached⟩
    rw [hslice]
    exact hw
  exact (find_whole_isSome_iff o word _).mpr ⟨_, _, hcounts, hcounts.isLongest ho⟩

/-- A whole word is found in any text in which a payload stands alone that matches as a whole. -/
theorem findIn_isSome_of_detachedIn {o : WordOptions} {word : List Char} {t : Token}
    {before after : CodePoints} (hwhole : o.wholeWords = true) (ho : GoesOnWithinWords o word)
    (hmatches : MatchesToken o word t)
    (hdetached : DetachedIn (before ++ t.payload ++ after) before.length
      (before.length + t.payload.length)) :
    (findIn true (localPattern o word) (before ++ t.payload ++ after)).isSome := by
  obtain ⟨s, -, hsearch, hpayload⟩ := hmatches
  rw [hpayload hwhole] at hdetached ⊢
  obtain ⟨front, left, right, back, rfl, rfl, hstretch⟩ :=
    CodePoints.exists_stretch_around before after s
  refine findIn_isSome_iff.mpr ⟨_, hstretch, find_isSome_of_detached hwhole ho hsearch ?_⟩
  have htext : front ++ .ofChars left ++ .ofChars s ++ (.ofChars right ++ back) =
      front ++ .ofChars (left ++ s ++ right) ++ back := by
    simp
  rw [htext] at hdetached
  apply DetachedIn.stretch
  simpa [Nat.add_assoc] using hdetached

/-- Combining marks are parts of words. -/
private theorem continuesWord_of_isMark {c : Char} (h : Text.isMark c = true) :
    continuesWord c = true := by
  simp [continuesWord, h]

/-- A candidate is confirmed if each word matches in the payload of one of its tokens. If words are
to be whole, each must match such a payload from end to end where the payload stands alone in the
text of the candidate, and what may be ignored must be combining marks that are in no class. -/
theorem confirm_isSome_of_matchesToken (o : WordOptions) (words : List (List Char))
    {docSet collection bookCode : CodePoints} {tokens : List Token} {c : Candidate}
    (hc : c ∈ Corpus.candidatesOf docSet collection bookCode tokens) :
    (o.wholeWords = false →
      (∀ word ∈ words, ∃ t ∈ tokens, location t.scopes = c.key ∧ MatchesToken o word t) →
      (confirm o words c).isSome) ∧
    (o.wholeWords = true → (∀ x ∈ o.ignore, Text.isMark x = true) →
      (∀ cls ∈ o.equivalent, ∀ x ∈ cls, x ∉ o.ignore) →
      (∀ word ∈ words, ∃ before t after, tokens = before ++ t :: after ∧
        location t.scopes = c.key ∧ MatchesToken o word t ∧
        DetachedIn c.text (joined c.key before).length
          ((joined c.key before).length + t.payload.length)) →
      (confirm o words c).isSome) := by
  have htext := Corpus.text_of_mem_candidatesOf hc
  refine ⟨fun hwhole hwords => ?_, fun hwhole hmarks hclasses hwords => ?_⟩
  · rw [confirm_isSome_iff, hwhole]
    intro word hword
    obtain ⟨t, ht, hkey, hmatches⟩ := hwords word hword
    obtain ⟨before, after, htokens⟩ := List.append_of_mem ht
    rw [htext, Corpus.joined_of_eq_append htokens hkey]
    exact findIn_isSome_of_infix hwhole hmatches _ _
  · rw [confirm_isSome_iff, hwhole]
    intro word hword
    obtain ⟨before, t, after, htokens, hkey, hmatches, hdetached⟩ := hwords word hword
    have hparts : ∀ x ∈ o.ignore, continuesWord x = true := fun x hx =>
      continuesWord_of_isMark (hmarks x hx)
    rw [htext, Corpus.joined_of_eq_append htokens hkey] at hdetached ⊢
    exact findIn_isSome_of_detachedIn hwhole (goesOnWithinWords_of_ignore hparts hclasses word)
      hmatches hdetached

/-- The tokens of a verse that another verse interrupts. -/
def splitVerse : List Token :=
  [⟨["chapter/1", "verses/1"], "xab,"⟩, ⟨["chapter/1", "verses/2"], "ab"⟩,
    ⟨["chapter/1", "verses/1"], "a\u0301b\n"⟩, ⟨["chapter/1", "verses/1"], "."⟩]

/-- The first `ab` of the verse touches a letter. The token behind it holds the word with an accent
and a line feed, and is confirmed. -/
theorem confirm_isSome_of_matchesToken_splitVerse :
    let c : Candidate := ⟨⟨"LIB", "eng", "GEN", some "1", some "1"⟩, "xab,a\u0301b\n."⟩
    let word := ['a', 'b']
    let t : Token := ⟨["chapter/1", "verses/1"], "a\u0301b\n"⟩
    let before := splitVerse.take 2
    let whole : WordOptions := { wholeWords := true, ignore := ['\u0301'] }
    let part : WordOptions := { ignore := ['\u0301'] }
    c ∈ Corpus.candidatesOf "LIB" "eng" "GEN" splitVerse ∧
      splitVerse = before ++ t :: splitVerse.drop 3 ∧ location t.scopes = c.key ∧
      MatchesToken part word t ∧ (confirm part [word] c).isSome ∧
      MatchesToken whole word t ∧
      DetachedIn c.text (joined c.key before).length
        ((joined c.key before).length + t.payload.length) ∧
      (confirm whole [word] c).isSome := by
  intro c word t before whole part
  have hc : c ∈ Corpus.candidatesOf "LIB" "eng" "GEN" splitVerse := by decide +kernel
  have htokens : splitVerse = before ++ t :: splitVerse.drop 3 := by decide +kernel
  have hkey : location t.scopes = c.key := by decide +kernel
  have hpart : MatchesToken part word t :=
    ⟨['a', '\u0301', 'b', '\n'], by decide +kernel, by decide +kernel, fun h => by cases h⟩
  have hwhole : MatchesToken whole word t :=
    ⟨['a', '\u0301', 'b', '\n'], by decide +kernel, by decide +kernel, fun _ => rfl⟩
  have hdetached : DetachedIn c.text (joined c.key before).length
      ((joined c.key before).length + t.payload.length) := by
    have hcomma : c.text[(joined c.key before).length - 1]? = some (.char ',') := by decide +kernel
    have hpoint : c.text[(joined c.key before).length + t.payload.length]? = some (.char '.') := by
      decide +kernel
    refine ⟨fun x _ hx => ?_, fun x hx => ?_⟩
    · obtain rfl := CodePoint.char.inj (Option.some.inj (hcomma.symm.trans hx))
      decide +kernel
    · obtain rfl := CodePoint.char.inj (Option.some.inj (hpoint.symm.trans hx))
      decide +kernel
  have hmem : t ∈ splitVerse := by decide +kernel
  have hmarks : ∀ x ∈ whole.ignore, Text.isMark x = true := by
    intro x hx
    obtain rfl := List.mem_singleton.mp hx
    rfl
  refine ⟨hc, htokens, hkey, hpart, ?_, hwhole, hdetached, ?_⟩
  · apply (confirm_isSome_of_matchesToken part [word] hc).1 rfl
    intro w hw
    obtain rfl := List.mem_singleton.mp hw
    exact ⟨t, hmem, hkey, hpart⟩
  · apply (confirm_isSome_of_matchesToken whole [word] hc).2 rfl hmarks (by decide)
    intro w hw
    obtain rfl := List.mem_singleton.mp hw
    exact ⟨before, t, splitVerse.drop 3, htokens, hkey, hwhole, hdetached⟩

end Concordance.Search
