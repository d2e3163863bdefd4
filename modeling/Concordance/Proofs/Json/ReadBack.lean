import Concordance.Json.Reader
import Concordance.Json.Writer
import Concordance.Proofs.Json.Fields
import Concordance.Proofs.Text.CodePoint
import Mathlib.Data.List.Nodup

/-! A value is read back from its text: strings with whatever is in them, and arrays and objects
without numbers. -/

namespace Concordance.Json

open CodePoints (ofChars ofString)

section Strings

theorem codeNumber?_append {s : List Char} {n : Nat} (h : hexFour? s = some (n, []))
    (rest : CodePoints) : codeNumber? (ofChars s ++ rest) = some (n, rest) := by
  rcases s with _ | ⟨a, _ | ⟨b, _ | ⟨c, _ | ⟨d, s⟩⟩⟩⟩
  case cons.cons.cons.cons =>
    obtain rfl : s = [] := by
      simp only [hexFour?, Option.bind_eq_bind, Option.bind_eq_some_iff] at h
      obtain ⟨i, -, j, -, k, -, l, -, hrest⟩ := h
      simpa using congrArg (Option.map Prod.snd) hrest
    simp [codeNumber?, h]
  all_goals cases h

theorem unicodeEscape?_hex {c : Char} (hc : c.toNat < 0x20) (rest : CodePoints) :
    unicodeEscape? (ofChars (Text.hex 4 c.toNat) ++ rest) = some (.char c, rest) := by
  have hcodes : ∀ n < 0x20, hexFour? (Text.hex 4 n) = some (n, []) := by decide +kernel
  have hhigh : ¬0xD800 ≤ c.toNat := by omega
  simp [unicodeEscape?, codeNumber?_append (hcodes _ hc), hhigh, CodePoint.ofNat]

theorem exists_digitChar_of_mem_hex {width n : Nat} {d : Char} (h : d ∈ Text.hex width n) :
    ∃ k < 16, d = Nat.digitChar k := by
  rcases List.mem_append.mp h with hzero | hdigit
  · exact ⟨0, by decide, List.eq_of_mem_replicate hzero⟩
  · clear h
    induction n using Nat.strongRecOn with
    | ind n ih =>
      rcases Nat.lt_or_ge n 16 with hlow | hhigh
      · rw [Nat.toDigits_of_lt_base hlow] at hdigit
        exact ⟨n, hlow, List.mem_singleton.mp hdigit⟩
      · rw [Nat.toDigits_of_base_le (by decide) hhigh] at hdigit
        rcases List.mem_append.mp hdigit with hfront | hlast
        · exact ih (n / 16) (by omega) hfront
        · exact ⟨n % 16, Nat.mod_lt _ (by decide), List.mem_singleton.mp hlast⟩

/-- A hexadecimal digit needs no escape. -/
theorem plain_of_mem_hex {width n : Nat} {d : Char} (h : d ∈ Text.hex width n) :
    0x20 ≤ d.toNat ∧ d ≠ '"' ∧ d ≠ '\\' := by
  have hplain : ∀ k < 16, 0x20 ≤ (Nat.digitChar k).toNat ∧ Nat.digitChar k ≠ '"' ∧
      Nat.digitChar k ≠ '\\' := by decide
  obtain ⟨k, hk, rfl⟩ := exists_digitChar_of_mem_hex h
  exact hplain k hk

/-- A character is written by an escape that denotes it, or stands for itself. Either way no control
character is written, and a quote or a backslash only right behind a backslash. -/
theorem renderChar_cases (c : Char) :
    (∃ e code, renderChar c = '\\' :: e :: code ∧
      (∀ rest, escape? (ofChars (e :: code) ++ rest) = some (.char c, rest)) ∧
      (∀ d ∈ e :: code, 0x20 ≤ d.toNat) ∧ ∀ d ∈ code, d ≠ '"' ∧ d ≠ '\\') ∨
    renderChar c = [c] ∧ c ≠ '"' ∧ c ≠ '\\' ∧ 0x20 ≤ c.toNat := by
  by_cases hshort : c ∈ ['"', '\\', '\x08', '\t', '\n', '\x0C', '\r']
  · left
    simp only [List.mem_cons, List.not_mem_nil, or_false] at hshort
    rcases hshort with rfl | rfl | rfl | rfl | rfl | rfl | rfl <;>
      exact ⟨_, _, rfl, fun _ => rfl, by simp, by simp⟩
  simp only [List.mem_cons, List.not_mem_nil, or_false, not_or] at hshort
  obtain ⟨hquote, hslash, hback, htab, hfeed, hform, hreturn⟩ := hshort
  by_cases hlow : c.toNat < 0x20
  · left
    refine ⟨'u', Text.hex 4 c.toNat, ?_, unicodeEscape?_hex hlow, ?_,
      fun d hd => (plain_of_mem_hex hd).2⟩
    · simp [renderChar, hquote, hslash, hback, htab, hfeed, hform, hreturn, hlow]
    · exact List.forall_mem_cons.mpr ⟨by decide, fun d hd => (plain_of_mem_hex hd).1⟩
  · right
    refine ⟨?_, hquote, hslash, Nat.le_of_not_lt hlow⟩
    simp [renderChar, hquote, hslash, hback, htab, hfeed, hform, hreturn, hlow]

theorem le_of_mem_renderChar {c d : Char} (h : d ∈ renderChar c) : 0x20 ≤ d.toNat := by
  rcases renderChar_cases c with ⟨e, code, hcode, -, hline, -⟩ | ⟨hself, -, -, hline⟩
  · rw [hcode] at h
    rcases List.mem_cons.mp h with rfl | hd
    · decide
    · exact hline d hd
  · rw [hself, List.mem_singleton] at h
    rwa [h]

theorem renderChar_ne_nil (c : Char) : renderChar c ≠ [] := by
  rcases renderChar_cases c with ⟨e, code, hcode, -⟩ | ⟨hself, -⟩
  · rw [hcode]
    exact List.cons_ne_nil _ _
  · rw [hself]
    exact List.cons_ne_nil _ _

theorem readString_renderChar {fuel : Nat} {text s rest : CodePoints} (c : Char)
    (h : readString fuel text = .ok (s, rest)) :
    readString (fuel + 1) (ofChars (renderChar c) ++ text) = .ok (.char c :: s, rest) := by
  rcases renderChar_cases c with ⟨e, code, hcode, hdenotes, -⟩ | ⟨hself, hquote, hslash, hline⟩
  · have hescape := hdenotes text
    rw [CodePoints.ofChars_cons, List.cons_append] at hescape
    simp [hcode, readString, hescape, h, Except.map]
  · simp [hself, readString, hquote, hslash, CodePoint.passes, Nat.not_lt.mpr hline, h, Except.map]

theorem renderString_ofChars (s : List Char) :
    renderString (ofChars s) = '"' :: (s.flatMap renderChar ++ ['"']) := by
  rw [renderString, ofChars, List.flatMap_map]
  rfl

/-- A string is read up to the quote behind it, whatever quotes are in it. -/
theorem readString_flatMap (s : List Char) {fuel : Nat} (rest : CodePoints)
    (hfuel : s.length < fuel) :
    readString fuel (ofChars (s.flatMap renderChar) ++ .char '"' :: rest) =
      .ok (ofChars s, rest) := by
  induction s generalizing fuel with
  | nil =>
    obtain ⟨fuel, rfl⟩ := Nat.exists_eq_add_of_lt hfuel
    rfl
  | cons c s ih =>
    obtain ⟨fuel, rfl⟩ := Nat.exists_eq_add_of_lt hfuel
    rw [List.flatMap_cons, CodePoints.ofChars_append, List.append_assoc]
    refine readString_renderChar c (ih ?_)
    rw [List.length_cons]
    omega

theorem length_lt_renderString (s : List Char) : s.length < (renderString (ofChars s)).length := by
  have hchars : s.length ≤ (s.flatMap renderChar).length := by
    induction s with
    | nil => exact Nat.le_refl 0
    | cons c cs ih =>
      have hone := List.length_pos_of_ne_nil (renderChar_ne_nil c)
      rw [List.flatMap_cons, List.length_append, List.length_cons]
      omega
  rw [renderString_ofChars, List.length_cons, List.length_append]
  omega

end Strings

/-- Values that are read back as they were written, with so many arrays and objects inside each
other at most: no number is among them, no string has a half of a surrogate pair, and no object has
a key twice. -/
inductive Exact : Nat → Json → Prop where
  | null (depth : Nat) : Exact depth .null
  | bool (depth : Nat) (b : Bool) : Exact depth (.bool b)
  | str (depth : Nat) (s : List Char) : Exact depth (.str s)
  | arr {depth : Nat} {items : List Json} :
      (∀ v ∈ items, Exact depth v) → Exact (depth + 1) (.arr items)
  | obj {depth : Nat} {fields : List (String × Json)} :
      (fields.map (·.1)).Nodup → (∀ f ∈ fields, Exact depth f.2) → Exact (depth + 1) (.obj fields)

/-- A value is read from the front of any text that begins with its own. -/
def ReadsBack (limits : Limits) (depth : Nat) (v : Json) : Prop :=
  ∀ (fuel : Nat) (rest : CodePoints), 2 * v.render.length ≤ fuel →
    readValue limits fuel depth (ofChars v.render ++ rest) = .ok (v, rest)

section Values

variable {limits : Limits} {depth : Nat} {v : Json}

/-- The first character tells a value from white space and from the end of an array. -/
theorem Exact.head (h : Exact depth v) :
    ∃ c tail, v.render = c :: tail ∧ isGap c = false ∧ c ≠ ']' := by
  cases h with
  | null => exact ⟨_, _, rfl, by decide, by decide⟩
  | bool _ b => cases b <;> exact ⟨_, _, rfl, by decide, by decide⟩
  | str => exact ⟨'"', _, rfl, by decide, by decide⟩
  | @arr _ items _ => cases items <;> exact ⟨'[', _, rfl, by decide, by decide⟩
  | @obj _ fields _ _ => cases fields <;> exact ⟨'\x7b', _, rfl, by decide, by decide⟩

theorem Exact.skipGap (h : Exact depth v) (rest : CodePoints) :
    Json.skipGap (ofChars v.render ++ rest) = ofChars v.render ++ rest := by
  obtain ⟨c, tail, hhead, hgap, -⟩ := h.head
  rw [hhead, CodePoints.ofChars_cons, List.cons_append, Json.skipGap,
    List.dropWhile_cons_of_neg (by simp [CodePoint.passes, hgap])]

/-- A word is read from the characters of words at the front of a text. -/
theorem readScalar_word {word : List Char} (hword : word.all isWordChar = true)
    (hread : ∀ more, readWord limits (word ++ more) = .ok (v, more)) (rest : CodePoints) :
    readScalar limits (ofChars word ++ rest) = .ok (v, rest) := by
  simp [readScalar, CodePoints.spanChars_append (List.all_eq_true.mp hword), hread, Except.map,
    CodePoints.append_spanChars]

theorem readItems_last {fuel : Nat} {text rest : CodePoints}
    (hvalue : readValue limits fuel depth text = .ok (v, .char ']' :: rest)) :
    readItems limits (fuel + 1) depth text = .ok ([v], rest) := by
  have hclose : Json.skipGap (.char ']' :: rest) = .char ']' :: rest := rfl
  simp [readItems, hvalue, hclose]

theorem readItems_next {fuel : Nat} {text more rest : CodePoints} {items : List Json}
    (hvalue : readValue limits fuel depth text = .ok (v, .char ',' :: more))
    (hgap : Json.skipGap more = more)
    (hitems : readItems limits fuel depth more = .ok (items, rest)) :
    readItems limits (fuel + 1) depth text = .ok (v :: items, rest) := by
  have hcomma : Json.skipGap (.char ',' :: more) = .char ',' :: more := rfl
  simp [readItems, hvalue, hcomma, hgap, hitems, Except.map]

theorem readFields_last {fuel : Nat} {fields : List (String × Json)} {key : String}
    {text rest : CodePoints} (hkey : key.toList.length < fuel)
    (hgap : Json.skipGap text = text)
    (hvalue : readValue limits fuel depth text = .ok (v, .char '\x7d' :: rest)) :
    readFields limits (fuel + 1) depth fields (ofChars (renderString key) ++ .char ':' :: text) =
      .ok (setField fields key v, rest) := by
  have hread := readString_flatMap key.toList (.char ':' :: text) hkey
  have hcolon : Json.skipGap (.char ':' :: text) = .char ':' :: text := rfl
  have hbrace : Json.skipGap (.char '\x7d' :: rest) = .char '\x7d' :: rest := rfl
  simp [readFields, ofString, renderString_ofChars, hread, hcolon, hgap, hvalue, hbrace]

theorem readFields_next {fuel : Nat} {fields read : List (String × Json)} {key : String}
    {text more rest : CodePoints} (hkey : key.toList.length < fuel)
    (hgap : Json.skipGap text = text)
    (hvalue : readValue limits fuel depth text = .ok (v, .char ',' :: more))
    (hmore : Json.skipGap more = more)
    (hfields : readFields limits fuel depth (setField fields key v) more = .ok (read, rest)) :
    readFields limits (fuel + 1) depth fields (ofChars (renderString key) ++ .char ':' :: text) =
      .ok (read, rest) := by
  have hread := readString_flatMap key.toList (.char ':' :: text) hkey
  have hcolon : Json.skipGap (.char ':' :: text) = .char ':' :: text := rfl
  have hcomma : Json.skipGap (.char ',' :: more) = .char ',' :: more := rfl
  simp [readFields, ofString, renderString_ofChars, hread, hcolon, hgap, hvalue, hcomma, hmore,
    hfields]

theorem readValue_arr {fuel : Nat} {c : Char} {tail rest : CodePoints} {items : List Json}
    (hgap : isGap c = false) (hclose : c ≠ ']')
    (hitems : readItems limits fuel depth (.char c :: tail) = .ok (items, rest)) :
    readValue limits (fuel + 1) (depth + 1) (.char '[' :: .char c :: tail) =
      .ok (.arr items, rest) := by
  have hskip : Json.skipGap (.char c :: tail) = .char c :: tail := by
    rw [Json.skipGap, List.dropWhile_cons_of_neg (by simp [CodePoint.passes, hgap])]
  simp [readValue, hskip, hclose, hitems, Except.map]

theorem readValue_obj {fuel : Nat} {tail rest : CodePoints} {fields : List (String × Json)}
    (hfields : readFields limits fuel depth [] (.char '"' :: tail) = .ok (fields, rest)) :
    readValue limits (fuel + 1) (depth + 1) (.char '\x7b' :: .char '"' :: tail) =
      .ok (.obj fields, rest) := by
  have hskip : Json.skipGap (.char '"' :: tail) = .char '"' :: tail := rfl
  simp [readValue, hskip, hfields, Except.map]

theorem readItems_render {items : List Json} (hexact : ∀ x ∈ v :: items, Exact depth x)
    (hreads : ∀ x ∈ v :: items, ReadsBack limits depth x) (fuel : Nat) (rest : CodePoints)
    (hfuel : 2 * (v.render ++ renderItems items).length ≤ fuel) :
    readItems limits fuel depth (ofChars (v.render ++ renderItems items) ++ rest) =
      .ok (v :: items, rest) := by
  induction items generalizing v fuel with
  | nil =>
    rw [List.length_append, renderItems, List.length_singleton] at hfuel
    cases fuel with
    | zero => omega
    | succ fuel =>
      rw [CodePoints.ofChars_append, List.append_assoc]
      exact readItems_last (hreads v List.mem_cons_self fuel (.char ']' :: rest) (by omega))
  | cons w items ih =>
    rw [List.forall_mem_cons] at hexact hreads
    have htext : ofChars (v.render ++ renderItems (w :: items)) ++ rest =
        ofChars v.render ++ .char ',' :: (ofChars (w.render ++ renderItems items) ++ rest) := by
      simp [renderItems]
    simp only [renderItems, List.length_append, List.length_cons] at hfuel
    cases fuel with
    | zero => omega
    | succ fuel =>
      rw [htext]
      refine readItems_next (hreads.1 _ _ (by omega)) ?_ (ih hexact.2 hreads.2 _ ?_)
      · rw [CodePoints.ofChars_append, List.append_assoc]
        exact (hexact.2 w List.mem_cons_self).skipGap _
      · rw [List.length_append]
        omega

private theorem notMem_of_nodup {before after : List (String × Json)} {key : String}
    (hnodup : ((before ++ (key, v) :: after).map (·.1)).Nodup) : key ∉ before.map (·.1) := by
  rw [List.map_append, List.nodup_append] at hnodup
  intro hmem
  exact hnodup.2.2 key hmem key (by simp) rfl

theorem readFields_render {before fields : List (String × Json)} {key : String}
    (hexact : ∀ f ∈ (key, v) :: fields, Exact depth f.2)
    (hreads : ∀ f ∈ (key, v) :: fields, ReadsBack limits depth f.2)
    (hnodup : ((before ++ (key, v) :: fields).map (·.1)).Nodup) (fuel : Nat) (rest : CodePoints)
    (hfuel : 2 * (renderString key ++ ':' :: v.render ++ renderFields fields).length ≤ fuel) :
    readFields limits fuel depth before
        (ofChars (renderString key ++ ':' :: v.render ++ renderFields fields) ++ rest) =
      .ok (before ++ (key, v) :: fields, rest) := by
  induction fields generalizing key v before fuel with
  | nil =>
    have hlength : _ < (renderString key).length := length_lt_renderString key.toList
    have hnew := notMem_of_nodup hnodup
    have htext : ofChars (renderString key ++ ':' :: v.render ++ renderFields []) ++ rest =
        ofChars (renderString key) ++ .char ':' :: (ofChars v.render ++ .char '\x7d' :: rest) := by
      simp [renderFields]
    simp only [renderFields, List.length_append, List.length_cons, List.length_nil] at hfuel
    cases fuel with
    | zero => omega
    | succ fuel =>
      rw [htext, ← setField_of_notMem hnew]
      have hv : ReadsBack limits depth v := hreads _ List.mem_cons_self
      exact readFields_last (by omega) ((hexact _ List.mem_cons_self).skipGap _) (hv _ _ (by omega))
  | cons f fields ih =>
    have hlength : _ < (renderString key).length := length_lt_renderString key.toList
    have hnew := notMem_of_nodup hnodup
    rw [List.forall_mem_cons] at hexact hreads
    have htext : ofChars (renderString key ++ ':' :: v.render ++ renderFields (f :: fields)) ++
        rest = ofChars (renderString key) ++ .char ':' :: (ofChars v.render ++ .char ',' ::
          (ofChars (renderString f.1 ++ ':' :: f.2.render ++ renderFields fields) ++ rest)) := by
      simp [renderFields]
    have hbefore : before ++ (key, v) :: f :: fields =
        setField before key v ++ (f.1, f.2) :: fields := by
      rw [setField_of_notMem hnew, List.append_assoc, List.singleton_append]
    simp only [renderFields, List.length_append, List.length_cons] at hfuel
    cases fuel with
    | zero => omega
    | succ fuel =>
      rw [htext, hbefore]
      have hv : ReadsBack limits depth v := hreads.1
      refine readFields_next (by omega) (hexact.1.skipGap _) (hv _ _ (by omega)) rfl
        (ih hexact.2 hreads.2 ?_ _ ?_)
      · rwa [hbefore] at hnodup
      · simp only [List.length_append, List.length_cons]
        omega

/-- Whatever stands behind the text of a value, the value is read and nothing of what stands
there. -/
theorem Exact.readsBack (h : Exact depth v) (limits : Limits) : ReadsBack limits depth v := by
  induction h with
  | null depth =>
    intro fuel rest hfuel
    cases fuel with
    | zero => cases hfuel
    | succ fuel =>
      exact @readScalar_word limits _ "null".toList rfl (fun _ => rfl) rest
  | bool depth b =>
    intro fuel rest hfuel
    cases fuel with
    | zero => cases b <;> cases hfuel
    | succ fuel =>
      cases b
      · exact @readScalar_word limits _ "false".toList rfl (fun _ => rfl) rest
      · exact @readScalar_word limits _ "true".toList rfl (fun _ => rfl) rest
  | str depth s =>
    intro fuel rest hfuel
    have hlength := length_lt_renderString s
    rw [render] at hfuel ⊢
    cases fuel with
    | zero => omega
    | succ fuel =>
      have hstring : readString fuel _ = _ := readString_flatMap s rest (by omega)
      simp [readValue, renderString_ofChars, hstring, Except.map]
  | @arr depth items hexact ih =>
    intro fuel rest hfuel
    cases items with
    | nil =>
      cases fuel with
      | zero => cases hfuel
      | succ fuel => rfl
    | cons v items =>
      rw [render, List.cons_append, List.length_cons] at hfuel
      cases fuel with
      | zero => omega
      | succ fuel =>
        have hitems := readItems_render hexact ih fuel rest (by omega)
        obtain ⟨c, tail, hhead, hgap, hclose⟩ := (hexact v List.mem_cons_self).head
        rw [hhead] at hitems
        rw [render, hhead]
        exact readValue_arr hgap hclose hitems
  | @obj depth fields hnodup hexact ih =>
    intro fuel rest hfuel
    cases fields with
    | nil =>
      cases fuel with
      | zero => cases hfuel
      | succ fuel => rfl
    | cons f fields =>
      rcases f with ⟨key, v⟩
      simp only [render, List.length_cons, List.length_append] at hfuel
      cases fuel with
      | zero => omega
      | succ fuel =>
        refine readValue_obj (@readFields_render _ _ _ [] _ _ hexact ih hnodup fuel rest ?_)
        simp only [List.length_append, List.length_cons]
        omega

/-- A value is read back from its own text. -/
theorem read_render (h : Exact limits.depth v) : read limits v.render = .ok v := by
  have hskip := h.skipGap []
  have hvalue := h.readsBack limits (2 * v.render.length + 2) [] (by omega)
  rw [List.append_nil] at hskip hvalue
  simp only [read, CodePoints.length_ofChars, hskip, hvalue]
  rfl

theorem le_of_mem_renderString {s : List Char} {c : Char} (h : c ∈ renderString (ofChars s)) :
    0x20 ≤ c.toNat := by
  simp only [renderString_ofChars, List.mem_cons, List.mem_append, List.mem_flatMap,
    List.not_mem_nil, or_false] at h
  rcases h with rfl | ⟨d, -, hd⟩ | rfl
  · decide
  · exact le_of_mem_renderChar hd
  · decide

private theorem le_of_mem_renderItems {items : List Json}
    (h : ∀ v ∈ items, ∀ c ∈ v.render, 0x20 ≤ c.toNat) :
    ∀ c ∈ renderItems items, 0x20 ≤ c.toNat := by
  induction items with
  | nil => simp [renderItems]
  | cons v items ih =>
    rw [List.forall_mem_cons] at h
    intro c hc
    rw [renderItems, List.cons_append, List.mem_cons, List.mem_append] at hc
    rcases hc with rfl | hc | hc
    · decide
    · exact h.1 c hc
    · exact ih h.2 c hc

private theorem le_of_mem_renderFields {fields : List (String × Json)}
    (h : ∀ f ∈ fields, ∀ c ∈ f.2.render, 0x20 ≤ c.toNat) :
    ∀ c ∈ renderFields fields, 0x20 ≤ c.toNat := by
  induction fields with
  | nil => simp [renderFields]
  | cons f fields ih =>
    rw [List.forall_mem_cons] at h
    intro c hc
    simp only [renderFields, List.cons_append, List.mem_cons, List.mem_append] at hc
    rcases hc with rfl | (hc | rfl | hc) | hc
    · decide
    · exact le_of_mem_renderString hc
    · decide
    · exact h.1 c hc
    · exact ih h.2 c hc

/-- No control character stands in the text of a value, a line feed least of all. -/
theorem Exact.le_of_mem_render (h : Exact depth v) : ∀ c ∈ v.render, 0x20 ≤ c.toNat := by
  induction h with
  | null depth => simp [render]
  | bool depth b => cases b <;> simp [render]
  | str depth s => exact fun c hc => le_of_mem_renderString hc
  | @arr depth items _ ih =>
    cases items with
    | nil => simp [render]
    | cons v items =>
      have hitems := le_of_mem_renderItems ih
      -- The first item stands behind the bracket where the others stand behind a comma.
      intro c hc
      rw [render, List.cons_append, List.mem_cons] at hc
      rcases hc with rfl | hc
      · decide
      · exact hitems c (List.mem_cons_of_mem _ hc)
  | @obj depth fields _ _ ih =>
    cases fields with
    | nil => simp [render]
    | cons f fields =>
      have hfields := le_of_mem_renderFields ih
      intro c hc
      rw [render, List.cons_append, List.cons_append, List.mem_cons] at hc
      rcases hc with rfl | hc
      · decide
      · exact hfields c (List.mem_cons_of_mem _ hc)

end Values

end Concordance.Json
