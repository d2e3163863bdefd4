import Concordance.Proofs.Json.ReadBack

/-! The fields of an object as they stand in its text, each with the text of its value. Nothing
inside a value, a string with quotes, commas and brackets in it least of all, is taken for a field
or for the end of one. -/

namespace Concordance

namespace Decimal

/-- The characters of a number. -/
def isNumeral (c : Char) : Bool := c.isDigit || c = '-' || c = '+' || c = '.' || c = 'e'

theorem isNumeral_of_mem_toDigits {n : Nat} {c : Char} (h : c ∈ Nat.toDigits 10 n) :
    isNumeral c := by
  have hdigit := Nat.isDigit_of_mem_toDigits (by decide) (by decide) h
  simp [isNumeral, hdigit]

theorem isNumeral_of_mem_zeros {n : Nat} {c : Char} (h : c ∈ List.replicate n '0') :
    isNumeral c := by
  rw [List.eq_of_mem_replicate h]
  decide

theorem isNumeral_of_mem_pointed {digits : List Char} (hdigits : ∀ c ∈ digits, isNumeral c)
    (places : Int) : ∀ c ∈ pointed digits places, isNumeral c := by
  intro c hc
  simp only [pointed] at hc
  split at hc
  · simp only [List.mem_cons, List.mem_append] at hc
    rcases hc with rfl | rfl | hc | hc
    · decide
    · decide
    · exact isNumeral_of_mem_zeros hc
    · exact hdigits c hc
  · simp only [List.mem_cons, List.mem_append] at hc
    rcases hc with (hc | hc) | rfl | hc
    · exact hdigits c (List.mem_of_mem_take hc)
    · exact isNumeral_of_mem_zeros hc
    · decide
    · split at hc
      · rw [List.mem_singleton.mp hc]
        decide
      · exact hdigits c (List.mem_of_mem_drop hc)

theorem isNumeral_of_mem_exponentText (width : Nat) (e : Int) :
    ∀ c ∈ exponentText width e, isNumeral c := by
  intro c hc
  simp only [exponentText, List.mem_cons, List.mem_append] at hc
  rcases hc with hc | hc | hc
  · split at hc <;> rw [hc] <;> decide
  · exact isNumeral_of_mem_zeros hc
  · exact isNumeral_of_mem_toDigits hc

theorem Layout.isNumeral_of_mem_scaled (l : Layout) (d : Scaled) :
    ∀ c ∈ l.scaled d, isNumeral c := by
  have hdigits : ∀ c ∈ Nat.toDigits 10 d.digits, isNumeral c :=
    fun c hc => isNumeral_of_mem_toDigits hc
  intro c hc
  simp only [Layout.scaled] at hc
  split at hc
  · exact isNumeral_of_mem_pointed hdigits _ c hc
  · simp only [List.mem_append, List.mem_cons] at hc
    rcases hc with (hc | hc) | rfl | hc
    · exact hdigits c (List.mem_of_mem_take hc)
    · split at hc
      · cases hc
      · rcases List.mem_cons.mp hc with rfl | hc
        · decide
        · exact hdigits c (List.mem_of_mem_drop hc)
    · decide
    · exact isNumeral_of_mem_exponentText _ _ c hc

/-- The text of a number holds the characters of numbers, or those of the words of its layout. -/
theorem Layout.mem_render (l : Layout) (x : Float) {c : Char} (h : c ∈ l.render x) :
    isNumeral c ∨ c ∈ l.nan.toList ∨ c ∈ l.infinity.toList := by
  have hsign : ∀ d ∈ (if isSigned x then ['-'] else []), isNumeral d := by
    intro d hd
    split at hd
    · rw [List.mem_singleton.mp hd]
      decide
    · cases hd
  simp only [Layout.render] at h
  split at h
  · exact .inr (.inl h)
  split at h
  · exact (List.mem_append.mp h).imp (hsign c) .inr
  left
  split at h
  · rcases List.mem_append.mp h with h | h
    · exact hsign c h
    · simp only [List.mem_cons, List.not_mem_nil, or_false] at h
      rcases h with rfl | rfl | rfl <;> decide
  · rcases List.mem_append.mp h with h | h
    · exact hsign c h
    · exact l.isNumeral_of_mem_scaled _ c h

end Decimal

namespace Json

/-- Where a scan of a text stands, so many brackets deep. -/
inductive Scan where
  | outside (depth : Nat)
  /-- in a string -/
  | inside (depth : Nat)
  /-- in a string, behind a backslash -/
  | protects (depth : Nat)
  deriving DecidableEq

def Scan.step : Scan → Char → Scan
  | .outside depth, c =>
    if c = '"' then .inside depth
    else if c = '[' || c = '\x7b' then .outside (depth + 1)
    else if c = ']' || c = '\x7d' then .outside (depth - 1)
    else .outside depth
  | .inside depth, c =>
    if c = '"' then .outside depth else if c = '\\' then .protects depth else .inside depth
  | .protects depth, _ => .inside depth

/-- True if a value ends in front of the character. -/
def Scan.ends (s : Scan) (c : Char) : Bool :=
  s = .outside 0 && (c = ',' || c = ']' || c = '\x7d')

/-- The text up to where a value ends. -/
def valueText (s : Scan) : List Char → List Char
  | [] => []
  | c :: rest => if s.ends c then [] else c :: valueText (s.step c) rest

/-- A scan goes through a text and does not end in it. -/
def Through (s : Scan) (text : List Char) (t : Scan) : Prop :=
  ∀ rest, valueText s (text ++ rest) = text ++ valueText t rest

section Scans

variable {s t u : Scan} {text more : List Char} {c : Char}

theorem Through.refl (s : Scan) : Through s [] s := fun _ => rfl

theorem Through.append (h : Through s text t) (hmore : Through t more u) :
    Through s (text ++ more) u := by
  intro rest
  rw [List.append_assoc, h, hmore, List.append_assoc]

theorem Through.cons (hends : s.ends c = false) (h : Through (s.step c) text t) :
    Through s (c :: text) t := by
  intro rest
  rw [List.cons_append, valueText, if_neg (by simp [hends]), h, List.cons_append]

/-- Characters that are neither quotes nor commas nor brackets change nothing. -/
theorem through_outside {depth : Nat}
    (h : ∀ c ∈ text, c ∉ ['"', ',', '[', ']', '\x7b', '\x7d']) :
    Through (.outside depth) text (.outside depth) := by
  induction text with
  | nil => exact .refl _
  | cons c text ih =>
    rw [List.forall_mem_cons] at h
    have hc := h.1
    simp only [List.mem_cons, List.not_mem_nil, or_false, not_or] at hc
    obtain ⟨hquote, hcomma, hopen, hclose, hbrace, hend⟩ := hc
    have hstep : Scan.step (.outside depth) c = .outside depth := by
      simp [Scan.step, hquote, hopen, hclose, hbrace, hend]
    refine .cons (by simp [Scan.ends, hcomma, hclose, hend]) ?_
    rw [hstep]
    exact ih h.2

theorem through_inside {depth : Nat} (h : ∀ c ∈ text, c ≠ '"' ∧ c ≠ '\\') :
    Through (.inside depth) text (.inside depth) := by
  induction text with
  | nil => exact .refl _
  | cons c text ih =>
    rw [List.forall_mem_cons] at h
    have hstep : Scan.step (.inside depth) c = .inside depth := by
      simp [Scan.step, h.1.1, h.1.2]
    refine .cons rfl ?_
    rw [hstep]
    exact ih h.2

theorem through_renderChar (depth : Nat) (c : Char) :
    Through (.inside depth) (renderChar c) (.inside depth) := by
  rcases renderChar_cases c with ⟨e, code, hcode, -, -, hfree⟩ | ⟨hself, hquote, hslash, -⟩
  · rw [hcode]
    exact .cons rfl (.cons rfl (through_inside hfree))
  · rw [hself]
    exact through_inside (by simp [hquote, hslash])

theorem through_renderPoint (depth : Nat) (p : CodePoint) :
    Through (.inside depth) (renderPoint p) (.inside depth) := by
  cases p with
  | char c => exact through_renderChar depth c
  | half n => exact .cons rfl (.cons rfl (through_inside fun d hd => (plain_of_mem_hex hd).2))

/-- A string is left at its closing quote, whatever is in it. -/
theorem through_renderString (depth : Nat) (s : CodePoints) :
    Through (.outside depth) (renderString s) (.outside depth) := by
  have hpoints : Through (.inside depth) (s.flatMap renderPoint) (.inside depth) := by
    induction s with
    | nil => exact .refl _
    | cons p s ih => exact (through_renderPoint depth p).append ih
  have hopen : Scan.ends (.outside depth) '"' = false := by simp [Scan.ends]
  exact .cons hopen (hpoints.append (.cons rfl (.refl _)))

theorem through_renderFloat (depth : Nat) (x : Float) :
    Through (.outside depth) (renderFloat x) (.outside depth) := by
  apply through_outside
  intro c hc hmem
  have hnumeral : Decimal.isNumeral c ∨ c ∈ "null".toList := by
    unfold renderFloat at hc
    split at hc
    · exact .inr hc
    · exact (lineLayout.mem_render x hc).imp_right (Or.elim · id id)
  simp only [List.mem_cons, List.not_mem_nil, or_false] at hmem
  rcases hmem with rfl | rfl | rfl | rfl | rfl | rfl <;> revert hnumeral <;> decide

theorem through_int (depth : Nat) (n : Int) :
    Through (.outside depth) (toString n).toList (.outside depth) := by
  apply through_outside
  intro c hc hmem
  have hnumeral : Decimal.isNumeral c := by
    rw [Int.toString_eq_repr] at hc
    cases n with
    | ofNat m =>
      exact Decimal.isNumeral_of_mem_toDigits (by simpa [Int.repr, Nat.repr] using hc)
    | negSucc m =>
      rcases (by simpa [Int.repr, Nat.repr] using hc : c = '-' ∨ _) with rfl | hc
      · decide
      · exact Decimal.isNumeral_of_mem_toDigits hc
  simp only [List.mem_cons, List.not_mem_nil, or_false] at hmem
  rcases hmem with rfl | rfl | rfl | rfl | rfl | rfl <;> revert hnumeral <;> decide

/-- Inside of brackets neither a comma nor a colon ends a value. -/
theorem Through.separated {depth : Nat} (hc : c = ',' ∨ c = ':')
    (h : Through (.outside (depth + 1)) text t) :
    Through (.outside (depth + 1)) (c :: text) t := by
  refine .cons (by simp [Scan.ends]) ?_
  rcases hc with rfl | rfl <;> exact h

theorem Through.bracketed {depth : Nat} (hc : c = '[' ∨ c = '\x7b')
    (h : Through (.outside (depth + 1)) text (.outside depth)) :
    Through (.outside depth) (c :: text) (.outside depth) := by
  rcases hc with rfl | rfl <;> exact .cons (by simp [Scan.ends]) h

theorem through_close {depth : Nat} (hc : c = ']' ∨ c = '\x7d') :
    Through (.outside (depth + 1)) [c] (.outside depth) := by
  rcases hc with rfl | rfl <;> exact .cons (by simp [Scan.ends]) (.refl _)

theorem through_field {depth : Nat} (key : String)
    (h : Through (.outside (depth + 1)) text (.outside (depth + 1))) :
    Through (.outside (depth + 1)) (renderString key ++ ':' :: text) (.outside (depth + 1)) :=
  (through_renderString (depth + 1) key).append (h.separated (.inr rfl))

end Scans

mutual

/-- The scan of a value goes through all of it and is where it was, whatever the value is. -/
theorem through_render (depth : Nat) : (v : Json) →
    Through (.outside depth) v.render (.outside depth)
  | .null => through_outside (by simp [render])
  | .bool true => through_outside (by simp [render])
  | .bool false => through_outside (by simp [render])
  | .int n => through_int depth n
  | .float x => through_renderFloat depth x
  | .str s => through_renderString depth s
  | .arr [] => .bracketed (.inl rfl) (through_close (.inl rfl))
  | .arr (v :: vs) =>
    .bracketed (.inl rfl) ((through_render (depth + 1) v).append (through_renderItems depth vs))
  | .obj [] => .bracketed (.inr rfl) (through_close (.inr rfl))
  | .obj ((key, v) :: fs) => by
    have hfield := through_field key (through_render (depth + 1) v)
    rw [render, List.cons_append]
    exact .bracketed (.inr rfl) (hfield.append (through_renderFields depth fs))

theorem through_renderItems (depth : Nat) : (vs : List Json) →
    Through (.outside (depth + 1)) (renderItems vs) (.outside depth)
  | [] => through_close (.inl rfl)
  | v :: vs => by
    have hitem := through_render (depth + 1) v
    rw [renderItems, List.cons_append]
    exact (hitem.append (through_renderItems depth vs)).separated (.inl rfl)

theorem through_renderFields (depth : Nat) : (fs : List (String × Json)) →
    Through (.outside (depth + 1)) (renderFields fs) (.outside depth)
  | [] => through_close (.inr rfl)
  | (key, v) :: fs => by
    have hfield := through_field key (through_render (depth + 1) v)
    rw [renderFields, List.cons_append, List.cons_append]
    exact (hfield.append (through_renderFields depth fs)).separated (.inl rfl)

end

/-- The text of a value in front of what ends it. -/
theorem valueText_render (v : Json) {c : Char} (hends : Scan.ends (.outside 0) c = true)
    (rest : List Char) : valueText (.outside 0) (v.render ++ c :: rest) = v.render := by
  rw [through_render 0 v, valueText, if_pos hends, List.append_nil]

/-- A key behind its opening quote, and what stands behind its closing quote. -/
def keyText (s : List Char) : Except ReadError (String × List Char) :=
  (readString (s.length + 1) s).map fun (key, rest) => (key.shown, s.drop (s.length - rest.length))

/-- The fields of an object behind its opening brace or behind a comma. There are at most `fuel` of
them. -/
def fieldTextsFrom : Nat → List Char → Option (List (String × List Char))
  | fuel + 1, '"' :: rest =>
    match keyText rest with
    | .ok (key, ':' :: rest) =>
      let text := valueText (.outside 0) rest
      match rest.drop text.length with
      | ['\x7d'] => some [(key, text)]
      | ',' :: more => (fieldTextsFrom fuel more).map ((key, text) :: ·)
      | _ => none
    | _ => none
  | _, _ => none

/-- The fields of an object in the order in which they stand in its text, each with the text of its
value. The text is that of one line without spaces. -/
def fieldTexts : List Char → Option (List (String × List Char))
  | ['\x7b', '\x7d'] => some []
  | '\x7b' :: rest => fieldTextsFrom (rest.length + 1) rest
  | _ => none

section Fields

variable {fuel : Nat} {key : String} {v : Json}

theorem keyText_flatMap (key : String) (rest : List Char) :
    keyText (key.toList.flatMap renderChar ++ '"' :: rest) = .ok (key, rest) := by
  have hlength := length_lt_renderString key.toList
  rw [renderString_ofChars, List.length_cons, List.length_append, List.length_singleton] at hlength
  generalize hfront : key.toList.flatMap renderChar = front at *
  have hdrop :
      (front ++ '"' :: rest).drop ((front ++ '"' :: rest).length - rest.length) = rest := by
    rw [List.append_cons, List.length_append, Nat.add_sub_cancel, List.drop_left]
  have hread : readString ((front ++ '"' :: rest).length + 1) (.ofChars (front ++ '"' :: rest)) =
      .ok (.ofChars key.toList, .ofChars rest) := by
    rw [CodePoints.ofChars_append, CodePoints.ofChars_cons, ← hfront]
    apply readString_flatMap
    rw [hfront, List.length_append, List.length_cons]
    omega
  simp only [keyText, hread, Except.map, CodePoints.length_ofChars, hdrop, CodePoints.shown_ofChars,
    String.ofList_toList]

theorem fieldTextsFrom_last :
    fieldTextsFrom (fuel + 1) (renderString key ++ ':' :: (v.render ++ ['\x7d'])) =
      some [(key, v.render)] := by
  have hkey := keyText_flatMap key (':' :: (v.render ++ ['\x7d']))
  have hvalue := valueText_render v (c := '\x7d') rfl []
  simp only [CodePoints.ofString, renderString_ofChars, List.cons_append, List.append_assoc,
    List.nil_append, fieldTextsFrom, hkey, hvalue, List.drop_left]

theorem fieldTextsFrom_next {more : List Char} {texts : List (String × List Char)}
    (h : fieldTextsFrom fuel more = some texts) :
    fieldTextsFrom (fuel + 1) (renderString key ++ ':' :: (v.render ++ ',' :: more)) =
      some ((key, v.render) :: texts) := by
  have hkey := keyText_flatMap key (':' :: (v.render ++ ',' :: more))
  have hvalue := valueText_render v (c := ',') rfl more
  simp only [CodePoints.ofString, renderString_ofChars, List.cons_append, List.append_assoc,
    List.nil_append, fieldTextsFrom, hkey, hvalue, List.drop_left, h, Option.map_some]

theorem fieldTextsFrom_render {fields : List (String × Json)} (hfuel : fields.length < fuel) :
    fieldTextsFrom fuel (renderString key ++ ':' :: (v.render ++ renderFields fields)) =
      some (((key, v) :: fields).map fun f => (f.1, f.2.render)) := by
  induction fields generalizing key v fuel with
  | nil =>
    obtain ⟨fuel, rfl⟩ := Nat.exists_eq_add_of_lt hfuel
    exact fieldTextsFrom_last
  | cons f fields ih =>
    rw [List.length_cons] at hfuel
    cases fuel with
    | zero => omega
    | succ fuel =>
      have hmore : fieldTextsFrom fuel (renderString f.1 ++ ':' :: (f.2.render ++
          renderFields fields)) = some ((f :: fields).map fun f => (f.1, f.2.render)) :=
        ih (by omega)
      have htext : renderFields (f :: fields) =
          ',' :: (renderString f.1 ++ ':' :: (f.2.render ++ renderFields fields)) := by
        simp [renderFields]
      rw [htext, fieldTextsFrom_next hmore]
      rfl

theorem length_lt_renderFields (fields : List (String × Json)) :
    fields.length < (renderFields fields).length := by
  induction fields with
  | nil => exact Nat.one_pos
  | cons f fields ih =>
    simp only [renderFields, List.length_cons, List.length_append]
    omega

/-- The fields of an object are those that stand in its text, whatever their values are. -/
theorem fieldTexts_render (fields : List (String × Json)) :
    fieldTexts (Json.obj fields).render = some (fields.map fun f => (f.1, f.2.render)) := by
  cases fields with
  | nil => rfl
  | cons f fields =>
    have htext : (Json.obj (f :: fields)).render =
        '\x7b' :: (renderString f.1 ++ ':' :: (f.2.render ++ renderFields fields)) := by
      simp [render]
    have hfuel : fields.length <
        (renderString f.1 ++ ':' :: (f.2.render ++ renderFields fields)).length + 1 := by
      have hlength := length_lt_renderFields fields
      simp only [List.length_append, List.length_cons]
      omega
    rw [htext]
    exact fieldTextsFrom_render hfuel

end Fields

end Json

end Concordance
