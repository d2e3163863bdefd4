import Concordance.Pattern.Language
import Concordance.Pattern.Search

/-! The search for a word, character by character. Every group of a word's pattern holds single
characters, so the search alternates between runs of ignorable characters and places. -/

namespace Concordance.Pattern

variable {β : Type}

/-- A character of the place, if the text begins with one. -/
def takePlace (place : List Char) (s : List Char) (next : List Char → Option β) : Option β :=
  match s with
  | [] => none
  | c :: rest => if c ∈ place then next rest else none

/-- Ignorable characters, as many as lead on. -/
def skipRun (ignorable : List Char) (s : List Char) (next : List Char → Option β) : Option β :=
  match s with
  | [] => next []
  | c :: rest =>
    if c ∈ ignorable then skipRun ignorable rest next <|> next (c :: rest) else next (c :: rest)

/-- Places in order, with a run of ignorable characters before each and behind the last. -/
def interweave (ignorable : List Char) (places : List (List Char)) (s : List Char)
    (next : List Char → Option β) : Option β :=
  match places with
  | [] => skipRun ignorable s next
  | place :: places =>
    skipRun ignorable s fun rest => takePlace place rest fun rest =>
      interweave ignorable places rest next

section Groups

theorem mentions_singleton (c : Char) (cls : List Char) :
    mentions [c] cls = true ↔ c ∈ cls := by
  induction cls with
  | nil => simp [mentions]
  | cons d cls ih => simp [mentions, ih]

theorem mem_tokens_ofChars {chars : List Char} {q : Quantifier} {t : Literal} :
    t ∈ (Group.ofChars chars q).tokens ↔ ∃ c ∈ chars, [c] = t := by
  simp [Group.ofChars, Group.of]

private theorem contains_ofChars (c : Char) (chars : List Char) :
    (Group.ofChars chars .once).contains [c] = mentions [c] chars := by
  rw [Bool.eq_iff_iff, mentions_singleton]
  simp [Group.contains, mem_tokens_ofChars]

theorem groupFor?_cons (t : Literal) (g : Group) (groups : List Group) :
    groupFor? t (g :: groups) =
      if g.contains t then some (0, g)
      else (groupFor? t groups).map fun found => (found.1 + 1, found.2) := by
  unfold groupFor?
  rw [List.findIdx?_cons]
  by_cases hg : g.contains t
  · simp [hg]
  · cases groups.findIdx? (·.contains t) <;> simp [hg, Function.comp_def]

theorem mem_of_classOf?_eq_some {classes : List (List Char)} {c : Char} {cls : List Char}
    (h : classOf? [c] classes = some cls) : cls ∈ classes ∧ c ∈ cls :=
  ⟨List.mem_of_find?_eq_some h, (mentions_singleton c cls).mp (List.find?_some h)⟩

theorem classOf?_cons (t : Literal) (cls : List Char) (classes : List (List Char)) :
    classOf? t (cls :: classes) = if mentions t cls then some cls else classOf? t classes := by
  rw [classOf?, List.find?_cons]
  cases mentions t cls <;> rfl

/-- Among the groups of classes a character is found in that of the first class that mentions it. -/
theorem groupFor?_ofChars (classes : List (List Char)) (c : Char) :
    groupFor? [c] (classes.map (Group.ofChars · .once)) =
      (classOf? [c] classes).map fun cls => (classes.idxOf cls, Group.ofChars cls .once) := by
  induction classes with
  | nil => rfl
  | cons first classes ih =>
    rw [List.map_cons, groupFor?_cons, contains_ofChars, ih, classOf?_cons]
    by_cases hfirst : mentions [c] first
    · simp [hfirst]
    · cases hcls : classOf? [c] classes with
      | none => simp [hfirst]
      | some cls =>
        have hne : (first == cls) = false := by
          rw [beq_eq_false_iff_ne]
          rintro rfl
          exact hfirst ((mentions_singleton c first).mpr (mem_of_classOf?_eq_some hcls).2)
        simp [hfirst, List.idxOf_cons, hne]

/-- The group of a character holds what is accepted in its place. -/
theorem placeChar_group (classes : List (List Char)) (c : Char) :
    (placeChar (classes.map (Group.ofChars · .once)) c).group =
      .ofChars (accepted classes c) .once := by
  unfold placeChar accepted
  rw [groupFor?_ofChars]
  cases classOf? [c] classes <;> rfl

/-- The groups of a word, place by place. -/
theorem Options.groups_eq (o : Options) (word : List Char) :
    o.groups word = (o.places word).map (Group.ofChars · .once) := by
  have hzip : word.zip (placeChars word o.equivalent) =
      word.map fun c => (c, placeChar (o.equivalent.map (Group.ofChars · .once)) c) := by
    unfold placeChars
    induction word with
    | nil => rfl
    | cons c word ih => simpa using ih
  unfold Options.groups Options.places
  simp only [hzip, List.filter_map, Function.comp_def, List.isEmpty_map]
  split
  · simp [placeChars, placeChar_group]
  · simp [placeChar_group]

/-- A character is accepted in its own place. -/
theorem mem_accepted (classes : List (List Char)) (c : Char) : c ∈ accepted classes c := by
  unfold accepted
  cases h : classOf? [c] classes with
  | none => simp
  | some cls => exact (mem_of_classOf?_eq_some h).2

theorem Options.mandatory_iff {o : Options} {c : Char} :
    o.mandatory c = true ↔ c ∉ o.ignore ∨ ∃ cls ∈ o.equivalent, c ∈ cls := by
  simp [Options.mandatory, classOf?, mentions_singleton]

/-- A character that need not occur accepts only itself, and may be ignored. -/
theorem Options.accepted_subset_of_not_mandatory {o : Options} {c : Char}
    (h : o.mandatory c = false) : accepted o.equivalent c ⊆ o.ignore := by
  have hnot : c ∈ o.ignore ∧ classOf? [c] o.equivalent = none := by
    simpa [Options.mandatory] using h
  simp [accepted, hnot]

/-- The places of a word are those of its characters that must occur. -/
theorem Options.places_eq_of_mandatory {o : Options} {word : List Char}
    (h : ∃ c ∈ word, o.mandatory c = true) :
    o.places word = (word.filter o.mandatory).map (accepted o.equivalent) := by
  obtain ⟨c, hc, hmandatory⟩ := h
  have hne : word.filter o.mandatory ≠ [] :=
    List.ne_nil_of_mem (List.mem_filter.mpr ⟨hc, hmandatory⟩)
  simp [Options.places, hne]

/-- If none of its characters must occur, all of them have their places. -/
theorem Options.places_eq_of_not_mandatory {o : Options} {word : List Char}
    (h : ∀ c ∈ word, o.mandatory c = false) :
    o.places word = word.map (accepted o.equivalent) := by
  have hnone : word.filter o.mandatory = [] := by simpa [List.filter_eq_nil_iff] using h
  simp [Options.places, hnone]

theorem Options.ne_nil_of_mem_places {o : Options} {word place : List Char}
    (h : place ∈ o.places word) : place ≠ [] := by
  obtain ⟨c, -, rfl⟩ := List.mem_map.mp h
  exact List.ne_nil_of_mem (mem_accepted o.equivalent c)

end Groups

section Runs

private theorem ofChars_literals {chars : List Char} (q : Quantifier) (h : chars ≠ []) :
    (Group.ofChars chars q).literals = (Group.ofChars chars q).tokens := by
  obtain ⟨c, hc⟩ := List.exists_mem_of_ne_nil chars h
  have hne : (Group.ofChars chars q).tokens ≠ [] :=
    List.ne_nil_of_mem (mem_tokens_ofChars.mpr ⟨c, hc, rfl⟩)
  simp [Group.literals, hne]

private theorem findSome?_of_unique {α : Type} [DecidableEq α] {f : α → Option β} {a : α}
    {l : List α} (h : ∀ b ∈ l, b ≠ a → f b = none) :
    l.findSome? f = if a ∈ l then f a else none := by
  induction l with
  | nil => rfl
  | cons b l ih =>
    rw [List.findSome?_cons, ih fun x hx => h x (List.mem_cons_of_mem b hx)]
    by_cases hb : b = a
    · subst hb
      cases hf : f b <;> simp
    · simp [h b List.mem_cons_self hb, Ne.symm hb]

/-- Of literals of one character each, only that of the first character of the text leads on. -/
private theorem findSome?_ofChars (chars : List Char) (q : Quantifier) (s : List Char)
    (next : Literal → List Char → Option β) :
    (Group.ofChars chars q).tokens.findSome? (fun t => (stripLiteral? t s).bind (next t)) =
      takePlace chars s fun rest => next (s.take 1) rest := by
  cases s with
  | nil =>
    apply List.findSome?_eq_none_iff.mpr
    intro t ht
    obtain ⟨c, -, rfl⟩ := mem_tokens_ofChars.mp ht
    rfl
  | cons c rest =>
    rw [findSome?_of_unique (a := [c])]
    · simp [takePlace, mem_tokens_ofChars, stripLiteral?]
    · intro t ht hne
      obtain ⟨d, -, rfl⟩ := mem_tokens_ofChars.mp ht
      have hd : d ≠ c := fun he => hne (by rw [he])
      simp [stripLiteral?, hd]

/-- A group of single characters that must occur takes its place. -/
theorem run_ofChars_once {chars : List Char} (h : chars ≠ []) (s : List Char)
    (next : List Char → Option β) :
    (Group.ofChars chars .once).run s next = takePlace chars s next := by
  change matchOne (Group.ofChars chars .once).literals s next = _
  rw [ofChars_literals .once h]
  exact findSome?_ofChars chars .once s fun _ => next

/-- A repeated group of single characters takes a run of them. -/
theorem run_ofChars_many {chars : List Char} (h : chars ≠ []) (s : List Char)
    (next : List Char → Option β) :
    (Group.ofChars chars .many).run s next = skipRun chars s next := by
  change matchMany (Group.ofChars chars .many).literals s next = _
  rw [ofChars_literals .many h]
  have hstep (s : List Char) := findSome?_ofChars chars .many s fun t rest =>
    if t = [] then next rest else matchMany (Group.ofChars chars .many).tokens rest next
  induction s with
  | nil =>
    rw [matchMany_eq, hstep]
    rfl
  | cons c rest ih =>
    rw [matchMany_eq, hstep]
    by_cases hc : c ∈ chars
    · simp [takePlace, skipRun, hc, ih]
    · simp [takePlace, skipRun, hc]

/-- A run after a run takes no more than the first one alone. -/
theorem skipRun_skipRun (ignorable s : List Char) (next : List Char → Option β) :
    skipRun ignorable s (fun rest => skipRun ignorable rest next) = skipRun ignorable s next := by
  induction s with
  | nil => rfl
  | cons c rest ih =>
    by_cases hc : c ∈ ignorable
    · simp only [skipRun, hc, if_true, ih]
      cases skipRun ignorable rest next <;> simp
    · simp [skipRun, hc]

private theorem skipRun_nil (s : List Char) (next : List Char → Option β) :
    skipRun [] s next = next s := by
  cases s <;> simp [skipRun]

end Runs

section Parts

/-- Groups with the same run before each and behind the last. -/
private theorem runAll_joinGroups {ignorable : List Char} {places : List (List Char)}
    (hi : ignorable ≠ []) (hp : ∀ place ∈ places, place ≠ []) (s : List Char)
    (next : List Char → Option β) :
    runAll ([Group.ofChars ignorable .many] ++
      joinGroups [Group.ofChars ignorable .many] (places.map (Group.ofChars · .once)) ++
      [Group.ofChars ignorable .many]) s next = interweave ignorable places s next := by
  induction places generalizing s with
  | nil =>
    simp only [List.map_nil, joinGroups, List.append_nil, List.cons_append, List.nil_append, runAll,
      run_ofChars_many hi]
    exact skipRun_skipRun ignorable s next
  | cons place places ih =>
    have hplace := hp place List.mem_cons_self
    have ih := ih fun q hq => hp q (List.mem_cons_of_mem place hq)
    cases places with
    | nil =>
      simp [joinGroups, runAll, run_ofChars_many hi, run_ofChars_once hplace, interweave]
    | cons q places =>
      simp only [List.map_cons, joinGroups, List.cons_append, List.nil_append, runAll,
        run_ofChars_many hi, run_ofChars_once hplace, interweave] at ih ⊢
      simp only [← ih]

private theorem runAll_places {places : List (List Char)} (hp : ∀ place ∈ places, place ≠ [])
    (s : List Char) (next : List Char → Option β) :
    runAll (joinGroups [] (places.map (Group.ofChars · .once))) s next =
      interweave [] places s next := by
  induction places generalizing s with
  | nil => simp [joinGroups, runAll, interweave, skipRun_nil]
  | cons place places ih =>
    have hplace := hp place List.mem_cons_self
    have ih := ih fun q hq => hp q (List.mem_cons_of_mem place hq)
    cases places with
    | nil => simp [joinGroups, runAll, run_ofChars_once hplace, interweave, skipRun_nil]
    | cons q places =>
      simp only [List.map_cons, joinGroups, List.nil_append, runAll, List.cons_append,
        run_ofChars_once hplace, interweave, skipRun_nil] at ih ⊢
      simp only [← ih]

theorem Options.gap_eq (o : Options) (word : List Char) :
    (o.pattern word).gap = if o.ignore = [] then [] else [Group.ofChars o.ignore .many] := by
  unfold WordPattern.gap Options.pattern
  cases hi : o.ignore with
  | nil => rfl
  | cons c ignorable =>
    have hne : (Group.ofChars (c :: ignorable) .many).tokens ≠ [] :=
      List.ne_nil_of_mem (mem_tokens_ofChars.mpr ⟨c, List.mem_cons_self, rfl⟩)
    simp only [List.isEmpty_cons, List.isEmpty_iff, hne, reduceCtorEq, if_false]
    rfl

/-- The parts of a word's pattern, run in order. -/
theorem Options.runAll_parts (o : Options) (word s : List Char) (next : List Char → Option β) :
    runAll (o.pattern word).parts s next = interweave o.ignore (o.places word) s next := by
  have hp (place : List Char) (h : place ∈ o.places word) : place ≠ [] := ne_nil_of_mem_places h
  have hgroups : (o.pattern word).groups = (o.places word).map (Group.ofChars · .once) :=
    o.groups_eq word
  unfold WordPattern.parts
  rw [o.gap_eq, hgroups]
  by_cases hi : o.ignore = []
  · rw [if_pos hi, List.nil_append, List.append_nil, hi]
    exact runAll_places hp s next
  · rw [if_neg hi]
    exact runAll_joinGroups hi hp s next

end Parts

end Concordance.Pattern
