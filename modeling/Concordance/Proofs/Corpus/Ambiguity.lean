import Concordance.Proofs.Corpus.Joining
import Mathlib.Data.List.Basic
import Mathlib.Data.List.Nodup

/-! Which tokens make up one candidate, and which read as if they did: a chapter and a verse that
are written as one text can be those of several candidates. -/

namespace Concordance.Corpus

/-- A part of a key as it is read: one that is missing reads like an empty one. -/
def reading (part : Option CodePoints) : CodePoints := part.getD []

/-- Chapter and verse written as one text. -/
def written (chapter verse : CodePoints) : CodePoints :=
  chapter ++ if verse = [] then [] else .char ':' :: verse

/-- The text of a key. -/
def Key.text (key : Key) : CodePoints := written (reading key.1) (reading key.2)

theorem locationKey_eq_text (scopes : List CodePoints) :
    locationKey scopes = Key.text (location scopes) := by
  rw [locationKey]
  generalize location scopes = key
  rcases key with ⟨chapter, _ | verse⟩ <;> rfl

/-- The chapter of one key goes on with a colon where that of another ends, and what stands behind
the colon is read as the verse of the other. -/
def Overruns (a b : Key) : Prop :=
  ∃ rest, reading a.1 = reading b.1 ++ .char ':' :: rest ∧
    reading b.2 = written rest (reading a.2) ∧ reading b.2 ≠ []

/-- Different keys that have one text. -/
inductive Confused (a b : Key) : Prop where
  /-- what is missing in one of them is empty in the other -/
  | emptied : a ≠ b → reading a.1 = reading b.1 → reading a.2 = reading b.2 → Confused a b
  | overruns : Overruns a b → Confused a b
  | overrun : Overruns b a → Confused a b

section Keys

variable {a b : Key}

theorem written_of_ne_nil {chapter verse : CodePoints} (h : verse ≠ []) :
    written chapter verse = chapter ++ .char ':' :: verse := by
  rw [written, if_neg h]

theorem written_append (front rest verse : CodePoints) :
    written (front ++ .char ':' :: rest) verse = front ++ .char ':' :: written rest verse := by
  simp [written]

theorem Overruns.text_eq (h : Overruns a b) : a.text = b.text := by
  obtain ⟨rest, hchapter, hverse, hne⟩ := h
  rw [Key.text, Key.text, hchapter, written_append, ← hverse, written_of_ne_nil hne]

theorem Overruns.ne (h : Overruns a b) : a ≠ b := by
  rintro rfl
  obtain ⟨rest, hchapter, -⟩ := h
  have hlength := congrArg List.length hchapter
  rw [List.length_append, List.length_cons] at hlength
  omega

theorem Confused.ne (h : Confused a b) : a ≠ b := by
  rcases h with hne | h | h
  · exact hne
  · exact h.ne
  · exact h.ne.symm

theorem Confused.text_eq (h : Confused a b) : a.text = b.text := by
  rcases h with ⟨-, hchapter, hverse⟩ | h | h
  · rw [Key.text, Key.text, hchapter, hverse]
  · exact h.text_eq
  · exact h.text_eq.symm

/-- Of two chapters at the front of one text, the longer one overruns the other. -/
private theorem overruns_of_written {chapter chapter' more verse verse' : CodePoints}
    (hchapter : chapter = chapter' ++ more) (hmore : more ≠ [])
    (h : written chapter verse = written chapter' verse') :
    ∃ rest, chapter = chapter' ++ .char ':' :: rest ∧ verse' = written rest verse ∧
      verse' ≠ [] := by
  obtain ⟨c, rest, rfl⟩ := List.exists_cons_of_ne_nil hmore
  by_cases hverse : verse' = []
  · rw [hverse, hchapter] at h
    simp [written] at h
  rw [written_of_ne_nil hverse, hchapter, written, List.append_assoc, List.append_cancel_left_eq,
    List.cons_append, List.cons.injEq] at h
  obtain ⟨rfl, hrest⟩ := h
  exact ⟨rest, hchapter, hrest.symm, hverse⟩

theorem text_eq_iff : a.text = b.text ↔ a = b ∨ Confused a b := by
  constructor
  · intro h
    rw [Key.text, Key.text] at h
    obtain ⟨more, hchapter, -⟩ | ⟨more, hchapter, -⟩ := List.append_eq_append_iff.mp h
    all_goals by_cases hmore : more = []
    -- Where the chapters end at one place, the verses behind them are the same.
    case pos | pos =>
      have hsame : reading a.1 = reading b.1 := by simp [hchapter, hmore]
      have hverse : reading a.2 = reading b.2 := by
        rw [hsame, written, written, List.append_cancel_left_eq] at h
        by_cases ha : reading a.2 = [] <;> by_cases hb : reading b.2 = [] <;> simp_all
      exact or_iff_not_imp_left.mpr fun hne => .emptied hne hsame hverse
    case neg =>
      obtain ⟨rest, hrest⟩ := overruns_of_written hchapter hmore h.symm
      exact .inr (.overrun ⟨rest, hrest⟩)
    case neg =>
      obtain ⟨rest, hrest⟩ := overruns_of_written hchapter hmore h
      exact .inr (.overruns ⟨rest, hrest⟩)
  · rintro (rfl | h)
    · rfl
    · exact h.text_eq

end Keys

section Candidates

variable {docSet collection bookCode : CodePoints} {tokens : List Token}

theorem candidatesOf_eq (docSet collection bookCode : CodePoints) (tokens : List Token) :
    candidatesOf docSet collection bookCode tokens = (keys tokens).map fun key =>
      ⟨⟨docSet, collection, bookCode, key.1, key.2⟩, joined key tokens⟩ := by
  rw [candidatesOf, verseTexts_eq, List.map_map]
  rfl

theorem map_key_candidatesOf (docSet collection bookCode : CodePoints) (tokens : List Token) :
    (candidatesOf docSet collection bookCode tokens).map (·.key.text) =
      (keys tokens).map Key.text := by
  rw [candidatesOf_eq, List.map_map]
  rfl

/-- The tokens with another payload in one of them. -/
def withPayload (tokens : List Token) (i : Nat) (payload : CodePoints) : List Token :=
  tokens.modify i fun t => { t with payload := payload }

theorem keys_withPayload (tokens : List Token) (i : Nat) (payload : CodePoints) :
    keys (withPayload tokens i payload) = keys tokens := by
  have hscopes : (withPayload tokens i payload).map (location ·.scopes) =
      tokens.map (location ·.scopes) := by
    apply List.ext_getElem?
    intro k
    rw [List.getElem?_map, withPayload, List.getElem?_modify, List.getElem?_map]
    by_cases hik : i = k <;> simp [hik, Function.comp_def]
  rw [keys, hscopes, keys]

theorem joined_withPayload (key : Key) (i : Fin tokens.length) (payload : CodePoints) :
    joined key (withPayload tokens i payload) =
      joined key (tokens.take i) ++
        (if location tokens[i].scopes = key then payload else []) ++
        joined key (tokens.drop (i + 1)) := by
  rw [withPayload, List.modify_eq_take_cons_drop i.isLt, joined_append, List.append_assoc]
  congr 1
  by_cases hkey : location tokens[i].scopes = key
  · rw [if_pos hkey, joined_cons_of_eq (by exact hkey)]
  · rw [if_neg hkey, List.nil_append, joined, joined, List.filter_cons_of_neg (by simpa using hkey)]

/-- A token contributes to a candidate if its payload stands in the text of the candidate, whatever
the payload is. -/
def Contributes (docSet collection bookCode : CodePoints) (tokens : List Token)
    (i k : Nat) : Prop :=
  ∃ before after : CodePoints, ∀ payload : CodePoints, ∃ c,
    (candidatesOf docSet collection bookCode (withPayload tokens i payload))[k]? = some c ∧
      c.text = before ++ payload ++ after

theorem contributes_iff (i : Fin tokens.length) (k : Nat) :
    Contributes docSet collection bookCode tokens i k ↔
      (keys tokens)[k]? = some (location tokens[i].scopes) := by
  unfold Contributes
  simp only [candidatesOf_eq, keys_withPayload, List.getElem?_map]
  cases hkey : (keys tokens)[k]? with
  | none => simp
  | some key =>
    simp only [Option.map_some, Option.some.injEq, exists_eq_left', joined_withPayload]
    constructor
    · rintro ⟨before, after, htext⟩
      by_contra hne
      -- Else the text is the same for an empty payload and for one that is not.
      have hempty := htext []
      have hmark := htext [.char 'x']
      rw [if_neg (Ne.symm hne)] at hempty hmark
      have hlength := congrArg List.length (hempty.symm.trans hmark)
      simp at hlength
    · intro heq
      refine ⟨joined key (tokens.take i), joined key (tokens.drop (i + 1)), fun payload => ?_⟩
      rw [if_pos heq.symm]

/-- Two tokens contribute to one candidate. -/
def ShareCandidate (docSet collection bookCode : CodePoints) (tokens : List Token)
    (i j : Nat) : Prop :=
  ∃ k, Contributes docSet collection bookCode tokens i k ∧
    Contributes docSet collection bookCode tokens j k

theorem shareCandidate_iff (i j : Fin tokens.length) :
    ShareCandidate docSet collection bookCode tokens i j ↔
      location tokens[i].scopes = location tokens[j].scopes := by
  simp only [ShareCandidate, contributes_iff]
  constructor
  · rintro ⟨k, hi, hj⟩
    rw [hi] at hj
    exact Option.some.inj hj
  · intro heq
    have hmem : location tokens[i].scopes ∈ keys tokens :=
      mem_keys.mpr (List.mem_map_of_mem (List.getElem_mem i.isLt))
    obtain ⟨k, hk⟩ := List.mem_iff_getElem?.mp hmem
    exact ⟨k, hk, heq ▸ hk⟩

/-- The tokens that make up one candidate are those whose chapter and verse are the same, a missing
part told apart from an empty one; so their chapter and verse are the same if written as one text.
Tokens of different candidates have the same text exactly if what is missing in the one is empty in
the other, or if the chapter of one overruns that of the other at a colon. There is one candidate
for each text, in the order in which the texts first occur, exactly if no two tokens are like
that. -/
theorem one_candidate_per_text_iff (docSet collection bookCode : CodePoints)
    (tokens : List Token) :
    (∀ i j : Fin tokens.length,
      (ShareCandidate docSet collection bookCode tokens i j ↔
        location tokens[i].scopes = location tokens[j].scopes) ∧
      (locationKey tokens[i].scopes = locationKey tokens[j].scopes ↔
        ShareCandidate docSet collection bookCode tokens i j ∨
          Confused (location tokens[i].scopes) (location tokens[j].scopes)) ∧
      ¬(ShareCandidate docSet collection bookCode tokens i j ∧
          Confused (location tokens[i].scopes) (location tokens[j].scopes))) ∧
    ((candidatesOf docSet collection bookCode tokens).map (·.key.text) =
        (tokens.map (locationKey ·.scopes)).eraseDups ↔
      ∀ i j : Fin tokens.length,
        ¬Confused (location tokens[i].scopes) (location tokens[j].scopes)) := by
  refine ⟨fun i j => ⟨shareCandidate_iff i j, ?_, ?_⟩, ?_⟩
  · rw [shareCandidate_iff, locationKey_eq_text, locationKey_eq_text, text_eq_iff]
  · rintro ⟨hshare, hconfused⟩
    exact hconfused.ne ((shareCandidate_iff i j).mp hshare)
  · have htexts : tokens.map (locationKey ·.scopes) =
        (tokens.map (location ·.scopes)).map Key.text := by
      rw [List.map_map]
      exact List.map_congr_left fun t _ => locationKey_eq_text t.scopes
    rw [map_key_candidatesOf, htexts, keys, map_eraseDups_iff]
    constructor
    · intro hinj i j hconfused
      exact hconfused.ne (hinj _ (List.mem_map_of_mem (List.getElem_mem i.isLt)) _
        (List.mem_map_of_mem (List.getElem_mem j.isLt)) hconfused.text_eq)
    · intro hnone a ha b hb htext
      obtain ⟨t, ht, rfl⟩ := List.mem_map.mp ha
      obtain ⟨u, hu, rfl⟩ := List.mem_map.mp hb
      obtain ⟨i, hi, rfl⟩ := List.getElem_of_mem ht
      obtain ⟨j, hj, rfl⟩ := List.getElem_of_mem hu
      exact (text_eq_iff.mp htext).resolve_right (hnone ⟨i, hi⟩ ⟨j, hj⟩)

/-- A heading and a verse whose name is empty have one text and are different candidates. -/
theorem heading_apart_from_empty_verse :
    let tokens : List Token := [⟨["chapter/1"], "In "⟩, ⟨["chapter/1", "verses/"], "the"⟩]
    ¬(ShareCandidate "LIB" "bibles" "GEN" tokens 0 1 ↔
      locationKey ["chapter/1"] = locationKey ["chapter/1", "verses/"]) := by
  intro tokens hiff
  have hshare := hiff.mpr (by decide +kernel)
  have hsame := (shareCandidate_iff (⟨0, by decide⟩ : Fin tokens.length) ⟨1, by decide⟩).mp hshare
  exact absurd hsame (by decide +kernel)

end Candidates

end Concordance.Corpus
