import Concordance.Corpus.Token
import Concordance.Proofs.FirstSeen

/-! The texts that tokens make up, told key by key. -/

namespace Concordance.Corpus

/-- A chapter and a verse, each of which may be missing. -/
abbrev Key := Option CodePoints × Option CodePoints

/-- The payloads of the tokens of one chapter and verse, one after another. -/
def joined (key : Key) (tokens : List Token) : CodePoints :=
  (tokens.filter (location ·.scopes = key)).flatMap (·.payload)

theorem joined_append (key : Key) (tokens more : List Token) :
    joined key (tokens ++ more) = joined key tokens ++ joined key more := by
  unfold joined
  rw [List.filter_append, List.flatMap_append]

theorem joined_cons_of_eq {key : Key} {t : Token} (h : location t.scopes = key)
    (tokens : List Token) : joined key (t :: tokens) = t.payload ++ joined key tokens := by
  unfold joined
  rw [List.filter_cons_of_pos (by simpa using h), List.flatMap_cons]

theorem joined_eq_nil {key : Key} {tokens : List Token}
    (h : key ∉ tokens.map (location ·.scopes)) : joined key tokens = [] := by
  have hnone : tokens.filter (location ·.scopes = key) = [] := by
    apply List.filter_eq_nil_iff.mpr
    intro t ht heq
    exact h (List.mem_map.mpr ⟨t, ht, of_decide_eq_true heq⟩)
  rw [joined, hnone, List.flatMap_nil]

/-- The keys of tokens in the order in which they first occur. -/
def keys (tokens : List Token) : List Key := (tokens.map (location ·.scopes)).eraseDups

theorem mem_keys {key : Key} {tokens : List Token} :
    key ∈ keys tokens ↔ key ∈ tokens.map (location ·.scopes) := List.mem_eraseDups

theorem keys_append_singleton (tokens : List Token) (t : Token) :
    keys (tokens ++ [t]) =
      if location t.scopes ∈ keys tokens then keys tokens
      else keys tokens ++ [location t.scopes] := by
  rw [keys, List.map_append, List.map_singleton, eraseDups_append_singleton]
  simp only [mem_keys]
  rfl

theorem nodup_keys (tokens : List Token) : (keys tokens).Nodup := nodup_eraseDups _

/-- Text is added to the entry of its key. A new key goes behind the others. -/
theorem appendAt_map {κ : Type} [DecidableEq κ] {ks : List κ} (hnodup : ks.Nodup)
    {f : κ → CodePoints} {key : κ} (hnew : key ∉ ks → f key = []) (text : CodePoints) :
    appendAt (ks.map fun k => (k, f k)) key text =
      (if key ∈ ks then ks else ks ++ [key]).map fun k =>
        (k, if k = key then f k ++ text else f k) := by
  induction ks with
  | nil => simp [appendAt, hnew]
  | cons k ks ih =>
    obtain ⟨hk, hnodup⟩ := List.nodup_cons.mp hnodup
    rw [List.map_cons, appendAt]
    by_cases heq : k = key
    · subst heq
      have hrest : (ks.map fun l => (l, if l = k then f l ++ text else f l)) =
          ks.map fun l => (l, f l) := by
        apply List.map_congr_left
        intro l hl
        have hne : l ≠ k := by
          rintro rfl
          exact hk hl
        simp [hne]
      simp [hrest]
    · have hih := ih hnodup fun hnot => hnew (by simp [hnot, Ne.symm heq])
      rw [if_neg heq, hih]
      by_cases hmem : key ∈ ks <;> simp [hmem, heq, Ne.symm heq]

/-- The tokens of a book make up one text for every key, in the order of the keys. -/
theorem verseTexts_eq (tokens : List Token) :
    verseTexts tokens = (keys tokens).map fun key => (key, joined key tokens) := by
  induction tokens using List.reverseRec with
  | nil => rfl
  | append_singleton tokens t ih =>
    have hstep : verseTexts (tokens ++ [t]) =
        appendAt (verseTexts tokens) (location t.scopes) t.payload := by
      unfold verseTexts
      rw [List.foldl_append]
      rfl
    have hnew : location t.scopes ∉ keys tokens → joined (location t.scopes) tokens = [] :=
      fun hnot => joined_eq_nil (mt mem_keys.mpr hnot)
    have htext (key : Key) : (if key = location t.scopes then
        joined key tokens ++ t.payload else joined key tokens) = joined key (tokens ++ [t]) := by
      rw [joined_append]
      by_cases hkey : key = location t.scopes
      · rw [if_pos hkey, joined_cons_of_eq hkey.symm]
        simp [joined]
      · have hother : joined key [t] = [] := joined_eq_nil (by simpa using hkey)
        rw [if_neg hkey, hother, List.append_nil]
    rw [hstep, ih, appendAt_map (nodup_keys tokens) hnew]
    simp only [htext]
    rw [keys_append_singleton]
    by_cases hmem : location t.scopes ∈ keys tokens <;> simp [hmem]

/-- The chapter and verse of a candidate. -/
def Candidate.key (c : Candidate) : Key := (c.reference.chapter, c.reference.verses)

theorem text_of_mem_candidatesOf {docSet collection bookCode : CodePoints} {tokens : List Token}
    {c : Candidate} (h : c ∈ candidatesOf docSet collection bookCode tokens) :
    c.text = joined c.key tokens := by
  unfold candidatesOf at h
  rw [verseTexts_eq, List.map_map] at h
  obtain ⟨key, -, rfl⟩ := List.mem_map.mp h
  rfl

/-- A payload stands in the text of its key between those before it and those behind it. -/
theorem joined_of_eq_append {key : Key} {tokens before after : List Token} {t : Token}
    (h : tokens = before ++ t :: after) (ht : location t.scopes = key) :
    joined key tokens = joined key before ++ t.payload ++ joined key after := by
  rw [h, joined_append, joined_cons_of_eq ht, List.append_assoc]

end Concordance.Corpus
