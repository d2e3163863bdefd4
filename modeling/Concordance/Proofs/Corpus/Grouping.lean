import Concordance.Proofs.Corpus.Joining
import Mathlib.Data.List.Basic

/-! The candidates of a book are its tokens put together by the chapter and verse that their scopes
name. -/

namespace Concordance.Corpus

/-- What the last tag of a scope says behind the name of the scope, if any tag is of that scope. -/
def LastOf (name : CodePoints) (tags : List CodePoints) : Option CodePoints → Prop
  | none => ∀ value, name ++ value ∉ tags
  | some value => ∃ before after, tags = before ++ (name ++ value) :: after ∧
      ∀ later, name ++ later ∉ after

section Scopes

variable {name tag value : CodePoints} {tags : List CodePoints} {last : Option CodePoints}

theorem scopeValue?_eq_some_iff : scopeValue? name tag = some value ↔ tag = name ++ value := by
  unfold scopeValue?
  split
  · next h =>
    obtain ⟨rest, hrest⟩ := List.isPrefixOf_iff_prefix.mp h
    rw [← hrest, List.drop_left, Option.some.injEq, List.append_cancel_left_eq]
  · next h =>
    constructor
    · intro hnone
      cases hnone
    · rintro rfl
      exact absurd (List.isPrefixOf_iff_prefix.mpr (by simp)) h

theorem scopeValue?_eq_none_iff : scopeValue? name tag = none ↔ ∀ value, tag ≠ name ++ value := by
  simp [Option.eq_none_iff_forall_ne_some, scopeValue?_eq_some_iff]

theorem lastOf_nil (name : CodePoints) : LastOf name [] none := fun _ => List.not_mem_nil

theorem lastOf_append_value (name value : CodePoints) (tags : List CodePoints) :
    LastOf name (tags ++ [name ++ value]) (some value) := ⟨tags, [], rfl, fun _ => List.not_mem_nil⟩

theorem LastOf.append_other (h : LastOf name tags last) (hother : ∀ value, tag ≠ name ++ value) :
    LastOf name (tags ++ [tag]) last := by
  have hnot (l : List CodePoints) (hl : ∀ value, name ++ value ∉ l) (value : CodePoints) :
      name ++ value ∉ l ++ [tag] := by
    rw [List.mem_append, List.mem_singleton]
    exact not_or.mpr ⟨hl value, Ne.symm (hother value)⟩
  cases last with
  | none => exact hnot tags h
  | some value =>
    obtain ⟨before, after, rfl, hafter⟩ := h
    exact ⟨before, after ++ [tag], by simp, hnot after hafter⟩

/-- No tag is of both scopes. -/
theorem chapter_ne_verses (chapter verse : CodePoints) :
    ("chapter/" : CodePoints) ++ chapter ≠ ("verses/" : CodePoints) ++ verse := by
  simp [CodePoints.ofString, CodePoints.ofChars]

end Scopes

theorem location_append_singleton (tags : List CodePoints) (tag : CodePoints) :
    location (tags ++ [tag]) =
      match scopeValue? "chapter/" tag with
      | some chapter => (some chapter, (location tags).2)
      | none =>
        match scopeValue? "verses/" tag with
        | some verse => ((location tags).1, some verse)
        | none => location tags := by
  unfold location
  rw [List.foldl_append]
  rfl

/-- Chapter and verse are told apart tag by tag, so tags of one scope do not disturb those of the
other, nor do tags of further scopes. -/
theorem lastOf_location (tags : List CodePoints) :
    LastOf "chapter/" tags (location tags).1 ∧ LastOf "verses/" tags (location tags).2 := by
  induction tags using List.reverseRec with
  | nil => exact ⟨lastOf_nil _, lastOf_nil _⟩
  | append_singleton tags tag ih =>
    obtain ⟨hchapter, hverse⟩ := ih
    rw [location_append_singleton]
    cases hc : scopeValue? "chapter/" tag with
    | some chapter =>
      obtain rfl := scopeValue?_eq_some_iff.mp hc
      exact ⟨lastOf_append_value _ _ _, hverse.append_other (chapter_ne_verses chapter)⟩
    | none =>
      have hchapter := hchapter.append_other (scopeValue?_eq_none_iff.mp hc)
      cases hv : scopeValue? "verses/" tag with
      | some verse =>
        obtain rfl := scopeValue?_eq_some_iff.mp hv
        exact ⟨hchapter, lastOf_append_value _ _ _⟩
      | none => exact ⟨hchapter, hverse.append_other (scopeValue?_eq_none_iff.mp hv)⟩

/-- The tokens of one chapter and verse. -/
def tokensAt (key : Key) (tokens : List Token) : List Token :=
  tokens.filter (location ·.scopes = key)

/-- The tokens of different keys, key by key, are the tokens that have one of these keys. -/
private theorem flatMap_tokensAt_perm_filter {ks : List Key} (hnodup : ks.Nodup)
    (tokens : List Token) :
    (ks.flatMap (tokensAt · tokens)).Perm (tokens.filter (location ·.scopes ∈ ks)) := by
  induction ks with
  | nil => simp
  | cons key ks ih =>
    obtain ⟨hkey, hnodup⟩ := List.nodup_cons.mp hnodup
    have hsplit := List.filter_append_perm (fun t : Token => decide (location t.scopes = key))
      (tokens.filter (location ·.scopes ∈ key :: ks))
    have hthis : (tokens.filter (location ·.scopes ∈ key :: ks)).filter (location ·.scopes = key) =
        tokensAt key tokens := by
      rw [List.filter_filter]
      apply List.filter_congr
      intro t _
      by_cases h : location t.scopes = key <;> simp [h]
    have hothers : (tokens.filter (location ·.scopes ∈ key :: ks)).filter
        (fun t => !decide (location t.scopes = key)) = tokens.filter (location ·.scopes ∈ ks) := by
      rw [List.filter_filter]
      apply List.filter_congr
      intro t _
      by_cases h : location t.scopes = key <;> simp [h, hkey]
    rw [hthis, hothers] at hsplit
    rw [List.flatMap_cons]
    exact ((ih hnodup).append_left _).trans hsplit

theorem flatMap_tokensAt_perm (tokens : List Token) :
    ((keys tokens).flatMap (tokensAt · tokens)).Perm tokens := by
  have hall : tokens.filter (location ·.scopes ∈ keys tokens) = tokens := by
    apply List.filter_eq_self.mpr
    intro t ht
    exact decide_eq_true (mem_keys.mpr (List.mem_map_of_mem ht))
  have hperm := flatMap_tokensAt_perm_filter (nodup_keys tokens) tokens
  rwa [hall] at hperm

/-- What the tokens of a book make up. A token belongs to the chapter and to the verse that the last
tag of either scope names, and to none where it has no such tag, whatever the other tags are. There
is one candidate for each chapter and verse that tokens belong to, in the order of their first
tokens, under the doc set, the collection and the book code that are given. Its text is made of the
payloads of all tokens that belong there, in their order and however far apart they stand, and every
token has its place in exactly one of the candidates. -/
theorem candidatesOf_groups_tokens (docSet collection bookCode : CodePoints) (tokens : List Token) :
    (∀ tags, LastOf "chapter/" tags (location tags).1 ∧ LastOf "verses/" tags (location tags).2) ∧
    (keys tokens).Nodup ∧ (∀ key, key ∈ keys tokens ↔ ∃ t ∈ tokens, location t.scopes = key) ∧
    (keys tokens).Pairwise (SeenBefore (tokens.map (location ·.scopes))) ∧
    candidatesOf docSet collection bookCode tokens = (keys tokens).map (fun key =>
      ⟨⟨docSet, collection, bookCode, key.1, key.2⟩,
        ((tokensAt key tokens).map (·.payload)).flatten⟩) ∧
    ((keys tokens).flatMap (tokensAt · tokens)).Perm tokens := by
  refine ⟨lastOf_location, nodup_keys tokens, fun key => ?_, pairwise_seenBefore_eraseDups _, ?_,
    flatMap_tokensAt_perm tokens⟩
  · rw [mem_keys, List.mem_map]
  · rw [candidatesOf, verseTexts_eq, List.map_map]
    apply List.map_congr_left
    intro key _
    rw [Function.comp, joined, List.flatMap_def]
    rfl

-- A verse that is interrupted, and two tokens whose verse is empty in one and missing in the other.
example :
    verseTexts [⟨["chapter/1", "verses/1"], "In "⟩, ⟨["verses/", "chapter/1"], "a"⟩,
      ⟨["verses/2", "notes/3", "verses/1", "chapter/1"], "the"⟩, ⟨["chapter/1"], "b"⟩] =
    ([((some "1", some "1"), "In the"), ((some "1", some ""), "a"), ((some "1", none), "b")] :
      List (Key × CodePoints)) := by
  decide +kernel

end Concordance.Corpus
