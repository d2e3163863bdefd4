import Concordance.Proofs.Pattern.Components
import Concordance.Proofs.Pattern.Longest
import Concordance.Proofs.Pattern.Scan
import Mathlib.Data.List.Forall2

/-! A search depends on which characters may be ignored and which ones stand for each other, and not
on the order in which lists hold them. -/

namespace Concordance.Pattern

def SameMembers (l m : List Char) : Prop := ∀ c, c ∈ l ↔ c ∈ m

section Interweaving

variable {β : Type} {ignorable ignorable' place place' : List Char} (s : List Char)

private theorem takePlace_congr (h : SameMembers place place') (next : List Char → Option β) :
    takePlace place s next = takePlace place' s next := by
  cases s with
  | nil => rfl
  | cons c s => simp only [takePlace, h c]

private theorem skipRun_congr (h : SameMembers ignorable ignorable')
    (next : List Char → Option β) : skipRun ignorable s next = skipRun ignorable' s next := by
  induction s with
  | nil => rfl
  | cons c s ih => simp only [skipRun, h c, ih]

theorem interweave_congr {places places' : List (List Char)} (h : SameMembers ignorable ignorable')
    (hplaces : List.Forall₂ SameMembers places places') (next : List Char → Option β) :
    interweave ignorable places s next = interweave ignorable' places' s next := by
  induction hplaces generalizing s with
  | nil => exact skipRun_congr s h next
  | cons hplace _ ih => simp only [interweave, skipRun_congr s h, takePlace_congr _ hplace, ih]

end Interweaving

/-- Options that declare the same: the same ignorable characters, and for each character the same
ones that stand for it. -/
structure Options.Alike (o o' : Options) : Prop where
  ignore : SameMembers o.ignore o'.ignore
  accepted (c : Char) : SameMembers (accepted o.equivalent c) (accepted o'.equivalent c)
  inClass (c : Char) : (classOf? [c] o.equivalent).isSome = (classOf? [c] o'.equivalent).isSome
  wholeLine : o.wholeLine = o'.wholeLine

namespace Options.Alike

variable {o o' : Options}

theorem mandatory (h : o.Alike o') : o.mandatory = o'.mandatory := by
  funext c
  have hignore : o.ignore.contains c = o'.ignore.contains c := by
    rw [Bool.eq_iff_iff, List.contains_iff_mem, List.contains_iff_mem]
    exact h.ignore c
  rw [Options.mandatory, Options.mandatory, hignore, h.inClass c]

theorem places (h : o.Alike o') (word : List Char) :
    List.Forall₂ SameMembers (o.places word) (o'.places word) := by
  rw [Options.places, Options.places, h.mandatory, List.forall₂_map_left_iff,
    List.forall₂_map_right_iff, List.forall₂_same]
  exact fun c _ => h.accepted c

theorem matchAt (h : o.Alike o') (word : List Char) :
    (o.pattern word).matchAt = (o'.pattern word).matchAt := by
  have hprecede : o.mayPrecede = o'.mayPrecede := by
    funext rest
    rw [Options.mayPrecede, Options.mayPrecede, h.wholeLine]
  funext atStart s
  rw [o.matchAt_pattern, o'.matchAt_pattern, h.wholeLine, hprecede,
    interweave_congr s h.ignore (h.places word)]

theorem occurrenceAt (h : o.Alike o') (word : List Char) :
    (o.pattern word).occurrenceAt = (o'.pattern word).occurrenceAt := by
  funext text i
  rw [WordPattern.occurrenceAt, WordPattern.occurrenceAt, h.matchAt word]

end Options.Alike

section Components

variable {pairs : List (Char × Char)} {classes : List (List Char)} {c d : Char}

theorem AreComponents.inClass_iff (h : AreComponents pairs classes) :
    (classOf? [c] classes).isSome ↔ c ∈ mentioned pairs := by
  rw [classOf?, List.find?_isSome]
  constructor
  · rintro ⟨cls, hcls, hc⟩
    exact h.mem_mentioned hcls ((mentions_singleton c cls).mp hc)
  · intro hc
    obtain ⟨cls, hcls, hc⟩ := h.exists_mem hc
    exact ⟨cls, hcls, (mentions_singleton c cls).mpr hc⟩

/-- What stands for a character is what the pairs link with it. -/
theorem AreComponents.mem_accepted_iff_linked (h : AreComponents pairs classes) :
    d ∈ accepted classes c ↔ Linked pairs c d := by
  unfold accepted
  cases hcls : classOf? [c] classes with
  | some cls =>
    obtain ⟨hmem, hc⟩ := mem_of_classOf?_eq_some hcls
    exact h.mem_iff cls hmem c hc d
  | none =>
    have hnot : c ∉ mentioned pairs := by simp [← h.inClass_iff, hcls]
    rw [Option.getD_none, List.mem_singleton]
    constructor
    · rintro rfl
      exact .refl d
    · intro hlinked
      exact (hlinked.eq_or_mentioned.resolve_right fun hboth => hnot hboth.1).symm

end Components

end Concordance.Pattern
