import Concordance.CommandLine.Run
import Concordance.Proofs.Text.CodePoint

/-! Which matches fit a line, and how far the printing of matches comes. -/

namespace Concordance

namespace Corpus

/-- The texts of a reference. -/
def Reference.texts (r : Reference) : List CodePoints :=
  r.docSet :: r.collection :: r.bookCode :: (r.chapter.toList ++ r.verses.toList)

/-- The texts of a match. -/
def Match.texts (m : Match) : List CodePoints :=
  m.candidate.reference.texts ++ m.candidate.text :: m.matched

/-- A half of a surrogate pair stands in one of the texts of a match. -/
def Match.Torn (m : Match) : Prop := ∃ t ∈ m.texts, ∃ n, CodePoint.half n ∈ t

theorem fitItems_map_str (texts : List CodePoints) :
    Json.fitItems (texts.map .str) = texts.all CodePoints.isWhole := by
  induction texts with
  | nil => rfl
  | cons t texts ih => rw [List.map_cons, Json.fitItems, ih, List.all_cons]; rfl

theorem fitsLine_optionalText (part : Option CodePoints) :
    (optionalText part).fitsLine = part.toList.all CodePoints.isWhole := by
  cases part <;> simp [optionalText, Json.fitsLine]

/-- A match fits a line unless it is torn. -/
theorem Match.fitsLine_iff (m : Match) : m.fitsLine = true ↔ ¬m.Torn := by
  have hall : m.fitsLine = m.texts.all CodePoints.isWhole := by
    simp [Match.fitsLine, Match.toJson, Reference.toJson, Match.texts, Reference.texts,
      Json.fitsLine, Json.fitFields, fitItems_map_str, fitsLine_optionalText, Bool.and_assoc]
  rw [hall, List.all_eq_true]
  simp only [CodePoints.isWhole_iff_forall, Match.Torn, not_exists, not_and]

end Corpus

namespace CommandLine

open Corpus (Match)

variable {found before : List Match} {m : Match}

theorem printLines_of_forall (h : ∀ m ∈ found, ¬m.Torn) :
    printLines found = (found.map Match.line, true) := by
  induction found with
  | nil => rfl
  | cons m found ih =>
    rw [List.forall_mem_cons] at h
    rw [printLines, if_pos (m.fitsLine_iff.mpr h.1), ih h.2, List.map_cons]

theorem printLines_append (h : ∀ x ∈ before, ¬x.Torn) (hm : m.Torn) (after : List Match) :
    printLines (before ++ m :: after) = (before.map Match.line, false) := by
  induction before with
  | nil => exact if_neg fun hfits => m.fitsLine_iff.mp hfits hm
  | cons x before ih =>
    rw [List.forall_mem_cons] at h
    rw [List.cons_append, printLines, if_pos (x.fitsLine_iff.mpr h.1), ih h.2, List.map_cons]

/-- Either no match is torn, or there is a first one that is. -/
theorem exists_first_torn (found : List Match) :
    (∀ m ∈ found, ¬m.Torn) ∨ ∃ before m after, found = before ++ m :: after ∧
      (∀ x ∈ before, ¬x.Torn) ∧ m.Torn := by
  induction found with
  | nil => exact .inl (List.forall_mem_nil _)
  | cons x found ih =>
    by_cases hx : x.Torn
    · exact .inr ⟨[], x, found, rfl, List.forall_mem_nil _, hx⟩
    · rcases ih with hnone | ⟨before, m, after, rfl, hbefore, hm⟩
      · exact .inl (List.forall_mem_cons.mpr ⟨hx, hnone⟩)
      · exact .inr ⟨x :: before, m, after, rfl, List.forall_mem_cons.mpr ⟨hx, hbefore⟩, hm⟩

end CommandLine

end Concordance
