import Concordance.Text.CodeRange

/-!
White space, and the splitting of a phrase into words at it.
-/

namespace Concordance.Text

/-- The white space characters of the character database. -/
def spaceRanges : List (Nat × Nat) :=
  [(0x9, 0xD), (0x20, 0x20), (0x85, 0x85), (0xA0, 0xA0), (0x1680, 0x1680), (0x2000, 0x200A),
   (0x2028, 0x2029), (0x202F, 0x202F), (0x205F, 0x205F), (0x3000, 0x3000)]

/-- White space proper. -/
def isSpace (c : Char) : Bool := inRanges spaceRanges c.toNat

/-- What separates words: white space, and the four separator controls U+001C to U+001F. -/
def isBlank (c : Char) : Bool := isSpace c || (0x1C ≤ c.toNat && c.toNat ≤ 0x1F)

/-- The maximal runs of characters that are not blank, in order. -/
def words : List Char → List (List Char)
  | [] => []
  | c :: rest =>
    if isBlank c then words rest
    else match rest, words rest with
      | d :: _, w :: ws => if isBlank d then [c] :: w :: ws else (c :: w) :: ws
      | _, ws => [c] :: ws

/-- The text without what satisfies `p` at its two ends. -/
def trimBy {α : Type} (p : α → Bool) (s : List α) : List α :=
  ((s.dropWhile p).reverse.dropWhile p).reverse

/-- A word holds no blank. -/
theorem not_isBlank_of_mem_words {s w : List Char} {c : Char} (hw : w ∈ words s) (hc : c ∈ w) :
    isBlank c = false := by
  induction s generalizing w with
  | nil => cases hw
  | cons d rest ih =>
    unfold words at hw
    split at hw
    · exact ih hw hc
    next hd =>
      have hd : isBlank d = false := eq_false_of_ne_true hd
      split at hw
      · next e rest' first later hwords =>
        rw [hwords] at ih
        split at hw
        · rcases List.mem_cons.mp hw with rfl | hw
          · rwa [List.mem_singleton.mp hc]
          · exact ih hw hc
        · rcases List.mem_cons.mp hw with rfl | hw
          · rcases List.mem_cons.mp hc with rfl | hc
            · exact hd
            · exact ih List.mem_cons_self hc
          · exact ih (List.mem_cons_of_mem _ hw) hc
      · rcases List.mem_cons.mp hw with rfl | hw
        · rwa [List.mem_singleton.mp hc]
        · exact ih hw hc

end Concordance.Text
