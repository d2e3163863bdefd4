/-!
Texts that come from outside. Besides characters they may hold one half of a surrogate pair without
the other: it can be kept and compared, but it is no character and cannot be written.
-/

namespace Concordance

/-- A character, or one of the halves of surrogate pairs, the first of which is U+D800. -/
inductive CodePoint where
  | char (c : Char)
  | half (n : Fin 2048)
  deriving Repr, DecidableEq

/-- A text in which halves of surrogate pairs may stand. -/
abbrev CodePoints := List CodePoint

namespace CodePoint

/-- The code point of that number. -/
def ofNat (n : Nat) : CodePoint :=
  if h : 0xD800 ≤ n ∧ n < 0xE000 then .half ⟨n - 0xD800, by omega⟩ else .char (Char.ofNat n)

/-- The number of a half. -/
def halfNumber (n : Fin 2048) : Nat := 0xD800 + n

/-- True of the characters that a test accepts; no half passes it. -/
def passes (test : Char → Bool) : CodePoint → Bool
  | .char c => test c
  | .half _ => false

end CodePoint

namespace CodePoints

/-- Characters as code points. -/
def ofChars (s : List Char) : CodePoints := s.map .char

/-- A string as code points. -/
def ofString (s : String) : CodePoints := ofChars s.toList

instance : Coe (List Char) CodePoints := ⟨ofChars⟩

instance : Coe String CodePoints := ⟨ofString⟩

/-- True of a text without halves. -/
def isWhole (t : CodePoints) : Bool := t.all (CodePoint.passes fun _ => true)

/-- The longest part at the front that consists of characters that pass a test, and what stands
behind it. -/
def spanChars (test : Char → Bool) : CodePoints → List Char × CodePoints
  | .char c :: rest =>
    if test c then
      let (front, back) := spanChars test rest
      (c :: front, back)
    else ([], .char c :: rest)
  | t => ([], t)

/-- The parts of a text between its halves; there is one part more than there are halves. -/
def stretches : CodePoints → List (List Char)
  | [] => [[]]
  | .char c :: rest => (stretches rest).modifyHead (c :: ·)
  | .half _ :: rest => [] :: stretches rest

end CodePoints

end Concordance
