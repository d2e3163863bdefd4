/-!
Upper and lower case of names that are made of ASCII letters. Beyond ASCII there are three
characters whose counterpart is an ASCII letter.
-/

namespace Concordance.Text

/-- The dotless i and the long s have ASCII letters in upper case. -/
def upperLetter (c : Char) : Char :=
  if c = '\u0131' then 'I' else if c = '\u017F' then 'S' else c.toUpper

/-- The Kelvin sign has an ASCII letter in lower case. -/
def lowerLetter (c : Char) : Char := if c = '\u212A' then 'k' else c.toLower

/-- A name in upper case. -/
def upperName (s : String) : String := String.ofList (s.toList.map upperLetter)

/-- A name in lower case. -/
def lowerName (s : String) : String := String.ofList (s.toList.map lowerLetter)

end Concordance.Text
