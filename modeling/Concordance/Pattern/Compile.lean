import Concordance.Pattern.Search

/-!
Searching by the text of a pattern. The text is read first: groups in a row, perhaps in a
parenthesis, and that perhaps between anchors. A search then follows what has been read from left to
right; it notes where the parenthesis opens, and what has been taken when it closes.
-/

namespace Concordance.Pattern

/-- The characters that regular expressions are built with. `special` has a few more. -/
def metacharacters : List Char :=
  ['.', '^', '$', '*', '+', '?', '\x7b', '\x7d', '[', ']', '\\', '|', '(', ')']

/-- What the text of a pattern says. -/
structure Reading where
  lineStart : Bool
  capture : Bool
  groups : List Group
  lineEnd : Bool
  deriving Repr, DecidableEq

/-- What a group begins with. -/
def groupOpening : List Char := ['(', '?', ':']

/-- Puts a character in front of the first literal. -/
def startWith (c : Char) : List Literal → List Literal
  | [] => []
  | t :: ts => (c :: t) :: ts

/-- Reads alternatives up to the parenthesis that closes their group. A backslash makes the next
character literal; without one only characters that are not part of the syntax are. What has been
read, and the text behind the parenthesis. -/
def readAlternatives? : List Char → Option (List Literal × List Char)
  | [] => none
  | '\\' :: [] => none
  | '\\' :: c :: s => (readAlternatives? s).map (Prod.map (startWith c) id)
  | c :: s =>
    if c = ')' then some ([[]], s)
    else if c = '|' then (readAlternatives? s).map (Prod.map ([] :: ·) id)
    else if c ∈ metacharacters then none
    else (readAlternatives? s).map (Prod.map (startWith c) id)

/-- Reads the quantifier behind a group. -/
def readQuantifier : List Char → Quantifier × List Char
  | '*' :: s => (.many, s)
  | '?' :: s => (.atMostOnce, s)
  | s => (.once, s)

theorem length_of_readAlternatives? {s rest : List Char} {ts : List Literal}
    (h : readAlternatives? s = some (ts, rest)) : rest.length < s.length := by
  have hshorter {f : List Literal → List Literal} {us : List Literal} {s : List Char}
      (ih : ∀ {ts}, readAlternatives? s = some (ts, rest) → rest.length < s.length)
      (h : (readAlternatives? s).map (Prod.map f id) = some (us, rest)) :
      rest.length < s.length := by
    obtain ⟨⟨ts, behind⟩, hread, heq⟩ := Option.map_eq_some_iff.mp h
    obtain ⟨-, rfl⟩ := Prod.mk.inj heq
    exact ih hread
  fun_induction readAlternatives? s generalizing ts with
  | case1 => cases h
  | case2 => cases h
  | case3 c s ih =>
    exact Nat.lt_succ_of_lt (Nat.lt_succ_of_lt (hshorter ih h))
  | case4 s =>
    obtain ⟨-, rfl⟩ := Prod.mk.inj (Option.some.inj h)
    exact Nat.lt_succ_self _
  | case5 s _ _ _ ih => exact Nat.lt_succ_of_lt (hshorter ih h)
  | case6 => cases h
  | case7 c s _ _ _ _ _ ih => exact Nat.lt_succ_of_lt (hshorter ih h)

theorem length_readQuantifier (s : List Char) : (readQuantifier s).2.length ≤ s.length := by
  unfold readQuantifier
  split <;> simp

/-- Reads groups for as long as there are any. -/
def readGroups? (s : List Char) : Option (List Group × List Char) :=
  match _hopen : stripLiteral? groupOpening s with
  | none => some ([], s)
  | some body =>
    match _hbody : readAlternatives? body with
    | none => none
    | some (ts, behind) =>
      (readGroups? (readQuantifier behind).2).map fun (gs, rest) =>
        (⟨ts, (readQuantifier behind).1⟩ :: gs, rest)
termination_by s.length
decreasing_by
  have hopen := congrArg List.length (stripLiteral?_eq_some_iff.mp _hopen)
  have hbody := length_of_readAlternatives? _hbody
  have hbehind := length_readQuantifier behind
  simp only [List.length_append] at hopen
  omega

/-- Reads a character that may be there. -/
def readMark (c : Char) (s : List Char) : Bool × List Char :=
  match stripLiteral? [c] s with
  | some rest => (true, rest)
  | none => (false, s)

/-- Reads a parenthesis that is not that of a group. -/
def readOpening (s : List Char) : Bool × List Char :=
  if (stripLiteral? groupOpening s).isSome then (false, s) else readMark '(' s

/-- Reads the text of a pattern; nothing, if it is the text of none. -/
def compile? (s : List Char) : Option Reading :=
  let start := readMark '^' s
  let opening := readOpening start.2
  (readGroups? opening.2).bind fun groups =>
    (if opening.1 then stripLiteral? [')'] groups.2 else some groups.2).bind fun rest =>
      let stop := readMark '$' rest
      if stop.2 = [] then some ⟨start.1, opening.1, groups.1, stop.1⟩ else none

/-- What a search meets in the text of a pattern, from left to right. -/
inductive Mark where
  | lineStart
  | lineEnd
  | opens
  | closes
  | group (g : Group)
  deriving Repr, DecidableEq

/-- The marks of what has been read. -/
def Reading.marks (r : Reading) : List Mark :=
  (if r.lineStart then [.lineStart] else []) ++ (if r.capture then [.opens] else []) ++
    r.groups.map .group ++ (if r.capture then [.closes] else []) ++
    (if r.lineEnd then [.lineEnd] else [])

/-- The parenthesis of a pattern as a search has passed it. -/
structure Parenthesis where
  /-- the text that was left where it opened -/
  opened : Option (List Char) := none
  /-- what was taken up to where it closed -/
  taken : Option (List Char) := none

/-- Follows marks from a place of a text of the given length. What is left of the text behind the
last mark, and what the parenthesis took. -/
def follow (length : Nat) : List Mark → Parenthesis → List Char →
    Option (List Char × Option (List Char))
  | [], k, s => some (s, k.taken)
  | .lineStart :: marks, k, s => if s.length = length then follow length marks k s else none
  | .lineEnd :: marks, k, s => if endsLine s then follow length marks k s else none
  | .opens :: marks, k, s => follow length marks { k with opened := some s } s
  | .closes :: marks, k, s =>
    follow length marks { k with taken := k.opened.map fun t => t.take (t.length - s.length) } s
  | .group g :: marks, k, s => g.run s fun rest => follow length marks k rest

/-- The first match of what has been read, and the group it reports. -/
def Reading.search (r : Reading) (text : List Char) : Option (Occurrence × Option (List Char)) :=
  (List.range (text.length + 1)).findSome? fun i =>
    (follow text.length r.marks {} (text.drop i)).map fun (rest, taken) =>
      let found := (text.drop i).take ((text.drop i).length - rest.length)
      (⟨(text.take i).reverse, found, rest⟩, taken)

/-- Searches a text by the text of a pattern: the first match and the group it reports, if there is
one. Nothing, if the text cannot be read as a pattern. -/
def searchBy? (pattern text : List Char) : Option (Option (Occurrence × Option (List Char))) :=
  (compile? pattern).map (·.search text)

end Concordance.Pattern
