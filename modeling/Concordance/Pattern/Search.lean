import Concordance.Pattern.Word

/-!
Searching a text for a pattern. The leftmost start counts; at one start the alternatives are tried
in order, and a repetition takes as much as it can before it gives back.

The matcher takes what is to follow as a function `next` of the text that is left, so that a later
failure leads back to the next alternative.
-/

namespace Concordance.Pattern

variable {β : Type}

/-- The text behind a literal at its front. -/
def stripLiteral? : Literal → List Char → Option (List Char)
  | [], s => some s
  | _ :: _, [] => none
  | t :: ts, c :: s => if t = c then stripLiteral? ts s else none

theorem stripLiteral?_eq_some_iff {t : Literal} {s rest : List Char} :
    stripLiteral? t s = some rest ↔ s = t ++ rest := by
  induction t generalizing s with
  | nil => simp [stripLiteral?]
  | cons t ts ih =>
    cases s with
    | nil => simp [stripLiteral?]
    | cons c s =>
      by_cases h : t = c
      · simp [stripLiteral?, h, ih]
      · simp [stripLiteral?, h, eq_comm]

/-- One of the literals, the first one that leads on. -/
def matchOne (literals : List Literal) (s : List Char) (next : List Char → Option β) : Option β :=
  literals.findSome? fun t => (stripLiteral? t s).bind next

/-- Any number of the literals. A round that takes nothing is the last one. -/
def matchMany (literals : List Literal) (s : List Char) (next : List Char → Option β) : Option β :=
  (literals.findSome? fun t =>
    match _hs : stripLiteral? t s with
    | none => none
    | some rest => if _ht : t = [] then next rest else matchMany literals rest next)
  <|> next s
termination_by s.length
decreasing_by
  have hs := stripLiteral?_eq_some_iff.mp _hs
  have : 0 < t.length := List.length_pos_iff.mpr _ht
  simp [hs]
  omega

theorem matchMany_eq (literals : List Literal) (s : List Char) (next : List Char → Option β) :
    matchMany literals s next =
      ((literals.findSome? fun t => (stripLiteral? t s).bind fun rest =>
        if t = [] then next rest else matchMany literals rest next) <|> next s) := by
  rw [matchMany]
  have : (fun t : Literal =>
      match _hs : stripLiteral? t s with
      | none => none
      | some rest => if _ht : t = [] then next rest else matchMany literals rest next) =
      fun t => (stripLiteral? t s).bind fun rest =>
        if t = [] then next rest else matchMany literals rest next := by
    funext t
    split <;> simp_all
  rw [← this]

/-- A group as often as its quantifier says. -/
def Group.run (g : Group) (s : List Char) (next : List Char → Option β) : Option β :=
  match g.quantifier with
  | .once => matchOne g.literals s next
  | .many => matchMany g.literals s next
  | .atMostOnce => matchOne g.literals s next <|> next s

/-- Groups one after another. -/
def runAll : List Group → List Char → (List Char → Option β) → Option β
  | [], s, next => next s
  | g :: gs, s, next => g.run s fun rest => runAll gs rest next

/-- A line may end at the end of the text or before the line feed that ends it. -/
def endsLine (s : List Char) : Bool := s = [] || s = ['\n']

/-- The text behind the match at the front of `s`. -/
def WordPattern.matchAt (p : WordPattern) (atStart : Bool) (s : List Char) : Option (List Char) :=
  if p.wholeLine then
    if atStart then runAll p.parts s fun rest => if endsLine rest then some rest else none
    else none
  else runAll p.parts s some

/-- A match and its surroundings. -/
structure Occurrence where
  /-- the text before the match, the nearest character first -/
  before : List Char
  found : List Char
  after : List Char
  deriving Repr, DecidableEq

/-- Where the match starts. -/
def Occurrence.start (o : Occurrence) : Nat := o.before.length

/-- Where the match ends. -/
def Occurrence.stop (o : Occurrence) : Nat := o.start + o.found.length

/-- The first match in `s`, the text behind `before`. -/
def WordPattern.searchFrom (p : WordPattern) (before : List Char) (s : List Char) :
    Option Occurrence :=
  match p.matchAt before.isEmpty s with
  | some rest => some ⟨before, s.take (s.length - rest.length), rest⟩
  | none =>
    match s with
    | [] => none
    | c :: s => p.searchFrom (c :: before) s

/-- The first match in a text. -/
def WordPattern.search (p : WordPattern) (text : List Char) : Option Occurrence :=
  p.searchFrom [] text

end Concordance.Pattern
