import Concordance.Proofs.Pattern.Compile
import Concordance.Proofs.Pattern.Scan

/-! A search by the text of a pattern finds what the pattern finds, and the group that it reports is
all of the match. -/

namespace Concordance.Pattern

section Naturality

variable {β γ : Type} (f : β → γ)

private theorem matchOne_map (literals : List Literal) (s : List Char)
    (next : List Char → Option β) :
    matchOne literals s (fun rest => (next rest).map f) = (matchOne literals s next).map f := by
  simp only [matchOne, List.map_findSome?, Function.comp_def, Option.map_bind]

private theorem matchMany_map (literals : List Literal) (s : List Char)
    (next : List Char → Option β) :
    matchMany literals s (fun rest => (next rest).map f) = (matchMany literals s next).map f := by
  induction hn : s.length using Nat.strongRecOn generalizing s with
  | ind n ih =>
    have hround (t : Literal) : ((stripLiteral? t s).bind fun rest =>
        if t = [] then (next rest).map f
        else matchMany literals rest fun rest => (next rest).map f) =
        ((stripLiteral? t s).bind fun rest =>
          if t = [] then next rest else matchMany literals rest next).map f := by
      cases hs : stripLiteral? t s with
      | none => rfl
      | some rest =>
        by_cases ht : t = []
        · simp [ht]
        · have hlt : rest.length < n := by
            rw [← hn, stripLiteral?_eq_some_iff.mp hs, List.length_append]
            exact Nat.lt_add_of_pos_left (List.length_pos_iff.mpr ht)
          simp [ht, ih _ hlt rest rfl]
    rw [matchMany_eq, matchMany_eq]
    simp only [hround, Option.orElse_eq_orElse, Option.orElse_eq_or, Option.map_or,
      List.map_findSome?, Function.comp_def]

private theorem Group.run_map (g : Group) (s : List Char) (next : List Char → Option β) :
    g.run s (fun rest => (next rest).map f) = (g.run s next).map f := by
  unfold Group.run
  cases g.quantifier with
  | once => exact matchOne_map f g.literals s next
  | many => exact matchMany_map f g.literals s next
  | atMostOnce =>
    simp only [matchOne_map, Option.orElse_eq_orElse, Option.orElse_eq_or, Option.map_or]

private theorem runAll_map (gs : List Group) (s : List Char) (next : List Char → Option β) :
    runAll gs s (fun rest => (next rest).map f) = (runAll gs s next).map f := by
  induction gs generalizing s with
  | nil => rfl
  | cons g gs ih =>
    simp only [runAll, ih]
    exact g.run_map f s _

end Naturality

private theorem follow_groups (length : Nat) (gs : List Group) (marks : List Mark)
    (k : Parenthesis) (s : List Char) :
    follow length (gs.map Mark.group ++ marks) k s =
      runAll gs s fun rest => follow length marks k rest := by
  induction gs generalizing s with
  | nil => rfl
  | cons g gs ih => simp only [List.map_cons, List.cons_append, follow, runAll, ih]

private theorem runAll_told (gs : List Group) {β : Type} (s : List Char)
    (next : List Char → Option β) : runAll (gs.map Group.told) s next = runAll gs s next := by
  have hrun (g : Group) : g.told.run (β := β) = g.run := by
    have hliterals : g.told.literals = g.literals := by
      unfold Group.told Group.literals
      cases g.tokens <;> rfl
    unfold Group.run
    rw [hliterals]
    rfl
  induction gs generalizing s with
  | nil => rfl
  | cons g gs ih => simp only [List.map_cons, runAll, hrun, ih]

/-- What the parenthesis of a pattern reports of a match at the front of `s`. -/
private def reported (p : WordPattern) (s rest : List Char) : Option (List Char) :=
  if p.capture then some (s.take (s.length - rest.length)) else none

/-- The parenthesis of a pattern when it has opened in front of `s`. -/
private def passed (p : WordPattern) (s : List Char) : Parenthesis where
  opened := if p.capture then some s else none

/-- Behind the groups a search closes the parenthesis, and for whole lines it looks for their
end. -/
private theorem follow_behind (p : WordPattern) (length : Nat) (s rest : List Char) :
    follow length ((if p.capture then [.closes] else []) ++
        if p.wholeLine then [.lineEnd] else []) (passed p s) rest =
      (if p.wholeLine then if endsLine rest then some rest else none else some rest).map
        fun rest => (rest, reported p s rest) := by
  unfold passed reported
  cases p.wholeLine <;> cases p.capture <;> cases hend : endsLine rest <;> simp [follow, hend]

private theorem follow_parts (p : WordPattern) (length : Nat) (marks : List Mark)
    (k : Parenthesis) (s : List Char) :
    follow length (p.told.groups.map Mark.group ++ marks) k s =
      runAll p.parts s fun rest => follow length marks k rest := by
  rw [follow_groups]
  exact runAll_told p.parts s _

/-- Following the marks takes what a search takes, and the parenthesis reports all of it. -/
private theorem follow_marks (p : WordPattern) (length : Nat) (s : List Char) :
    follow length p.told.marks {} s =
      (p.matchAt (s.length = length) s).map fun rest => (rest, reported p s rest) := by
  have hopens (marks : List Mark) :
      follow length ((if p.capture then [.opens] else []) ++ marks) {} s =
        follow length marks (passed p s) s := by
    unfold passed
    cases p.capture <;> rfl
  have hinner : follow length ((if p.capture then [.opens] else []) ++
      (p.told.groups.map Mark.group ++ ((if p.capture then [.closes] else []) ++
        if p.wholeLine then [.lineEnd] else []))) {} s =
      (runAll p.parts s fun rest =>
        if p.wholeLine then if endsLine rest then some rest else none else some rest).map
          fun rest => (rest, reported p s rest) := by
    rw [hopens, follow_parts]
    simp only [follow_behind]
    exact runAll_map _ p.parts s _
  have hmarks : p.told.marks = (if p.wholeLine then [.lineStart] else []) ++
      ((if p.capture then [.opens] else []) ++ (p.told.groups.map Mark.group ++
        ((if p.capture then [.closes] else []) ++ if p.wholeLine then [.lineEnd] else []))) := by
    simp only [Reading.marks, List.append_assoc]
    rfl
  rw [hmarks]
  unfold WordPattern.matchAt
  cases hw : p.wholeLine with
  | false => simpa [hw] using hinner
  | true =>
    simp only [hw, if_true] at hinner
    simp only [if_true, List.singleton_append, follow, hinner, decide_eq_true_eq]
    split <;> rfl

theorem WordPattern.search_told (p : WordPattern) (text : List Char) :
    p.told.search text =
      (p.search text).map fun o => (o, if p.capture then some o.found else none) := by
  rw [WordPattern.search_eq_findSome?, List.map_findSome?]
  apply findSome?_congr
  intro i hi
  have hstart : ((text.drop i).length = text.length) = (i = 0) := by
    have hi := List.mem_range.mp hi
    rw [List.length_drop, eq_iff_iff]
    omega
  simp only [follow_marks, hstart, occurrenceAt, Function.comp_apply, Option.map_map]
  rfl

/-- A search by the text of a pattern finds the match of the pattern, and the group it reports is
all of it. -/
theorem WordPattern.searchBy?_text (p : WordPattern) (text : List Char) :
    searchBy? p.text text =
      some ((p.search text).map fun o => (o, if p.capture then some o.found else none)) := by
  rw [searchBy?, p.compile?_text, Option.map_some, p.search_told]

end Concordance.Pattern
