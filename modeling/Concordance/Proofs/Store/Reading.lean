import Concordance.Store.Query

/-! Reading a query back. A literal opens at a quote, a backslash protects the character behind it,
and the next quote that is not protected closes the literal. -/

namespace Concordance.Store

/-- What a reader is in the middle of. -/
inductive Mode where
  | outside
  | inside
  /-- in a literal, behind a backslash -/
  | protects
  deriving Repr, DecidableEq

/-- A reader of a query: the stretches of text and the literals that it has left behind, and what it
has read of the one it is in. -/
structure Reader where
  mode : Mode := .outside
  stretches : List (List Char) := []
  literals : List (List Char) := []
  current : List Char := []
  deriving Repr, DecidableEq

/-- What has been read: literals, and the text before each of them and behind the last. -/
structure Reading where
  outside : List (List Char)
  literals : List (List Char)
  deriving Repr, DecidableEq

namespace Reader

def step (r : Reader) (c : Char) : Reader :=
  match r.mode with
  | .outside =>
    if c = '"' then
      { r with mode := .inside, stretches := r.stretches ++ [r.current], current := [] }
    else { r with current := r.current ++ [c] }
  | .inside =>
    if c = '"' then
      { r with mode := .outside, literals := r.literals ++ [r.current], current := [] }
    else if c = '\\' then { r with mode := .protects }
    else { r with current := r.current ++ [c] }
  | .protects => { r with mode := .inside, current := r.current ++ [c] }

def run (r : Reader) (s : List Char) : Reader := s.foldl step r

theorem run_append (r : Reader) (s t : List Char) : r.run (s ++ t) = (r.run s).run t :=
  List.foldl_append

/-- Text without quotes stays outside. -/
theorem run_outside (stretches literals : List (List Char)) (current : List Char) {s : List Char}
    (hs : '"' ∉ s) :
    run ⟨.outside, stretches, literals, current⟩ s =
      ⟨.outside, stretches, literals, current ++ s⟩ := by
  induction s generalizing current with
  | nil => simp [run]
  | cons c s ih =>
    obtain ⟨hc, hs⟩ := not_or.mp (mt List.mem_cons.mpr hs)
    have hstep : step ⟨.outside, stretches, literals, current⟩ c =
        ⟨.outside, stretches, literals, current ++ [c]⟩ := by simp [step, Ne.symm hc]
    calc run ⟨.outside, stretches, literals, current⟩ (c :: s)
      _ = run ⟨.outside, stretches, literals, current ++ [c]⟩ s := by rw [← hstep]; rfl
      _ = ⟨.outside, stretches, literals, current ++ (c :: s)⟩ := by
          rw [ih _ hs, List.append_assoc, List.singleton_append]

/-- A character of a literal is read as itself, behind a backslash or not. -/
theorem run_literalChar (stretches literals : List (List Char)) (current : List Char) (c : Char) :
    run ⟨.inside, stretches, literals, current⟩ (literalChar c) =
      ⟨.inside, stretches, literals, current ++ [c]⟩ := by
  unfold literalChar
  split
  · simp [run, step]
  · next hplain =>
    obtain ⟨hslash, hquote⟩ : c ≠ '\\' ∧ c ≠ '"' := by simpa using hplain
    simp [run, step, hslash, hquote]

theorem run_literalChars (stretches literals : List (List Char)) (current value : List Char) :
    run ⟨.inside, stretches, literals, current⟩ (value.flatMap literalChar) =
      ⟨.inside, stretches, literals, current ++ value⟩ := by
  induction value generalizing current with
  | nil => simp [run]
  | cons c value ih =>
    rw [List.flatMap_cons, run_append, run_literalChar, ih, List.append_assoc,
      List.singleton_append]

/-- A literal is read as its value, whatever that is, and leaves the reader outside. -/
theorem run_quoteLiteral (stretches literals : List (List Char)) (current value : List Char) :
    run ⟨.outside, stretches, literals, current⟩ (quoteLiteral value) =
      ⟨.outside, stretches ++ [current], literals ++ [value], []⟩ := by
  have hopen : run ⟨.outside, stretches, literals, current⟩ ['"'] =
      ⟨.inside, stretches ++ [current], literals, []⟩ := by simp [run, step]
  have hclose : run ⟨.inside, stretches ++ [current], literals, value⟩ ['"'] =
      ⟨.outside, stretches ++ [current], literals ++ [value], []⟩ := by simp [run, step]
  have hquote : quoteLiteral value = ['"'] ++ value.flatMap literalChar ++ ['"'] := rfl
  rw [hquote, run_append, run_append, hopen, run_literalChars, List.nil_append, hclose]

/-- What has been read. Nothing, if the text ends within a literal. -/
def finish (r : Reader) : Option Reading :=
  match r.mode with
  | .outside => some ⟨r.stretches ++ [r.current], r.literals⟩
  | _ => none

end Reader

/-- What a reader makes of a query. -/
def readQuery (s : List Char) : Option Reading := (Reader.run {} s).finish

/-- The values of the literals of a query. -/
def literalsOf : List Piece → List (List Char)
  | [] => []
  | .plain _ :: pieces => literalsOf pieces
  | .literal value :: pieces => value :: literalsOf pieces

/-- The text of a query outside its literals, if `current` stands before it. -/
def stretchesFrom (current : List Char) : List Piece → List (List Char)
  | [] => [current]
  | .plain text :: pieces => stretchesFrom (current ++ text) pieces
  | .literal _ :: pieces => current :: stretchesFrom [] pieces

/-- A part of a query that a reader takes for what it is: plain text must have no quotes. -/
def Piece.Clear : Piece → Prop
  | .plain text => '"' ∉ text
  | .literal _ => True

instance : DecidablePred Piece.Clear
  | .plain text => inferInstanceAs (Decidable ('"' ∉ text))
  | .literal _ => .isTrue trivial

theorem Reader.finish_run_renderPieces {pieces : List Piece} (h : ∀ piece ∈ pieces, piece.Clear)
    (stretches literals : List (List Char)) (current : List Char) :
    (run ⟨.outside, stretches, literals, current⟩ (renderPieces pieces)).finish =
      some ⟨stretches ++ stretchesFrom current pieces, literals ++ literalsOf pieces⟩ := by
  induction pieces generalizing stretches literals current with
  | nil => simp [run, finish, renderPieces, stretchesFrom, literalsOf]
  | cons piece pieces ih =>
    have ih := ih fun p hp => h p (List.mem_cons_of_mem piece hp)
    have hrender : renderPieces (piece :: pieces) = piece.render ++ renderPieces pieces := rfl
    rw [hrender, run_append]
    cases piece with
    | plain text =>
      have htext : '"' ∉ text := h (.plain text) List.mem_cons_self
      rw [Piece.render, run_outside _ _ _ htext, ih]
      rfl
    | literal value =>
      rw [Piece.render, run_quoteLiteral, ih, List.append_assoc, List.append_assoc]
      rfl

/-- A query whose plain text has no quotes is read as what it was made of. -/
theorem readQuery_renderPieces {pieces : List Piece} (h : ∀ piece ∈ pieces, piece.Clear) :
    readQuery (renderPieces pieces) = some ⟨stretchesFrom [] pieces, literalsOf pieces⟩ := by
  have hread : readQuery (renderPieces pieces) =
      some ⟨[] ++ stretchesFrom [] pieces, [] ++ literalsOf pieces⟩ :=
    Reader.finish_run_renderPieces h [] [] []
  rw [hread, List.nil_append, List.nil_append]

/-- A value that tries to close its literal stays in it. -/
example : readQuery (renderPieces
    [.plain "(id: ".toList, .literal "A\") \\".toList, .plain ")".toList]) =
      some ⟨["(id: ".toList, ")".toList], ["A\") \\".toList]⟩ := by decide +kernel

section Patterns

theorem literalsOf_append (pieces more : List Piece) :
    literalsOf (pieces ++ more) = literalsOf pieces ++ literalsOf more := by
  induction pieces with
  | nil => rfl
  | cons piece pieces ih => cases piece <;> simp [literalsOf, ih]

theorem literalsOf_commaLiterals (patterns : List (List Char)) :
    literalsOf (commaLiterals patterns) = patterns := by
  induction patterns with
  | nil => rfl
  | cons p ps ih =>
    cases ps with
    | nil => rfl
    | cons q ps => simpa [commaLiterals, literalsOf] using ih

theorem clear_commaLiterals (patterns : List (List Char)) :
    ∀ piece ∈ commaLiterals patterns, piece.Clear := by
  induction patterns with
  | nil => simp [commaLiterals]
  | cons p ps ih =>
    cases ps with
    | nil => simp [commaLiterals, Piece.Clear]
    | cons q ps => simpa [commaLiterals, Piece.Clear] using ih

theorem clear_filterPieces (patterns : List (List Char)) :
    ∀ piece ∈ filterPieces patterns, piece.Clear := by
  unfold filterPieces
  rw [List.cons_append, List.forall_mem_cons, List.forall_mem_append]
  exact ⟨by decide, clear_commaLiterals patterns, by decide⟩

/-- A part of a query without what its literal holds. -/
def Piece.emptied : Piece → Piece
  | .plain text => .plain text
  | .literal _ => .literal []

/-- What stands outside the literals does not depend on what stands in them. -/
theorem stretchesFrom_map_emptied (current : List Char) (pieces : List Piece) :
    stretchesFrom current (pieces.map Piece.emptied) = stretchesFrom current pieces := by
  induction pieces generalizing current with
  | nil => rfl
  | cons piece pieces ih => cases piece <;> simp [stretchesFrom, Piece.emptied, ih]

theorem map_emptied_commaLiterals (patterns : List (List Char)) :
    (commaLiterals patterns).map Piece.emptied =
      commaLiterals (List.replicate patterns.length []) := by
  induction patterns with
  | nil => rfl
  | cons p ps ih =>
    cases ps with
    | nil => rfl
    | cons q ps => simpa [commaLiterals, Piece.emptied, List.replicate_succ] using ih

theorem map_emptied_filterPieces (patterns : List (List Char)) :
    (filterPieces patterns).map Piece.emptied =
      filterPieces (List.replicate patterns.length []) := by
  simp [filterPieces, map_emptied_commaLiterals, Piece.emptied]

end Patterns

section Queries

/-- A query with a filter in it is read as what it was made of, the patterns among the rest. -/
theorem readQuery_filter {front back : List Piece} (hfront : ∀ piece ∈ front, piece.Clear)
    (hback : ∀ piece ∈ back, piece.Clear) (patterns : List (List Char)) :
    readQuery (renderPieces (front ++ filterPieces patterns ++ back)) =
      some ⟨stretchesFrom [] (front.map Piece.emptied ++
          filterPieces (List.replicate patterns.length []) ++ back.map Piece.emptied),
        literalsOf front ++ patterns ++ literalsOf back⟩ := by
  have hclear : ∀ piece ∈ front ++ filterPieces patterns ++ back, piece.Clear := by
    rw [List.forall_mem_append, List.forall_mem_append]
    exact ⟨⟨hfront, clear_filterPieces patterns⟩, hback⟩
  have hliterals : literalsOf (filterPieces patterns) = patterns := by
    simp [filterPieces, literalsOf_append, literalsOf, literalsOf_commaLiterals]
  rw [readQuery_renderPieces hclear, literalsOf_append, literalsOf_append, hliterals,
    ← map_emptied_filterPieces, ← List.map_append, ← List.map_append, stretchesFrom_map_emptied]

/-- The text of a query for books outside its literals, if it is for so many patterns. -/
def booksFrame (n : Nat) : List (List Char) :=
  stretchesFrom [] ((booksPieces [] (List.replicate n [])).map Piece.emptied)

theorem readQuery_booksQuery (docSet : String) (patterns : List (List Char)) :
    readQuery (booksQuery docSet patterns).toList =
      some ⟨booksFrame patterns.length, docSet.toList :: patterns ++ ["paratext".toList]⟩ := by
  unfold booksQuery booksFrame booksPieces
  rw [String.toList_ofList, List.map_append, List.map_append, map_emptied_filterPieces,
    List.length_replicate]
  refine readQuery_filter ?_ ?_ patterns
  · simp only [List.forall_mem_cons]
    exact ⟨by decide, trivial, by decide, by simp⟩
  · simp only [List.forall_mem_cons]
    exact ⟨by decide, trivial, by decide, by simp⟩

/-- The text of a query for blocks outside its literals, if it is for so many patterns. -/
def blocksFrame (n : Nat) : List (List Char) :=
  stretchesFrom [] ((blocksPieces [] (List.replicate n [])).map Piece.emptied)

theorem readQuery_blocksQuery (book : String) (patterns : List (List Char)) :
    readQuery (blocksQuery book patterns).toList =
      some ⟨blocksFrame patterns.length,
        book.toList :: "bookCode".toList :: patterns ++ ["chapter/".toList, "verses/".toList]⟩ := by
  unfold blocksQuery blocksFrame blocksPieces
  rw [String.toList_ofList, List.map_append, List.map_append, map_emptied_filterPieces,
    List.length_replicate]
  refine readQuery_filter ?_ ?_ patterns
  · simp only [List.forall_mem_cons]
    exact ⟨by decide, trivial, by decide, trivial, by decide, by simp⟩
  · simp only [List.forall_mem_cons]
    exact ⟨by decide, trivial, by decide, trivial, by decide, by simp⟩

end Queries

theorem booksQuery_eq_iff {docSet docSet' : String} {patterns patterns' : List (List Char)} :
    booksQuery docSet patterns = booksQuery docSet' patterns' ↔
      docSet = docSet' ∧ patterns = patterns' := by
  constructor
  · intro heq
    have hread := readQuery_booksQuery docSet patterns
    rw [heq, readQuery_booksQuery] at hread
    have hliterals := congrArg Reading.literals (Option.some.inj hread)
    obtain ⟨hid, hrest⟩ := List.cons_eq_cons.mp hliterals
    exact ⟨(String.toList_inj.mp hid).symm, (List.append_cancel_right hrest).symm⟩
  · rintro ⟨rfl, rfl⟩
    rfl

theorem blocksQuery_eq_iff {book book' : String} {patterns patterns' : List (List Char)} :
    blocksQuery book patterns = blocksQuery book' patterns' ↔
      book = book' ∧ patterns = patterns' := by
  constructor
  · intro heq
    have hread := readQuery_blocksQuery book patterns
    rw [heq, readQuery_blocksQuery] at hread
    have hliterals := congrArg Reading.literals (Option.some.inj hread)
    obtain ⟨hid, hmore⟩ := List.cons_eq_cons.mp hliterals
    obtain ⟨-, hrest⟩ := List.cons_eq_cons.mp hmore
    exact ⟨(String.toList_inj.mp hid).symm, (List.append_cancel_right hrest).symm⟩
  · rintro ⟨rfl, rfl⟩
    rfl

/-- No value ends its place in a query. Whatever the identifier and the words are and whatever they
are compiled with, the literals of a query are read back as the identifier, the pattern of each word
in order and the values of the program, and the text around them depends on the number of words
only. So a query determines its identifier and its patterns. -/
theorem literals_read_back :
    (∃ frame : Nat → List (List Char), ∀ (docSet : String) (o : WordOptions)
      (words : List (List Char)),
      readQuery (booksQuery docSet (o.patterns words)).toList =
        some ⟨frame words.length,
          docSet.toList :: words.map (fun word => (o.remotePattern word).text) ++
            ["paratext".toList]⟩) ∧
    (∃ frame : Nat → List (List Char), ∀ (book : String) (o : WordOptions)
      (words : List (List Char)),
      readQuery (blocksQuery book (o.patterns words)).toList =
        some ⟨frame words.length,
          book.toList :: "bookCode".toList ::
            words.map (fun word => (o.remotePattern word).text) ++
            ["chapter/".toList, "verses/".toList]⟩) ∧
    (∀ docSet docSet' patterns patterns',
      booksQuery docSet patterns = booksQuery docSet' patterns' ↔
        docSet = docSet' ∧ patterns = patterns') ∧
    ∀ book book' patterns patterns',
      blocksQuery book patterns = blocksQuery book' patterns' ↔
        book = book' ∧ patterns = patterns' := by
  have hcount (o : WordOptions) (words : List (List Char)) :
      (o.patterns words).length = words.length := List.length_map _
  have hpatterns (o : WordOptions) (words : List (List Char)) :
      words.map (fun word => (o.remotePattern word).text) = o.patterns words := rfl
  refine ⟨⟨booksFrame, fun docSet o words => ?_⟩, ⟨blocksFrame, fun book o words => ?_⟩, ?_, ?_⟩
  · rw [readQuery_booksQuery, hcount, hpatterns]
  · rw [readQuery_blocksQuery, hcount, hpatterns]
  · intro docSet docSet' patterns patterns'
    exact booksQuery_eq_iff
  · intro book book' patterns patterns'
    exact blocksQuery_eq_iff

end Concordance.Store
