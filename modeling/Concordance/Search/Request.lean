import Concordance.Search.Confirm
import Concordance.Search.Walk

/-!
A search: the candidates of a source that are confirmed, by the page or as one stream.
-/

namespace Concordance.Search

open Corpus (Candidate Match)
open Store (RetrievalError)

/-- Why a search gives no page. -/
abbrev Failure := Paging.ReadError RetrievalError

/-- A search, and the size of the pages that a stream takes unless it is told otherwise. -/
structure Request where
  source : Source
  batchSize : Int
  deriving Repr, DecidableEq

/-- The logger of searches. -/
def searchLogger : String := "verse_search.service_layer.search_service"

namespace Request

/-- The candidate as a match, if it is one. -/
def confirm (r : Request) (c : Candidate) : Option Match :=
  Search.confirm r.source.options r.source.words c

/-- Those of the candidates that are matches. -/
def confirmed (r : Request) (cs : List Candidate) : List Match := cs.filterMap r.confirm

/-- Asks for as many candidates as matches are missing, until none is missing or no candidate is
left. -/
def collect (r : Request) (store : Store) (limit : Nat) (got : List Match) (w : Walk)
    (s : Session) : Except Failure (List Match) × Walk × Session :=
  if limit ≤ got.length then (.ok got, w, s)
  else
    match _h : r.source.getVerses store (limit - got.length : Nat) w s with
    | (.error e, w, s) => (.error e, w, s)
    | (.ok [], w, s) => (.ok got, w, s)
    | (.ok (c :: cs), w', s) =>
      let found := r.confirmed (c :: cs)
      let s := s.note searchLogger .debug
        s!"Confirmed {found.length} of {(c :: cs).length} candidates"
      r.collect store limit (got ++ found) w' s
termination_by w
decreasing_by exact Source.further_of_getVerses _h

/-- The next matches, at most `limit` of them, or all if it is zero. -/
def getResults (r : Request) (store : Store) (limit : Int) (w : Walk) (s : Session) :
    Except Failure (List Match) × Walk × Session :=
  if limit < 0 then (.error (.negativeLimit limit), w, s)
  else if r.source.isBlank then (.ok [], w, s)
  else if limit = 0 then
    match r.source.getVerses store 0 w s with
    | (.error e, w, s) => (.error e, w, s)
    | (.ok cs, w, s) => (.ok (r.confirmed cs), w, s)
  else r.collect store limit.toNat [] w s

/-- Matches collected on top of others bring the walk further. -/
theorem further_or_of_collect {r : Request} {store : Store} {limit : Nat} {got found : List Match}
    {w w' : Walk} {s s' : Session} (h : r.collect store limit got w s = (.ok found, w', s')) :
    w'.Further w ∨ w'.rest = w.rest ∧ found = got := by
  fun_induction r.collect store limit got w s with
  | case1 => simp_all
  | case2 => simp_all
  | case3 got w s _ w₁ s₁ hget =>
    simp only [Prod.mk.injEq, Except.ok.injEq] at h
    obtain ⟨rfl, rfl, -⟩ := h
    exact (Source.further_or_of_getVerses hget).imp_right fun h => ⟨h.1, rfl⟩
  | case4 got w s _ c cs w₁ s₁ hget _ _ ih =>
    have hfar : w₁.Further w := Source.further_of_getVerses hget
    rcases ih h with hfar' | ⟨hrest, -⟩
    · exact .inl (hfar'.trans hfar)
    · exact .inl (by unfold Walk.Further at *; rwa [hrest])

/-- A page with a match on it brings the walk further. -/
theorem further_of_getResults {r : Request} {store : Store} {limit : Int} {found : List Match}
    {w w' : Walk} {s s' : Session} (h : r.getResults store limit w s = (.ok found, w', s'))
    (hne : found ≠ []) : w'.Further w := by
  unfold getResults at h
  split at h
  · simp at h
  · split at h
    · simp_all
    · split at h
      · split at h
        · simp at h
        · next cs w₁ s₁ hget =>
          simp only [Prod.mk.injEq, Except.ok.injEq] at h
          obtain ⟨rfl, rfl, -⟩ := h
          rcases Source.further_or_of_getVerses hget with hfar | ⟨-, rfl⟩
          · exact hfar
          · simp [confirmed] at hne
      · exact (further_or_of_collect h).resolve_right fun h => hne h.2

/-- What a stream has given when it stops: its matches, and the failure that stopped it, if one
did. -/
structure Streamed where
  found : List Match
  failure : Option Failure := none
  deriving Repr, DecidableEq

/-- Gives page after page, up to one that is not full. A stream that is read only up to a number of
matches pulls no page beyond the one that holds the last of them. -/
def streamFrom (r : Request) (store : Store) (size : Int) (count : Option Nat) (got : List Match)
    (w : Walk) (s : Session) : Streamed × Walk × Session :=
  match _h : r.getResults store size w s with
  | (.error e, w, s) => (⟨got, some e⟩, w, s)
  | (.ok page, w', s) =>
    let got := got ++ page
    match count.filter (· ≤ got.length) with
    | some n => (⟨got.take n, none⟩, w', s)
    | none =>
      if _hp : page = [] ∨ page.length < size then (⟨got, none⟩, w', s)
      else r.streamFrom store size count got w' s
termination_by w
decreasing_by exact further_of_getResults _h (fun h => _hp (.inl h))

/-- The matches as a stream, pulled in pages of a size of their own or of the search. -/
def stream (r : Request) (store : Store) (size : Option Int) (count : Option Nat) (w : Walk)
    (s : Session) : Streamed × Walk × Session :=
  if count = some 0 then (⟨[], none⟩, w, s)
  else
    let size := (size.filter (· ≠ 0)).getD r.batchSize
    r.streamFrom store size count [] w s

end Request

end Concordance.Search
