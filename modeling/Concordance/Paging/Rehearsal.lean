import Concordance.Paging.Pager

/-!
A pager in front of a producer whose calls are written down beforehand, reads that overlap and
producers that read themselves included.
-/

namespace Concordance.Paging

/-- What one call of a written producer does. -/
inductive Act (α : Type) where
  /-- it gives a batch -/
  | gives (items : List α)
  /-- it fails -/
  | fails (message : String)
  /-- it reads from the pager it produces for, and gives what it read -/
  | reenters (limit : Int)

/-- Why a written producer fails. -/
inductive ActError where
  | failed (message : String)
  /-- its own read was refused as one that overlaps -/
  | overlapping
  /-- its own read was refused for a limit below zero -/
  | negativeLimit (limit : Int)
  deriving Repr, DecidableEq

/-- The failure of a producer as the failure of the read that called it. -/
def ActError.toReadError : ActError → ReadError ActError
  | .overlapping => .overlapping
  | .negativeLimit limit => .negativeLimit limit
  | e => .producer e

/-- A failed read as seen by a producer that made it. -/
def ActError.ofReadError : ReadError ActError → ActError
  | .overlapping => .overlapping
  | .negativeLimit limit => .negativeLimit limit
  | .producer e => e

/-- The wording of a producer's failure. -/
def ActError.message (e : ActError) : String :=
  match e with
  | .failed m => m
  | .overlapping => (ReadError.overlapping : ReadError Unit).message fun _ => ""
  | .negativeLimit limit => (ReadError.negativeLimit limit : ReadError Unit).message fun _ => ""

/-- A pager and the calls its producer has still to make. -/
structure Stage (α : Type) where
  pager : Pager α := {}
  ahead : List (Act α)
  /-- how many calls have been made -/
  calls : Nat := 0

/-- The result of a finished read. -/
abbrev Outcome (α : Type) := Except (ReadError ActError) (List α)

namespace Stage

variable {α : Type}

/-- True once the producer has made all its calls. -/
def exhausted (stage : Stage α) : Bool := stage.ahead.isEmpty

/-- What an act gives. A read from inside a call always finds the read that made the call waiting,
so it is refused. -/
def act (stage : Stage α) : Act α → Except ActError (List α)
  | .gives items => .ok items
  | .fails m => .error (.failed m)
  | .reenters limit =>
    match (stage.pager.start stage.exhausted limit : Progress ActError α × Pager α) with
    | (.ends (.ok page), _) => .ok page.items
    | (.ends (.error e), _) => .error (.ofReadError e)
    | (.waits, _) => .error .overlapping

/-- The items of a finished read. -/
def outcome (result : Except (ReadError ActError) (Page α)) : Outcome α :=
  match result with
  | .ok page => .ok page.items
  | .error (.producer e) => .error e.toReadError
  | .error e => .error e

/-- Starts a read. If it comes to wait, its first call is counted and suspended; no outcome yet. -/
def begin (stage : Stage α) (limit : Int) : Option (Outcome α) × Stage α :=
  match stage.pager.start stage.exhausted limit with
  | (.ends result, pager) => (some (outcome result), { stage with pager })
  | (.waits, pager) => (none, { stage with pager, calls := stage.calls + 1 })

/-- The suspended call goes on, and the waiting read with it until it ends. Every call takes its act
from those ahead. -/
def run (pager : Pager α) (calls : Nat) : List (Act α) → Outcome α × Stage α
  | [] => (.ok [], ⟨pager, [], calls⟩)
  | act :: ahead =>
    let batch := (⟨pager, ahead, calls⟩ : Stage α).act act
    match pager.resume ahead.isEmpty batch with
    | (.ends result, pager) => (outcome result, ⟨pager, ahead, calls⟩)
    | (.waits, pager) => run pager (calls + 1) ahead

/-- The waiting read of a stage runs to its end. -/
def complete (stage : Stage α) : Outcome α × Stage α := run stage.pager stage.calls stage.ahead

/-- A read that nothing interrupts. -/
def read (stage : Stage α) (limit : Int) : Outcome α × Stage α :=
  match stage.begin limit with
  | (some result, stage) => (result, stage)
  | (none, stage) => stage.complete

/-- Starts reads in order; each one's outcome, if it did not come to wait. -/
def beginAll (stage : Stage α) : List Int → List (Option (Outcome α)) × Stage α
  | [] => ([], stage)
  | limit :: limits =>
    let (result, stage) := stage.begin limit
    let (results, stage) := stage.beginAll limits
    (result :: results, stage)

/-- Reads started together. All have started before the one that waits goes on. -/
def overlap (stage : Stage α) (limits : List Int) : List (Outcome α) × Stage α :=
  let (results, stage) := stage.beginAll limits
  if results.all (·.isSome) then (results.filterMap id, stage)
  else
    let (last, stage) := stage.complete
    (results.map (·.getD last), stage)

end Stage

end Concordance.Paging
