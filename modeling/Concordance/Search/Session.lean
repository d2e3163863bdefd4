import Concordance.Store.Failure
import Concordance.Telemetry.Context
import Concordance.Telemetry.Metrics
import Concordance.Telemetry.Record

/-!
What a store has been asked, and what has been observed meanwhile. What observes a piece of work is
put around it, one layer for each thing observed; the outcome of the work passes through all of
them.
-/

namespace Concordance.Search

open Store (RetrievalError failureOf)
open Telemetry (Phase)

/-- The course of events so far. -/
structure Session where
  /-- the identifiers taken for a context that has none -/
  ids : Telemetry.Ids
  context : Telemetry.Context := []
  /-- the queries sent, in order -/
  sent : List String := []
  /-- the spans finished, in order -/
  spans : List Telemetry.Span := []
  metrics : Telemetry.Metrics := {}
  /-- the records logged, in order -/
  log : List Telemetry.Entry := []

namespace Session

/-- Logs a message. -/
def note (s : Session) (logger : String) (level : Telemetry.Level) (message : String) : Session :=
  let record : Telemetry.Record := ⟨logger, Telemetry.levelName level, message, none, []⟩
  { s with log := s.log ++ [⟨level, s.context, record⟩] }

/-- Binds the doc set being searched. -/
def bindDocSet (s : Session) (docSet collection : String) : Session :=
  { s with context := s.context.bindDocSet s.ids docSet (some collection) }

/-- Candidates have been made from a reply. -/
def countCandidates (s : Session) (docSet : String) (n : Nat) : Session :=
  { s with metrics := (s.metrics.addCandidates docSet n).2 }

end Session

/-- A piece of work: it goes on with a session, and comes to something or fails. -/
abbrev Work (α : Type) := Session → Except RetrievalError α × Session

namespace Work

variable {α : Type}

/-- Work inside a span of its own, which ends with the failure that escapes, if one does. -/
def inSpan (name : String) (kind : Telemetry.SpanKind) (attributes : List (String × Json))
    (work : Work α) : Work α := fun s =>
  let (result, s) := work s
  let span : Telemetry.Span := ⟨name, kind, attributes, failureOf result, none⟩
  (result, { s with spans := s.spans ++ [span] })

/-- Work that is timed, whether it fails or not. -/
def timed (phase : String) (work : Work α) : Work α := fun s =>
  let (result, s) := work s
  (result, { s with metrics := s.metrics.time phase })

/-- Work that is counted if it fails. -/
def countingFailure (phase : String) (work : Work α) : Work α := fun s =>
  match work s with
  | (.ok x, s) => (.ok x, s)
  | (.error e, s) => (.error e, { s with metrics := s.metrics.fail phase })

/-- Work in the span of a remote query. -/
def inQuerySpan (phase : Phase) (docSet : String) (work : Work α) : Work α :=
  work.inSpan (Telemetry.querySpanName phase.name) .client
    (Telemetry.querySpanAttributes phase.name docSet)

/-- Work observed as a remote query: it is timed, and counted if it fails. -/
def observed (phase : Phase) (work : Work α) : Work α :=
  (work.countingFailure phase.name).timed phase.name

end Work

end Concordance.Search
