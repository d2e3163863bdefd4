import Concordance.Telemetry.Span

/-!
Nested activities and the spans they leave. A span that is being recorded lends its identifier to
the context from its start on, also beyond its end; a failure that escapes an activity ends its span
and goes on to the activity around it.
-/

namespace Concordance.Telemetry

/-- A piece of work, made of others. -/
inductive Activity where
  /-- work inside a span. `label` stands for the span in notes; if `contained`, no failure
  escapes -/
  | span (name label : String) (kind : SpanKind) (attributes : List (String × Json))
      (children : List Activity) (contained : Bool)
  /-- work that fails -/
  | fails (failure : Failure)
  deriving Inhabited

/-- What activities leave behind. -/
structure Trail where
  /-- notes, each with the identifier of the span in the context -/
  notes : List (String × String) := []
  /-- finished spans, in the order in which they finished -/
  spans : List Span := []
  /-- the identifier of the span in the context -/
  current : String

/-- Adds a note. -/
def Trail.note (t : Trail) (text : String) : Trail :=
  { t with notes := t.notes ++ [(text, t.current)] }

mutual

/-- Does an activity inside the span `parent`; the failure that escapes it, if any. -/
def Activity.play (recording : Bool) (parent : Option String) :
    Activity → Trail → Option Failure × Trail
  | .fails failure, t => (some failure, t)
  | .span name label kind attributes children contained, t =>
    let t := if recording then { t with current := "<" ++ label ++ ">" } else t
    let (failure, t) := Activity.playAll recording (some name) children (t.note ("in " ++ label))
    let t := match failure with
      | some _ => t.note ("failed " ++ label)
      | none => t.note ("after " ++ label)
    let span : Span := ⟨name, kind, keptAttributes attributes, failure, parent⟩
    let t := if recording then { t with spans := t.spans ++ [span] } else t
    match failure, contained with
    | some _, true => (none, t.note ("after " ++ label))
    | failure, _ => (failure, t)

/-- Does activities in order, up to the first that fails. -/
def Activity.playAll (recording : Bool) (parent : Option String) :
    List Activity → Trail → Option Failure × Trail
  | [], t => (none, t)
  | a :: rest, t =>
    match Activity.play recording parent a t with
    | (some failure, t) => (some failure, t)
    | (none, t) => Activity.playAll recording parent rest t

end

end Concordance.Telemetry
