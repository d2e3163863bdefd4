import Concordance.Json.Value

/-!
Spans: finished pieces of work with a name, a kind, attributes, and the failure that ended them.
-/

namespace Concordance.Telemetry

/-- The part that a span plays in an exchange. -/
inductive SpanKind where
  | internal
  | server
  | client
  | producer
  | consumer
  deriving Repr, DecidableEq

/-- The name of a kind. -/
def SpanKind.name : SpanKind → String
  | .internal => "INTERNAL"
  | .server => "SERVER"
  | .client => "CLIENT"
  | .producer => "PRODUCER"
  | .consumer => "CONSUMER"

/-- The kind of that name. -/
def SpanKind.ofName? (name : String) : Option SpanKind :=
  [SpanKind.internal, .server, .client, .producer, .consumer].find? (·.name = name)

/-- A failure: its kind and what it says. -/
structure Failure where
  kind : String
  message : String
  deriving Repr, DecidableEq, Inhabited

/-- Kind and message, as a span shows the failure that ended it. -/
def Failure.description (f : Failure) : String := f.kind ++ ": " ++ f.message

/-- A finished span. -/
structure Span where
  name : String
  kind : SpanKind := .internal
  attributes : List (String × Json) := []
  failure : Option Failure := none
  /-- the name of the span it ran inside -/
  parent : Option String := none
  deriving Repr

/-- The phase of a search that a remote query belongs to: finding the books, or reading one of
them. -/
inductive Phase where
  | books
  | blocks
  deriving Repr, DecidableEq

/-- The name of a phase. -/
def Phase.name : Phase → String
  | .books => "books"
  | .blocks => "blocks"

/-- The name of the span of a remote query. -/
def querySpanName (phase : String) : String := "docset.query." ++ phase

/-- The attributes of the span of a remote query. -/
def querySpanAttributes (phase docSet : String) : List (String × Json) :=
  [("docset.id", .str docSet), ("docset.query.phase", .str phase)]

/-- The span of a remote query that ran on its own. -/
def querySpan (phase : Phase) (docSet : String) (failure : Option Failure) : Span where
  name := querySpanName phase.name
  kind := .client
  attributes := querySpanAttributes phase.name docSet
  failure := failure

/-- What kind of scalar an attribute is; lists of scalars have to be of one kind. -/
def scalarKind? : Json → Option Nat
  | .bool _ => some 0
  | .int _ => some 1
  | .float _ => some 2
  | .str _ => some 3
  | _ => none

/-- True if a value may be an attribute: a scalar, or a list of scalars of one kind and nulls. -/
def isAttribute : Json → Bool
  | .arr items =>
    let present := items.filter fun
      | .null => false
      | _ => true
    match present with
    | [] => true
    | v :: vs => (scalarKind? v).isSome && vs.all (scalarKind? · = scalarKind? v)
  | v => (scalarKind? v).isSome

/-- The attributes that are kept: those with a name and a value that may be one. -/
def keptAttributes (attributes : List (String × Json)) : List (String × Json) :=
  attributes.filter fun (name, value) => name ≠ "" && isAttribute value

/-- What a tracer says about the service it traces. A service name among the attributes wins. -/
def serviceAttributes (service : String) (attributes : List (String × Json)) :
    List (String × Json) :=
  Json.setFields [("service.name", .str service)] attributes

end Concordance.Telemetry
