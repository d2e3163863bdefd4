import Concordance.Schema.Check
import Concordance.Telemetry.Span

/-!
Why a store gives no answer. Most failures are reported as such, by their cause; what breaks down in
between is reported by whoever asked, together with the query that was being answered.
-/

namespace Concordance

namespace Store

open Telemetry (Phase)

/-- What goes wrong on the way to a store and back. -/
inductive TransportFault where
  | connect
  | timeout
  | protocol
  deriving Repr, DecidableEq

/-- Why the body of a response is no data. -/
inductive BodyFault where
  /-- its octets are no text -/
  | encoding
  /-- its text is no JSON -/
  | syntaxError
  /-- it holds a whole number of too many digits -/
  | numeral
  deriving Repr, DecidableEq

/-- A failure that a store does not report. -/
inductive Breakdown where
  /-- a failure of a given kind -/
  | raised (kind message : String)
  /-- the errors of a reply are no collection, but a value of the named type -/
  | notIterable (type : String)
  /-- the body of a response is nested too deeply -/
  | tooDeep
  deriving Repr, DecidableEq

/-- The wording of a failure that was not reported. -/
def Breakdown.message : Breakdown → String
  | .raised _ message => message
  | .notIterable type => s!"'{type}' object is not iterable"
  | .tooDeep => "maximum recursion depth exceeded while decoding a JSON array from a unicode string"

/-- Why a query failed. -/
inductive Cause where
  | breakdown (b : Breakdown)
  /-- the reply does not have the shape it should have -/
  | invalid (violations : List Schema.Violation)
  deriving Repr, DecidableEq

/-- The wording of a cause. What a check of the reply found stands behind a mark of its own. -/
def Cause.message : Cause → String
  | .breakdown b => b.message
  | .invalid _ => "<validation>"

/-- Why nothing was retrieved. -/
inductive RetrievalError where
  /-- the store says so -/
  | reported (message : String)
  /-- the endpoint answers with a status that is no success -/
  | status (url : String) (code : Int)
  | transport (url : String) (fault : TransportFault) (message : String)
  /-- the response is no data -/
  | unreadable (url : String) (fault : BodyFault)
  /-- the response is data, but of the named type and no object -/
  | notObject (url type : String)
  /-- the reply says that the query failed -/
  | refused (messages : List String)
  /-- the query of a phase failed for a cause of its own -/
  | failed (phase : Phase) (docSet : String) (cause : Cause)
  deriving Repr, DecidableEq

/-- The wording of an error. -/
def RetrievalError.message : RetrievalError → String
  | .reported message => message
  | .status url code => s!"GraphQL endpoint {url} returned HTTP {code}"
  | .transport url _ message => s!"GraphQL request to {url} failed: {message}"
  | .unreadable url _ => s!"GraphQL endpoint {url} returned a non-JSON body"
  | .notObject url type => s!"GraphQL endpoint {url} returned {type}, expected an object"
  | .refused messages => "GraphQL query failed: " ++ "; ".intercalate messages
  | .failed phase docSet cause =>
    s!"{phase.name} query against doc set {docSet} failed: {cause.message}"

/-- An error as the failure that ends a span. -/
def RetrievalError.toFailure (e : RetrievalError) : Telemetry.Failure :=
  ⟨"RetrievalError", e.message⟩

/-- The failure that ended something, if one did. -/
def failureOf {α : Type} : Except RetrievalError α → Option Telemetry.Failure
  | .ok _ => none
  | .error e => some e.toFailure

/-- What comes instead of a reply. -/
inductive Failure where
  | retrieval (e : RetrievalError)
  | breakdown (b : Breakdown)
  deriving Repr, DecidableEq

end Store

/-- A store: what it answers to a query, given the queries it was asked before. -/
abbrev Store := List String → String → Except Store.Failure Json

/-- The store that gives one answer after another, whatever it is asked. -/
def Store.scripted (answers : List (Except Store.Failure Json)) : Store := fun sent _ =>
  (answers[sent.length]?).getD (.error (.retrieval (.reported "no scripted response")))

end Concordance
