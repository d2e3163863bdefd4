import Concordance.Json.Notation
import Concordance.Json.Reader
import Concordance.Store.Failure
import Concordance.Text.Encoding

/-!
A store behind an HTTP endpoint. A response of success holds a JSON object, which is the reply
unless it lists errors.
-/

namespace Concordance.Store

/-- Where a store is found, and how patiently it is asked. -/
structure Endpoint where
  url : String
  /-- seconds until a request is given up -/
  timeout : Float := 30.0
  /-- how often a connection is tried again -/
  retries : Int := 0
  deriving Repr

/-- What comes of a request. -/
inductive Outcome where
  | response (status : Int) (body : List UInt8)
  | fault (kind : TransportFault) (message : String)
  deriving Repr, DecidableEq

/-- A request. -/
structure Request where
  method : String
  accept : String
  contentType : String
  body : Json

/-- The request that sends a query. -/
def queryRequest (query : String) : Request where
  method := "POST"
  accept := "application/json"
  contentType := "application/json"
  body := .obj [("query", .str query)]

/-- The name of the type of a value. -/
def typeName : Json → String
  | .null => "NoneType"
  | .bool _ => "bool"
  | .int _ => "int"
  | .float _ => "float"
  | .str _ => "str"
  | .arr _ => "list"
  | .obj _ => "dict"

/-- The members of a value: the items of a list, the characters of a string, the keys of an
object. -/
def members : Json → Except Breakdown (List Json)
  | .arr items => .ok items
  | .str s => .ok (s.map fun c => .str [c])
  | .obj fields => .ok (fields.map fun (key, _) => .str key)
  | v => .error (.notIterable (typeName v))

/-- The wording of an error in a reply: its message if it is an object that has one, otherwise the
whole. -/
def errorText (v : Json) : String := ((v.get? "message").getD v).message

/-- The limits within which the body of a response is read. -/
def bodyLimits : Json.Limits := ⟨4300, 970⟩

/-- The data in the body of a response. -/
def Endpoint.decode (e : Endpoint) (body : List UInt8) : Except Failure Json :=
  match Text.decodeJsonText body with
  | none => .error (.retrieval (.unreadable e.url .encoding))
  | some text =>
    match Json.read bodyLimits text with
    | .ok v => .ok v
    | .error .malformed => .error (.retrieval (.unreadable e.url .syntaxError))
    | .error .numeralTooLong => .error (.retrieval (.unreadable e.url .numeral))
    | .error .tooDeep => .error (.breakdown .tooDeep)

/-- True if a reply lists errors. -/
def hasErrors (reply : Json) : Bool := ((reply.get? "errors").map Json.isTrue).getD false

/-- The reply that data are: an object without errors. -/
def Endpoint.accept (e : Endpoint) (v : Json) : Except Failure Json :=
  match v with
  | .obj fields =>
    if hasErrors v then
      match members ((Json.field? fields "errors").getD .null) with
      | .ok errors => .error (.retrieval (.refused (errors.map errorText)))
      | .error b => .error (.breakdown b)
    else .ok v
  | v => .error (.retrieval (.notObject e.url (typeName v)))

/-- True of a status that means success. -/
def isSuccess (status : Int) : Bool := 200 ≤ status && status < 300

/-- What a request to the endpoint answers. -/
def Endpoint.answer (e : Endpoint) : Outcome → Except Failure Json
  | .fault kind message => .error (.retrieval (.transport e.url kind message))
  | .response status body =>
    if isSuccess status then
      match e.decode body with
      | .ok v => e.accept v
      | .error failure => .error failure
    else .error (.retrieval (.status e.url status))

/-- A transport: what comes of the request for a query, given the queries sent before. -/
abbrev Transport := List String → String → Outcome

/-- The transport that gives one outcome after another. -/
def scriptedTransport (outcomes : List Outcome) : Transport := fun sent _ =>
  (outcomes[sent.length]?).getD (.fault .connect "no scripted response")

/-- The store at an endpoint. -/
def Endpoint.store (e : Endpoint) (transport : Transport) : Store := fun sent query =>
  e.answer (transport sent query)

/-- A connection to an endpoint. A query opens it; it stays open until it is closed. -/
structure Connection where
  endpoint : Endpoint
  isOpen : Bool := false
  sent : List String := []

/-- Opens a connection, if it is not open. -/
def Connection.enter (c : Connection) : Connection := { c with isOpen := true }

/-- Closes a connection, if it is open. -/
def Connection.close (c : Connection) : Connection := { c with isOpen := false }

/-- Sends a query. -/
def Connection.query (transport : Transport) (c : Connection) (query : String) :
    Except Failure Json × Connection :=
  (c.endpoint.store transport c.sent query, { c with isOpen := true, sent := c.sent ++ [query] })

end Concordance.Store
