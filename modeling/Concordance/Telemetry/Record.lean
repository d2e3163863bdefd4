import Concordance.Json.Writer
import Concordance.Telemetry.Context
import Concordance.Telemetry.Level
import Concordance.Telemetry.LogValue

/-!
Log records and the two ways of writing them: as one JSON object per line, and as plain text.

The fields of an object are those of the record, then those of the context, then whatever was logged
beside the message. Values of fields whose name stands for a secret are not written.
-/

namespace Concordance.Telemetry

/-- A log record, logged at a level by a logger. -/
structure Record where
  logger : String
  /-- the name of the level -/
  level : String
  message : String
  /-- the failure that the record reports -/
  failure : Option String := none
  /-- what is logged beside the message -/
  extra : List (String × LogValue) := []

/-- The most characters of a message that are written. -/
def messageLimit : Nat := 2000

/-- The most characters of a text beside the message that are written. -/
def fieldLimit : Nat := 500

/-- A text cut to a length, with three points where something was cut off. -/
def clip (limit : Nat) (s : String) : String :=
  let chars := s.toList
  if chars.length ≤ limit then s else String.ofList (chars.take limit ++ ['.', '.', '.'])

/-- The last part of the name of a logger, if there is a part before it. -/
def component? (logger : String) : Option String :=
  let (last, rest) := logger.toList.reverse.span (· ≠ '.')
  if 1 < rest.length then some (String.ofList last.reverse) else none

/-- The fields that belong to the record itself. They are not written a second time. -/
def ownFields : List String :=
  ["name", "msg", "args", "levelname", "levelno", "pathname", "filename", "module", "exc_info",
   "exc_text", "stack_info", "lineno", "funcName", "created", "msecs", "relativeCreated", "thread",
   "threadName", "processName", "process", "message", "asctime"]

/-- True of the names that are written: not the record's own, and not those that begin with a low
line. -/
def isWritten (name : String) : Bool := !ownFields.contains name && name.toList.head? != some '_'

/-- The names of secrets. -/
def secretNames : List String := ["password", "token", "api_key", "secret", "authorization"]

/-- True if a name in upper or lower case stands for a secret. -/
def isSecret (name : String) : Bool :=
  secretNames.contains (Text.lowerName name)

/-- What is written for a value: nothing of a secret, and only the beginning of a long text. -/
def fieldValue (name : String) (value : LogValue) : Json :=
  if isSecret name then .str "[REDACTED]"
  else
    match value with
    | .str s => .str (clip fieldLimit s)
    | v => v.toJson

/-- The fields logged beside the message. -/
def Record.extraFields (r : Record) : List (String × Json) :=
  (r.extra.filter fun (name, _) => isWritten name).map fun (name, v) => (name, fieldValue name v)

/-- The fields of a context that tell what is being searched; those that are empty are left out. -/
def boundFields (c : Context) : List (String × Json) :=
  ["doc_set", "collection"].filterMap fun name =>
    (Json.field? c name).bind fun v => if v.isTrue then some (name, v) else none

/-- A field for a text that may be missing. -/
def textField (name : String) (text : Option String) : List (String × Json) :=
  (text.map fun (s : String) => (name, Json.str s)).toList

/-- The fields of the record and its context, apart from the time. -/
def Record.baseFields (c : Context) (r : Record) : List (String × Json) :=
  [("level", .str r.level), ("logger", .str r.logger),
    ("message", .str (clip messageLimit r.message)),
    ("trace_id", (Json.field? c "trace_id").getD (.str "")),
    ("span_id", (Json.field? c "span_id").getD (.str ""))] ++
  textField "component" (component? r.logger) ++ boundFields c ++ textField "exception" r.failure

/-- All fields in order. A field logged beside the message takes the place of one of the same
name. -/
def Record.fields (time : String) (c : Context) (r : Record) : List (String × Json) :=
  Json.setFields (("timestamp", .str time) :: r.baseFields c) r.extraFields

/-- The name by which a record is asked for its message. A field of that name stands in the way. -/
def messageName : String := "getMessage"

/-- The record as a line of JSON; `none` if its message cannot be had or a value does not fit. -/
def Record.line? (time : String) (c : Context) (r : Record) : Option String :=
  let v := Json.obj (r.fields time c)
  if r.extra.any (·.1 = messageName) then none
  else if v.fitsLine then some v.compact
  else none

/-- The record as plain text, without the time. -/
def Record.plain (r : Record) : String := s!"{r.level} [{r.logger}] {r.message}"

/-- A record that has been logged, its level and the context of its time. -/
structure Entry where
  level : Level
  context : Context
  record : Record

/-- A kind of failure and what it says. Nothing follows the kind if it says nothing. -/
def failureText (kind message : String) : String :=
  if message = "" then kind else kind ++ ": " ++ message

end Concordance.Telemetry
