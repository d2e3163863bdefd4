import Concordance.Json.Value

/-!
The fields that tie together the log lines of one search: two identifiers, and whatever is bound to
them, such as the doc set being searched.
-/

namespace Concordance.Telemetry

/-- The fields of a context in order. -/
abbrev Context := List (String × Json)

/-- Identifiers for a context that has none. -/
structure Ids where
  trace : String
  span : String
  deriving Repr, DecidableEq

namespace Context

/-- True if the context has a trace to tie lines to. -/
def isTraced (c : Context) : Bool := ((Json.field? c "trace_id").map Json.isTrue).getD false

/-- The context, with fresh identifiers if it has no trace. -/
def ensure (fresh : Ids) (c : Context) : Context :=
  if c.isTraced then c
  else Json.setFields c [("trace_id", .str fresh.trace), ("span_id", .str fresh.span)]

/-- A new context of given identifiers and fields. -/
def ofIds (ids : Ids) (extra : List (String × Json)) : Context :=
  Json.setFields [("trace_id", .str ids.trace), ("span_id", .str ids.span)] extra

/-- Binds fields to a context, which is traced from then on. -/
def bind (fresh : Ids) (fields : List (String × Json)) (c : Context) : Context :=
  Json.setFields (c.ensure fresh) fields

/-- Binds the doc set being searched, and its collection if there is one. -/
def bindDocSet (fresh : Ids) (docSet : String) (collection : Option String) : Context → Context :=
  let tags := match collection with
    | some c => [("doc_set", Json.str docSet), ("collection", .str c)]
    | none => [("doc_set", .str docSet)]
  Context.bind fresh tags

/-- Binds the identifier of the current span. -/
def bindSpan (fresh : Ids) (span : String) : Context → Context :=
  Context.bind fresh [("span_id", .str span)]

end Context

end Concordance.Telemetry
