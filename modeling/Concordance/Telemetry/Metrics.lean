import Concordance.Decimal.Layout
import Concordance.Decimal.Numeral
import Concordance.Json.Value

/-!
Three metrics of remote queries: how many were timed, how many failed, and how many candidates they
gave. Each keeps one count per label, in the order in which the labels first occurred.
-/

namespace Concordance.Telemetry

/-- Counts by label. -/
abbrev Counts := List (String × Nat)

/-- The count of a label; a label not seen yet counts nothing. -/
def countOf (counts : Counts) (label : String) : Nat := (Json.field? counts label).getD 0

/-- Adds to the count of a label, which is seen from then on. -/
def addTo (counts : Counts) (label : String) (n : Nat) : Counts :=
  Json.setField counts label (countOf counts label + n)

/-- The samples of the three metrics. -/
structure Metrics where
  /-- timed queries by phase -/
  timed : Counts := []
  /-- failed queries by phase -/
  failed : Counts := []
  /-- candidates by doc set -/
  candidates : Counts := []
  deriving Repr, DecidableEq

/-- Counts a query as timed. -/
def Metrics.time (m : Metrics) (phase : String) : Metrics :=
  { m with timed := addTo m.timed phase 1 }

/-- Counts a query as failed. -/
def Metrics.fail (m : Metrics) (phase : String) : Metrics :=
  { m with failed := addTo m.failed phase 1 }

/-- Counts a query as timed, and as failed if it is. -/
def Metrics.observe (m : Metrics) (phase : String) (isFailure : Bool) : Metrics :=
  (if isFailure then m.fail phase else m).time phase

/-- Counts candidates. A negative number is refused, though the doc set is seen from then on. -/
def Metrics.addCandidates (m : Metrics) (docSet : String) (n : Int) : Option String × Metrics :=
  let refusal :=
    if n < 0 then some "Counters can only be incremented by non-negative amounts." else none
  (refusal, { m with candidates := addTo m.candidates docSet n.toNat })

/-- A label value between quotes; backslashes, quotes and line feeds are escaped. -/
def labelText (s : String) : List Char :=
  s.toList.flatMap fun c =>
    if c = '\\' then ['\\', '\\'] else if c = '\n' then ['\\', 'n'] else if c = '"' then ['\\', '"']
    else [c]

/-- Counts with a point up to and without 10^6, and from 10^16 on as messages show them. In between
they have an exponent behind a zero. -/
def countText (n : Nat) : List Char :=
  if n < Decimal.powTen 6 || n ≥ Decimal.powTen 16 then
    Decimal.messageLayout.render (Decimal.ofInt n)
  else
    let digits := Nat.toDigits 10 n
    let tail := ((digits.drop 1).reverse.dropWhile (· = '0')).reverse
    digits.take 1 ++ (if tail.isEmpty then [] else '.' :: tail) ++
      "e+0".toList ++ Nat.toDigits 10 (digits.length - 1)

/-- The exposition lines of a metric. -/
def countLines (metric label : String) (counts : Counts) : List String :=
  counts.map fun (value, n) => String.ofList (metric.toList ++ '\x7b' :: label.toList ++
    '=' :: '"' :: labelText value ++ '"' :: '\x7d' :: ' ' :: countText n)

/-- The lines of all metrics that show a count. -/
def Metrics.lines (m : Metrics) : List String :=
  countLines "verse_search_remote_query_seconds_count" "phase" m.timed ++
  countLines "verse_search_remote_query_errors_total" "phase" m.failed ++
  countLines "verse_search_candidates_total" "doc_set" m.candidates

/-- What the exposition says about each metric: its meaning and its type. -/
def descriptions : List String :=
  let describe (name meaning type : String) :=
    ["# HELP " ++ name ++ " " ++ meaning, "# TYPE " ++ name ++ " " ++ type]
  describe "verse_search_remote_query_seconds"
    "Round-trip time of GraphQL queries against the document store" "histogram" ++
  describe "verse_search_remote_query_errors_total"
    "GraphQL queries that failed or returned an unusable response" "counter" ++
  describe "verse_search_candidates_total"
    "Verse candidates rebuilt from block tokens, before local confirmation" "counter"

end Concordance.Telemetry
