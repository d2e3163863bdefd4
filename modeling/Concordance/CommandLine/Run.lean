import Concordance.CommandLine.Arguments
import Concordance.Settings

/-!
One run of the command line: the arguments and the settings are read, one search is made, and its
matches are printed, one line each. A failed search prints no match, and the first match that fits
no line ends the printing and, with a failure that nothing contains, the run.
-/

namespace Concordance.CommandLine

/-- A message beside the output. -/
inductive Message where
  | logged (entry : Telemetry.Entry)
  | plain (text : String)

/-- What a run leaves behind. -/
structure Report where
  exitCode : Nat
  /-- the kind of the failure that escapes, if one does -/
  escaped : Option String := none
  /-- the lines printed -/
  output : List (List Char) := []
  messages : List Message := []
  /-- log records are written as JSON -/
  logJson : Bool := true
  /-- the queries sent -/
  sent : List String := []
  /-- the connection to the store, if there was one -/
  connection : Option Store.Connection := none

/-- How the command line is used. -/
def usage : String :=
  "usage: verse-search [-h] [--url URL] --docset DOCSET --collection COLLECTION " ++
    "[--whole-words | --no-whole-words] [--limit LIMIT] phrase"

/-- The logger of the command line. -/
def logger : String := "verse_search.cli"

/-- The wording of a usage error. -/
def UsageError.message : UsageError → String
  | .ambiguous => "ambiguous option"
  | .missingValue _ => "expected one argument"
  | .unexpectedValue _ => "ignored explicit argument"
  | .invalidLimit => "argument --limit: invalid int value"
  | .negativeLimit => "--limit must be >= 0"
  | .incomplete => "the following arguments are required"
  | .superfluous => "unrecognized arguments"

/-- The records that are kept at a level. -/
def keptAt (level : Telemetry.Level) (entries : List Telemetry.Entry) : List Message :=
  (entries.filter (level ≤ ·.level)).map .logged

/-- The settings of a run, with another endpoint if the arguments name one. -/
def withUrl (s : Settings) : Option String → Settings
  | some url => if url = "" then s else { s with graphqlUrl := url }
  | none => s

/-- The lines printed for matches, and whether they are all: the first match that fits no line ends
the printing. -/
def printLines : List Corpus.Match → List (List Char) × Bool
  | [] => ([], true)
  | m :: found =>
    if m.fitsLine then
      let (lines, complete) := printLines found
      (m.line :: lines, complete)
    else ([], false)

/-- Makes a search and closes the connection, whether or not the search fails and the matches fit
their lines. -/
def runSearch (s : Settings) (transport : Store.Transport) (ids : Telemetry.Ids)
    (phrase docSet collection : String) (wholeWords : Option Bool) (limit : Nat) : Report :=
  let setup := Telemetry.LogSetup.make s.logLevel s.logJson []
  let request := s.request phrase docSet collection wholeWords
  let (result, _, session) :=
    request.getResults (s.endpoint.store transport) limit {} { ids := ids }
  let connection := ({ endpoint := s.endpoint, sent := session.sent } : Store.Connection).close
  match result with
  | .ok found =>
    match printLines found with
    | (output, true) =>
      let session := session.note logger .info s!"Printed {found.length} matches"
      { exitCode := 0, output := output, messages := keptAt setup.root session.log,
        logJson := s.logJson, sent := session.sent, connection := some connection }
    | (output, false) =>
      { exitCode := 1, escaped := some "TypeError", output := output,
        messages := keptAt setup.root session.log,
        logJson := s.logJson, sent := session.sent, connection := some connection }
  | .error e =>
    let text := "Search failed: " ++ e.message Store.RetrievalError.message
    let entry := (({ ids := ids } : Search.Session).note logger .error text).log
    { exitCode := 1, messages := keptAt setup.root (session.log ++ entry) ++ [.plain text],
      logJson := s.logJson, sent := session.sent, connection := some connection }

/-- One run with given settings, transport and arguments. -/
def run (origin : Settings.Origin) (transport : Store.Transport) (ids : Telemetry.Ids)
    (args : List String) : Report :=
  match readArguments args with
  | .error e =>
    { exitCode := 2, messages := [.plain usage, .plain ("verse-search: error: " ++ e.message)] }
  | .ok .help => { exitCode := 0, output := [usage.toList] }
  | .ok (.search phrase docSet collection url wholeWords limit) =>
    match Settings.load origin with
    | .error _ => { exitCode := 1, messages := [.plain "Invalid configuration: <validation>"] }
    | .ok s => runSearch (withUrl s url) transport ids phrase docSet collection wholeWords limit

/-- The output as text, every line with a line feed behind it. -/
def Report.text (r : Report) : String := String.ofList (r.output.flatMap (· ++ ['\n']))

end Concordance.CommandLine
