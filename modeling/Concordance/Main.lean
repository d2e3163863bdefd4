import Concordance.CommandLine.Run
import Concordance.Telemetry.Timestamp
import Std.Time.DateTime.Timestamp

/-!
The command line. Settings are taken from the environment and from the file `.env`. What comes of
each request is read from standard input, one line per request: a status, a blank and the body of
the response, or else what went wrong.
-/

namespace Concordance.CommandLine

/-- The names of all settings. -/
def settingNames : List String :=
  ["graphql_url", "http_timeout", "http_retries", "search_accents_to_remove", "search_whole_words",
   "search_batch_size", "log_level", "log_json"]

/-- The environment's values for settings. -/
def readEnvironment : IO (List (String × String)) := do
  let names := settingNames ++ settingNames.map Text.upperName
  let values ← names.mapM fun name => return (← IO.getEnv name).map (name, ·)
  return values.filterMap id

/-- The text of the file of settings, if there is one. -/
def readFile : IO (Option String) := do
  try
    return some (← IO.FS.readFile ".env")
  catch _ => return none

/-- What came of a request, from one line. -/
def outcomeOf (line : String) : Store.Outcome :=
  let (status, body) := line.toList.span (· ≠ ' ')
  match Decimal.argumentInt? status with
  | some n => .response n (Text.encodeUtf8 (String.ofList (body.drop 1)))
  | none => .fault .connect line

/-- The lines of a stream, without their line feeds. -/
partial def readLines (stream : IO.FS.Stream) (read : List String) : IO (List String) := do
  let line ← stream.getLine
  if line.isEmpty then return read.reverse
  let chars := line.toList
  let chars := if chars.getLast? = some '\n' then chars.dropLast else chars
  readLines stream (String.ofList chars :: read)

/-- Fresh identifiers. -/
def freshIds : IO Telemetry.Ids := do
  let octets := (← IO.getRandomBytes 24).toList
  let text (octets : List UInt8) := String.ofList (octets.flatMap fun b => Text.hex 2 b.toNat)
  return ⟨text (octets.take 16), text (octets.drop 16)⟩

/-- A message as text, logged at a time. `ids` identify what was logged without a context. -/
def Message.text (json : Bool) (ids : Telemetry.Ids) (time : String) : Message → String
  | .plain text => text
  | .logged entry =>
    if json then (entry.record.line? time (entry.context.ensure ids)).getD entry.record.plain
    else time ++ " " ++ entry.record.plain

end Concordance.CommandLine

open Concordance CommandLine in
/-- Runs the command line. -/
def main (args : List String) : IO UInt32 := do
  let origin : Settings.Origin := { environment := ← readEnvironment, file := ← readFile }
  let outcomes := (← readLines (← IO.getStdin) []).map outcomeOf
  let ids ← freshIds
  let report := run origin (Store.scriptedTransport outcomes) ids args
  let now ← Std.Time.Timestamp.now
  let time := (Telemetry.Timestamp.iso ⟨now.toSecondsSinceUnixEpoch.val, 0⟩).toOption.getD ""
  IO.print report.text
  for message in report.messages do
    IO.eprintln (message.text report.logJson ids time)
  return report.exitCode.toUInt32
