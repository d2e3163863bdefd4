import Concordance.Json.Value
import Concordance.Text.LetterCase

/-!
Levels of log records: numbers, some of which have names, and the levels at which logs are kept.
-/

namespace Concordance.Telemetry

/-- The importance of a record; the higher, the more important. -/
abbrev Level := Int

/-- The level of what helps to find a mistake. -/
def Level.debug : Level := 10

/-- The level of ordinary information. -/
def Level.info : Level := 20

/-- The level of failures. -/
def Level.error : Level := 40

/-- Every name of a level. Where a number has two names the first one is shown. -/
def levelNames : List (String × Level) :=
  [("CRITICAL", 50), ("FATAL", 50), ("ERROR", 40), ("WARNING", 30), ("WARN", 30), ("INFO", 20),
   ("DEBUG", 10), ("NOTSET", 0)]

/-- The name of a level. -/
def levelName (level : Level) : String :=
  match levelNames.find? (·.2 = level) with
  | some (name, _) => name
  | none => "Level " ++ toString level

/-- The level of that name in upper or lower case; the level of ordinary information for any other
name. -/
def levelOf (name : String) : Level :=
  (Json.field? levelNames (Text.upperName name)).getD .info

/-- Where log records go and which of them are kept. -/
structure LogSetup where
  /-- the level from which on records are kept -/
  root : Level
  /-- one JSON object per line, or plain text -/
  json : Bool
  /-- levels of single loggers -/
  loggers : List (String × Level)
  deriving Repr, DecidableEq

/-- The setup for given level names. The loggers of the transport are turned down to warnings unless
named themselves. -/
def LogSetup.make (level : String) (json : Bool) (loggers : List (String × String)) : LogSetup where
  root := levelOf level
  json := json
  loggers := (Json.setFields [("httpx", "WARNING"), ("httpcore", "WARNING")] loggers).map
    fun (logger, name) => (logger, levelOf name)

end Concordance.Telemetry
