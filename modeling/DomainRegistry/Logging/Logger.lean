import DomainRegistry.Config
import DomainRegistry.Logging.File
import DomainRegistry.Logging.Filter

/-!
Setting up a logger: what its settings have to be, what it logs to the console and to its file, and
the record that closes the file.
-/

namespace DomainRegistry

open Text

structure LogSettings where
  name : String
  level : LogLevel := .info
  /-- Directives; without them those of the environment count. -/
  filter : Option String := none
  console : Bool := true
  file : Option LogFile := none
  deriving DecidableEq

structure Logger where
  filter : LogFilter
  console : Bool
  file : Option LogFile

namespace LogSettings

def chosenFilter (given : String) (s : LogSettings) : Except LoggingError LogFilter :=
  match s.filter with
  | none => .ok (.parseLossy s.level given)
  | some text =>
    match LogFilter.parse? s.level text with
    | some f => .ok f
    | none => .error (.badFilter text)

def logger (s : LogSettings) (given : String) : Except LoggingError Logger := do
  if (trim s.name.toList).isEmpty then throw .emptyName
  if s.file.any fun f => f.maxFiles == 0 then throw .noFiles
  let filter ← s.chosenFilter given
  if s.file.isNone && !s.console then throw .noOutput
  return ⟨filter, s.console, s.file⟩

def ofConfig (c : LoggingConfig) : Except LoggingError LogSettings :=
  match LogLevel.parse? c.level with
  | none => .error (.badLevel c.level)
  | some level =>
    .ok {
      name := c.name
      level
      filter := c.filter
      file := c.path.map fun directory => { name := c.name, directory, json := c.json } }

end LogSettings

namespace Logger

def closing : LogRecord :=
  ⟨.info, "reg_logger", "Logging system shutting down, flushing buffers..."⟩

def logged (l : Logger) (records : List LogRecord) : List LogRecord :=
  (records ++ if l.file.isSome then [closing] else []).filter l.filter.enables

end Logger

end DomainRegistry
