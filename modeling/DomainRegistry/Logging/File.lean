import DomainRegistry.Files.Tree
import DomainRegistry.Logging.Level
import DomainRegistry.Time.Instant

/-!
The file of a logger: how it is named, and what becomes of its directory when the logger starts.
-/

namespace DomainRegistry

open Text

structure LogRecord where
  level : LogLevel
  target : String
  message : String
  deriving DecidableEq

def LogRecord.render (r : LogRecord) : String :=
  r.level.word ++ " " ++ r.target ++ ": " ++ r.message

inductive LoggingError where
  | emptyName
  | noFiles
  | badFilter (filter : String)
  | badLevel (level : String)
  | noOutput
  | directory (path : String)
  /-- The directory of the file's own name. -/
  | fileDirectory (fault : FileFault)
  | file (fault : FileFault)
  /-- Another logger is in place. -/
  | installed
  deriving DecidableEq

namespace LoggingError

def name : LoggingError → String
  | directory _ => "Internal"
  | fileDirectory _ | file _ => "Appender"
  | installed => "Subscriber"
  | _ => "InvalidConfiguration"

def invalid (message : String) : String := "Invalid logger configuration: " ++ message

def message : LoggingError → String
  | emptyName => invalid "Logger name cannot be empty"
  | noFiles => invalid "max_files must be greater than zero"
  | badFilter filter => invalid ("Invalid env filter '" ++ filter ++ "'")
  | badLevel level => invalid ("Invalid level '" ++ level ++ "'")
  | noOutput => invalid "No logging layers enabled. Enable console or file output."
  | directory path => "Internal logger error (Failed to create path: " ++ path ++ ")"
  | fileDirectory fault =>
    "Rolling file appender error: failed to create log directory: " ++ fault.message
  | file fault =>
    "Rolling file appender error: failed to create initial log file: " ++ fault.message
  | installed => "Tracing subscriber error"

end LoggingError

inductive Rotation where
  | never
  | hourly
  | daily
  deriving DecidableEq

def twoDigits (n : Nat) : String := String.ofList (padZeros 2 (toString n).toList)

def dayStamp (now : Instant) : String :=
  String.ofList (padZeros 4 (toString now.date.year).toList)
    ++ "-" ++ twoDigits now.date.month ++ "-" ++ twoDigits now.date.day

def Rotation.stamp (now : Instant) : Rotation → String
  | never => ""
  | hourly => "." ++ dayStamp now ++ "-" ++ twoDigits (now.secondOfDay / 3600)
  | daily => "." ++ dayStamp now

structure LogFile where
  name : String
  directory : String
  rotation : Rotation := .daily
  maxFiles : Nat := 10
  json : Bool := false
  deriving DecidableEq

structure LogFindings where
  names : SortedSet String
  records : List LogRecord
  deriving DecidableEq

namespace LogFile

def ending : String := "log"

def path (f : LogFile) (now : Instant) : String :=
  Path.join f.directory (f.name ++ f.rotation.stamp now ++ "." ++ ending)

/-- Whether a place looks like that of a log file of the same name. -/
def isAlike (f : LogFile) (place : Path) : Bool :=
  let name := place.getLastD []
  f.name.toList.isPrefixOf name && ending.toList.isSuffixOf name

/-- Takes the oldest files away, so that with one more there are no more than allowed. -/
def prune (f : LogFile) (t : FileTree) : FileTree :=
  match t.directoryAt? f.directory with
  | none => t
  | some place =>
    let old := (t.filesIn place).filter f.isAlike
    (old.take (old.length + 1 - f.maxFiles)).foldl FileTree.remove t

/-- Makes the directory and the file, and the directories that are part of the file's own name. -/
def start (f : LogFile) (now : Instant) (t : FileTree) : Except LoggingError FileTree := do
  let t ← (t.makeDirectories (Path.parts f.directory)).mapError fun _ => .directory f.directory
  let t := f.prune t
  let parts := Path.parts (f.path now)
  match t.openFile parts with
  | .ok t => return t
  | .error _ =>
    let t ← (t.makeDirectories parts.parent).mapError .fileDirectory
    (t.openFile parts).mapError .file

/--
What is found at the end, if a second logger with the same file was started after the records were
logged. The file may be taken away then, and another one has its name.
-/
def findings (f : LogFile) (now : Instant) (t : FileTree) (logged : List LogRecord) :
    Except LoggingError LogFindings := do
  let t ← f.start now t
  let place := (t.locate (Path.parts (f.path now))).toOption.getD []
  let directory := (t.directoryAt? f.directory).getD []
  let isLeft := place.dropLast = directory && (f.prune t).isFile place
  return ⟨(← f.start now t).namesIn directory, if isLeft then logged else []⟩

end LogFile

end DomainRegistry
