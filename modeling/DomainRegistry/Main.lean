import DomainRegistry.CommandLine.Run
import Std.Time.DateTime.Timestamp

/-!
The command line tool. It reads the files that the invocation needs, and leaves the rest to
`CommandLine.Surroundings.run`.
-/

open DomainRegistry
open DomainRegistry.CommandLine

namespace DomainRegistry.Tool

def faultOf : IO.Error → FileFault
  | .noFileOrDirectory .. => .missing
  | .inappropriateType .. => .notDirectory
  | _ => .directory

def readText (path : String) : IO (Except FileFault String) := do
  try
    return .ok (← IO.FS.readFile path)
  catch e => return .error (faultOf e)

abbrev Readings := List (String × Except FileFault String)

def readAll (paths : List String) : IO Readings := paths.mapM fun path => do
  return (path, ← readText path)

def lookUp (readings : Readings) : Reading := fun path =>
  (readings.lookup path).getD (.error .missing)

def environment : IO Settings.Variables := do
  let bytes ← IO.FS.readBinFile "/proc/self/environ"
  let text := (String.fromUTF8? bytes).getD ""
  return (Text.splitAll '\x00' text.toList).filterMap fun entry =>
    (Text.splitOnce '=' entry).map fun (name, value) => (String.ofList name, String.ofList value)

def currentTime : IO Instant := do
  let nanoseconds := (← Std.Time.Timestamp.now).toNanosecondsSinceUnixEpoch.toInt
  return (Instant.ofParts? (nanoseconds / 1000000000) (nanoseconds % 1000000000).toNat).getD .epoch

def freshJobId : IO String := do
  let letters := JobId.alphabet.toList
  let picks ← (List.replicate JobId.length ()).mapM fun _ => IO.rand 0 (letters.length - 1)
  return String.ofList (picks.filterMap (letters[·]?))

def attempt (action : IO Unit) : IO (Except FileFault Unit) := do
  try
    action
    return .ok ()
  catch e => return .error (faultOf e)

def startLog (f : LogFile) (now : Instant) : IO (Except LoggingError Unit) := do
  match ← attempt (IO.FS.createDirAll f.directory) with
  | .error _ => return .error (.directory f.directory)
  | .ok () =>
    let opened ← attempt (discard (IO.FS.Handle.mk (f.path now) .append))
    return opened.mapError .file

def surroundings (args : List String) : IO Surroundings := do
  let environment ← environment
  let now ← currentTime
  let jobId ← freshJobId
  let finding (readings : Readings) (log : Except LoggingError Reading) : Surroundings :=
    ⟨lookUp readings, fun _ => log, environment, now, jobId⟩
  match parse args with
  | .error _ => return finding [] (.ok (lookUp []))
  | .ok i =>
    let candidates ← readAll (Settings.candidates i.config)
    let early := finding candidates (.ok (lookUp candidates))
    match Settings.load? early.read environment i.config with
    | none => return early
    | some config =>
      let log ← match LogSettings.ofConfig config.logging with
        | .ok s => match (s.logger early.directives).toOption.bind Logger.file with
          | some f => startLog f now
          | none => pure (.ok ())
        | .error _ => pure (.ok ())
      let readings := candidates ++ (← readAll (Surroundings.paths i config))
      return finding readings (log.map fun _ => lookUp readings)

def report (o : Outcome) : IO UInt32 := do
  for line in o.lines do
    IO.println line
  match o.error with
  | some message => IO.eprintln ("Error: " ++ message)
  | none => if o.exit = 2 then IO.eprintln "error: invalid arguments; see --help"
  return UInt32.ofNat o.exit

end DomainRegistry.Tool

def main (args : List String) : IO UInt32 := do
  Tool.report ((← Tool.surroundings args).run args)
