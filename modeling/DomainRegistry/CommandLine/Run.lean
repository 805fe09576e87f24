import DomainRegistry.CommandLine.Help
import DomainRegistry.Logging.Logger
import DomainRegistry.Registry
import DomainRegistry.Settings.Loader

/-!
The command line tool: what it prints and how it ends, given its arguments and what it finds around
it. Settings are loaded first, then the logger starts, then the registry is put together.
-/

namespace DomainRegistry.CommandLine

abbrev Reading := String → Except FileFault String

structure Surroundings where
  read : Reading
  /-- Starts a log file; files are read in another way after that. -/
  startLog : LogFile → Except LoggingError Reading
  environment : Settings.Variables
  now : Instant
  /-- The id of the deletion job, should there be one. -/
  jobId : String

structure Outcome where
  exit : Nat
  lines : List String
  /-- What is said of a failure. -/
  error : Option String
  deriving DecidableEq

namespace Outcome

def done (lines : List String) : Outcome := ⟨0, lines, none⟩

def failed (error : String) : Outcome := ⟨1, [], some error⟩

def misused : Outcome := ⟨2, [], none⟩

def ofExcept : Except String Outcome → Outcome
  | .ok o => o
  | .error e => failed e

end Outcome

def rejected (r : Rejection) : String := toString r.code ++ " " ++ r.name ++ ": " ++ r.message

def yesNo (b : Bool) : String := if b then "true" else "false"

def planLines (p : CreatePlan) : List String :=
  ["domain:       " ++ p.name,
    "years:        " ++ toString p.years.toNat,
    "cost:         " ++ p.cost.render ++ (if p.premium then " (premium)" else ""),
    "reservation:  " ++ p.reservation.render,
    "sunrise:      " ++ yesNo p.sunrise,
    "anchor:       " ++ yesNo p.anchorTenant]
    ++ (p.table.map ("idn table:    " ++ ·)).toList
    ++ (p.smdId.map ("smd id:       " ++ ·)).toList
    ++ (p.notice.map fun n =>
      "claims notice: " ++ n.tcnId ++ " accepted " ++ n.acceptedTime.display).toList

def createdLines (c : Created) (queued : Nat) : List String :=
  planLines c.plan ++
    ["repo id:      " ++ c.repoId,
      "created:      " ++ c.creationTime.display,
      "expires:      " ++ c.expirationTime.display,
      "dns queued:   " ++ toString queued]

def markLines (m : SignedMark) : List String :=
  ["smd id:       " ++ m.data.id,
    "mark:         " ++ m.data.markName ++ " (" ++ m.data.holder ++ ")",
    "labels:       " ++ Text.join ", " m.data.labels,
    "valid:        " ++ m.data.notBefore.display ++ " .. " ++ m.data.notAfter.display,
    "certificate:  #" ++ toString m.certificate.data.serial.toNat ++ " "
      ++ m.certificate.data.subject]

def resultLines (results : DeletionWorker.Results) : List String :=
  results.map fun (q, outcome) => q.jobId ++ " " ++ q.target ++ ": " ++ outcome.message

namespace Surroundings

def text? (w : Surroundings) (path : String) : Option String := (w.read path).toOption

def load (w : Surroundings) (path : String) : Except String String :=
  match w.read path with
  | .ok text => .ok text
  | .error _ => .error ("Reading " ++ path)

def fixtures (w : Surroundings) (path : String) : Except String Fixtures :=
  match w.read path with
  | .error fault => .error ("I/O error (reading fixtures from " ++ path ++ "): " ++ fault.message)
  | .ok text =>
    match Fixtures.parse? text with
    | some x => .ok x
    | none => .error Fixtures.parseFailure

def registry (w : Surroundings) (config : Config) (fixtures : Option String) :
    Except String Registry := do
  let r ← (Registry.bootstrap w.text? config).mapError fun _ => "Registry bootstrap failed"
  match fixtures with
  | none => return r
  | some path => return { r with state := r.state.seed (← w.fixtures path) }

def request (w : Surroundings) (r : Registry) (path clientId : String) (superuser : Bool)
    (now : Instant) : Except String CreateRequest := do
  let text ← w.load path
  match (Json.parse? text).bind CreateCommand.ofJson? with
  | none => throw ("Malformed create command in " ++ path)
  | some command =>
    match r.config.registrar? clientId with
    | none => throw ("Unknown registrar '" ++ clientId ++ "'")
    | some registrar => return { command, registrar, superuser, now }

def check (r : Registry) (q : CreateRequest) : Outcome :=
  match (r.dryRun q).1.result with
  | .ok plan => .done (planLines plan)
  | .error e => .failed (rejected e)

def create (r : Registry) (q : CreateRequest) : Outcome :=
  match r.create q with
  | (⟨.ok c, _⟩, r) => .done (createdLines c r.state.queues.dns.size)
  | (⟨.error e, _⟩, _) => .failed (rejected e)

def deleteHost (w : Surroundings) (r : Registry) (q : HostDeletion.Request) : Outcome :=
  match r.requestHostDeletion w.jobId q with
  | (.error e, _) => .failed (rejected e)
  | (.ok _, r) =>
    let results := (r.drain DeletionWorker.defaultBatch q.now).1
    if results.all fun result => result.2 == .deleted then .done (resultLines results)
    else ⟨1, resultLines results, some ("Host " ++ q.hostName ++ " was not deleted")⟩

def verifySmd (w : Surroundings) (config : Config) (path : String) (label : Option String)
    (now : Instant) : Except String Outcome := do
  let v ← (Verifier.load Ed25519.scheme w.text? config.trust).mapError fun _ =>
    "Loading TMCH trust material"
  let encoded ← w.load path
  let m ← (match label with
    | some label => v.verifyForLabel encoded label now
    | none => v.verify encoded now).mapError TrademarkError.message
  return .done (markLines m)

def perform (w : Surroundings) (i : Invocation) (config : Config) : Except String Outcome := do
  let now := i.asOf.getD w.now
  match i.command with
  | .verifySmd path label => w.verifySmd config path label now
  | .check path registrar superuser =>
    let r ← w.registry config i.fixtures
    return check r (← w.request r path registrar superuser now)
  | .create path registrar superuser =>
    let r ← w.registry config i.fixtures
    return create r (← w.request r path registrar superuser now)
  | .deleteHost hostName clientId superuser =>
    let r ← w.registry config i.fixtures
    return w.deleteHost r { hostName, clientId, superuser, now }

def paths (i : Invocation) (config : Config) : List String :=
  config.lists.reserved.values ++ config.lists.premium.values ++ config.lists.claims.toList
    ++ config.trust.crlPath.toList ++ config.trust.smdrlPath.toList ++ i.fixtures.toList
    ++ match i.command with
      | .check path _ _ => [path]
      | .create path _ _ => [path]
      | .deleteHost _ _ _ => []
      | .verifySmd path _ => [path]

def directives (w : Surroundings) : String := (w.environment.lookup "RUST_LOG").getD ""

def withLogger (w : Surroundings) (config : Config) : Except LoggingError Surroundings := do
  let l ← (← LogSettings.ofConfig config.logging).logger w.directives
  match l.file with
  | none => return w
  | some f => return { w with read := ← w.startLog f }

def run (w : Surroundings) (args : List String) : Outcome :=
  match parse args with
  | .error .usage => .misused
  | .error (.help topic) => .done (Help.lines topic)
  | .error .version => .done [programName ++ " " ++ version]
  | .ok i =>
    match Settings.load? w.read w.environment i.config with
    | none => .failed "Critical: Configuration is malformed"
    | some config =>
      match w.withLogger config with
      | .error e => .failed e.message
      | .ok w => .ofExcept (w.perform i config)

end Surroundings

end DomainRegistry.CommandLine
