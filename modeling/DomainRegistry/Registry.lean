import DomainRegistry.Creation.Flow
import DomainRegistry.Crypto.Ed25519
import DomainRegistry.Deletion.Request
import DomainRegistry.Deletion.Worker

/-!
A registry put together from its configuration and the files that it names.
-/

namespace DomainRegistry

inductive BootstrapError where
  | labels (e : ListError)
  | trademark (e : TrademarkError)
  deriving DecidableEq

def BootstrapError.message : BootstrapError → String
  | labels e => "Label lists unavailable (loading [lists]): " ++ e.message
  | trademark e => "TMCH trust material unavailable (loading [tmch]): " ++ e.message

structure Registry where
  admission : Admission
  state : State

namespace Registry

def features : List String := ["flows", "labels", "tmch", "async-delete", "issuance"]

def isEnabled (feature : String) : Bool := features.contains feature

def emptyState (config : Config) (ids : RepoId.Allocator) : State :=
  { store := .empty config.caching.isOn ids }

/-- A registry with an empty store, which hands out ids from a given number on. -/
def assemble (config : Config) (catalog : LabelCatalog) (verifier : Verifier)
    (ids : RepoId.Allocator) : Registry :=
  ⟨⟨config, catalog, verifier⟩, emptyState config ids⟩

def bootstrap (read : String → Option String) (config : Config) : Except BootstrapError Registry :=
  match LabelCatalog.load read config.lists with
  | .error e => .error (.labels e)
  | .ok catalog =>
    match Verifier.load Ed25519.scheme read config.trust with
    | .error e => .error (.trademark e)
    | .ok verifier => .ok (assemble config catalog verifier {})

def config (r : Registry) : Config := r.admission.config

def partitions (r : Registry) : Nat := max r.config.scanPartitions 1

def create (r : Registry) (q : CreateRequest) : Traced Created × Registry :=
  let (answer, state) := Creation.run r.admission r.state q
  (answer, { r with state })

def dryRun (r : Registry) (q : CreateRequest) : Traced CreatePlan × Registry :=
  let (answer, state) := Creation.dryRun r.admission r.state q
  (answer, { r with state })

def requestHostDeletion (r : Registry) (jobId : String) (q : HostDeletion.Request) :
    Except Rejection DeletionRequest × Registry :=
  let (answer, state) := HostDeletion.request r.state jobId q
  (answer, { r with state })

def drain (r : Registry) (batch : Nat) (now : Instant) : DeletionWorker.Results × Registry :=
  let (results, state) := DeletionWorker.drain r.partitions batch now r.state
  (results, { r with state })

end Registry

end DomainRegistry
