import DomainRegistry.Rejection
import DomainRegistry.State

/-!
Asking for a host to be deleted. The host is marked and a job queued; whether a domain still refers
to the host is for the job to find out.
-/

namespace DomainRegistry

/-- The letters and digits of job ids, none of which looks like another. -/
def JobId.alphabet : String := "23456789ABCDEFGHJKLMNPQRSTUVWXYZabcdefghjkmnpqrstuvwxyz"

def JobId.length : Nat := 12

def JobId.isSafe (id : String) : Bool :=
  id.toList.length == length && id.toList.all alphabet.toList.contains

namespace HostDeletion

structure Request where
  hostName : String
  clientId : String
  superuser : Bool
  now : Instant
  deriving DecidableEq

def prohibiting : Status :=
  (Status.pendingDelete.union .clientDeleteProhibited).union .serverDeleteProhibited

def checkHost (q : Request) (h : Host) : Except Rejection Unit :=
  if !q.superuser && h.sponsor != q.clientId then .error .resourceNotOwned
  else if h.status.intersects prohibiting then .error .resourceStatusProhibitsOperation
  else .ok ()

def admitted (reader : Reader) (q : Request) : Except Rejection Host :=
  match reader.hostNamed? q.hostName q.now with
  | none => .error (.resourceDoesNotExist q.hostName)
  | some h => (checkHost q h).map fun _ => h

def job (jobId : String) (q : Request) (h : Host) : DeletionRequest :=
  ⟨jobId, h.repoId, q.clientId, q.superuser, q.now⟩

def marked (h : Host) : Host := { h with status := h.status.union .pendingDelete }

def store (jobId : String) (q : Request) (h : Host) (x : Transaction) : Transaction :=
  ((x.recordHistory ⟨h.repoId, .hostPendingDelete, q.clientId, q.now, q.superuser⟩).putHost
    (marked h)).afterCommit (.delete (job jobId q h))

def work (jobId : String) (q : Request) (x : Transaction) :
    Except Rejection DeletionRequest × Transaction :=
  match admitted x.reader q with
  | .error r => (.error r, x)
  | .ok h => (.ok (job jobId q h), store jobId q h x)

def request (s : State) (jobId : String) (q : Request) : Except Rejection DeletionRequest × State :=
  s.transact (work jobId q)

end HostDeletion

end DomainRegistry
