import DomainRegistry.State

/-!
The end of a deletion job: in one transaction the host is looked at once more and then deleted or
kept.
-/

namespace DomainRegistry

inductive AbandonReason where
  | hostMissing
  | hostDeleted
  | notPendingDelete
  /-- A part of the scan broke down. -/
  | scanFailed
  deriving DecidableEq

def AbandonReason.message : AbandonReason → String
  | hostMissing => "host no longer exists"
  | hostDeleted => "host is already deleted"
  | notPendingDelete => "host is not pending delete"
  | scanFailed => "Scan task failed (joining scan partition)"

inductive JobOutcome where
  | deleted
  | blockedByReference
  | blockedBySponsorship
  /-- Nothing was changed. -/
  | abandoned (reason : AbandonReason)
  deriving DecidableEq

def JobOutcome.message : JobOutcome → String
  | deleted => "deleted"
  | blockedByReference => "blocked by reference"
  | blockedBySponsorship => "blocked by sponsorship"
  | abandoned reason => "abandoned: " ++ reason.message

namespace DeletionJob

def refersTo (target : String) (now : Instant) (d : Domain) : Bool :=
  d.isActive now && d.nameservers.contains target

def isReferenced (domains : List Domain) (target : String) (now : Instant) : Bool :=
  domains.any (refersTo target now)

def abandonReason? (h : Host) (now : Instant) : Option AbandonReason :=
  if !h.isActive now then some .hostDeleted
  else if !h.isPendingDelete then some .notPendingDelete
  else none

def verdict (referenced authorized : Bool) : JobOutcome :=
  if referenced then .blockedByReference
  else if authorized then .deleted
  else .blockedBySponsorship

def isAuthorized (q : DeletionRequest) (h : Host) : Bool := q.bySuperuser || h.sponsor == q.clientId

def historyKind : JobOutcome → HistoryKind
  | .deleted => .hostDelete
  | _ => .hostDeleteFailure

def pollText (outcome : JobOutcome) (hostName : String) : String :=
  match outcome with
  | .deleted => "Deleted host " ++ hostName ++ "."
  | .blockedByReference =>
    "Can't delete host " ++ hostName ++ " because it is referenced by a domain."
  | _ =>
    "Can't delete host " ++ hostName
      ++ " because it is not sponsored by the requesting registrar."

/-- The host after the verdict: no longer waiting, and gone if deleted. -/
def decided (outcome : JobOutcome) (h : Host) (now : Instant) : Host :=
  { h with
    status := h.status.without .pendingDelete
    deletionTime := if outcome = .deleted then some now else h.deletionTime }

/-- Strikes a deleted host off the list of the domain above it. -/
def detach (h : Host) (x : Transaction) : Transaction :=
  match h.superordinate.bind x.domain? with
  | some d => x.putDomain { d with subordinateHosts := d.subordinateHosts.erase h.name }
  | none => x

def record (q : DeletionRequest) (h : Host) (now : Instant) (outcome : JobOutcome)
    (x : Transaction) : Transaction :=
  let x :=
    if outcome = .deleted then (detach h x).afterCommit (.refresh (.host h.name)) else x
  let x := x.recordHistory ⟨h.repoId, historyKind outcome, q.clientId, now, q.bySuperuser⟩
  let x := x.sendPollMessage ⟨q.clientId, h.repoId, now, pollText outcome h.name⟩
  x.putHost (decided outcome h now)

def decide (q : DeletionRequest) (referenced : Bool) (now : Instant) (x : Transaction) :
    JobOutcome × Transaction :=
  match x.host? q.target with
  | none => (.abandoned .hostMissing, x)
  | some h =>
    match abandonReason? h now with
    | some reason => (.abandoned reason, x)
    | none =>
      let outcome :=
        verdict (referenced || isReferenced x.domains q.target now) (isAuthorized q h)
      (outcome, record q h now outcome x)

def commit (s : State) (q : DeletionRequest) (referenced : Bool) (now : Instant) :
    JobOutcome × State :=
  let (outcome, x) := decide q referenced now s.store.begin
  (outcome, s.commit x)

theorem detach_tasks (h : Host) (x : Transaction) : (detach h x).tasks = x.tasks := by
  rw [detach]
  split <;> rfl

theorem decide_tasks (q : DeletionRequest) (referenced : Bool) (now : Instant) (x : Transaction) :
    (decide q referenced now x).2.tasks = x.tasks
      ∨ ∃ name, (decide q referenced now x).2.tasks = x.tasks ++ [.refresh (.host name)] := by
  rw [decide]
  split
  · exact Or.inl rfl
  · next h _ =>
    split
    · exact Or.inl rfl
    · dsimp only [record, Transaction.putHost, Transaction.sendPollMessage,
        Transaction.recordHistory]
      split
      · exact Or.inr ⟨h.name, by simp [Transaction.afterCommit, detach_tasks]⟩
      · exact Or.inl rfl

theorem commit_asyncDelete (s : State) (q : DeletionRequest) (referenced : Bool) (now : Instant) :
    (commit s q referenced now).2.queues.asyncDelete = s.queues.asyncDelete := by
  have tasks := decide_tasks q referenced now s.store.begin
  have none : s.store.begin.tasks = [] := rfl
  rw [none] at tasks
  dsimp only [commit, State.commit]
  rcases tasks with same | ⟨name, more⟩
  · rw [same]; rfl
  · rw [more]; rfl

end DeletionJob

end DomainRegistry
