import DomainRegistry.Admission.Assessment
import DomainRegistry.Creation.Gate

/-!
Creating a domain: the gate, then admission and storage in one transaction.
-/

namespace DomainRegistry

structure Created where
  repoId : String
  creationTime : Instant
  expirationTime : Instant
  plan : CreatePlan
  deriving DecidableEq

namespace Creation

/-- The domain of a plan, unless one of its times is past the last date. -/
def newDomain (repoId : String) (plan : CreatePlan) (q : CreateRequest) : Except Rejection Domain :=
  match q.now.addMonths? (12 * plan.years.toNat), q.now.addDays? plan.addGraceDays with
  | some expirationTime, some graceEnd =>
    .ok {
      repoId
      name := plan.name
      zone := plan.zone
      sponsor := q.registrar.clientId
      creationTime := q.now
      deletionTime := none
      expirationTime
      registrant := some plan.registrant
      contacts := plan.contacts
      nameservers := plan.nameservers
      subordinateHosts := .empty
      dsData := plan.dsData
      claimsNotice := plan.notice
      smdId := plan.smdId
      idnTable := plan.table
      gracePeriods := [⟨.add, graceEnd, q.registrar.clientId⟩]
      status := .none }
  | _, _ => .error .expirationOutOfRange

def historyEntry (d : Domain) (q : CreateRequest) : HistoryEntry :=
  ⟨d.repoId, .domainCreate, q.registrar.clientId, q.now, q.superuser⟩

/-- The repository id of the new domain: the one it has got, or a fresh one. -/
def chosenId (given : Option String) (zone : String) (x : Transaction) : String × Transaction :=
  match given with
  | some id => (id, x)
  | none => x.allocate zone

def store (d : Domain) (q : CreateRequest) (x : Transaction) : Transaction :=
  ((x.recordHistory (historyEntry d q)).afterCommit (.refresh (.domain d.name))).putDomain d

def persist (given : Option String) (answer : Except Rejection CreatePlan) (q : CreateRequest)
    (x : Transaction) : Except Rejection Created × Transaction :=
  match answer with
  | .error r => (.error r, x)
  | .ok plan =>
    let (repoId, x) := chosenId given plan.zone x
    match newDomain repoId plan q with
    | .error r => (.error r, x)
    | .ok d => (.ok ⟨d.repoId, d.creationTime, d.expirationTime, plan⟩, store d q x)

/-- Creates a domain, or rejects it and leaves the state as it was but for the number it took. -/
def run (a : Admission) (s : State) (q : CreateRequest) : Traced Created × State :=
  let (given, s) := Gate.repoId a.config s q.command.name
  match Gate.check s q.command.name q.now with
  | (.error r, s) => (⟨.error r, []⟩, s)
  | (.ok (), s) =>
    let answer := a.assess s.store.begin.reader q
    let (result, s) := s.transact (persist given answer.result q)
    (⟨result, answer.reports⟩, s)

/-- The plan that a creation would follow; only the cache may change. -/
def dryRun (a : Admission) (s : State) (q : CreateRequest) : Traced CreatePlan × State :=
  match Gate.check s q.command.name q.now with
  | (.error r, s) => (⟨.error r, []⟩, s)
  | (.ok (), s) => (a.assess s.snapshot.reader q, s)

end Creation

end DomainRegistry
