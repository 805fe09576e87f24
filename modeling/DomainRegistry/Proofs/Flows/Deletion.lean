import DomainRegistry.Deletion.Progress
import DomainRegistry.Deletion.Request
import DomainRegistry.Proofs.Answers
import DomainRegistry.Proofs.Store.Transactions

/-!
What the deletion of a host does. Main statements: a request marks a host that is found by its name,
and the end of a job either leaves the tables as they were or decides about a host that waits.
-/

namespace DomainRegistry

namespace HostDeletion

variable {s : State} {t : Tables} {q : Request}

def historyEntry (h : Host) (q : Request) : HistoryEntry :=
  ⟨h.repoId, .hostPendingDelete, q.clientId, q.now, q.superuser⟩

inductive Effect (t : Tables) (jobId : String) (q : Request) :
    Except Rejection DeletionRequest → Tables → Prop
  | rejected (r : Rejection) : Effect t jobId q (.error r) t
  | marked (h : Host) (named : t.hostNamed? q.hostName q.now = some h)
      (allowed : checkHost q h = .ok ()) :
      Effect t jobId q (.ok (job jobId q h)) ((t.insertHost (marked h)).log [historyEntry h q] [])

theorem Effect.keyed {jobId : String} {answer : Except Rejection DeletionRequest} {after : Tables}
    (effect : Effect t jobId q answer after) (keyed : t.Keyed) : after.Keyed := by
  cases effect with
  | rejected r => exact keyed
  | marked h named allowed => exact (keyed.insertHost (HostDeletion.marked h)).log

theorem admitted_eq_ok_iff {reader : Reader} {h : Host} :
    admitted reader q = .ok h ↔
      reader.hostNamed? q.hostName q.now = some h ∧ checkHost q h = .ok () := by
  unfold admitted
  cases reader.hostNamed? q.hostName q.now with
  | none => simp
  | some g =>
    dsimp only
    cases checked : checkHost q g with
    | error r =>
      constructor
      · rintro ⟨⟩
      · rintro ⟨⟨⟩, allowed⟩; rw [checked] at allowed; cases allowed
    | ok u =>
      constructor
      · rintro ⟨⟩; exact ⟨rfl, checked⟩
      · rintro ⟨⟨⟩, _⟩; rfl

theorem request_effect (s : State) (jobId : String) (q : Request) :
    Effect s.store.committed jobId q (request s jobId q).1
      (request s jobId q).2.store.committed := by
  unfold request State.transact work
  rw [Store.begin_reader]
  cases found : admitted s.store.committed.reader q with
  | error r => exact .rejected r
  | ok h =>
    obtain ⟨named, allowed⟩ := admitted_eq_ok_iff.mp found
    have stored : (s.commit (store jobId q h s.store.begin)).store.committed
        = (s.store.committed.insertHost (marked h)).log [historyEntry h q] [] :=
      Store.commit_committed _ _
    dsimp only
    rw [stored]
    exact .marked h named allowed

end HostDeletion

def Domain.without (d : Domain) (host : String) : Domain :=
  { d with subordinateHosts := d.subordinateHosts.erase host }

namespace Tables

variable {t : Tables} {h : Host}

def above? (t : Tables) (h : Host) : Option Domain := h.superordinate.bind t.domains.get?

def detach (t : Tables) (h : Host) : Tables :=
  match t.above? h with
  | some d => t.insertDomain (d.without h.name)
  | none => t

theorem Keyed.above? (keyed : t.Keyed) {d : Domain} (above : t.above? h = some d) :
    t.domains.get? d.repoId = some d := by
  obtain ⟨id, _, found⟩ := Option.bind_eq_some_iff.mp above
  rw [keyed.domain id d found]
  exact found

theorem detach_of_above {d : Domain} (above : t.above? h = some d) :
    t.detach h = t.insertDomain (d.without h.name) := by
  rw [detach, above]

theorem Keyed.detach (keyed : t.Keyed) (h : Host) : (t.detach h).Keyed := by
  unfold Tables.detach
  split
  · exact keyed.insertDomain _
  · exact keyed

@[simp] theorem detach_hosts : (t.detach h).hosts = t.hosts := by
  unfold detach
  split <;> rfl

@[simp] theorem detach_history : (t.detach h).history = t.history := by
  unfold detach
  split <;> rfl

@[simp] theorem detach_pollMessages : (t.detach h).pollMessages = t.pollMessages := by
  unfold detach
  split <;> rfl

/-- The domain above the host, if it is stored, has one host less, and no other domain changes. -/
theorem Keyed.detach_domain (keyed : t.Keyed) (h : Host) (id : String) :
    (t.detach h).domains.get? id =
      if h.superordinate = some id then (t.domains.get? id).map fun d => d.without h.name
      else t.domains.get? id := by
  unfold Tables.detach Tables.above?
  cases above : h.superordinate with
  | none => rfl
  | some own =>
    rw [Option.bind_some]
    cases stored : t.domains.get? own with
    | none =>
      by_cases same : own = id
      · subst same
        simp [stored]
      · simp [same]
    | some d =>
      have key : (d.without h.name).repoId = own := keyed.domain own d stored
      dsimp only
      rw [insertDomain_get?, key]
      by_cases same : own = id
      · subst same
        simp [stored]
      · simp [same, Ne.symm same]

theorem Keyed.detach_get? (keyed : t.Keyed) (h : Host) (id : String) :
    (t.detach h).domains.get? id = t.domains.get? id
      ∨ ∃ d, t.domains.get? id = some d
        ∧ (t.detach h).domains.get? id = some (d.without h.name) := by
  rw [keyed.detach_domain]
  split
  · cases stored : t.domains.get? id with
    | none => exact Or.inl rfl
    | some d => exact Or.inr ⟨d, rfl, rfl⟩
  · exact Or.inl rfl

end Tables

namespace DeletionJob

variable {s : State} {t : Tables} {q : DeletionRequest} {referenced : Bool} {now : Instant}

theorem verdict_eq_deleted_iff {referenced authorized : Bool} :
    verdict referenced authorized = .deleted ↔ referenced = false ∧ authorized = true := by
  cases referenced <;> cases authorized <;> simp [verdict]

theorem abandonReason?_eq_none_iff {h : Host} :
    abandonReason? h now = none ↔ h.isActive now = true ∧ h.isPendingDelete = true := by
  unfold abandonReason?
  cases h.isActive now <;> cases h.isPendingDelete <;> simp

def historyEntry (q : DeletionRequest) (h : Host) (now : Instant) (outcome : JobOutcome) :
    HistoryEntry :=
  ⟨h.repoId, historyKind outcome, q.clientId, now, q.bySuperuser⟩

def pollMessage (q : DeletionRequest) (h : Host) (now : Instant) (outcome : JobOutcome) :
    PollMessage :=
  ⟨q.clientId, h.repoId, now, pollText outcome h.name⟩

def settled (t : Tables) (q : DeletionRequest) (h : Host) (now : Instant) (outcome : JobOutcome) :
    Tables :=
  ((if outcome = .deleted then t.detach h else t).insertHost (decided outcome h now)).log
    [historyEntry q h now outcome] [pollMessage q h now outcome]

def verdictIn (t : Tables) (q : DeletionRequest) (referenced : Bool) (h : Host) (now : Instant) :
    JobOutcome :=
  verdict (referenced || isReferenced t.domains.values q.target now) (isAuthorized q h)

inductive Effect (t : Tables) (q : DeletionRequest) (referenced : Bool) (now : Instant) :
    JobOutcome → Tables → Prop
  | abandoned (reason : AbandonReason) : Effect t q referenced now (.abandoned reason) t
  | settled (h : Host) (found : t.hosts.get? q.target = some h)
      (waits : abandonReason? h now = none) :
      Effect t q referenced now (verdictIn t q referenced h now)
        (settled t q h now (verdictIn t q referenced h now))

@[simp] theorem settled_domains (h : Host) (outcome : JobOutcome) :
    (settled t q h now outcome).domains
      = (if outcome = .deleted then t.detach h else t).domains := rfl

@[simp] theorem settled_domainNames (h : Host) (outcome : JobOutcome) :
    (settled t q h now outcome).domainNames
      = (if outcome = .deleted then t.detach h else t).domainNames := rfl

theorem settled_hosts (h : Host) (outcome : JobOutcome) (id : String) :
    (settled t q h now outcome).hosts.get? id
      = if id = h.repoId then some (decided outcome h now) else t.hosts.get? id := by
  change (Tables.insertHost _ _).hosts.get? id = _
  rw [Tables.insertHost_get?]
  congr 1
  split <;> simp

theorem Effect.keyed {outcome : JobOutcome} {after : Tables}
    (effect : Effect t q referenced now outcome after) (keyed : t.Keyed) : after.Keyed := by
  cases effect with
  | abandoned reason => exact keyed
  | settled h found waits =>
    refine (Tables.Keyed.insertHost ?_ _).log
    split
    · exact keyed.detach h
    · exact keyed

theorem record_begin (q : DeletionRequest) (h : Host) (now : Instant) (outcome : JobOutcome)
    (s : Store) :
    (record q h now outcome s.begin).writes.apply s.committed
      = settled s.committed q h now outcome := by
  by_cases deleted : outcome = .deleted
  · have domain : s.begin.domain? = s.committed.domains.get? :=
      congrArg Reader.domain? s.begin_reader
    simp only [record, settled, deleted, if_true, detach, Tables.detach, Tables.above?, domain]
    cases h.superordinate.bind s.committed.domains.get? <;> rfl
  · simp only [record, settled, deleted, if_false]
    rfl

/-- What a transaction reads at its start is what is committed. -/
theorem commit_eq (s : State) (q : DeletionRequest) (referenced : Bool) (now : Instant) :
    commit s q referenced now =
      match s.store.committed.hosts.get? q.target with
      | none => (.abandoned .hostMissing, s.commit s.store.begin)
      | some h =>
        match abandonReason? h now with
        | some reason => (.abandoned reason, s.commit s.store.begin)
        | none =>
          let outcome := verdictIn s.store.committed q referenced h now
          (outcome, s.commit (record q h now outcome s.store.begin)) := by
  have reader := s.store.begin_reader
  have host : s.store.begin.host? = s.store.committed.hosts.get? := congrArg Reader.host? reader
  have domains : s.store.begin.domains = s.store.committed.domains.values :=
    congrArg Reader.domains reader
  unfold commit decide
  rw [host, domains]
  cases s.store.committed.hosts.get? q.target with
  | none => rfl
  | some h =>
    dsimp only
    cases abandonReason? h now <;> rfl

theorem commit_effect (s : State) (q : DeletionRequest) (referenced : Bool) (now : Instant) :
    Effect s.store.committed q referenced now (commit s q referenced now).1
      (commit s q referenced now).2.store.committed := by
  rw [commit_eq]
  cases found : s.store.committed.hosts.get? q.target with
  | none => exact .abandoned _
  | some h =>
    dsimp only
    cases waits : abandonReason? h now with
    | some reason => exact .abandoned reason
    | none =>
      dsimp only
      rw [State.commit, Store.commit_committed, record_begin]
      exact .settled h found waits

theorem commit_of_deleted {h : Host} (found : s.store.committed.hosts.get? q.target = some h)
    (deleted : (commit s q referenced now).1 = .deleted) :
    (commit s q referenced now).2 = s.commit (record q h now .deleted s.store.begin) := by
  rw [commit_eq, found] at deleted ⊢
  dsimp only at deleted ⊢
  cases waits : abandonReason? h now with
  | some reason => rw [waits] at deleted; cases deleted
  | none =>
    rw [waits] at deleted
    dsimp only at deleted ⊢
    rw [deleted]

theorem record_touched {d : Domain} {h : Host} {s : Store}
    (above : s.committed.above? h = some d) :
    (record q h now .deleted s.begin).writes.touched = [d.name] := by
  have domain : s.begin.domain? = s.committed.domains.get? :=
    congrArg Reader.domain? s.begin_reader
  unfold Tables.above? at above
  simp only [record, if_true, detach, domain, above]
  rfl

end DeletionJob

end DomainRegistry
