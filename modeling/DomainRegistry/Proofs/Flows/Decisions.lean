import DomainRegistry.Proofs.Flows.Pending
import DomainRegistry.Proofs.Flows.Scan
import DomainRegistry.Proofs.Store.Cache
import DomainRegistry.Proofs.Store.Reads

/-!
What the last phase of a deletion job does. Main statement: it decides about a host that is there
and waits, changes what goes with the decision and nothing else, and does nothing the next time.
-/

namespace DomainRegistry

structure Tables.Waits (t : Tables) (target : String) (now : Instant) (h : Host) : Prop where
  found : t.hosts.get? target = some h
  active : h.isActive now = true
  pending : h.isPendingDelete = true

theorem Status.union_without {a b : Status} (has : a.contains b = true) :
    (a.without b).union b = a := by
  have bits : b.bits &&& a.bits = b.bits := by
    simpa [contains, UInt16.and_comm] using has
  have whole : a.bits &&& ~~~b.bits ||| b.bits = a.bits := by
    rw [← bits]
    apply UInt16.toBitVec_inj.mp
    ext i within
    simp only [UInt16.toBitVec_and, UInt16.toBitVec_or, UInt16.toBitVec_not, BitVec.getElem_and,
      BitVec.getElem_or, BitVec.getElem_not]
    cases a.bits.toBitVec[i] <;> cases b.bits.toBitVec[i] <;> rfl
  simp [union, without, whole]

theorem Status.without_union {a b : Status} (apart : a.intersects b = false) :
    (a.union b).without b = a := by
  have disjoint : a.bits &&& b.bits = 0 := by
    simpa [intersects] using apart
  have same : (a.bits ||| b.bits) &&& ~~~b.bits = a.bits := by
    apply UInt16.toBitVec_inj.mp
    ext i within
    have bit : (a.bits &&& b.bits).toBitVec[i] = false := by
      rw [disjoint]
      simp
    simp only [UInt16.toBitVec_and, BitVec.getElem_and] at bit
    simp only [UInt16.toBitVec_and, UInt16.toBitVec_or, UInt16.toBitVec_not, BitVec.getElem_and,
      BitVec.getElem_or, BitVec.getElem_not]
    cases first : a.bits.toBitVec[i] <;> cases second : b.bits.toBitVec[i] <;> simp_all
  simp [union, without, same]

namespace HostDeletion

variable {r : Request} {h : Host}

theorem unmarked_of_allowed (allowed : checkHost r h = .ok ()) :
    h.status.intersects .pendingDelete = false := by
  unfold checkHost at allowed
  have free : h.status.intersects prohibiting = false := by
    by_contra prohibits
    rw [Bool.not_eq_false] at prohibits
    rw [prohibits] at allowed
    split at allowed <;> cases allowed
  have disjoint : h.status.bits &&& prohibiting.bits = 0 := by
    simpa [Status.intersects] using free
  have among : prohibiting.bits &&& Status.pendingDelete.bits = Status.pendingDelete.bits := by
    decide
  have none : h.status.bits &&& Status.pendingDelete.bits = 0 := by
    rw [← among, ← UInt16.and_assoc, disjoint, UInt16.zero_and]
  simp [Status.intersects, none]

/-- The host of an accepted request is stored with the mark, and was stored without it. -/
theorem marked_of_accepted {s : State} {jobId : String} {job : DeletionRequest}
    (keyed : s.store.committed.Keyed) (accepted : (request s jobId r).1 = .ok job) :
    ∃ h, s.store.committed.hosts.get? job.target = some h
      ∧ h.status.intersects .pendingDelete = false
      ∧ (request s jobId r).2.store.committed.hosts.get? job.target = some (marked h) := by
  have effect := request_effect s jobId r
  generalize (request s jobId r).2.store.committed = after at effect ⊢
  rw [accepted] at effect
  cases effect with
  | marked h named allowed =>
    refine ⟨h, (keyed.hostNamed? named).1, unmarked_of_allowed allowed, ?_⟩
    exact (Tables.insertHost_get? (marked h) h.repoId).trans (if_pos rfl)

end HostDeletion

namespace DeletionJob

variable {s : State} {t : Tables} {q : DeletionRequest} {referenced : Bool} {now : Instant}
  {h : Host} {outcome : JobOutcome}

def Authorizes (q : DeletionRequest) (h : Host) : Prop :=
  q.bySuperuser = true ∨ h.sponsor = q.clientId

def Referred (t : Tables) (q : DeletionRequest) (referenced : Bool) (now : Instant) : Prop :=
  referenced = true ∨ t.RefersTo q.target now

/-- When a host is deleted, and which of two reasons keeps it. -/
structure Judged (t : Tables) (q : DeletionRequest) (referenced : Bool) (now : Instant) (h : Host)
    (outcome : JobOutcome) : Prop where
  deleted : outcome = .deleted ↔ ¬Referred t q referenced now ∧ Authorizes q h
  blockedByReference : outcome = .blockedByReference ↔ Referred t q referenced now
  blockedBySponsorship :
    outcome = .blockedBySponsorship ↔ ¬Referred t q referenced now ∧ ¬Authorizes q h

/-- Whether a deletion writes a domain with a name: the one above the host, if it is stored. -/
def writesName (t : Tables) (h : Host) (outcome : JobOutcome) (name : String) : Bool :=
  outcome == .deleted && (t.above? h).any fun d => d.name == name

/-- What a decision about a host `h`, after which it is `g`, changes: all else stays as it was. -/
structure CarriedOut (q : DeletionRequest) (now : Instant) (outcome : JobOutcome) (h g : Host)
    (before after : State) : Prop where
  host : after.store.committed.hosts.get? q.target = some g
  unmarked : g.isPendingDelete = false
  marked : HostDeletion.marked g =
    { h with deletionTime := if outcome = .deleted then some now else h.deletionTime }
  hosts : ∀ id, id ≠ q.target →
    after.store.committed.hosts.get? id = before.store.committed.hosts.get? id
  domains : ∀ id, after.store.committed.domains.get? id =
    if outcome = .deleted ∧ h.superordinate = some id then
      (before.store.committed.domains.get? id).map fun d =>
        { d with subordinateHosts := d.subordinateHosts.erase h.name }
    else before.store.committed.domains.get? id
  contacts : after.store.committed.contacts = before.store.committed.contacts
  hostNames : after.store.committed.hostNames
    = before.store.committed.hostNames.insert h.name q.target
  domainNames : ∀ name, after.store.committed.domainNames.get? name =
    if writesName before.store.committed h outcome name then h.superordinate
    else before.store.committed.domainNames.get? name
  contactIds : after.store.committed.contactIds = before.store.committed.contactIds
  history : after.store.committed.history = before.store.committed.history ++
    [⟨q.target, if outcome = .deleted then .hostDelete else .hostDeleteFailure, q.clientId, now,
      q.bySuperuser⟩]
  pollMessages : after.store.committed.pollMessages = before.store.committed.pollMessages ++
    [⟨q.clientId, q.target, now, pollText outcome h.name⟩]
  ids : after.store.ids = before.store.ids
  cache : ∀ name, after.store.remembered? name =
    if writesName before.store.committed h outcome name then none
    else before.store.remembered? name
  dns : after.queues.dns =
    if outcome = .deleted ∧ before.queues.dns.closed = false then
      { before.queues.dns with tasks := before.queues.dns.tasks ++ [.host h.name] }
    else before.queues.dns
  asyncDelete : after.queues.asyncDelete = before.queues.asyncDelete

theorem isAuthorized_iff : isAuthorized q h = true ↔ Authorizes q h := by
  simp [isAuthorized, Authorizes]

theorem judged_verdictIn (t : Tables) (q : DeletionRequest) (referenced : Bool) (now : Instant)
    (h : Host) : Judged t q referenced now h (verdictIn t q referenced h now) := by
  have referred : (referenced || isReferenced t.domains.values q.target now) = true
      ↔ Referred t q referenced now := by
    rw [Bool.or_eq_true, isReferenced_iff]
    rfl
  have authorized := isAuthorized_iff (q := q) (h := h)
  unfold verdictIn
  generalize (referenced || isReferenced t.domains.values q.target now) = seen at referred
  generalize isAuthorized q h = allowed at authorized
  constructor
  · rw [← referred, ← authorized]
    cases seen <;> cases allowed <;> simp [verdict]
  · rw [← referred]
    cases seen <;> cases allowed <;> simp [verdict]
  · rw [← referred, ← authorized]
    cases seen <;> cases allowed <;> simp [verdict]

/-- The mark is all that a host loses, and the time of its deletion all that it gains. -/
theorem marked_decided (pending : h.isPendingDelete = true) (outcome : JobOutcome) (now : Instant) :
    HostDeletion.marked (decided outcome h now) =
      { h with deletionTime := if outcome = .deleted then some now else h.deletionTime } := by
  have same : (h.status.without .pendingDelete).union .pendingDelete = h.status :=
    Status.union_without pending
  simp only [HostDeletion.marked, decided, same]

theorem record_tasks (q : DeletionRequest) (h : Host) (now : Instant) (outcome : JobOutcome)
    (s : Store) :
    (record q h now outcome s.begin).tasks
      = if outcome = .deleted then [.refresh (.host h.name)] else [] := by
  by_cases deleted : outcome = .deleted
  · simp [record, deleted, Transaction.putHost, Transaction.sendPollMessage,
      Transaction.recordHistory, Transaction.afterCommit, detach_tasks, Store.begin]
  · simp [record, deleted, Transaction.putHost, Transaction.sendPollMessage,
      Transaction.recordHistory, Store.begin]

theorem record_ids (q : DeletionRequest) (h : Host) (now : Instant) (outcome : JobOutcome)
    (s : Store) : (record q h now outcome s.begin).ids = s.ids := by
  have detached : (detach h s.begin).ids = s.ids := by
    unfold detach
    split <;> rfl
  by_cases deleted : outcome = .deleted
  · simp only [record, deleted, if_true]
    exact detached
  · simp only [record, deleted, if_false]
    rfl

theorem mem_record_touched (q : DeletionRequest) (h : Host) (now : Instant) (outcome : JobOutcome)
    (s : Store) (name : String) :
    name ∈ (record q h now outcome s.begin).writes.touched
      ↔ writesName s.committed h outcome name = true := by
  by_cases deleted : outcome = .deleted
  · subst deleted
    cases above : s.committed.above? h with
    | some d =>
      rw [record_touched above]
      simp [writesName, above, @eq_comm _ name]
    | none =>
      have domain : s.begin.domain? = s.committed.domains.get? :=
        congrArg Reader.domain? s.begin_reader
      have alone : h.superordinate.bind s.committed.domains.get? = none := above
      have untouched : (record q h now .deleted s.begin).writes.touched = [] := by
        simp only [record, if_true, detach, domain, alone]
        rfl
      simp [writesName, above, untouched]
  · have untouched : (record q h now outcome s.begin).writes.touched = [] := by
      simp only [record, deleted, if_false]
      rfl
    simp [writesName, deleted, untouched]

theorem record_remembered? (q : DeletionRequest) (h : Host) (now : Instant) (outcome : JobOutcome)
    (s : Store) (name : String) :
    (s.commit (record q h now outcome s.begin)).remembered? name =
      if writesName s.committed h outcome name then none else s.remembered? name := by
  have filled : (record q h now outcome s.begin).writes.isEmpty = false := by
    have noted : (record q h now outcome s.begin).writes.history ≠ [] := by
      by_cases deleted : outcome = .deleted <;>
        simp [record, deleted, Transaction.putHost, Transaction.sendPollMessage,
          Transaction.recordHistory]
    simp [Writes.isEmpty, noted]
  unfold Store.commit
  rw [filled]
  refine (Store.remembered?_forget).trans ?_
  simp only [mem_record_touched]
  rfl

theorem settled_domain (keyed : t.Keyed) (h : Host) (outcome : JobOutcome) (id : String) :
    (settled t q h now outcome).domains.get? id =
      if outcome = .deleted ∧ h.superordinate = some id then
        (t.domains.get? id).map fun d => d.without h.name
      else t.domains.get? id := by
  rw [settled_domains]
  by_cases deleted : outcome = .deleted
  · simp [deleted, keyed.detach_domain]
  · simp [deleted]

theorem settled_contacts (h : Host) (outcome : JobOutcome) :
    (settled t q h now outcome).contacts = t.contacts
      ∧ (settled t q h now outcome).contactIds = t.contactIds := by
  change (if outcome = .deleted then t.detach h else t).contacts = t.contacts
    ∧ (if outcome = .deleted then t.detach h else t).contactIds = t.contactIds
  unfold Tables.detach
  split
  · split <;> exact ⟨rfl, rfl⟩
  · exact ⟨rfl, rfl⟩

theorem settled_hostNames (h : Host) (outcome : JobOutcome) :
    (settled t q h now outcome).hostNames = t.hostNames.insert h.name h.repoId := by
  change (if outcome = .deleted then t.detach h else t).hostNames.insert h.name h.repoId = _
  unfold Tables.detach
  split
  · split <;> rfl
  · rfl

theorem settled_domainName (keyed : t.Keyed) (h : Host) (outcome : JobOutcome) (name : String) :
    (settled t q h now outcome).domainNames.get? name =
      if writesName t h outcome name then h.superordinate else t.domainNames.get? name := by
  rw [settled_domainNames, writesName]
  by_cases deleted : outcome = .deleted
  · cases above : t.above? h with
    | none => simp [deleted, Tables.detach, above]
    | some d =>
      obtain ⟨id, own, found⟩ := Option.bind_eq_some_iff.mp above
      have key := keyed.domain id d found
      have names : (t.insertDomain (d.without h.name)).domainNames.get? name
          = if name = d.name then some d.repoId else t.domainNames.get? name :=
        Tables.insertDomain_names (d.without h.name) name
      rw [if_pos deleted, Tables.detach_of_above above, names, own, key]
      simp [deleted, @eq_comm _ name]
  · simp [deleted]

theorem settled_history (h : Host) (outcome : JobOutcome) :
    (settled t q h now outcome).history = t.history ++ [historyEntry q h now outcome] := by
  change (if outcome = .deleted then t.detach h else t).history ++ _ = _
  split <;> simp

theorem settled_pollMessages (h : Host) (outcome : JobOutcome) :
    (settled t q h now outcome).pollMessages = t.pollMessages ++ [pollMessage q h now outcome] := by
  change (if outcome = .deleted then t.detach h else t).pollMessages ++ _ = _
  split <;> simp

/-- A decision comes with its entry, its message and its task, and touches no other record. -/
theorem carriedOut_record (keyed : s.store.committed.Keyed)
    (waits : s.store.committed.Waits q.target now h) (outcome : JobOutcome) :
    CarriedOut q now outcome h (decided outcome h now) s
      (s.commit (record q h now outcome s.store.begin)) := by
  have key : h.repoId = q.target := keyed.host _ h waits.found
  have committed : (s.commit (record q h now outcome s.store.begin)).store.committed
      = settled s.store.committed q h now outcome :=
    (Store.commit_committed _ _).trans (record_begin q h now outcome s.store)
  have queues : (s.commit (record q h now outcome s.store.begin)).queues
      = (if outcome = .deleted then [Task.refresh (.host h.name)] else []).foldl State.dispatch
        s.queues :=
    congrArg (List.foldl State.dispatch s.queues) (record_tasks q h now outcome s.store)
  refine {
    host := ?_
    unmarked := decided_isPendingDelete outcome h now
    marked := marked_decided waits.pending outcome now
    hosts := ?_
    domains := ?_
    contacts := ?_
    hostNames := ?_
    domainNames := ?_
    contactIds := ?_
    history := ?_
    pollMessages := ?_
    ids := (Store.commit_ids _ _).trans (record_ids q h now outcome s.store)
    cache := record_remembered? q h now outcome s.store
    dns := ?_
    asyncDelete := ?_ }
  · rw [committed, settled_hosts, if_pos key.symm]
  · intro id other
    rw [committed, settled_hosts, key, if_neg other]
  · intro id
    rw [committed]
    exact settled_domain keyed h outcome id
  · rw [committed]
    exact (settled_contacts h outcome).1
  · rw [committed, settled_hostNames, key]
  · intro name
    rw [committed]
    exact settled_domainName keyed h outcome name
  · rw [committed]
    exact (settled_contacts h outcome).2
  · rw [committed, settled_history, historyEntry, key]
    cases outcome <;> rfl
  · rw [committed, settled_pollMessages, pollMessage, key]
  · rw [queues]
    by_cases deleted : outcome = .deleted
    · simp only [deleted, if_true, true_and, List.foldl_cons, List.foldl_nil, State.dispatch,
        Queue.offer, Queue.add?]
      cases s.queues.dns.closed <;> rfl
    · simp [deleted]
  · rw [queues]
    split <;> rfl

theorem commit_of_waits (waits : s.store.committed.Waits q.target now h) :
    commit s q referenced now =
      (verdictIn s.store.committed q referenced h now,
        s.commit (record q h now (verdictIn s.store.committed q referenced h now)
          s.store.begin)) := by
  have decides : abandonReason? h now = none :=
    abandonReason?_eq_none_iff.mpr ⟨waits.active, waits.pending⟩
  simp only [commit_eq, waits.found, decides]

theorem commit_of_not_waits (referenced : Bool)
    (none : ∀ h, ¬s.store.committed.Waits q.target now h) :
    ∃ reason, commit s q referenced now = (.abandoned reason, s) := by
  rw [commit_eq]
  cases found : s.store.committed.hosts.get? q.target with
  | none => exact ⟨.hostMissing, rfl⟩
  | some h =>
    dsimp only
    cases decided : abandonReason? h now with
    | none =>
      obtain ⟨active, pending⟩ := abandonReason?_eq_none_iff.mp decided
      exact absurd ⟨found, active, pending⟩ (none h)
    | some reason => exact ⟨reason, rfl⟩

theorem not_waits_after (keyed : s.store.committed.Keyed) {later : Tables} {time : Instant}
    (same : later.hosts.get? q.target
      = (commit s q referenced now).2.store.committed.hosts.get? q.target)
    (due : (∃ h, s.store.committed.Waits q.target now h) ∨ now ≤ time) (g : Host) :
    ¬later.Waits q.target time g := by
  intro again
  have found := same.symm.trans again.found
  by_cases waited : ∃ h, s.store.committed.Waits q.target now h
  · obtain ⟨h, waits⟩ := waited
    rw [commit_of_waits waits] at found
    have effect := carriedOut_record keyed waits (verdictIn s.store.committed q referenced h now)
    obtain rfl := Option.some.inj (effect.host.symm.trans found)
    have free := decided_isPendingDelete (verdictIn s.store.committed q referenced h now) h now
    rw [again.pending] at free
    cases free
  · obtain ⟨reason, idle⟩ := commit_of_not_waits referenced (not_exists.mp waited)
    rw [idle] at found
    have le := due.resolve_left waited
    exact waited ⟨g, found, activeAt_of_le le again.active, again.pending⟩

structure DecidesOnce (s : State) (q : DeletionRequest) (referenced : Bool) (now : Instant) :
    Prop where
  idle : (∀ h, ¬s.store.committed.Waits q.target now h) →
    ∃ reason, commit s q referenced now = (.abandoned reason, s)
  decides : ∀ h, s.store.committed.Waits q.target now h →
    Judged s.store.committed q referenced now h (commit s q referenced now).1
      ∧ ∃ g, CarriedOut q now (commit s q referenced now).1 h g s (commit s q referenced now).2
  /-- A host that is kept is again what it was before the request, if that alone has changed it. -/
  restores : ∀ (before : State) (r : HostDeletion.Request), before.store.committed.Keyed →
    (HostDeletion.request before q.jobId r).1 = .ok q →
    s.store.committed.hosts.get? q.target
      = (HostDeletion.request before q.jobId r).2.store.committed.hosts.get? q.target →
    (commit s q referenced now).1 = .blockedByReference
      ∨ (commit s q referenced now).1 = .blockedBySponsorship →
    (commit s q referenced now).2.store.committed.hosts.get? q.target
      = before.store.committed.hosts.get? q.target
  /-- The same request again does nothing, unless the clock is turned back before a first time. -/
  repeats : ∀ (later : State) (referenced' : Bool) (time : Instant),
    later.store.committed.hosts.get? q.target
      = (commit s q referenced now).2.store.committed.hosts.get? q.target →
    (∃ h, s.store.committed.Waits q.target now h) ∨ now ≤ time →
    ∃ reason, commit later q referenced' time = (.abandoned reason, later)

/-- What a request has put on a host, a decision to keep the host takes off. -/
theorem decided_marked (free : h.status.intersects .pendingDelete = false)
    (kept : outcome ≠ .deleted) : decided outcome (HostDeletion.marked h) now = h := by
  have same : (h.status.union .pendingDelete).without .pendingDelete = h.status :=
    Status.without_union free
  simp only [decided, HostDeletion.marked, same, if_neg kept]

theorem commit_restores (keyed : s.store.committed.Keyed) {before : State}
    {r : HostDeletion.Request} (keyed' : before.store.committed.Keyed)
    (accepted : (HostDeletion.request before q.jobId r).1 = .ok q)
    (same : s.store.committed.hosts.get? q.target
      = (HostDeletion.request before q.jobId r).2.store.committed.hosts.get? q.target)
    (decides : ∀ reason, (commit s q referenced now).1 ≠ .abandoned reason)
    (kept : (commit s q referenced now).1 ≠ .deleted) :
    (commit s q referenced now).2.store.committed.hosts.get? q.target
      = before.store.committed.hosts.get? q.target := by
  obtain ⟨h, stored, free, marked⟩ := HostDeletion.marked_of_accepted keyed' accepted
  have waited : ∃ g, s.store.committed.Waits q.target now g := by
    by_contra none
    obtain ⟨reason, idle⟩ := commit_of_not_waits referenced (not_exists.mp none)
    exact decides reason (by rw [idle])
  obtain ⟨g, waits⟩ := waited
  obtain rfl : g = HostDeletion.marked h :=
    Option.some.inj (waits.found.symm.trans (same.trans marked))
  rw [commit_of_waits waits] at kept ⊢
  rw [(carriedOut_record keyed waits _).host, decided_marked free kept, stored]

theorem commit_decides_once (keyed : s.store.committed.Keyed) (q : DeletionRequest)
    (referenced : Bool) (now : Instant) : DecidesOnce s q referenced now := by
  refine {
    idle := commit_of_not_waits referenced
    decides := ?_
    restores := ?_
    repeats := ?_ }
  · intro h waits
    rw [commit_of_waits waits]
    exact ⟨judged_verdictIn _ _ _ _ _, _, carriedOut_record keyed waits _⟩
  · intro before r keyed' accepted same blocked
    refine commit_restores keyed keyed' accepted same ?_ ?_
    · intro reason abandoned
      rw [abandoned] at blocked
      rcases blocked with other | other <;> cases other
    · intro deleted
      rw [deleted] at blocked
      rcases blocked with other | other <;> cases other
  · intro later referenced' time same due
    exact commit_of_not_waits referenced' (not_waits_after keyed same due)

def upperDomain : Domain :=
  { bareDomain "2-TLD" "b.tld" none with subordinateHosts := .ofList [lowerHost.name] }

def servedDomain : State where
  store.committed := Tables.insertHost (Tables.insertDomain {} upperDomain) lowerHost

def lowerRequest : HostDeletion.Request := ⟨lowerHost.name, "r", false, .epoch⟩

def lowerJob : DeletionRequest := HostDeletion.job "j" lowerRequest lowerHost

def requestedState : State := (HostDeletion.request servedDomain "j" lowerRequest).2

theorem servedDomain_keyed : servedDomain.store.committed.Keyed :=
  (Tables.keyed_empty.insertDomain upperDomain).insertHost lowerHost

theorem requestedState_decided_once :
    (commit requestedState lowerJob false .epoch).1 = .deleted
      ∧ (∃ reason, commit (commit requestedState lowerJob false .epoch).2 lowerJob false .epoch
        = (.abandoned reason, (commit requestedState lowerJob false .epoch).2))
      ∧ (commit requestedState lowerJob true .epoch).2.store.committed.hosts.get? "H-1"
        = some lowerHost := by
  have keyed : requestedState.store.committed.Keyed :=
    (HostDeletion.request_effect servedDomain "j" lowerRequest).keyed servedDomain_keyed
  have free := commit_decides_once keyed lowerJob false .epoch
  have blocked := commit_decides_once keyed lowerJob true .epoch
  refine ⟨by decide +kernel, ?_, ?_⟩
  · exact free.repeats _ false .epoch rfl (Or.inr (Instant.le_refl _))
  · exact blocked.restores servedDomain lowerRequest servedDomain_keyed (by decide +kernel) rfl
      (Or.inl (by decide +kernel))

end DeletionJob

end DomainRegistry
