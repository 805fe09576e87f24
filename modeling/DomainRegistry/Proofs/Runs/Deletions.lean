import DomainRegistry.Proofs.Runs.Basic

/-!
Deletions over whole runs. Main statement: once a job has deleted a host, the host stays deleted and
no domain that exists then or later has it among its nameservers.
-/

namespace DomainRegistry

theorem DeletionJob.isReferenced_eq_false_iff {t : Tables} {target : String} {now : Instant} :
    isReferenced t.domains.values target now = false ↔
      ∀ id d, t.domains.get? id = some d → d.isActive now = true → target ∉ d.nameservers := by
  simp only [isReferenced, List.any_eq_false, refersTo, Bool.and_eq_true, not_and,
    SortedSet.contains_iff, SortedMap.mem_values]
  constructor
  · intro free id d found; exact free d ⟨id, found⟩
  · rintro free d ⟨id, found⟩; exact free id d found

/-- That a host is deleted and no domain that still exists at that time refers to it. -/
structure Gone (target : String) (since : Instant) (t : Tables) : Prop where
  keyed : t.Keyed
  deleted : ∃ h, t.hosts.get? target = some h ∧ h.deletionTime = some since
  unreferenced : ∀ id d, t.domains.get? id = some d → d.isActive since = true →
    target ∉ d.nameservers

namespace Gone

variable {target : String} {since now : Instant} {t after : Tables}

/-- No operation that looks for hosts in existence comes upon it again. -/
theorem apart (gone : Gone target since t) (later : since ≤ now) {id : String} {h : Host}
    (found : t.hosts.get? id = some h) (active : h.isActive now = true) : target ≠ id := by
  rintro rfl
  obtain ⟨g, found', deleted⟩ := gone.deleted
  obtain rfl : g = h := Option.some.inj (found'.symm.trans found)
  rw [Host.isActive, deleted, activeAt, decide_eq_true_eq] at active
  exact Instant.not_lt.mpr later active

theorem insertHost (gone : Gone target since t) (h : Host) (other : target ≠ h.repoId) :
    Gone target since (t.insertHost h) where
  keyed := gone.keyed.insertHost h
  deleted := by
    obtain ⟨g, found, deleted⟩ := gone.deleted
    exact ⟨g, by rw [Tables.insertHost_get?, if_neg other]; exact found, deleted⟩
  unreferenced := gone.unreferenced

theorem insertDomain (gone : Gone target since t) {d : Domain}
    (unreferenced : d.isActive since = true → target ∉ d.nameservers) :
    Gone target since (t.insertDomain d) where
  keyed := gone.keyed.insertDomain d
  deleted := gone.deleted
  unreferenced id e found active := by
    rw [Tables.insertDomain_get?] at found
    split at found
    · cases found; exact unreferenced active
    · exact gone.unreferenced id e found active

theorem log (gone : Gone target since t) (entries : List HistoryEntry)
    (messages : List PollMessage) : Gone target since (t.log entries messages) :=
  ⟨gone.keyed.log, gone.deleted, gone.unreferenced⟩

theorem detach (gone : Gone target since t) (h : Host) : Gone target since (t.detach h) := by
  unfold Tables.detach
  split
  · next d above =>
    exact gone.insertDomain (gone.unreferenced _ d (gone.keyed.above? above))
  · exact gone

theorem created {a : Admission} {q : CreateRequest} {answer : Except Rejection Created}
    (gone : Gone target since t) (later : since ≤ q.now)
    (effect : Creation.Effect a t q answer after) : Gone target since after := by
  cases effect with
  | rejected r => exact gone
  | created id plan d accepted made =>
    refine (gone.insertDomain fun _ => ?_).log _ _
    obtain ⟨_, _, nameservers, _⟩ := Creation.newDomain_eq_ok made
    obtain ⟨p, rfl⟩ := Admission.accepted_iff.mp accepted
    rw [nameservers]
    intro member
    obtain ⟨name, _, h, named, _, same⟩ := Admission.linked_host p.linked member
    obtain ⟨found, active⟩ := gone.keyed.hostNamed? named
    exact gone.apart later found active same.symm

theorem requested {jobId : String} {q : HostDeletion.Request}
    {answer : Except Rejection DeletionRequest} (gone : Gone target since t)
    (later : since ≤ q.now) (effect : HostDeletion.Effect t jobId q answer after) :
    Gone target since after := by
  cases effect with
  | rejected r => exact gone
  | marked h named allowed =>
    obtain ⟨found, active⟩ := gone.keyed.hostNamed? named
    exact (gone.insertHost (HostDeletion.marked h) (gone.apart later found active)).log _ _

theorem committed {q : DeletionRequest} {referenced : Bool} {outcome : JobOutcome}
    (gone : Gone target since t) (later : since ≤ now)
    (effect : DeletionJob.Effect t q referenced now outcome after) : Gone target since after := by
  cases effect with
  | abandoned reason => exact gone
  | settled h found waits =>
    obtain ⟨active, _⟩ := DeletionJob.abandonReason?_eq_none_iff.mp waits
    have other : target ≠ h.repoId := by
      rw [gone.keyed.host _ h found]
      exact gone.apart later found active
    refine (Gone.insertHost ?_ (DeletionJob.decided _ h now) other).log _ _
    split
    · exact gone.detach h
    · exact gone

theorem of_deleted {q : DeletionRequest} {referenced : Bool} {outcome : JobOutcome}
    (keyed : t.Keyed) (effect : DeletionJob.Effect t q referenced now outcome after)
    (deleted : outcome = .deleted) : Gone q.target now after := by
  have kept := effect.keyed keyed
  cases effect with
  | abandoned reason => cases deleted
  | settled h found waits =>
    obtain ⟨free, _⟩ := DeletionJob.verdict_eq_deleted_iff.mp deleted
    obtain ⟨_, free⟩ := Bool.or_eq_false_iff.mp free
    have settled : DeletionJob.verdictIn t q referenced h now = .deleted := deleted
    have own : h.repoId = q.target := keyed.host _ h found
    refine ⟨kept, ⟨DeletionJob.decided .deleted h now, ?_, rfl⟩, ?_⟩
    · rw [settled, DeletionJob.settled_hosts, if_pos own.symm]
    · intro id d listed active
      rw [settled, DeletionJob.settled_domains, if_pos rfl] at listed
      rw [DeletionJob.isReferenced_eq_false_iff] at free
      rcases keyed.detach_get? h id with same | ⟨e, before, struck⟩
      · exact free id d (same ▸ listed) active
      · obtain rfl : e.without h.name = d := Option.some.inj (struck.symm.trans listed)
        exact free id e before active

end Gone

variable {a : Admission} {t₀ : Instant} {w : World}

theorem World.step_gone {target : String} {since : Instant} {t : Instant} {op : Operation}
    (gone : Gone target since w.tables) (since_le : since ≤ t) (le : t ≤ op.timeAfter t) :
    Gone target since (step a w op).tables := by
  have later := Instant.le_trans since_le le
  have effect := step_effect a w op
  generalize (step a w op).tables = after at effect
  cases effect with
  | none op idle => exact gone
  | create q after effect => exact gone.created later effect
  | request jobId q after effect => exact gone.requested later effect
  | commit op c after commits effect =>
    rw [commit?_timeAfter commits] at later
    exact gone.committed later effect

theorem World.run_gone {target : String} {since : Instant} {t : Instant} {ops : List Operation}
    (gone : Gone target since w.tables) (since_le : since ≤ t) (ordered : Chronological t ops) :
    Gone target since (run a w ops).tables := by
  refine (run_induction (P := fun t w => since ≤ t ∧ Gone target since w.tables) ?_
    ⟨since_le, gone⟩ ordered).2
  rintro t w op ⟨since_le, gone⟩ le
  exact ⟨Instant.le_trans since_le le, step_gone gone since_le le⟩

theorem World.gone_of_commit {op : Operation} {c : Commit} (keyed : w.tables.Keyed)
    (commits : w.commit? op = some c)
    (deleted : (DeletionJob.commit w.state c.request c.referenced c.now).1 = .deleted) :
    Gone c.request.target c.now (step a w op).tables := by
  rw [tables, step_of_commit? commits]
  exact Gone.of_deleted keyed (DeletionJob.commit_effect ..) deleted

/-- Whatever has been done before a job deletes a host and whatever is done after. -/
theorem deleted_host_stays_unreferenced {cached : Bool} {ids : RepoId.Allocator}
    {queues : TaskQueues} {seeds : List Fixtures} {before after : List Operation} {op : Operation}
    {c : Commit} (filled : w = .seeded cached ids queues seeds)
    (ordered : Chronological t₀ (before ++ op :: after))
    (commits : (w.run a before).commit? op = some c)
    (deleted : (DeletionJob.commit (w.run a before).state c.request c.referenced c.now).1
      = .deleted) :
    (∀ t, c.now ≤ t → ∀ id d, (w.run a (before ++ op :: after)).tables.domains.get? id = some d →
        d.isActive t = true → c.request.target ∉ d.nameservers)
      ∧ ∃ h, (w.run a (before ++ op :: after)).tables.hosts.get? c.request.target = some h
        ∧ h.deletionTime = some c.now := by
  subst filled
  have keyed : ((World.seeded cached ids queues seeds).run a before).tables.Keyed :=
    World.run_keyed before (World.seeded_keyed cached ids queues seeds)
  obtain ⟨_, le, rest⟩ := chronological_append.mp ordered
  rw [World.commit?_timeAfter commits] at rest
  have gone := World.gone_of_commit (a := a) keyed commits deleted
  have gone := World.run_gone (a := a) gone (Instant.le_refl _) rest
  rw [World.run_append]
  constructor
  · intro t later id d found active
    exact gone.unreferenced id d found (Domain.isActive_of_le later active)
  · exact gone.deleted

def deletionRun : List Operation :=
  [.requestDeletion "j" ⟨"ns.tld", "r", false, .epoch⟩,
    .start ⟨⟨"j", "H-1", "r", false, .epoch⟩, .start "H-1" 2⟩,
    .resume 0 [1, 0] [] .epoch,
    .create (plainRequest "a.tld" ["ns.tld"])]

def hostAndContact : Fixtures where
  hosts := [{ repoId := "H-1", name := "ns.tld", sponsor := "r" }]
  contacts := [{ repoId := "C-1", contactId := "c", sponsor := "r" }]

theorem deletionRun_stays_unreferenced :
    let w := World.run openRegistry (.seeded true {} {} [hostAndContact]) deletionRun
    (∀ t, .epoch ≤ t → ∀ id d, w.tables.domains.get? id = some d → d.isActive t = true →
        "H-1" ∉ d.nameservers)
      ∧ ∃ h, w.tables.hosts.get? "H-1" = some h ∧ h.deletionTime = some .epoch :=
  @deleted_host_stays_unreferenced openRegistry .epoch _ true {} {} [hostAndContact]
    (deletionRun.take 2) (deletionRun.drop 3) (.resume 0 [1, 0] [] .epoch)
    ⟨⟨"j", "H-1", "r", false, .epoch⟩, false, .epoch⟩ rfl
    (by decide) (by decide +kernel) (by decide +kernel)

end DomainRegistry
