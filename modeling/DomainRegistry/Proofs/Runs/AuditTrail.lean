import DomainRegistry.Proofs.Flows.Pending
import DomainRegistry.Proofs.Runs.Deletions

/-!
What the history says about the deletion of a host. Main statement: whatever requests and jobs a run
has, the entries about a host tell whether it waits and when it was deleted, and each decision among
them has been told to somebody.
-/

namespace DomainRegistry

def HistoryKind.isDecision : HistoryKind → Bool
  | hostDelete => true
  | hostDeleteFailure => true
  | _ => false

def HistoryKind.ofDeletion (kind : HistoryKind) : Bool :=
  kind == hostPendingDelete || kind.isDecision

theorem DeletionJob.historyKind_isDecision (outcome : JobOutcome) :
    (historyKind outcome).isDecision = true := by
  cases outcome <;> rfl

theorem DeletionJob.historyKind_eq_hostDelete_iff {outcome : JobOutcome} :
    historyKind outcome = .hostDelete ↔ outcome = .deleted := by
  cases outcome <;> simp [historyKind]

namespace Tables

def trail (t : Tables) (id : String) : List HistoryEntry :=
  (t.historyOf id).filter fun e => e.kind.ofDeletion

def messagesAbout (t : Tables) (id : String) : List PollMessage :=
  t.pollMessages.filter fun m => m.parent == id

variable {t : Tables} {id : String}

theorem trail_log (t : Tables) (e : HistoryEntry) (messages : List PollMessage) (id : String) :
    (t.log [e] messages).trail id
      = t.trail id ++ if e.parent = id ∧ e.kind.ofDeletion = true then [e] else [] := by
  simp only [trail, historyOf, log, List.filter_append]
  by_cases own : e.parent = id <;> simp [own, List.filter_cons]

theorem messagesAbout_log (t : Tables) (entries messages) (id : String) :
    (t.log entries messages).messagesAbout id
      = t.messagesAbout id ++ messages.filter fun m => m.parent == id :=
  List.filter_append ..

end Tables

namespace DeletionJob

variable {t : Tables} {q : DeletionRequest} {h : Host} {now : Instant} {outcome : JobOutcome}

theorem settled_trail (id : String) :
    (settled t q h now outcome).trail id
      = t.trail id ++ if h.repoId = id then [historyEntry q h now outcome] else [] := by
  unfold settled
  rw [Tables.trail_log]
  congr 1
  · split <;> simp [Tables.trail, Tables.historyOf, Tables.insertHost]
  · simp [historyEntry, HistoryKind.ofDeletion, historyKind_isDecision]

theorem settled_messagesAbout (id : String) :
    (settled t q h now outcome).messagesAbout id
      = t.messagesAbout id ++ if h.repoId = id then [pollMessage q h now outcome] else [] := by
  unfold settled
  rw [Tables.messagesAbout_log]
  congr 1
  · split <;> simp [Tables.messagesAbout, Tables.insertHost]
  · by_cases own : h.repoId = id <;> simp [pollMessage, own]

end DeletionJob

structure Audited (trail : List HistoryEntry) (messages : List PollMessage) (h : Host) : Prop where
  asked : ∀ (n : Nat) e, trail[n]? = some e → n % 2 = 0 → e.kind = .hostPendingDelete
  decided : ∀ (n : Nat) e, trail[n]? = some e → n % 2 = 1 → e.kind.isDecision = true
  final : ∀ (n : Nat) e, trail[n]? = some e → e.kind = .hostDelete → n + 1 = trail.length
  pending : h.isPendingDelete = true ↔
    ∃ e, trail.getLast? = some e ∧ e.kind = .hostPendingDelete
  deleted : ∀ time, h.deletionTime = some time ↔
    ∃ e, trail.getLast? = some e ∧ e.kind = .hostDelete ∧ e.time = time
  told : messages.length = trail.countP fun e => e.kind.isDecision

namespace Audited

variable {trail : List HistoryEntry} {messages more : List PollMessage} {h g : Host}
  {e : HistoryEntry}

theorem empty (undeleted : h.deletionTime = none) (idle : h.isPendingDelete = false) :
    Audited [] [] h := by
  constructor <;> simp [undeleted, idle]

theorem even_of_idle (audited : Audited trail messages h) (idle : h.isPendingDelete = false) :
    trail.length % 2 = 0 := by
  cases last : trail.getLast? with
  | none => simp [List.getLast?_eq_none_iff.mp last]
  | some e =>
    have filled : trail ≠ [] := by
      rintro rfl
      cases last
    have positive := List.length_pos_iff.mpr filled
    by_cases odd : trail.length % 2 = 1
    · have own := audited.asked _ e (List.getLast?_eq_getElem? ▸ last) (by omega)
      have waits := audited.pending.mpr ⟨e, last, own⟩
      rw [idle] at waits
      cases waits
    · omega

theorem odd_of_pending (audited : Audited trail messages h) (waits : h.isPendingDelete = true) :
    trail.length % 2 = 1 := by
  obtain ⟨e, last, asks⟩ := audited.pending.mp waits
  have filled : trail ≠ [] := by
    rintro rfl
    cases last
  have positive := List.length_pos_iff.mpr filled
  by_cases even : trail.length % 2 = 0
  · have decides := audited.decided _ e (List.getLast?_eq_getElem? ▸ last) (by omega)
    rw [asks] at decides
    cases decides
  · omega

theorem undeleted_of_pending (audited : Audited trail messages h)
    (waits : h.isPendingDelete = true) : h.deletionTime = none := by
  obtain ⟨e, last, asks⟩ := audited.pending.mp waits
  cases time : h.deletionTime with
  | none => rfl
  | some time' =>
    obtain ⟨e', last', deletes, _⟩ := (audited.deleted time').mp time
    obtain rfl : e = e' := Option.some.inj (last.symm.trans last')
    rw [asks] at deletes
    cases deletes

theorem concat (audited : Audited trail messages h) (undeleted : h.deletionTime = none)
    (asks : trail.length % 2 = 0 → e.kind = .hostPendingDelete)
    (decides : trail.length % 2 = 1 → e.kind.isDecision = true)
    (pending : g.isPendingDelete = true ↔ e.kind = .hostPendingDelete)
    (deleted : ∀ time, g.deletionTime = some time ↔ e.kind = .hostDelete ∧ e.time = time)
    (told : more.length = if e.kind.isDecision = true then 1 else 0) :
    Audited (trail ++ [e]) (messages ++ more) g := by
  have place : ∀ (n : Nat) x, (trail ++ [e])[n]? = some x →
      trail[n]? = some x ∨ (n = trail.length ∧ x = e) := by
    intro n x found
    rw [List.getElem?_append] at found
    split at found
    · exact Or.inl found
    · rw [List.getElem?_singleton] at found
      split at found
      · exact Or.inr ⟨by omega, (Option.some.inj found).symm⟩
      · cases found
  constructor
  · intro n x found even
    rcases place n x found with old | ⟨rfl, rfl⟩
    · exact audited.asked n x old even
    · exact asks even
  · intro n x found odd
    rcases place n x found with old | ⟨rfl, rfl⟩
    · exact audited.decided n x old odd
    · exact decides odd
  · intro n x found deletes
    rcases place n x found with old | ⟨rfl, rfl⟩
    · -- A deletion further up would be the last entry so far, and the host deleted.
      have last := audited.final n x old deletes
      have final : trail.getLast? = some x := by
        rw [List.getLast?_eq_getElem?, ← last]
        exact old
      have time := (audited.deleted x.time).mpr ⟨x, final, deletes, rfl⟩
      rw [undeleted] at time
      cases time
    · simp
  · simp [pending]
  · intro time
    simp [deleted time]
  · rw [List.length_append, List.countP_append, audited.told, told]
    simp [List.countP_cons]

theorem requested (audited : Audited trail messages h) (undeleted : h.deletionTime = none)
    {q : HostDeletion.Request} (allowed : HostDeletion.checkHost q h = .ok ()) :
    Audited (trail ++ [HostDeletion.historyEntry h q]) messages (HostDeletion.marked h) := by
  have even := audited.even_of_idle (HostDeletion.isPendingDelete_of_allowed allowed)
  rw [← List.append_nil messages]
  refine audited.concat undeleted (fun _ => rfl) ?_ ?_ ?_ rfl
  · omega
  · simp [HostDeletion.marked_isPendingDelete, HostDeletion.historyEntry]
  · simp [HostDeletion.marked, HostDeletion.historyEntry, undeleted]

theorem settled (audited : Audited trail messages h) (waits : h.isPendingDelete = true)
    (q : DeletionRequest) (now : Instant) (outcome : JobOutcome) :
    Audited (trail ++ [DeletionJob.historyEntry q h now outcome])
      (messages ++ [DeletionJob.pollMessage q h now outcome])
      (DeletionJob.decided outcome h now) := by
  have undeleted := audited.undeleted_of_pending waits
  have odd := audited.odd_of_pending waits
  have decides : (DeletionJob.historyEntry q h now outcome).kind.isDecision = true :=
    DeletionJob.historyKind_isDecision outcome
  refine audited.concat undeleted ?_ (fun _ => decides) ?_ ?_ ?_
  · omega
  · rw [DeletionJob.decided_isPendingDelete]
    constructor
    · rintro ⟨⟩
    · intro asks
      rw [asks] at decides
      cases decides
  · intro time
    simp only [DeletionJob.decided, DeletionJob.historyEntry,
      DeletionJob.historyKind_eq_hostDelete_iff, undeleted]
    by_cases deletes : outcome = .deleted <;> simp [deletes]
  · rw [if_pos decides]
    rfl

end Audited

/-- That a host is stored whose trail is in order, and that no deletion of it is still to come. -/
structure Tracked (target : String) (now : Instant) (t : Tables) : Prop where
  keyed : t.Keyed
  stored : ∃ h, t.hosts.get? target = some h
    ∧ Audited (t.trail target) (t.messagesAbout target) h
    ∧ ∀ time, h.deletionTime = some time → time ≤ now

namespace Tracked

variable {target : String} {earlier now : Instant} {t after : Tables}

theorem later (tracked : Tracked target earlier t) (le : earlier ≤ now) :
    Tracked target now t := by
  obtain ⟨h, found, audited, past⟩ := tracked.stored
  refine ⟨tracked.keyed, h, found, audited, ?_⟩
  intro time deleted
  exact Instant.le_trans (past time deleted) le

theorem undeleted {h : Host} (past : ∀ time, h.deletionTime = some time → time ≤ now)
    (active : h.isActive now = true) : h.deletionTime = none := by
  cases time : h.deletionTime with
  | none => rfl
  | some time' =>
    rw [Host.isActive, time, activeAt, decide_eq_true_eq] at active
    exact absurd (past time' time) (Instant.not_le.mpr active)

theorem aside (tracked : Tracked target now t) (keyed : after.Keyed)
    (host : after.hosts.get? target = t.hosts.get? target)
    (trail : after.trail target = t.trail target)
    (messages : after.messagesAbout target = t.messagesAbout target) :
    Tracked target now after := by
  obtain ⟨h, found, audited, past⟩ := tracked.stored
  refine ⟨keyed, h, host.trans found, ?_, past⟩
  rw [trail, messages]
  exact audited

theorem created {a : Admission} {q : CreateRequest} {answer : Except Rejection Created}
    (tracked : Tracked target now t) (effect : Creation.Effect a t q answer after) :
    Tracked target now after := by
  have keyed := effect.keyed tracked.keyed
  cases effect with
  | rejected r => exact tracked
  | created id plan d accepted made =>
    refine tracked.aside keyed rfl ?_ ?_
    · rw [Tables.trail_log, if_neg]
      · exact List.append_nil _
      · rintro ⟨_, ⟨⟩⟩
    · rw [Tables.messagesAbout_log]
      exact List.append_nil _

theorem requested {jobId : String} {q : HostDeletion.Request}
    {answer : Except Rejection DeletionRequest} (tracked : Tracked target q.now t)
    (effect : HostDeletion.Effect t jobId q answer after) : Tracked target q.now after := by
  have keyed := effect.keyed tracked.keyed
  cases effect with
  | rejected r => exact tracked
  | marked h named allowed =>
    obtain ⟨found, active⟩ := tracked.keyed.hostNamed? named
    by_cases own : h.repoId = target
    · subst own
      obtain ⟨g, found', audited, past⟩ := tracked.stored
      obtain rfl : h = g := Option.some.inj (found.symm.trans found')
      refine ⟨keyed, HostDeletion.marked h, ?_, ?_, past⟩
      · exact (Tables.insertHost_get? _ _).trans (if_pos rfl)
      · rw [Tables.trail_log, if_pos ⟨rfl, rfl⟩, Tables.messagesAbout_log]
        have entry := audited.requested (undeleted past active) allowed
        rw [← List.append_nil (t.messagesAbout h.repoId)] at entry
        exact entry
    · refine tracked.aside keyed ?_ ?_ ?_
      · exact (Tables.insertHost_get? _ _).trans (if_neg (Ne.symm own))
      · rw [Tables.trail_log, if_neg (fun both => own both.1)]
        exact List.append_nil _
      · rw [Tables.messagesAbout_log]
        exact List.append_nil _

theorem committed {q : DeletionRequest} {referenced : Bool} {outcome : JobOutcome}
    (tracked : Tracked target now t)
    (effect : DeletionJob.Effect t q referenced now outcome after) :
    Tracked target now after := by
  have keyed := effect.keyed tracked.keyed
  cases effect with
  | abandoned reason => exact tracked
  | settled h found waits =>
    obtain ⟨active, waiting⟩ := DeletionJob.abandonReason?_eq_none_iff.mp waits
    have key := tracked.keyed.host _ h found
    generalize DeletionJob.verdictIn t q referenced h now = outcome at keyed ⊢
    by_cases own : h.repoId = target
    · obtain ⟨g, found', audited, past⟩ := tracked.stored
      obtain rfl : h = g := by
        rw [← own, key] at found'
        exact Option.some.inj (found.symm.trans found')
      refine ⟨keyed, DeletionJob.decided outcome h now, ?_, ?_, ?_⟩
      · rw [DeletionJob.settled_hosts, if_pos own.symm]
      · rw [DeletionJob.settled_trail, DeletionJob.settled_messagesAbout, if_pos own, if_pos own]
        exact audited.settled waiting q now outcome
      · intro time deleted
        simp only [DeletionJob.decided, audited.undeleted_of_pending waiting] at deleted
        split at deleted
        · cases deleted
          exact Instant.le_refl _
        · cases deleted
    · refine tracked.aside keyed ?_ ?_ ?_
      · rw [DeletionJob.settled_hosts, if_neg (Ne.symm own)]
      · rw [DeletionJob.settled_trail, if_neg own, List.append_nil]
      · rw [DeletionJob.settled_messagesAbout, if_neg own, List.append_nil]

end Tracked

variable {a : Admission} {t₀ : Instant} {w : World} {ops : List Operation} {target : String}

theorem World.step_tracked {t : Instant} {op : Operation} (tracked : Tracked target t w.tables)
    (le : t ≤ op.timeAfter t) : Tracked target (op.timeAfter t) (step a w op).tables := by
  have tracked := tracked.later le
  have effect := step_effect a w op
  generalize (step a w op).tables = after at effect
  cases effect with
  | none op idle => exact tracked
  | create q after effect => exact tracked.created effect
  | request jobId q after effect => exact tracked.requested effect
  | commit op c after commits effect =>
    rw [commit?_timeAfter commits] at tracked ⊢
    exact tracked.committed effect

/-- The history of a host of which nothing is told yet, after any run. -/
theorem audit_trail_matches {h : Host} (keyed : w.tables.Keyed)
    (found : w.tables.hosts.get? target = some h) (undeleted : h.deletionTime = none)
    (idle : h.isPendingDelete = false) (unheard : w.tables.historyOf target = [])
    (untold : w.tables.messagesAbout target = []) (ordered : Chronological t₀ ops) :
    ∃ g, (w.run a ops).tables.hosts.get? target = some g
      ∧ Audited ((w.run a ops).tables.trail target) ((w.run a ops).tables.messagesAbout target)
          g := by
  have start : Tracked target t₀ w.tables := by
    refine ⟨keyed, h, found, ?_, ?_⟩
    · rw [Tables.trail, unheard, untold]
      exact Audited.empty undeleted idle
    · intro time deleted
      rw [undeleted] at deleted
      cases deleted
  have tracked := World.run_induction (a := a) (P := fun t w => Tracked target t w.tables)
    (fun _ _ _ => World.step_tracked) start ordered
  obtain ⟨g, found, audited, _⟩ := tracked.stored
  exact ⟨g, found, audited⟩

/-- A job is committed twice for one request, once for the next, and once too often. -/
def staleRun : List Operation :=
  [.start ⟨⟨"j", "H-1", "r", false, .epoch⟩, .start "H-1" 2⟩,
    .requestDeletion "j" ⟨"ns.tld", "r", false, .epoch⟩,
    .commit 0 true .epoch,
    .commit 0 false .epoch,
    .requestDeletion "k" ⟨"ns.tld", "r", false, .epoch⟩,
    .commit 0 false .epoch,
    .commit 0 false .epoch]

theorem staleRun_trail_matches :
    let w := World.run openRegistry (.seeded true {} {} [hostAndContact]) staleRun
    (w.tables.trail "H-1").map HistoryEntry.kind
        = [.hostPendingDelete, .hostDeleteFailure, .hostPendingDelete, .hostDelete]
      ∧ ∃ g, w.tables.hosts.get? "H-1" = some g
        ∧ Audited (w.tables.trail "H-1") (w.tables.messagesAbout "H-1") g :=
  ⟨by decide +kernel,
    audit_trail_matches (h := { repoId := "H-1", name := "ns.tld", sponsor := "r" })
      (World.seeded_keyed true {} {} [hostAndContact]) (by decide +kernel) rfl (by decide +kernel)
      (by decide +kernel) (by decide +kernel) (by decide : Chronological .epoch staleRun)⟩

end DomainRegistry
