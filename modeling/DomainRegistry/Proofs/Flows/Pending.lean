import DomainRegistry.Proofs.Flows.Deletion

/-!
The mark of a host that waits for its deletion. Main statements: a request is accepted only for a
host without the mark, and a job takes the mark off if the host has it and leaves all else alone.
-/

namespace DomainRegistry

namespace Status

variable {a b c : Status}

theorem union_contains (a b : Status) : (a.union b).contains b = true := by
  have both : (a.bits ||| b.bits) &&& b.bits = b.bits := by
    apply UInt16.toBitVec_inj.mp
    ext i within
    simp only [UInt16.toBitVec_and, UInt16.toBitVec_or, BitVec.getElem_and, BitVec.getElem_or]
    cases b.bits.toBitVec[i] <;> simp
  simp [contains, union, both]

theorem without_contains (a : Status) (some : b.bits ≠ 0) : (a.without b).contains b = false := by
  have gone : a.bits &&& ~~~b.bits &&& b.bits = 0 := by
    rw [UInt16.and_assoc, UInt16.not_and_self, UInt16.and_zero]
  simp only [contains, without, gone, beq_eq_false_iff_ne]
  exact some.symm

theorem intersects_of_contains (has : a.contains b = true) (among : c.contains b = true)
    (some : b.bits ≠ 0) : a.intersects c = true := by
  simp only [contains, beq_iff_eq] at has among
  simp only [intersects, bne_iff_ne]
  intro apart
  apply some
  rw [← has, ← among, ← UInt16.and_assoc, apart, UInt16.zero_and]

theorem pendingDelete_bits : pendingDelete.bits ≠ 0 := by decide

end Status

namespace HostDeletion

variable {q : Request} {h : Host}

theorem marked_isPendingDelete (h : Host) : (marked h).isPendingDelete = true :=
  Status.union_contains _ _

/-- Nobody, superusers included, is allowed to ask for a host that waits already. -/
theorem isPendingDelete_of_allowed (allowed : checkHost q h = .ok ()) :
    h.isPendingDelete = false := by
  cases waits : h.isPendingDelete with
  | false => rfl
  | true =>
    have prohibits : h.status.intersects prohibiting = true :=
      Status.intersects_of_contains waits (by decide) Status.pendingDelete_bits
    unfold checkHost at allowed
    rw [prohibits] at allowed
    split at allowed
    · cases allowed
    · cases allowed

theorem request_asyncDelete (s : State) (jobId : String) (q : Request) :
    (request s jobId q).2.queues.asyncDelete =
      match (request s jobId q).1 with
      | .ok job => s.queues.asyncDelete.offer job
      | .error _ => s.queues.asyncDelete := by
  unfold request State.transact work
  cases admitted s.store.begin.reader q with
  | error r => rfl
  | ok h => rfl

end HostDeletion

namespace DeletionJob

theorem decided_isPendingDelete (outcome : JobOutcome) (h : Host) (now : Instant) :
    (decided outcome h now).isPendingDelete = false :=
  Status.without_contains _ Status.pendingDelete_bits

/-- A job decides about its host if that still waits, and else does nothing. -/
theorem commit_waiting_or_idle (s : State) (q : DeletionRequest) (referenced : Bool)
    (now : Instant) :
    (∃ h outcome, s.store.committed.hosts.get? q.target = some h ∧ h.isActive now = true
        ∧ h.isPendingDelete = true
        ∧ (commit s q referenced now).2.store.committed
          = settled s.store.committed q h now outcome)
      ∨ ((∀ h, s.store.committed.hosts.get? q.target = some h → h.isActive now = true →
            h.isPendingDelete = false)
        ∧ (commit s q referenced now).2.store.committed = s.store.committed) := by
  have unchanged : (s.commit s.store.begin).store.committed = s.store.committed :=
    (Store.commit_committed _ _).trans (Writes.apply_of_isEmpty rfl _)
  rw [commit_eq]
  cases found : s.store.committed.hosts.get? q.target with
  | none =>
    refine Or.inr ⟨?_, unchanged⟩
    rintro h ⟨⟩
  | some h =>
    dsimp only
    unfold abandonReason?
    cases active : h.isActive now with
    | false =>
      refine Or.inr ⟨?_, unchanged⟩
      rintro g ⟨⟩ alive
      rw [active] at alive
      cases alive
    | true =>
      cases waits : h.isPendingDelete with
      | false =>
        refine Or.inr ⟨?_, unchanged⟩
        rintro g ⟨⟩ _
        exact waits
      | true =>
        refine Or.inl ⟨h, verdictIn s.store.committed q referenced h now, rfl, active, waits, ?_⟩
        change (s.commit (record q h now _ s.store.begin)).store.committed = _
        rw [State.commit, Store.commit_committed, record_begin]

end DeletionJob

end DomainRegistry
