import DomainRegistry.Deletion.Progress

/-!
The worker that runs queued deletion jobs, batch by batch, until the queue is empty.
-/

namespace DomainRegistry.DeletionWorker

abbrev Results := List (DeletionRequest × JobOutcome)

def processAll (partitions : Nat) (now : Instant) : State → List DeletionRequest → Results × State
  | s, [] => ([], s)
  | s, q :: qs =>
    let (outcome, s) := DeletionJob.run s partitions q now
    let (results, s) := processAll partitions now s qs
    ((q, outcome) :: results, s)

theorem processAll_asyncDelete (partitions : Nat) (now : Instant) (s : State)
    (qs : List DeletionRequest) :
    (processAll partitions now s qs).2.queues.asyncDelete = s.queues.asyncDelete := by
  induction qs generalizing s with
  | nil => rfl
  | cons q qs ih =>
    dsimp only [processAll]
    rw [ih]
    exact DeletionJob.run_asyncDelete s partitions q now

def lease (s : State) (batch : Nat) : List DeletionRequest × State :=
  let (leased, queue) := s.queues.asyncDelete.lease batch
  (leased, { s with queues := { s.queues with asyncDelete := queue } })

/-- Works the queue off; an empty batch counts as one request. -/
def drain (partitions batch : Nat) (now : Instant) (s : State) : Results × State :=
  if (lease s (max batch 1)).1.isEmpty then ([], s)
  else
    let first := processAll partitions now (lease s (max batch 1)).2 (lease s (max batch 1)).1
    let rest := drain partitions batch now first.2
    (first.1 ++ rest.1, rest.2)
termination_by s.queues.asyncDelete.tasks.length
decreasing_by
  rename_i filled
  rw [processAll_asyncDelete]
  simp only [lease, Queue.lease, List.isEmpty_iff, List.take_eq_nil_iff, not_or] at filled ⊢
  have : 0 < s.queues.asyncDelete.tasks.length := List.length_pos_iff.mpr filled.2
  rw [List.length_drop]
  omega

def defaultBatch : Nat := 16

def finish (partitions batch : Nat) (now : Instant) (s : State) : Results × State :=
  drain partitions batch now
    { s with queues := { s.queues with asyncDelete := s.queues.asyncDelete.close } }

end DomainRegistry.DeletionWorker
