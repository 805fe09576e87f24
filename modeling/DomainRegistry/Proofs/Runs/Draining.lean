import DomainRegistry.Deletion.Worker
import DomainRegistry.Proofs.Runs.Scans

/-!
How the worker works its queue off. Main statement: every request on the queue is processed once and
in its turn, and neither the size of the batches nor the number of the partitions, nor the order in
which these answer, makes a difference to what comes of it.
-/

namespace DomainRegistry

def State.withRequests (s : State) (tasks : List DeletionRequest) : State :=
  { s with queues.asyncDelete.tasks := tasks }

namespace DeletionJob

variable {s : State} {q : DeletionRequest} {now : Instant}

/-- A job neither sees nor changes what waits on the queue. -/
theorem commit_withRequests (s : State) (q : DeletionRequest) (referenced : Bool) (now : Instant)
    (tasks : List DeletionRequest) :
    commit (s.withRequests tasks) q referenced now
      = ((commit s q referenced now).1, (commit s q referenced now).2.withRequests tasks) := by
  have queued := decide_tasks q referenced now s.store.begin
  have none : s.store.begin.tasks = [] := rfl
  rw [none] at queued
  simp only [commit, State.commit]
  refine Prod.ext rfl ?_
  change State.mk _ _ = State.withRequests _ _
  rcases queued with same | ⟨name, more⟩
  · simp only [State.withRequests, same, List.foldl_nil]
  · simp only [State.withRequests, more, List.nil_append, List.foldl_cons, List.foldl_nil]
    rfl

theorem resumeIn_start (s : State) (now : Instant) {partitions : Nat} {order : List Nat}
    (all : order.Perm (JobProgress.start q.target partitions).pending) :
    ∃ p, (JobProgress.start q.target partitions).resumeIn order s q now
      = ((commitAtOnce s q now).1, p, (commitAtOnce s q now).2) := by
  have underway : (JobProgress.start q.target partitions).Underway s.snapshot q.target now
      partitions := .start
  obtain ⟨outcome, after⟩ := underway.resume all
  exact ⟨_, Prod.ext outcome (Prod.ext rfl after)⟩

theorem run_eq_commitAtOnce (s : State) (partitions : Nat) (q : DeletionRequest) (now : Instant) :
    run s partitions q now = commitAtOnce s q now := by
  obtain ⟨p, resumed⟩ := resumeIn_start s now
    (.refl (JobProgress.start q.target partitions).pending)
  rw [run, JobProgress.resume, resumed]

theorem commitAtOnce_withRequests (s : State) (q : DeletionRequest) (now : Instant)
    (tasks : List DeletionRequest) :
    commitAtOnce (s.withRequests tasks) q now
      = ((commitAtOnce s q now).1, (commitAtOnce s q now).2.withRequests tasks) :=
  commit_withRequests s q _ now tasks

end DeletionJob

namespace DeletionWorker

variable {partitions batch : Nat} {now : Instant} {s last : State} {q : DeletionRequest}
  {qs : List DeletionRequest} {results : Results}

/-- A queue worked off one request at a time; the partitions of each scan answer in any order. -/
inductive OneByOne (partitions : Nat) (now : Instant) : State → Results → State → Prop
  | done {s : State} (empty : s.queues.asyncDelete.tasks = []) : OneByOne partitions now s [] s
  | next {s last : State} {q : DeletionRequest} {qs : List DeletionRequest} {results : Results}
      {outcome : JobOutcome} {progress : JobProgress} {after : State} (order : List Nat)
      (first : s.queues.asyncDelete.tasks = q :: qs)
      (all : order.Perm (JobProgress.start q.target partitions).pending)
      (processed : (JobProgress.start q.target partitions).resumeIn order (s.withRequests qs) q now
        = (outcome, progress, after))
      (rest : OneByOne partitions now after results last) :
      OneByOne partitions now s ((q, outcome) :: results) last

theorem processAll_cons (partitions : Nat) (now : Instant) (s : State) (q : DeletionRequest)
    (qs : List DeletionRequest) :
    processAll partitions now s (q :: qs) =
      ((q, (DeletionJob.commitAtOnce s q now).1)
          :: (processAll partitions now (DeletionJob.commitAtOnce s q now).2 qs).1,
        (processAll partitions now (DeletionJob.commitAtOnce s q now).2 qs).2) := by
  rw [processAll, DeletionJob.run_eq_commitAtOnce]

theorem processAll_append (partitions : Nat) (now : Instant) (s : State)
    (qs more : List DeletionRequest) :
    processAll partitions now s (qs ++ more) =
      ((processAll partitions now s qs).1
          ++ (processAll partitions now (processAll partitions now s qs).2 more).1,
        (processAll partitions now (processAll partitions now s qs).2 more).2) := by
  induction qs generalizing s with
  | nil => rfl
  | cons q qs ih => rw [List.cons_append, processAll_cons, processAll_cons, ih]; rfl

theorem processAll_withRequests (partitions : Nat) (now : Instant) (s : State)
    (qs tasks : List DeletionRequest) :
    processAll partitions now (s.withRequests tasks) qs =
      ((processAll partitions now s qs).1,
        (processAll partitions now s qs).2.withRequests tasks) := by
  induction qs generalizing s with
  | nil => rfl
  | cons q qs ih =>
    rw [processAll_cons, processAll_cons, DeletionJob.commitAtOnce_withRequests, ih]

theorem processAll_partitions (partitions others : Nat) (now : Instant) (s : State)
    (qs : List DeletionRequest) :
    processAll partitions now s qs = processAll others now s qs := by
  induction qs generalizing s with
  | nil => rfl
  | cons q qs ih => rw [processAll_cons, processAll_cons, ih]

theorem processAll_requests (partitions : Nat) (now : Instant) (s : State)
    (qs : List DeletionRequest) :
    (processAll partitions now s qs).1.map Prod.fst = qs := by
  induction qs generalizing s with
  | nil => rfl
  | cons q qs ih => rw [processAll_cons, List.map_cons, ih]

theorem processAll_tasks (partitions : Nat) (now : Instant) (s : State)
    (qs : List DeletionRequest) :
    (processAll partitions now s qs).2.withRequests s.queues.asyncDelete.tasks
      = (processAll partitions now s qs).2 := by
  rw [← processAll_asyncDelete partitions now s qs]
  rfl

/-- Batch by batch, the queue is worked off as if its requests had been taken off all at once. -/
theorem drain_eq_processAll (partitions batch : Nat) (now : Instant) (s : State) :
    drain partitions batch now s
      = processAll partitions now (s.withRequests []) s.queues.asyncDelete.tasks := by
  induction s using drain.induct partitions batch now with
  | case1 s empty =>
    have none : s.queues.asyncDelete.tasks = [] := by
      have bound : max batch 1 ≠ 0 := by omega
      simpa [lease, Queue.lease, bound] using empty
    rw [drain, if_pos empty, none, processAll]
    have same : s.withRequests s.queues.asyncDelete.tasks = s := rfl
    rw [none] at same
    rw [same]
  | case2 s filled first ih =>
    -- While a batch is processed, the requests behind it wait on the queue and make no difference.
    have batched : first = ((processAll partitions now (s.withRequests [])
          (s.queues.asyncDelete.tasks.take (max batch 1))).1,
        (processAll partitions now (s.withRequests [])
          (s.queues.asyncDelete.tasks.take (max batch 1))).2.withRequests
            (s.queues.asyncDelete.tasks.drop (max batch 1))) :=
      processAll_withRequests partitions now (s.withRequests []) _ _
    have emptied := processAll_tasks partitions now (s.withRequests [])
      (s.queues.asyncDelete.tasks.take (max batch 1))
    have whole := List.take_append_drop (max batch 1) s.queues.asyncDelete.tasks
    rw [drain, if_neg filled]
    change (first.1 ++ (drain partitions batch now first.2).1,
      (drain partitions batch now first.2).2) = _
    rw [ih, batched]
    conv_rhs => rw [← whole, processAll_append, ← emptied]
    rfl

theorem OneByOne.eq_processAll (work : OneByOne partitions now s results last) :
    (results, last) = processAll partitions now (s.withRequests []) s.queues.asyncDelete.tasks := by
  induction work with
  | @done s empty =>
    have same : s.withRequests s.queues.asyncDelete.tasks = s := rfl
    rw [empty] at same
    rw [empty, processAll, same]
  | @next s last q qs results outcome progress after order first all processed rest ih =>
    obtain ⟨p, atOnce⟩ := DeletionJob.resumeIn_start (s.withRequests qs) now all
    rw [processed, DeletionJob.commitAtOnce_withRequests] at atOnce
    cases atOnce
    rw [first, processAll_cons, DeletionJob.commitAtOnce_withRequests]
    exact congrArg (fun rest => ((q, _) :: rest.1, rest.2)) ih

theorem oneByOne_processAll (partitions : Nat) (now : Instant) (s : State) :
    OneByOne partitions now s
      (processAll partitions now (s.withRequests []) s.queues.asyncDelete.tasks).1
      (processAll partitions now (s.withRequests []) s.queues.asyncDelete.tasks).2 := by
  induction tasks : s.queues.asyncDelete.tasks generalizing s with
  | nil =>
    have same : s.withRequests s.queues.asyncDelete.tasks = s := rfl
    rw [tasks] at same
    rw [processAll, same]
    exact .done tasks
  | cons q qs ih =>
    have later := ih ((DeletionJob.commitAtOnce s q now).2.withRequests qs) rfl
    obtain ⟨p, processed⟩ := DeletionJob.resumeIn_start (s.withRequests qs) now
      (.refl (JobProgress.start q.target partitions).pending)
    rw [DeletionJob.commitAtOnce_withRequests] at processed
    rw [processAll_cons, DeletionJob.commitAtOnce_withRequests]
    exact .next (JobProgress.start q.target partitions).pending tasks (.refl _) processed later

/-- The queue is worked off in one way only, which is how the worker does it in any batches. -/
theorem drained_in_order (partitions batch : Nat) (now : Instant) (s : State) :
    (∀ results last, OneByOne partitions now s results last
        ↔ (results, last) = drain partitions batch now s)
      ∧ (drain partitions batch now s).1.map Prod.fst = s.queues.asyncDelete.tasks
      ∧ (drain partitions batch now s).2.queues.asyncDelete
        = { s.queues.asyncDelete with tasks := [] }
      ∧ ∀ others other, drain others other now s = drain partitions batch now s := by
  rw [drain_eq_processAll]
  refine ⟨?_, ?_, ?_, ?_⟩
  · intro results last
    constructor
    · exact OneByOne.eq_processAll
    · intro same
      have work := oneByOne_processAll partitions now s
      rw [← same] at work
      exact work
  · exact processAll_requests partitions now _ _
  · exact processAll_asyncDelete partitions now (s.withRequests []) _
  · intro others other
    rw [drain_eq_processAll]
    exact processAll_partitions others partitions now _ _

end DeletionWorker

end DomainRegistry
