import DomainRegistry.Proofs.Flows.Creation
import DomainRegistry.Proofs.Flows.Deletion

/-!
Runs of a registry: creations, requests for deletion and deletion jobs, one after the other in any
order. Main statement: what each operation of a run keeps as time goes on, the whole run keeps.
-/

namespace DomainRegistry

structure Job where
  request : DeletionRequest
  progress : JobProgress
  deriving DecidableEq

structure World where
  state : State
  jobs : List Job := []

inductive Operation where
  | create (q : CreateRequest)
  | requestDeletion (jobId : String) (q : HostDeletion.Request)
  /-- A job for any request, new or with progress that was kept from before. -/
  | start (job : Job)
  /-- Partitions answer in the given order. -/
  | scan (job : Nat) (order : List Nat) (now : Instant)
  /-- The scan of some partitions may break down. -/
  | resume (job : Nat) (order : List Nat) (broken : List Nat) (now : Instant)
  | commit (job : Nat) (referenced : Bool) (now : Instant)

structure Commit where
  request : DeletionRequest
  referenced : Bool
  now : Instant
  deriving DecidableEq

def Operation.time? : Operation → Option Instant
  | create q => some q.now
  | requestDeletion _ q => some q.now
  | start _ => none
  | scan _ _ now => some now
  | resume _ _ _ now => some now
  | commit _ _ now => some now

/-- The time of an operation, or of the one before it if it takes place at no time of its own. -/
def Operation.timeAfter (t : Instant) (op : Operation) : Instant := op.time?.getD t

def Chronological (t : Instant) : List Operation → Prop
  | [] => True
  | op :: ops => t ≤ op.timeAfter t ∧ Chronological (op.timeAfter t) ops

def decideChronological (t : Instant) : (ops : List Operation) → Decidable (Chronological t ops)
  | [] => .isTrue trivial
  | op :: ops =>
    have := decideChronological (op.timeAfter t) ops
    inferInstanceAs (Decidable (_ ∧ _))

instance (t : Instant) (ops : List Operation) : Decidable (Chronological t ops) :=
  decideChronological t ops

def lastTime (t : Instant) (ops : List Operation) : Instant := ops.foldl Operation.timeAfter t

namespace World

def tables (w : World) : Tables := w.state.store.committed

/-- What the partitions answer to a job, those aside whose scan breaks down. -/
def answers (w : World) (j : Job) (broken : List Nat) (now : Instant) (n : Nat) : Option Bool :=
  if n ∈ broken then none
  else some (JobProgress.scanPartition w.tables j.request.target n j.progress.partitions now)

/-- A job that is over does not commit again, nor does one whose scan breaks down. -/
def resumed? (w : World) (j : Job) (order broken : List Nat) (now : Instant) : Option Commit :=
  match j.progress.outcome with
  | some _ => none
  | none =>
    let (p, went) := j.progress.scanWith (w.answers j broken now) order
    if went then some ⟨j.request, p.referenced, now⟩ else none

def commit? (w : World) : Operation → Option Commit
  | .resume i order broken now => w.jobs[i]?.bind fun j => w.resumed? j order broken now
  | .commit i referenced now => w.jobs[i]?.map fun j => ⟨j.request, referenced, now⟩
  | _ => none

def advance (w : World) (i : Nat) (p : JobProgress) : World :=
  { w with jobs := w.jobs.modify i fun j => { j with progress := p } }

def step (a : Admission) (w : World) : Operation → World
  | .create q => { w with state := (Creation.run a w.state q).2 }
  | .requestDeletion jobId q => { w with state := (HostDeletion.request w.state jobId q).2 }
  | .start job => { w with jobs := w.jobs ++ [job] }
  | .scan i order now =>
    match w.jobs[i]? with
    | none => w
    | some j => w.advance i (j.progress.scanIn w.tables j.request.target now order)
  | .resume i order broken now =>
    match w.jobs[i]? with
    | none => w
    | some j =>
      let (_, p, state) :=
        j.progress.resumeWith (w.answers j broken now) order w.state j.request now
      { w with state }.advance i p
  | .commit i referenced now =>
    match w.jobs[i]? with
    | none => w
    | some j => { w with state := (DeletionJob.commit w.state j.request referenced now).2 }

def run (a : Admission) (w : World) (ops : List Operation) : World := ops.foldl (step a) w

def seeded (cached : Bool) (ids : RepoId.Allocator) (queues : TaskQueues)
    (seeds : List Fixtures) : World :=
  ⟨⟨seeds.foldl Store.seed (.empty cached ids), queues⟩, []⟩

end World

variable {a : Admission} {t : Instant} {w : World} {op : Operation} {ops : List Operation}

theorem chronological_append {more : List Operation} :
    Chronological t (ops ++ more) ↔ Chronological t ops ∧ Chronological (lastTime t ops) more := by
  induction ops generalizing t with
  | nil => simp [Chronological, lastTime]
  | cons op ops ih =>
    simp only [List.cons_append, Chronological, ih, and_assoc]
    rfl

theorem lastTime_append (more : List Operation) :
    lastTime t (ops ++ more) = lastTime (lastTime t ops) more :=
  List.foldl_append

namespace World

theorem run_append (more : List Operation) :
    run a w (ops ++ more) = run a (run a w ops) more :=
  List.foldl_append

theorem run_induction {P : Instant → World → Prop}
    (kept : ∀ t w op, P t w → t ≤ op.timeAfter t → P (op.timeAfter t) (step a w op))
    (start : P t w) (ordered : Chronological t ops) : P (lastTime t ops) (run a w ops) := by
  induction ops generalizing t w with
  | nil => exact start
  | cons op ops ih => exact ih (kept t w op start ordered.1) ordered.2

theorem commit?_timeAfter {c : Commit} (commits : w.commit? op = some c) :
    op.timeAfter t = c.now := by
  cases op with
  | create q => cases commits
  | requestDeletion jobId q => cases commits
  | start job => cases commits
  | scan i order now => cases commits
  | resume i order broken now =>
    obtain ⟨j, _, resumed⟩ := Option.bind_eq_some_iff.mp commits
    unfold resumed? at resumed
    split at resumed
    · cases resumed
    · dsimp only at resumed
      split at resumed
      · cases resumed; rfl
      · cases resumed
  | commit i referenced now =>
    obtain ⟨j, _, rfl⟩ := Option.map_eq_some_iff.mp commits
    rfl

def committed (w : World) : Option Commit → State
  | some c => (DeletionJob.commit w.state c.request c.referenced c.now).2
  | none => w.state

theorem resumeWith_state (w : World) (j : Job) (order broken : List Nat) (now : Instant) :
    (j.progress.resumeWith (w.answers j broken now) order w.state j.request now).2.2
      = w.committed (w.resumed? j order broken now) := by
  unfold JobProgress.resumeWith resumed?
  cases j.progress.outcome with
  | some outcome => rfl
  | none =>
    dsimp only [JobProgress.finish]
    split <;> rfl

theorem resume_state {i : Nat} {order broken : List Nat} {now : Instant} :
    (step a w (.resume i order broken now)).state
      = w.committed (w.commit? (.resume i order broken now)) := by
  dsimp only [step, commit?]
  cases w.jobs[i]? with
  | none => rfl
  | some j => exact resumeWith_state w j order broken now

theorem commit_state {i : Nat} {referenced : Bool} {now : Instant} :
    (step a w (.commit i referenced now)).state
      = w.committed (w.commit? (.commit i referenced now)) := by
  dsimp only [step, commit?]
  cases w.jobs[i]? <;> rfl

theorem step_of_commit? {c : Commit} (commits : w.commit? op = some c) :
    (step a w op).state = (DeletionJob.commit w.state c.request c.referenced c.now).2 := by
  cases op with
  | create q => cases commits
  | requestDeletion jobId q => cases commits
  | start job => cases commits
  | scan i order now => cases commits
  | resume i order broken now => rw [resume_state, commits]; rfl
  | commit i referenced now => rw [commit_state, commits]; rfl

inductive Effect (a : Admission) (w : World) : Operation → Tables → Prop
  | none (op : Operation) (idle : w.commit? op = none) : Effect a w op w.tables
  | create (q : CreateRequest) (after : Tables)
      (effect : Creation.Effect a w.tables q (Creation.run a w.state q).1.result after) :
      Effect a w (.create q) after
  | request (jobId : String) (q : HostDeletion.Request) (after : Tables)
      (effect : HostDeletion.Effect w.tables jobId q (HostDeletion.request w.state jobId q).1 after) :
      Effect a w (.requestDeletion jobId q) after
  | commit (op : Operation) (c : Commit) (after : Tables) (commits : w.commit? op = some c)
      (effect : DeletionJob.Effect w.tables c.request c.referenced c.now
        (DeletionJob.commit w.state c.request c.referenced c.now).1 after) :
      Effect a w op after

theorem committed_effect (op : Operation) :
    Effect a w op (w.committed (w.commit? op)).store.committed := by
  cases commits : w.commit? op with
  | none => exact .none op commits
  | some c => exact .commit op c _ commits (DeletionJob.commit_effect ..)

theorem step_effect (a : Admission) (w : World) (op : Operation) :
    Effect a w op (step a w op).tables := by
  cases op with
  | create q => exact .create q _ (Creation.run_effect a w.state q)
  | requestDeletion jobId q =>
    exact .request jobId q _ (HostDeletion.request_effect w.state jobId q)
  | start job => exact .none _ rfl
  | scan i order now =>
    have same : (step a w (.scan i order now)).tables = w.tables := by
      dsimp only [step]
      split <;> rfl
    rw [same]
    exact .none _ rfl
  | resume i order broken now =>
    rw [tables, resume_state]
    exact committed_effect _
  | commit i referenced now =>
    rw [tables, commit_state]
    exact committed_effect _

theorem step_keyed (op : Operation) (keyed : w.tables.Keyed) : (step a w op).tables.Keyed := by
  have effect := step_effect a w op
  generalize (step a w op).tables = after at effect
  cases effect with
  | none op idle => exact keyed
  | create q after effect => exact effect.keyed keyed
  | request jobId q after effect => exact effect.keyed keyed
  | commit op c after commits effect => exact effect.keyed keyed

theorem run_keyed (ops : List Operation) (keyed : w.tables.Keyed) :
    (run a w ops).tables.Keyed := by
  induction ops generalizing w with
  | nil => exact keyed
  | cons op ops ih => exact ih (step_keyed op keyed)

theorem seed_keyed {s : Store} (keyed : s.committed.Keyed) (x : Fixtures) :
    (s.seed x).committed.Keyed :=
  Tables.foldl_keeps (fun _ d keyed => keyed.insertDomain d)
    (Tables.foldl_keeps (fun _ h keyed => keyed.insertHost h)
      (Tables.foldl_keeps (fun _ c keyed => keyed.insertContact c) keyed _) _) _

theorem seeded_keyed (cached : Bool) (ids : RepoId.Allocator) (queues : TaskQueues)
    (seeds : List Fixtures) : (seeded cached ids queues seeds).tables.Keyed := by
  change (seeds.foldl Store.seed (.empty cached ids)).committed.Keyed
  generalize start : Store.empty cached ids = s
  have keyed : s.committed.Keyed := start ▸ Tables.keyed_empty
  clear start
  induction seeds generalizing s with
  | nil => exact keyed
  | cons x seeds ih => exact ih _ (seed_keyed keyed x)

end World

end DomainRegistry
