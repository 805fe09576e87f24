import DomainRegistry.Deletion.Job

/-!
The first phase of a deletion job: the partitions of the domains are scanned, in any order, until
one of them holds a domain that refers to the host. What has been scanned is kept, so that a job can
be taken up again.
-/

namespace DomainRegistry

structure JobProgress where
  target : String
  partitions : Nat
  /-- The partitions that have been scanned. -/
  completed : SortedSet Nat := .empty
  /-- Whether one of them refers to the host. -/
  referenced : Bool := false
  outcome : Option JobOutcome := none
  deriving DecidableEq

namespace JobProgress

/-- A job of which nothing is done; no partitions count as one. -/
def start (target : String) (partitions : Nat) : JobProgress :=
  { target, partitions := max partitions 1 }

def isScanned (p : JobProgress) : Bool :=
  p.referenced || decide (p.partitions ≤ p.completed.size)

def pending (p : JobProgress) : List Nat :=
  (List.range p.partitions).filter fun n => !p.completed.contains n

def scanPartition (t : Tables) (target : String) (partition partitions : Nat) (now : Instant) :
    Bool :=
  DeletionJob.isReferenced (t.domainsIn partition partitions) target now

/--
Notes the answers of partitions in the order they come in, up to the first that refers to the host.
An answer that fails to come ends the scan.
-/
def note (answer : Nat → Option Bool) : (order : List Nat) → JobProgress → JobProgress × Bool
  | [], p => (p, true)
  | n :: order, p =>
    match answer n with
    | none => (p, false)
    | some true => ({ p with completed := p.completed.insert n, referenced := true }, true)
    | some false => note answer order { p with completed := p.completed.insert n }

/-- Scans with given answers, unless the scan is over; and whether all went well. -/
def scanWith (answer : Nat → Option Bool) (order : List Nat) (p : JobProgress) :
    JobProgress × Bool :=
  if p.isScanned then (p, true) else note answer order p

def scanIn (t : Tables) (target : String) (now : Instant) (order : List Nat) (p : JobProgress) :
    JobProgress :=
  (scanWith (fun n => some (scanPartition t target n p.partitions now)) order p).1

def scan (t : Tables) (target : String) (now : Instant) (p : JobProgress) : JobProgress :=
  p.scanIn t target now p.pending

def finish (s : State) (q : DeletionRequest) (now : Instant) (scanned : JobProgress × Bool) :
    JobOutcome × JobProgress × State :=
  let (p, went) := scanned
  if went then
    let (outcome, s) := DeletionJob.commit s q p.referenced now
    (outcome, { p with outcome := some outcome }, s)
  else
    let outcome := JobOutcome.abandoned .scanFailed
    (outcome, { p with outcome := some outcome }, s)

/-- Takes up a job, with given answers of the partitions; a job that is over keeps its outcome. -/
def resumeWith (answer : Nat → Option Bool) (order : List Nat) (s : State) (q : DeletionRequest)
    (now : Instant) (p : JobProgress) : JobOutcome × JobProgress × State :=
  match p.outcome with
  | some outcome => (outcome, p, s)
  | none => finish s q now (scanWith answer order p)

def resumeIn (order : List Nat) (s : State) (q : DeletionRequest) (now : Instant) (p : JobProgress) :
    JobOutcome × JobProgress × State :=
  resumeWith (fun n => some (scanPartition s.snapshot q.target n p.partitions now)) order s q now p

def resume (s : State) (q : DeletionRequest) (now : Instant) (p : JobProgress) :
    JobOutcome × JobProgress × State :=
  resumeIn p.pending s q now p

end JobProgress

theorem JobProgress.resume_asyncDelete (s : State) (q : DeletionRequest) (now : Instant)
    (p : JobProgress) : (p.resume s q now).2.2.queues.asyncDelete = s.queues.asyncDelete := by
  dsimp only [resume, resumeIn, resumeWith]
  split
  · rfl
  · dsimp only [finish]
    split
    · exact DeletionJob.commit_asyncDelete _ _ _ _
    · rfl

def DeletionJob.run (s : State) (partitions : Nat) (q : DeletionRequest) (now : Instant) :
    JobOutcome × State :=
  let (outcome, _, s) := JobProgress.resume s q now (.start q.target partitions)
  (outcome, s)

theorem DeletionJob.run_asyncDelete (s : State) (partitions : Nat) (q : DeletionRequest)
    (now : Instant) : (run s partitions q now).2.queues.asyncDelete = s.queues.asyncDelete :=
  JobProgress.resume_asyncDelete s q now (.start q.target partitions)

end DomainRegistry
