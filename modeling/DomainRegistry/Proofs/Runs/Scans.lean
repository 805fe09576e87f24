import DomainRegistry.Proofs.Flows.Scan
import DomainRegistry.Proofs.Runs.Deletions

/-!
Scans that are interrupted and taken up again. Main statement: as long as nothing changes meanwhile,
a job ends as if it had looked at all domains and committed at once, and even if things do change, a
reference that it is blocked by was there when it looked.
-/

namespace DomainRegistry

/-- A look at all domains and a commit in one go. -/
def DeletionJob.commitAtOnce (s : State) (q : DeletionRequest) (now : Instant) :
    JobOutcome × State :=
  commit s q (isReferenced s.snapshot.domains.values q.target now) now

namespace JobProgress

variable {t : Tables} {target : String} {now : Instant} {partitions : Nat} {p : JobProgress}

/-- A job that has been started, and interrupted each time that some partitions had answered. -/
inductive Underway (t : Tables) (target : String) (now : Instant) (partitions : Nat) :
    JobProgress → Prop
  | start : Underway t target now partitions (.start target partitions)
  | interrupted (p : JobProgress) (order : List Nat) (before : Underway t target now partitions p)
      (some : ∀ n ∈ order, n ∈ p.pending) :
      Underway t target now partitions (p.scanIn t target now order)

theorem lt_of_pending {n : Nat} (waits : n ∈ p.pending) : n < p.partitions :=
  List.mem_range.mp (List.mem_filter.mp waits).1

theorem Underway.consistent (underway : Underway t target now partitions p) :
    Consistent t target now p := by
  induction underway with
  | start => exact .start t target now partitions
  | interrupted p order _ some known =>
    refine known.scanIn ?_
    intro n listed
    exact lt_of_pending (some n listed)

theorem Underway.resume {s : State} {q : DeletionRequest} {order : List Nat}
    (underway : Underway s.snapshot q.target now partitions p) (all : order.Perm p.pending) :
    (p.resumeIn order s q now).1 = (DeletionJob.commitAtOnce s q now).1
      ∧ (p.resumeIn order s q now).2.2 = (DeletionJob.commitAtOnce s q now).2 := by
  have known := underway.consistent
  rw [resumeIn_eq known.fresh]
  dsimp only
  rw [known.referenced_eq all]
  exact ⟨rfl, rfl⟩

theorem resumeWith_outcome (answer : Nat → Option Bool) (order : List Nat) (s : State)
    (q : DeletionRequest) (now : Instant) (p : JobProgress) :
    (p.resumeWith answer order s q now).2.1.outcome
      = some (p.resumeWith answer order s q now).1 := by
  unfold resumeWith
  cases finished : p.outcome with
  | some outcome => exact finished
  | none =>
    dsimp only [finish]
    split
    · rfl
    · rfl

end JobProgress

theorem DeletionJob.refersTo_of_blocked {s : State} {q : DeletionRequest} {referenced : Bool}
    {now : Instant} (blocked : (commit s q referenced now).1 = .blockedByReference) :
    referenced = true ∨ s.store.committed.RefersTo q.target now := by
  rw [commit_eq] at blocked
  cases found : s.store.committed.hosts.get? q.target with
  | none =>
    rw [found] at blocked
    cases blocked
  | some h =>
    rw [found] at blocked
    dsimp only at blocked
    cases waits : abandonReason? h now with
    | some reason =>
      rw [waits] at blocked
      cases blocked
    | none =>
      rw [waits] at blocked
      dsimp only [verdictIn, verdict] at blocked
      split at blocked
      · next either =>
        rcases (Bool.or_eq_true _ _).mp either with known | seen
        · exact Or.inl known
        · exact Or.inr (isReferenced_iff.mp seen)
      · split at blocked <;> cases blocked

namespace World

variable {a : Admission} {w : World} {i : Nat} {q : DeletionRequest} {seen : Prop} {j : Job}

def resumption (w : World) (j : Job) (order broken : List Nat) (now : Instant) :
    JobOutcome × JobProgress × State :=
  j.progress.resumeWith (w.answers j broken now) order w.state j.request now

/--
When a job looks at the domains, if an operation has it do so. Changes between the scan of a job and
its commit are changes after the scan and before the job is taken up.
-/
def looks? (w : World) (i : Nat) : Operation → Option Instant
  | .scan k _ now =>
    if k = i ∧ w.jobs[i]?.any (fun j => !j.progress.isScanned) then some now else none
  | .resume k _ _ now =>
    if k = i ∧ w.jobs[i]?.any (fun j => j.progress.outcome.isNone) then some now else none
  | _ => none

def Sights (w : World) (i : Nat) (target : String) (op : Operation) : Prop :=
  ∃ now, w.looks? i op = some now ∧ w.tables.RefersTo target now

def SightsIn (a : Admission) (w : World) (i : Nat) (target : String) (ops : List Operation) :
    Prop :=
  ∃ before op after, ops = before ++ op :: after ∧ (w.run a before).Sights i target op

structure Warranted (seen : Prop) (q : DeletionRequest) (j : Job) : Prop where
  request : j.request = q
  referenced : j.progress.referenced = true → seen
  blocked : j.progress.outcome = some .blockedByReference → seen

theorem Warranted.mono {more : Prop} (warranted : Warranted seen q j) (weaker : seen → more) :
    Warranted more q j :=
  ⟨warranted.request, weaker ∘ warranted.referenced, weaker ∘ warranted.blocked⟩

theorem sighted_of_scanWith {order broken : List Nat} {now : Instant}
    (noted : (j.progress.scanWith (w.answers j broken now) order).1.referenced = true) :
    j.progress.referenced = true
      ∨ (j.progress.isScanned = false ∧ w.tables.RefersTo j.request.target now) := by
  unfold JobProgress.scanWith at noted
  cases finished : j.progress.isScanned with
  | true =>
    rw [finished] at noted
    exact Or.inl noted
  | false =>
    rw [finished] at noted
    rcases JobProgress.answered_of_note noted with before | ⟨n, _, told⟩
    · exact Or.inl before
    · unfold answers at told
      split at told
      · cases told
      · exact Or.inr ⟨rfl, JobProgress.refersTo_of_scanPartition (Option.some.inj told)⟩

theorem scanIn_eq (w : World) (j : Job) (order : List Nat) (now : Instant) :
    j.progress.scanIn w.tables j.request.target now order
      = (j.progress.scanWith (w.answers j [] now) order).1 := by
  have whole : w.answers j [] now = fun n =>
      some (JobProgress.scanPartition w.tables j.request.target n j.progress.partitions now) := by
    funext n
    simp [answers]
  rw [whole]
  rfl

theorem Warranted.scanned {order : List Nat} {now : Instant} (warranted : Warranted seen q j)
    (here : w.jobs[i]? = some j) :
    Warranted (seen ∨ w.Sights i q.target (.scan i order now)) q
      { j with progress := j.progress.scanIn w.tables j.request.target now order } where
  request := warranted.request
  referenced noted := by
    dsimp only at noted
    rw [scanIn_eq] at noted
    rcases sighted_of_scanWith noted with before | ⟨going, refers⟩
    · exact Or.inl (warranted.referenced before)
    · refine Or.inr ⟨now, ?_, warranted.request ▸ refers⟩
      simp [looks?, here, going]
  blocked ended := by
    dsimp only at ended
    rw [JobProgress.scanIn_outcome] at ended
    exact Or.inl (warranted.blocked ended)

theorem Warranted.resumed {order broken : List Nat} {now : Instant}
    (warranted : Warranted seen q j) (here : w.jobs[i]? = some j) :
    Warranted (seen ∨ w.Sights i q.target (.resume i order broken now)) q
      { j with progress := (w.resumption j order broken now).2.1 } := by
  cases finished : j.progress.outcome with
  | some outcome =>
    have same : (w.resumption j order broken now).2.1 = j.progress := by
      simp [resumption, JobProgress.resumeWith, finished]
    rw [same]
    exact warranted.mono Or.inl
  | none =>
    have sights : w.tables.RefersTo q.target now →
        w.Sights i q.target (.resume i order broken now) := by
      intro refers
      refine ⟨now, ?_, refers⟩
      simp [looks?, here, finished]
    have scanned : (j.progress.scanWith (w.answers j broken now) order).1.referenced = true →
        seen ∨ w.Sights i q.target (.resume i order broken now) := by
      intro noted
      rcases sighted_of_scanWith noted with before | ⟨_, refers⟩
      · exact Or.inl (warranted.referenced before)
      · exact Or.inr (sights (warranted.request ▸ refers))
    have resumed : w.resumption j order broken now
        = JobProgress.finish w.state j.request now
            (j.progress.scanWith (w.answers j broken now) order) := by
      rw [resumption, JobProgress.resumeWith, finished]
    rw [resumed]
    generalize j.progress.scanWith (w.answers j broken now) order = r at scanned ⊢
    obtain ⟨p, went⟩ := r
    cases went with
    | false =>
      refine ⟨warranted.request, scanned, ?_⟩
      rintro ⟨⟩
    | true =>
      refine ⟨warranted.request, scanned, ?_⟩
      intro ended
      rcases DeletionJob.refersTo_of_blocked (Option.some.inj ended) with noted | refers
      · exact scanned noted
      · exact Or.inr (sights (warranted.request ▸ refers))

theorem jobs_advance (w : World) (k : Nat) (p : JobProgress) (here : w.jobs[i]? = some j) :
    (w.advance k p).jobs[i]? = some (if k = i then { j with progress := p } else j) := by
  simp only [advance, List.getElem?_modify, here]
  split <;> rfl

theorem step_warranted (op : Operation) (warranted : Warranted seen q j)
    (here : w.jobs[i]? = some j) :
    ∃ j', (step a w op).jobs[i]? = some j'
      ∧ Warranted (seen ∨ w.Sights i q.target op) q j' := by
  have unchanged := warranted.mono (Or.inl (b := w.Sights i q.target op))
  cases op with
  | create q' => exact ⟨j, here, unchanged⟩
  | requestDeletion jobId q' => exact ⟨j, here, unchanged⟩
  | start job =>
    have within : i < w.jobs.length := (List.getElem?_eq_some_iff.mp here).1
    exact ⟨j, (List.getElem?_append_left within).trans here, unchanged⟩
  | commit k referenced now =>
    refine ⟨j, ?_, unchanged⟩
    dsimp only [step]
    split
    · exact here
    · exact here
  | scan k order now =>
    by_cases own : k = i
    · subst own
      refine ⟨_, ?_, warranted.scanned here⟩
      simp only [step, here]
      rw [jobs_advance w k _ here, if_pos rfl]
    · refine ⟨j, ?_, unchanged⟩
      dsimp only [step]
      split
      · exact here
      · rw [jobs_advance w k _ here, if_neg own]
  | resume k order broken now =>
    by_cases own : k = i
    · subst own
      refine ⟨_, ?_, warranted.resumed here⟩
      simp only [step, here]
      exact (jobs_advance { w with state := _ } k _ here).trans (by rw [if_pos rfl]; rfl)
    · refine ⟨j, ?_, unchanged⟩
      dsimp only [step]
      split
      · exact here
      · exact (jobs_advance { w with state := _ } k _ here).trans (by rw [if_neg own])

theorem run_warranted (ops : List Operation) (warranted : Warranted seen q j)
    (here : w.jobs[i]? = some j) :
    ∃ j', (run a w ops).jobs[i]? = some j'
      ∧ Warranted (seen ∨ w.SightsIn a i q.target ops) q j' := by
  induction ops generalizing w seen j with
  | nil => exact ⟨j, here, warranted.mono Or.inl⟩
  | cons op ops ih =>
    obtain ⟨j', here', first⟩ := step_warranted (a := a) op warranted here
    obtain ⟨j'', here'', rest⟩ := ih first here'
    refine ⟨j'', here'', rest.mono ?_⟩
    rintro ((before | now) | ⟨first, op', after, rfl, later⟩)
    · exact Or.inl before
    · exact Or.inr ⟨[], op, ops, rfl, now⟩
    · exact Or.inr ⟨op :: first, op', after, rfl, later⟩

theorem sightsIn_of_blocked {partitions : Nat} {target : String} {ops : List Operation}
    {order broken : List Nat} {now : Instant}
    (started : w.jobs[i]? = some ⟨q, .start target partitions⟩)
    (here : (w.run a ops).jobs[i]? = some j)
    (blocked : ((w.run a ops).resumption j order broken now).1 = .blockedByReference) :
    w.SightsIn a i q.target (ops ++ [.resume i order broken now]) := by
  have start : Warranted False q ⟨q, .start target partitions⟩ := by
    refine ⟨rfl, ?_, ?_⟩ <;> rintro ⟨⟩
  obtain ⟨j', here', warranted⟩ :=
    run_warranted (a := a) (ops ++ [.resume i order broken now]) start started
  have after : (w.run a (ops ++ [.resume i order broken now])).jobs[i]?
      = some { j with progress := ((w.run a ops).resumption j order broken now).2.1 } := by
    rw [run_append]
    change (step a (w.run a ops) (.resume i order broken now)).jobs[i]? = _
    simp only [step, here]
    exact (jobs_advance { w.run a ops with state := _ } i _ here).trans (by rw [if_pos rfl]; rfl)
  obtain rfl := Option.some.inj (here'.symm.trans after)
  have ended := JobProgress.resumeWith_outcome ((w.run a ops).answers j broken now) order
    (w.run a ops).state j.request now j.progress
  have seen := warranted.blocked (ended.trans (congrArg some blocked))
  rcases seen with ⟨⟨⟩⟩ | seen
  exact seen

end World

/-- Scanning in partitions, interrupted or not, comes to the same as looking at all domains. -/
theorem partitioned_scan_refines :
    (∀ (t : Tables) (partitions : Nat) (id : String) (d : Domain), t.domains.get? id = some d →
        ∃ n, n < max partitions 1 ∧ ∀ m, d ∈ t.domainsIn m partitions ↔ m = n)
      ∧ (∀ (t : Tables) (target : String) (partitions : Nat) (now : Instant),
          ((List.range (max partitions 1)).any fun n =>
              JobProgress.scanPartition t target n partitions now)
            = DeletionJob.isReferenced t.domains.values target now
          ∧ (DeletionJob.isReferenced t.domains.values target now = true
            ↔ t.RefersTo target now))
      ∧ (∀ (s : State) (q : DeletionRequest) (partitions : Nat) (now : Instant)
          (p : JobProgress) (order : List Nat),
          JobProgress.Underway s.snapshot q.target now partitions p → order.Perm p.pending →
          (p.resumeIn order s q now).1 = (DeletionJob.commitAtOnce s q now).1
            ∧ (p.resumeIn order s q now).2.2 = (DeletionJob.commitAtOnce s q now).2)
      ∧ ∀ (a : Admission) (w : World) (i : Nat) (q : DeletionRequest) (target : String)
          (partitions : Nat) (ops : List Operation) (j : Job) (order broken : List Nat)
          (now : Instant), w.jobs[i]? = some ⟨q, .start target partitions⟩ →
          (w.run a ops).jobs[i]? = some j →
          ((w.run a ops).resumption j order broken now).1 = .blockedByReference →
          w.SightsIn a i q.target (ops ++ [.resume i order broken now]) := by
  refine ⟨?_, ?_, ?_, ?_⟩
  · intro t partitions id d found
    exact Tables.one_partition found partitions
  · intro t target partitions now
    exact ⟨JobProgress.any_scanPartition t target partitions now, DeletionJob.isReferenced_iff⟩
  · intro s q partitions now p order underway all
    exact underway.resume all
  · intro a w i q target partitions ops j order broken now started here blocked
    exact World.sightsIn_of_blocked started here blocked

def waitingRequest : DeletionRequest := ⟨"j", "H-1", "r", false, .epoch⟩

def waitingWorld : World :=
  .run openRegistry (.seeded true {} {} [hostAndContact])
    [.create (plainRequest "a.tld" ["ns.tld"]),
      .requestDeletion "j" ⟨"ns.tld", "r", false, .epoch⟩,
      .start ⟨waitingRequest, .start "H-1" 3⟩]

def interruptedJob : JobProgress :=
  (JobProgress.start "H-1" 3).scanIn waitingWorld.tables "H-1" .epoch [2]

theorem waitingWorld_scan_refines :
    (∃ d, waitingWorld.tables.domains.get? "1-TLD" = some d
        ∧ ∃ n, n < 3 ∧ ∀ m, d ∈ waitingWorld.tables.domainsIn m 3 ↔ m = n)
      ∧ waitingWorld.tables.RefersTo "H-1" .epoch
      ∧ (interruptedJob.resumeIn [1, 0] waitingWorld.state waitingRequest .epoch).1
        = .blockedByReference
      ∧ waitingWorld.SightsIn openRegistry 0 "H-1"
        [.scan 0 [2] .epoch, .resume 0 [1] [] .epoch] := by
  obtain ⟨one, any, once, sighted⟩ := partitioned_scan_refines
  refine ⟨?_, ?_, ?_, ?_⟩
  · have stored : (waitingWorld.tables.domains.get? "1-TLD").isSome = true := by decide +kernel
    obtain ⟨d, found⟩ := Option.isSome_iff_exists.mp stored
    exact ⟨d, found, one waitingWorld.tables 3 "1-TLD" d found⟩
  · exact (any waitingWorld.tables "H-1" 3 .epoch).2.mp (by decide +kernel)
  · have underway : JobProgress.Underway waitingWorld.state.snapshot waitingRequest.target .epoch 3
        interruptedJob := .interrupted _ [2] .start (by decide)
    rw [(once waitingWorld.state waitingRequest 3 .epoch interruptedJob [1, 0] underway
      (by decide +kernel)).1]
    decide +kernel
  · exact sighted openRegistry waitingWorld 0 waitingRequest "H-1" 3 [.scan 0 [2] .epoch]
      ⟨waitingRequest, interruptedJob⟩ [1] [] .epoch (by decide +kernel) (by decide +kernel)
      (by decide +kernel)

end DomainRegistry
