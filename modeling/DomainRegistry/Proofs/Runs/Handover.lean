import DomainRegistry.Deletion.Worker
import DomainRegistry.Proofs.Flows.Pending
import DomainRegistry.Proofs.Flows.Scan
import DomainRegistry.Proofs.Runs.Deletions

/-!
Requests on their way from the clients to the worker. Main statement: a host that waits for its
deletion has one request on the queue or in the hands of the worker, exactly as long as no request
is accepted while the queue is closed and no scan for a waiting host breaks down.
-/

namespace DomainRegistry

theorem countP_modify {α : Type} (p : α → Bool) (f : α → α) {xs : List α} {i : Nat} {x : α}
    (found : xs[i]? = some x) :
    (xs.modify i f).countP p + (if p x = true then 1 else 0)
      = xs.countP p + if p (f x) = true then 1 else 0 := by
  induction xs generalizing i with
  | nil => cases found
  | cons y ys ih =>
    cases i with
    | zero =>
      cases found
      rw [List.modify_zero_cons, List.countP_cons, List.countP_cons]
      omega
    | succ i =>
      have rest := ih found
      rw [List.modify_succ_cons, List.countP_cons, List.countP_cons]
      omega

inductive Errand where
  | request (jobId : String) (q : HostDeletion.Request)
  /-- Takes up to so many requests from the queue, to be scanned for in partitions. -/
  | lease (count partitions : Nat)
  /-- Some or all of the scan, some time before the job is decided. -/
  | scan (job : Nat) (order : List Nat) (now : Instant)
  /-- What is left of the scan, of which some partitions may break down, and the commit. -/
  | process (job : Nat) (order : List Nat) (broken : List Nat) (now : Instant)
  | closeDns
  | closeAsyncDelete

namespace Errand

def timeAfter (t : Instant) : Errand → Instant
  | request _ q => q.now
  | scan _ _ now => now
  | process _ _ _ now => now
  | _ => t

def Ordered (t : Instant) : List Errand → Prop
  | [] => True
  | e :: es => t ≤ e.timeAfter t ∧ Ordered (e.timeAfter t) es

end Errand

def Job.isFor (j : Job) (id : String) : Bool :=
  j.progress.outcome.isNone && j.request.target == id

namespace World

def carry (w : World) : Errand → World
  | .request jobId q => { w with state := (HostDeletion.request w.state jobId q).2 }
  | .lease count partitions =>
    let (leased, state) := DeletionWorker.lease w.state count
    ⟨state, w.jobs ++ leased.map fun q => ⟨q, .start q.target partitions⟩⟩
  | .scan i order now =>
    match w.jobs[i]? with
    | none => w
    | some j => w.advance i (j.progress.scanIn w.tables j.request.target now order)
  | .process i order broken now =>
    match w.jobs[i]? with
    | none => w
    | some j =>
      let (_, p, state) :=
        j.progress.resumeWith (w.answers j broken now) order w.state j.request now
      { w with state }.advance i p
  | .closeDns => { w with state.queues.dns := w.state.queues.dns.close }
  | .closeAsyncDelete => { w with state.queues.asyncDelete := w.state.queues.asyncDelete.close }

def carryAll (w : World) (es : List Errand) : World := es.foldl carry w

/-- How many requests to delete a host are on the queue, or leased and not decided yet. -/
def requestsFor (w : World) (id : String) : Nat :=
  w.state.queues.asyncDelete.tasks.countP (fun q => q.target == id)
    + w.jobs.countP fun j => j.isFor id

/-- That each host that waits for its deletion has a request of its own. -/
def Pursued (w : World) (now : Instant) : Prop :=
  ∀ id h, w.tables.hosts.get? id = some h → h.isActive now = true → h.isPendingDelete = true →
    w.requestsFor id = 1

def NeverLost (w : World) (t : Instant) (es : List Errand) : Prop :=
  ∀ before after, es = before ++ after →
    (w.carryAll before).Pursued (before.foldl Errand.timeAfter t)

def BreaksDown (w : World) (j : Job) (order broken : List Nat) (now : Instant) : Prop :=
  (j.progress.scanWith (w.answers j broken now) order).2 = false

/-- That a request is accepted but finds the queue closed, or that the job of a host that waits is
given up. -/
inductive Loses (w : World) : Errand → Prop
  | closed {jobId : String} {q : HostDeletion.Request} {job : DeletionRequest}
      (accepted : (HostDeletion.request w.state jobId q).1 = .ok job)
      (closed : w.state.queues.asyncDelete.closed = true) : Loses w (.request jobId q)
  | broken {i : Nat} {j : Job} {order broken : List Nat} {now : Instant} {h : Host}
      (here : w.jobs[i]? = some j) (going : j.progress.outcome = none)
      (breaks : w.BreaksDown j order broken now)
      (found : w.tables.hosts.get? j.request.target = some h) (active : h.isActive now = true)
      (waits : h.isPendingDelete = true) : Loses w (.process i order broken now)

def LosesIn (w : World) (es : List Errand) : Prop :=
  ∃ before e after, es = before ++ e :: after ∧ (w.carryAll before).Loses e

/-- A store in which no host waits, with nothing on the queue or in the hands of the worker. -/
structure Quiet (w : World) : Prop where
  keyed : w.tables.Keyed
  idle : ∀ id h, w.tables.hosts.get? id = some h → h.isPendingDelete = false
  unqueued : w.state.queues.asyncDelete.tasks = []
  unleased : w.jobs = []

/-- That a host has a request if it waits and none if it does not. -/
structure Accounted (now : Instant) (w : World) : Prop where
  keyed : w.tables.Keyed
  counted : ∀ id h, w.tables.hosts.get? id = some h → h.isActive now = true →
    w.requestsFor id = if h.isPendingDelete = true then 1 else 0

variable {w : World} {t now earlier : Instant} {e : Errand} {es : List Errand} {id : String}

theorem not_breaksDown {j : Job} {order : List Nat} : ¬w.BreaksDown j order [] now := by
  have answered : w.answers j [] now = fun n =>
      some (JobProgress.scanPartition w.tables j.request.target n j.progress.partitions now) :=
    funext fun _ => if_neg List.not_mem_nil
  rw [BreaksDown, answered, JobProgress.scanWith_some]
  exact nofun

theorem Quiet.accounted (quiet : w.Quiet) (now : Instant) : Accounted now w where
  keyed := quiet.keyed
  counted id h found _ := by
    simp [requestsFor, quiet.unqueued, quiet.unleased, quiet.idle id h found]

theorem Accounted.pursued (accounted : Accounted now w) : w.Pursued now := by
  intro id h found active waits
  rw [accounted.counted id h found active, if_pos waits]

theorem Accounted.later (accounted : Accounted earlier w) (le : earlier ≤ now) :
    Accounted now w where
  keyed := accounted.keyed
  counted id h found active := accounted.counted id h found (activeAt_of_le le active)

theorem Accounted.of_same {w' : World} (accounted : Accounted now w)
    (tables : w'.tables = w.tables) (same : ∀ id, w'.requestsFor id = w.requestsFor id) :
    Accounted now w' where
  keyed := by
    rw [tables]
    exact accounted.keyed
  counted id h found active := by
    rw [tables] at found
    rw [same, accounted.counted id h found active]

theorem requestsFor_lease (w : World) (count partitions : Nat) (id : String) :
    (w.carry (.lease count partitions)).requestsFor id = w.requestsFor id := by
  have split : w.state.queues.asyncDelete.tasks.countP (fun q => q.target == id)
      = (w.state.queues.asyncDelete.tasks.take count).countP (fun q => q.target == id)
        + (w.state.queues.asyncDelete.tasks.drop count).countP fun q => q.target == id := by
    rw [← List.countP_append, List.take_append_drop]
  have leased : ∀ qs : List DeletionRequest,
      (qs.map fun q => (⟨q, .start q.target partitions⟩ : Job)).countP (fun j => j.isFor id)
        = qs.countP fun q => q.target == id := by
    intro qs
    rw [List.countP_map]
    rfl
  change (w.state.queues.asyncDelete.tasks.drop count).countP (fun q => q.target == id)
    + (w.jobs ++ (w.state.queues.asyncDelete.tasks.take count).map _).countP _ = _
  rw [List.countP_append, leased, requestsFor, split]
  omega

theorem requestsFor_advance {i : Nat} {j : Job} (here : w.jobs[i]? = some j) (p : JobProgress)
    (id : String) :
    (w.advance i p).requestsFor id + (if j.isFor id = true then 1 else 0)
      = w.requestsFor id + if Job.isFor { j with progress := p } id = true then 1 else 0 := by
  have jobs := countP_modify (fun j => j.isFor id) (fun j => { j with progress := p }) here
  unfold requestsFor advance
  dsimp only at jobs ⊢
  omega

theorem requestsFor_scan (w : World) (i : Nat) (order : List Nat) (now : Instant) (id : String) :
    (w.carry (.scan i order now)).requestsFor id = w.requestsFor id := by
  dsimp only [carry]
  cases here : w.jobs[i]? with
  | none => rfl
  | some j =>
    have advanced := requestsFor_advance here
      (j.progress.scanIn w.tables j.request.target now order) id
    have same : Job.isFor
        { j with progress := j.progress.scanIn w.tables j.request.target now order } id
        = j.isFor id := by
      simp only [Job.isFor, JobProgress.scanIn_outcome]
    rw [same] at advanced
    dsimp only
    omega

theorem requestsFor_rejected {jobId : String} {q : HostDeletion.Request} {r : Rejection}
    (rejected : (HostDeletion.request w.state jobId q).1 = .error r) (id : String) :
    (w.carry (.request jobId q)).requestsFor id = w.requestsFor id := by
  have queue := HostDeletion.request_asyncDelete w.state jobId q
  rw [rejected] at queue
  unfold requestsFor carry
  dsimp only at queue ⊢
  rw [queue]

/-- An accepted request is one more for its host if the queue is open, and else gone. -/
theorem requestsFor_accepted {jobId : String} {q : HostDeletion.Request} {job : DeletionRequest}
    (accepted : (HostDeletion.request w.state jobId q).1 = .ok job) (id : String) :
    (w.carry (.request jobId q)).requestsFor id
      = w.requestsFor id
        + if w.state.queues.asyncDelete.closed = false ∧ job.target = id then 1 else 0 := by
  have queue := HostDeletion.request_asyncDelete w.state jobId q
  rw [accepted] at queue
  unfold requestsFor carry
  dsimp only at queue ⊢
  rw [queue, Queue.offer, Queue.add?]
  cases closed : w.state.queues.asyncDelete.closed with
  | true => simp
  | false =>
    by_cases own : job.target = id
    · simp [own]
      omega
    · simp [own]

theorem request_cases (keyed : w.tables.Keyed) (jobId : String) (q : HostDeletion.Request) :
    (∃ r, (HostDeletion.request w.state jobId q).1 = .error r
        ∧ (w.carry (.request jobId q)).tables = w.tables)
      ∨ ∃ h, (HostDeletion.request w.state jobId q).1 = .ok (HostDeletion.job jobId q h)
        ∧ w.tables.hosts.get? h.repoId = some h ∧ h.isActive q.now = true
        ∧ h.isPendingDelete = false
        ∧ (w.carry (.request jobId q)).tables
          = (w.tables.insertHost (HostDeletion.marked h)).log
            [HostDeletion.historyEntry h q] [] := by
  have effect := HostDeletion.request_effect w.state jobId q
  change HostDeletion.Effect w.tables jobId q _ (w.carry (.request jobId q)).tables at effect
  generalize (HostDeletion.request w.state jobId q).1 = answer at effect ⊢
  generalize (w.carry (.request jobId q)).tables = after at effect ⊢
  cases effect with
  | rejected r => exact Or.inl ⟨r, rfl, rfl⟩
  | marked h named allowed =>
    obtain ⟨found, active⟩ := keyed.hostNamed? named
    exact Or.inr ⟨h, rfl, found, active, HostDeletion.isPendingDelete_of_allowed allowed, rfl⟩

/-- What a job comes to that is taken up: it is given up, or ends with a commit. -/
inductive Decided (w : World) (i : Nat) (j : Job) (order broken : List Nat) (now : Instant) :
    World → Prop
  | givenUp {p : JobProgress} (ended : p.outcome ≠ none)
      (breaks : w.BreaksDown j order broken now) : Decided w i j order broken now (w.advance i p)
  | committed {p : JobProgress} (referenced : Bool) (ended : p.outcome ≠ none)
      (went : ¬w.BreaksDown j order broken now) : Decided w i j order broken now
        (advance { w with state := (DeletionJob.commit w.state j.request referenced now).2 } i p)

theorem carry_process {i : Nat} {j : Job} {order broken : List Nat} {now : Instant}
    (here : w.jobs[i]? = some j) (going : j.progress.outcome = none) :
    Decided w i j order broken now (w.carry (.process i order broken now)) := by
  simp only [carry, here, JobProgress.resumeWith, going]
  cases scanned : j.progress.scanWith (w.answers j broken now) order with
  | mk p went =>
    cases went with
    | false => exact .givenUp (by simp [JobProgress.finish]) (congrArg Prod.snd scanned)
    | true =>
      have went : ¬w.BreaksDown j order broken now := by simp [BreaksDown, scanned]
      exact .committed p.referenced (by simp [JobProgress.finish]) went

theorem requestsFor_decided {i : Nat} {j : Job} {state : State} {p : JobProgress}
    (here : w.jobs[i]? = some j) (going : j.progress.outcome = none) (ended : p.outcome ≠ none)
    (queue : state.queues.asyncDelete = w.state.queues.asyncDelete) (id : String) :
    (advance { w with state } i p).requestsFor id + (if j.request.target = id then 1 else 0)
      = w.requestsFor id := by
  have advanced := requestsFor_advance (w := { w with state }) here p id
  have before : Job.isFor j id = (j.request.target == id) := by simp [Job.isFor, going]
  have after : Job.isFor { j with progress := p } id = false := by simp [Job.isFor, ended]
  have same : requestsFor { w with state } id = w.requestsFor id := by
    unfold requestsFor
    rw [queue]
  rw [same, after] at advanced
  simpa [before] using advanced

theorem Decided.requestsFor {w' : World} {i : Nat} {j : Job} {order broken : List Nat}
    {now : Instant} (decided : Decided w i j order broken now w') (here : w.jobs[i]? = some j)
    (going : j.progress.outcome = none) (id : String) :
    w'.requestsFor id + (if j.request.target = id then 1 else 0) = w.requestsFor id := by
  cases decided with
  | givenUp ended breaks => exact requestsFor_decided here going ended rfl id
  | committed referenced ended went =>
    exact requestsFor_decided here going ended (DeletionJob.commit_asyncDelete ..) id

namespace Accounted

theorem requested {jobId : String} {q : HostDeletion.Request} (accounted : Accounted q.now w)
    (kept : ¬w.Loses (.request jobId q)) : Accounted q.now (w.carry (.request jobId q)) := by
  rcases request_cases accounted.keyed jobId q with
    ⟨r, rejected, same⟩ | ⟨h, accepted, found, active, idle, after⟩
  · exact accounted.of_same same (requestsFor_rejected rejected)
  · have unclosed : w.state.queues.asyncDelete.closed = false := by
      cases closed : w.state.queues.asyncDelete.closed with
      | false => rfl
      | true => exact absurd (.closed accepted closed) kept
    constructor
    · rw [after]
      exact (accounted.keyed.insertHost _).log
    · intro id g found' active'
      rw [after] at found'
      have stored := (Tables.insertHost_get? _ id).symm.trans found'
      change (if id = h.repoId then _ else _) = _ at stored
      rw [requestsFor_accepted accepted]
      by_cases own : id = h.repoId
      · rw [if_pos own] at stored
        cases stored
        subst own
        rw [accounted.counted _ h found active]
        simp [idle, unclosed, HostDeletion.job, HostDeletion.marked_isPendingDelete]
      · have other : h.repoId ≠ id := Ne.symm own
        rw [if_neg own] at stored
        rw [accounted.counted id g stored active']
        simp [HostDeletion.job, other]

theorem lost (accounted : Accounted (e.timeAfter t) w) (loses : w.Loses e) :
    ¬(w.carry e).Pursued (e.timeAfter t) := by
  intro pursued
  cases loses with
  | @closed jobId q job answer closed =>
    rcases request_cases accounted.keyed jobId q with
      ⟨r, rejected, same⟩ | ⟨h, accepted, found, active, idle, after⟩
    · rw [rejected] at answer
      cases answer
    · have stored : (w.carry (.request jobId q)).tables.hosts.get? h.repoId
          = some (HostDeletion.marked h) := by
        rw [after]
        exact (Tables.insertHost_get? _ _).trans (if_pos rfl)
      have one := pursued _ _ stored active (HostDeletion.marked_isPendingDelete h)
      rw [requestsFor_accepted accepted, accounted.counted _ h found active] at one
      simp [idle, closed] at one
  | @broken i j order broken now h here going breaks found active waits =>
    have one := accounted.counted _ h found active
    have decided : Decided w i j order broken now _ := carry_process here going
    have count := decided.requestsFor here going j.request.target
    generalize w.carry (.process i order broken now) = after at decided count pursued
    cases decided with
    | givenUp ended _ =>
      have still := pursued _ h found active waits
      rw [if_pos waits] at one
      rw [if_pos rfl] at count
      omega
    | committed referenced ended went => exact absurd breaks went

/-- A job that leaves the tables as they are was none for a host that waits. -/
theorem of_idle {w' : World} {target : String} (accounted : Accounted now w)
    (tables : w'.tables = w.tables)
    (counts : ∀ id, w'.requestsFor id + (if target = id then 1 else 0) = w.requestsFor id)
    (idle : ∀ h, w.tables.hosts.get? target = some h → h.isActive now = true →
      h.isPendingDelete = false) : Accounted now w' where
  keyed := by
    rw [tables]
    exact accounted.keyed
  counted id g found active := by
    have count := counts id
    rw [tables] at found
    rw [accounted.counted id g found active] at count
    by_cases own : target = id
    · subst own
      rw [idle g found active, if_pos rfl] at count
      simp at count
    · rw [if_neg own] at count
      exact count

theorem processed {i : Nat} {order broken : List Nat} (accounted : Accounted now w)
    (kept : ¬w.Loses (.process i order broken now)) :
    Accounted now (w.carry (.process i order broken now)) := by
  cases here : w.jobs[i]? with
  | none =>
    have same : w.carry (.process i order broken now) = w := by simp [carry, here]
    rw [same]
    exact accounted
  | some j =>
    cases going : j.progress.outcome with
    | some outcome =>
      have same : w.carry (.process i order broken now) = w.advance i j.progress := by
        simp [carry, here, JobProgress.resumeWith, going]
      rw [same]
      refine accounted.of_same rfl ?_
      intro id
      exact Nat.add_right_cancel (requestsFor_advance here j.progress id)
    | none =>
      have decided : Decided w i j order broken now _ := carry_process here going
      have counts := decided.requestsFor here going
      generalize w.carry (.process i order broken now) = after at decided counts
      cases decided with
      | givenUp ended breaks =>
        refine accounted.of_idle rfl counts ?_
        intro h found active
        refine Bool.eq_false_iff.mpr fun waits => ?_
        exact kept (.broken here going breaks found active waits)
      | committed referenced ended went =>
        rcases DeletionJob.commit_waiting_or_idle w.state j.request referenced now with
          ⟨h, outcome, found, active, waits, settled⟩ | ⟨idle, unchanged⟩
        · refine ⟨(DeletionJob.commit_effect ..).keyed accounted.keyed, ?_⟩
          intro id g found' active'
          have count := counts id
          have key := accounted.keyed.host _ h found
          change (DeletionJob.commit w.state j.request referenced now).2.store.committed.hosts.get?
            id = some g at found'
          rw [settled, DeletionJob.settled_hosts, key] at found'
          by_cases own : j.request.target = id
          · subst own
            rw [if_pos rfl] at found'
            cases found'
            rw [accounted.counted _ h found active, if_pos waits, if_pos rfl] at count
            rw [DeletionJob.decided_isPendingDelete]
            simpa using count
          · rw [if_neg (Ne.symm own)] at found'
            rw [if_neg own, accounted.counted id g found' active'] at count
            exact count
        · exact accounted.of_idle unchanged counts idle

end Accounted

theorem carry_accounted (accounted : Accounted t w) (le : t ≤ e.timeAfter t) (kept : ¬w.Loses e) :
    Accounted (e.timeAfter t) (w.carry e) := by
  have accounted := accounted.later le
  cases e with
  | request jobId q => exact accounted.requested kept
  | lease count partitions => exact accounted.of_same rfl (requestsFor_lease w count partitions)
  | scan i order now =>
    refine accounted.of_same ?_ (requestsFor_scan w i order now)
    dsimp only [carry]
    split
    · rfl
    · rfl
  | process i order broken now => exact accounted.processed kept
  | closeDns => exact accounted.of_same rfl fun _ => rfl
  | closeAsyncDelete => exact accounted.of_same rfl fun _ => rfl

theorem neverLost_cons :
    w.NeverLost t (e :: es) ↔ w.Pursued t ∧ (w.carry e).NeverLost (e.timeAfter t) es := by
  constructor
  · intro never
    refine ⟨never [] (e :: es) rfl, ?_⟩
    rintro before after rfl
    exact never (e :: before) after rfl
  · rintro ⟨pursued, rest⟩ before after same
    cases before with
    | nil => exact pursued
    | cons first before =>
      obtain ⟨rfl, tail⟩ := List.cons.inj same
      exact rest before after tail

theorem losesIn_cons : w.LosesIn (e :: es) ↔ w.Loses e ∨ (w.carry e).LosesIn es := by
  constructor
  · rintro ⟨before, e', after, same, loses⟩
    cases before with
    | nil =>
      obtain ⟨rfl, rfl⟩ := List.cons.inj same
      exact Or.inl loses
    | cons first before =>
      obtain ⟨rfl, rfl⟩ := List.cons.inj same
      exact Or.inr ⟨before, e', after, rfl, loses⟩
  · rintro (loses | ⟨before, e', after, rfl, loses⟩)
    · exact ⟨[], e, es, rfl, loses⟩
    · exact ⟨e :: before, e', after, rfl, loses⟩

theorem Accounted.neverLost_iff (accounted : Accounted t w) (ordered : Errand.Ordered t es) :
    w.NeverLost t es ↔ ¬w.LosesIn es := by
  induction es generalizing t w with
  | nil =>
    constructor
    · rintro _ ⟨before, e, after, same, _⟩
      cases before <;> cases same
    · rintro _ before after same
      obtain ⟨rfl, rfl⟩ := List.append_eq_nil_iff.mp same.symm
      exact accounted.pursued
  | cons e es ih =>
    rw [neverLost_cons, losesIn_cons, not_or]
    by_cases loses : w.Loses e
    · -- The first state after the loss has a host without a request.
      refine iff_of_false ?_ fun both => both.1 loses
      rintro ⟨_, rest⟩
      exact (accounted.later ordered.1).lost loses (rest [] es rfl)
    · rw [ih (carry_accounted accounted ordered.1 loses) ordered.2]
      constructor
      · rintro ⟨_, clear⟩
        exact ⟨loses, clear⟩
      · rintro ⟨_, clear⟩
        exact ⟨accounted.pursued, clear⟩

end World

variable {w : World} {t : Instant} {es : List Errand}

/-- Only a queue that is closed when a request is accepted loses it, or a scan that breaks down. -/
theorem never_lost_iff (quiet : w.Quiet) (ordered : Errand.Ordered t es) :
    w.NeverLost t es ↔ ¬w.LosesIn es :=
  (quiet.accounted t).neverLost_iff ordered

def handedOver : List Errand :=
  [.request "j" ⟨"ns.tld", "r", false, .epoch⟩,
    .lease 16 2,
    .closeAsyncDelete,
    .scan 0 [1] .epoch,
    .process 0 [0] [] .epoch]

theorem seeded_quiet : (World.seeded true {} {} [hostAndContact]).Quiet where
  keyed := World.seeded_keyed true {} {} [hostAndContact]
  idle id h found := by
    have member := SortedMap.mem_values.mpr ⟨id, found⟩
    have all : ∀ h ∈ (World.seeded true {} {} [hostAndContact]).tables.hosts.values,
        h.isPendingDelete = false := by decide +kernel
    exact all h member
  unqueued := rfl
  unleased := rfl

theorem handedOver_never_lost :
    (World.seeded true {} {} [hostAndContact]).NeverLost .epoch handedOver := by
  have ordered : Errand.Ordered .epoch handedOver := by
    simp [Errand.Ordered, handedOver, Errand.timeAfter, Instant.le_refl]
  refine (never_lost_iff seeded_quiet ordered).mpr ?_
  rintro ⟨before, e, after, same, loses⟩
  cases loses with
  | @closed jobId q job accepted closed =>
    cases before with
    | nil => exact absurd closed (by decide +kernel)
    | cons first before =>
      have member : Errand.request jobId q ∈ handedOver.tail := by
        rw [same]
        simp
      simp [handedOver] at member
  | @broken i j order broken now h here going breaks found active waits =>
    have member : Errand.process i order broken now ∈ handedOver := by
      rw [same]
      simp
    obtain ⟨rfl, rfl, rfl, rfl⟩ : i = 0 ∧ order = [0] ∧ broken = [] ∧ now = .epoch := by
      simpa [handedOver] using member
    exact absurd breaks World.not_breaksDown

def closedTooEarly : List Errand :=
  [.closeAsyncDelete, .request "j" ⟨"ns.tld", "r", false, .epoch⟩]

theorem closedTooEarly_lost :
    (World.seeded true {} {} [hostAndContact]).Quiet ∧ Errand.Ordered .epoch closedTooEarly
      ∧ ¬(World.seeded true {} {} [hostAndContact]).NeverLost .epoch closedTooEarly := by
  refine ⟨seeded_quiet, ?_, ?_⟩
  · simp [Errand.Ordered, closedTooEarly, Errand.timeAfter, Instant.le_refl]
  · intro never
    have waits : (((World.seeded true {} {} [hostAndContact]).carryAll
        closedTooEarly).tables.hosts.get? "H-1").map
          (fun h => (h.isActive .epoch, h.isPendingDelete)) = some (true, true) := by
      decide +kernel
    obtain ⟨h, found, same⟩ := Option.map_eq_some_iff.mp waits
    obtain ⟨active, pending⟩ := Prod.mk.inj same
    have one := never closedTooEarly [] (by simp) "H-1" h found active pending
    exact absurd one (by decide +kernel)

end DomainRegistry
