import DomainRegistry.Proofs.Flows.Ungated
import DomainRegistry.Proofs.Runs.Basic

/-!
Look-ups over whole runs. Main statement: in runs that leave every stored domain at its name, a
look-up through the cache always finds what committed state holds, whatever has been cached and
dropped before, and so the gate makes no difference to creations.
-/

namespace DomainRegistry

inductive Event where
  | seed (x : Fixtures)
  /-- Any work in a transaction of its own, which may fail. -/
  | transact (work : Transaction → Except Unit Unit × Transaction)
  | operate (op : Operation)
  | check (name : String) (now : Instant)
  | load (name : String) (now : Instant)
  /-- The cache drops names, for their age or for want of room. -/
  | expire (names : List String)

namespace World

def perform (a : Admission) (w : World) : Event → World
  | .seed x => { w with state := w.state.seed x }
  | .transact work => { w with state := (w.state.transact work).2 }
  | .operate op => w.step a op
  | .check name now => { w with state := (Gate.check w.state name now).2 }
  | .load name now => { w with state := (w.state.load name now).2 }
  | .expire names => { w with state.store := w.state.store.forget names }

def performAll (a : Admission) (w : World) (es : List Event) : World := es.foldl (perform a) w

/-- That an event writes no domain over a stored one of another name. -/
def Steady (a : Admission) (w : World) : Event → Prop
  | .seed x => w.tables.KeepsNames x.domains
  | .transact work => ∀ x, work w.state.store.begin = (.ok (), x) →
    w.tables.KeepsNames x.writes.domains.values
  | .operate (.create q) => ∀ c, (Creation.run a w.state q).1.result = .ok c →
    ∀ d ∈ w.tables.domains.get? c.repoId, d.name = c.plan.name
  | _ => True

def SteadyRun (a : Admission) (w : World) : List Event → Prop
  | [] => True
  | e :: es => w.Steady a e ∧ (w.perform a e).SteadyRun a es

end World

/-- That look-ups through the cache are look-ups in committed state, for all that is built on them. -/
structure FastPathAgrees (a : Admission) (s : State) : Prop where
  loads : ∀ name now, (s.load name now).1 = s.snapshot.domainNamed? name now
  gate : ∀ q r, (Gate.check s q.command.name q.now).1 = .error r →
    Admission.checkExistence s.snapshot.reader q = .error r
  creations : ∀ q, (Creation.run a s q).1.result = (Creation.runUngated a s q).1.result
    ∧ (Creation.run a s q).2.Alike (Creation.runUngated a s q).2

namespace State

variable {ε α : Type} {s : State} {work : Transaction → Except ε α × Transaction}

theorem transact_keyed (keyed : s.store.committed.Keyed) :
    (s.transact work).2.store.committed.Keyed := by
  unfold transact
  split
  · next x _ =>
    rw [State.commit, Store.commit_committed]
    exact x.writes.apply_keyed keyed
  · exact keyed

theorem transact_coherent (coherent : s.store.Coherent)
    (keeps : ∀ a x, work s.store.begin = (.ok a, x) →
      s.store.committed.KeepsNames x.writes.domains.values) :
    (s.transact work).2.store.Coherent := by
  cases worked : work s.store.begin with
  | mk result x =>
    cases result with
    | ok a =>
      rw [transact_of_ok worked]
      exact coherent.commit (keeps a x worked)
    | error e =>
      rw [transact_of_error worked]
      exact coherent.withIds x.ids

end State

theorem HostDeletion.request_coherent {s : State} (coherent : s.store.Coherent) (jobId : String)
    (q : Request) : (request s jobId q).2.store.Coherent := by
  refine State.transact_coherent coherent ?_
  intro answer x worked
  unfold work at worked
  split at worked
  · cases worked
  · -- A request writes a host and no domain.
    cases worked
    trivial

namespace DeletionJob

variable {s : State} {q : DeletionRequest} {now : Instant}

theorem record_keepsNames {s : Store} (keyed : s.committed.Keyed) (q : DeletionRequest) (h : Host)
    (now : Instant) (outcome : JobOutcome) :
    s.committed.KeepsNames (record q h now outcome s.begin).writes.domains.values := by
  have domain : s.begin.domain? = s.committed.domains.get? :=
    congrArg Reader.domain? s.begin_reader
  by_cases deleted : outcome = .deleted
  · simp only [record, deleted, if_true, detach, domain]
    cases above : h.superordinate.bind s.committed.domains.get? with
    | none => trivial
    | some d =>
      -- It is stored under its own identifier and so written over itself.
      refine ⟨?_, trivial⟩
      intro e found
      have own : s.committed.domains.get? d.repoId = some d := keyed.above? above
      obtain rfl : d = e := Option.some.inj (own.symm.trans found)
      rfl
  · simp only [record, deleted, if_false]
    trivial

theorem commit_coherent (keyed : s.store.committed.Keyed) (coherent : s.store.Coherent)
    (referenced : Bool) : (commit s q referenced now).2.store.Coherent := by
  have idle : (s.commit s.store.begin).store.Coherent := coherent.commit (x := s.store.begin) trivial
  rw [commit_eq]
  cases s.store.committed.hosts.get? q.target with
  | none => exact idle
  | some h =>
    dsimp only
    cases abandonReason? h now with
    | some reason => exact idle
    | none => exact coherent.commit (record_keepsNames keyed q h now _)

end DeletionJob

namespace World

variable {a : Admission} {w : World} {e : Event} {es : List Event}

structure Reliable (w : World) : Prop where
  keyed : w.tables.Keyed
  coherent : w.state.store.Coherent

theorem Reliable.agrees (reliable : w.Reliable) (a : Admission) : FastPathAgrees a w.state where
  loads := reliable.coherent.load
  gate _ _ rejected := Admission.existence_of_check reliable.coherent rejected
  creations := Creation.run_alike_ungated reliable.coherent a

theorem committed_coherent (reliable : w.Reliable) (c : Option Commit) :
    (w.committed c).store.Coherent := by
  cases c with
  | none => exact reliable.coherent
  | some c => exact DeletionJob.commit_coherent reliable.keyed reliable.coherent c.referenced

theorem step_coherent {op : Operation} (reliable : w.Reliable) (steady : w.Steady a (.operate op)) :
    (w.step a op).state.store.Coherent := by
  cases op with
  | create q => exact Creation.run_coherent reliable.coherent steady
  | requestDeletion jobId q => exact HostDeletion.request_coherent reliable.coherent jobId q
  | start job => exact reliable.coherent
  | scan i order now =>
    dsimp only [step]
    split
    · exact reliable.coherent
    · exact reliable.coherent
  | resume i order broken now =>
    rw [resume_state]
    exact committed_coherent reliable _
  | commit i referenced now =>
    rw [commit_state]
    exact committed_coherent reliable _

theorem perform_reliable (reliable : w.Reliable) (steady : w.Steady a e) :
    (w.perform a e).Reliable := by
  obtain ⟨keyed, coherent⟩ := reliable
  cases e with
  | seed x => exact ⟨seed_keyed keyed x, coherent.seed steady⟩
  | transact work =>
    exact ⟨State.transact_keyed keyed, State.transact_coherent coherent fun _ x => steady x⟩
  | operate op => exact ⟨step_keyed op keyed, step_coherent ⟨keyed, coherent⟩ steady⟩
  | check name now =>
    refine ⟨?_, Gate.check_coherent coherent name now⟩
    rw [tables, perform, Gate.check_committed]
    exact keyed
  | load name now =>
    refine ⟨?_, coherent.load_kept name now⟩
    rw [tables, perform, State.load_committed]
    exact keyed
  | expire names => exact ⟨keyed, coherent.forget names⟩

theorem performAll_reliable (reliable : w.Reliable) (steady : w.SteadyRun a es) :
    (w.performAll a es).Reliable := by
  induction es generalizing w with
  | nil => exact reliable
  | cons e es ih => exact ih (perform_reliable reliable steady.1) steady.2

theorem SteadyRun.start {more : List Event} (steady : w.SteadyRun a (es ++ more)) :
    w.SteadyRun a es := by
  induction es generalizing w with
  | nil => trivial
  | cons e es ih => exact ⟨steady.1, ih steady.2⟩

theorem reliable_empty (cached : Bool) (ids : RepoId.Allocator) (queues : TaskQueues) :
    (seeded cached ids queues []).Reliable :=
  ⟨Tables.keyed_empty, Store.coherent_empty cached ids⟩

end World

theorem fast_path_agrees {a : Admission} {cached : Bool} {ids : RepoId.Allocator}
    {queues : TaskQueues} {es : List Event}
    (steady : (World.seeded cached ids queues []).SteadyRun a es) :
    ∀ before, before <+: es →
      FastPathAgrees a ((World.seeded cached ids queues []).performAll a before).state := by
  rintro before ⟨after, rfl⟩
  have reliable := World.reliable_empty cached ids queues
  exact (World.performAll_reliable reliable steady.start).agrees a

/-- A name is looked up, registered and looked up again; then a host below it is deleted. -/
def rememberedRun : List Event :=
  [.load "a.tld" .epoch,
    .seed { contacts := [{ repoId := "C-1", contactId := "c", sponsor := "r" }] },
    .operate (.create (plainRequest "a.tld" [])),
    .load "a.tld" .epoch,
    .seed { hosts :=
      [{ repoId := "H-1", name := "ns.a.tld", sponsor := "r", superordinate := some "1-TLD" }] },
    .transact fun x => (.error (), (x.allocate "tld").2),
    .operate (.requestDeletion "j" ⟨"ns.a.tld", "r", false, .epoch⟩),
    .operate (.start ⟨⟨"j", "H-1", "r", false, .epoch⟩, .start "H-1" 2⟩),
    .operate (.resume 0 [0, 1] [] .epoch),
    .check "a.tld" .epoch,
    .expire ["b.tld"]]

theorem rememberedRun_agrees :
    (((World.seeded true {} {} []).performAll openRegistry rememberedRun).state.load "a.tld"
        .epoch).1.isSome = true
      ∧ FastPathAgrees openRegistry
        ((World.seeded true {} {} []).performAll openRegistry rememberedRun).state := by
  constructor
  · decide +kernel
  · have steady : (World.seeded true {} {} []).SteadyRun openRegistry rememberedRun := by
      refine ⟨trivial, trivial, ?_, trivial, trivial, ?_, trivial, trivial, trivial, trivial, trivial,
        trivial⟩
      · intro c _ d found
        cases found
      · intro x worked
        cases worked
    exact fast_path_agrees steady rememberedRun List.prefix_rfl

end DomainRegistry
