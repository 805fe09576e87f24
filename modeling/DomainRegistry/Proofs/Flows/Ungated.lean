import DomainRegistry.Proofs.Flows.Registration

/-!
Creations with the gate and without it. Main statement: as long as the cache remembers what committed
state says, the gate turns away only what admission turns away for the same reason, and a creation
has the end that it would have without the gate.
-/

namespace DomainRegistry

/-- That two states hold the same, up to what look-ups have left in their caches. -/
structure State.Alike (s t : State) : Prop where
  committed : s.store.committed = t.store.committed
  ids : s.store.ids = t.store.ids
  queues : s.queues = t.queues
  loads : ∀ name now, (s.load name now).1 = (t.load name now).1

namespace State

variable {s t : State}

theorem load_fst (s : State) (name : String) (now : Instant) :
    (s.load name now).1 = ((s.store.remembered? name).getD (s.store.committed.holder? name)).filter
      fun d => d.isActive now := by
  rw [← Store.cachedHolder_fst]
  rfl

theorem loads_of_remembered (committed : s.store.committed = t.store.committed)
    (cache : ∀ name, s.store.remembered? name = t.store.remembered? name) (name : String)
    (now : Instant) : (s.load name now).1 = (t.load name now).1 := by
  rw [load_fst, load_fst, committed, cache]

theorem loads_of_coherent (committed : s.store.committed = t.store.committed)
    (left : s.store.Coherent) (right : t.store.Coherent) (name : String) (now : Instant) :
    (s.load name now).1 = (t.load name now).1 := by
  calc (s.load name now).1
    _ = s.store.committed.domainNamed? name now := left.load name now
    _ = t.store.committed.domainNamed? name now := by rw [committed]
    _ = (t.load name now).1 := (right.load name now).symm

end State

theorem Admission.existence_of_check {s : State} {q : CreateRequest} {r : Rejection}
    (coherent : s.store.Coherent)
    (rejected : (Gate.check s q.command.name q.now).1 = .error r) :
    checkExistence s.store.committed.reader q = .error r := by
  obtain ⟨d, taken⟩ := Gate.taken_of_check coherent rejected
  have read : s.store.committed.reader.domainNamed? q.command.name q.now = some d := taken
  rw [Gate.check_error rejected, checkExistence, read]

namespace Creation

variable {a : Admission} {s : State} {q : CreateRequest} {plan : CreatePlan} {d : Domain}

/-- A creation as `run` has it, with the check of the gate left out. -/
def runUngated (a : Admission) (s : State) (q : CreateRequest) : Traced Created × State :=
  let (given, s) := Gate.repoId a.config s q.command.name
  let answer := a.assess s.store.begin.reader q
  let (result, s) := s.transact (persist given answer.result q)
  (⟨result, answer.reports⟩, s)

theorem runUngated_eq (a : Admission) (s : State) (q : CreateRequest) :
    runUngated a s q =
      attempt a (Gate.repoId a.config s q.command.name).1 (drawnState a s q) q := by
  unfold runUngated attempt drawnState
  cases Gate.repoId a.config s q.command.name
  rfl

theorem atStart_alike (coherent : s.store.Coherent) (a : Admission) (q : CreateRequest) :
    (atStart a s q).Alike (drawnState a s q) := by
  have committed : (atStart a s q).store.committed = (drawnState a s q).store.committed := by
    rw [atStart_committed, drawnState_committed]
  exact {
    committed
    ids := by rw [atStart_ids, drawnState_ids]
    queues := by rw [atStart_queues, drawnState_queues]
    loads := State.loads_of_coherent committed (atStart_coherent coherent a q)
      (drawnState_coherent coherent a q) }

theorem store_alike (named : d.name = q.command.name) :
    ((atStart a s q).commit (store d q (atStart a s q).store.begin)).Alike
      ((drawnState a s q).commit (store d q (drawnState a s q).store.begin)) := by
  have committed : ((atStart a s q).commit (store d q (atStart a s q).store.begin)).store.committed
      = ((drawnState a s q).commit (store d q (drawnState a s q).store.begin)).store.committed := by
    rw [store_committed, store_committed, atStart_committed, drawnState_committed]
  refine { committed, ids := ?_, queues := ?_, loads := State.loads_of_remembered committed ?_ }
  · rw [store_ids, store_ids, atStart_ids, drawnState_ids]
  · rw [store_queues, store_queues, atStart_queues, drawnState_queues]
  · -- The caches differ at the looked-up name at most, and that one is forgotten.
    intro name
    rw [store_remembered?, store_remembered?]
    by_cases own : name = d.name
    · rw [if_pos own, if_pos own]
    · rw [if_neg own, if_neg own, atStart_remembered? (named ▸ own), drawnState_remembered?]

theorem run_alike_ungated (coherent : s.store.Coherent) (a : Admission) (q : CreateRequest) :
    (run a s q).1.result = (runUngated a s q).1.result
      ∧ (run a s q).2.Alike (runUngated a s q).2 := by
  have committed := drawnState_committed a s q
  have start := atStart_alike coherent a q
  cases passed : gated a s q with
  | error r =>
    -- Admission begins with the look-up that the gate has answered from the cache.
    have drawn : (drawnState a s q).store.Coherent := drawnState_coherent coherent a q
    obtain ⟨e, taken⟩ := Gate.taken_of_check drawn passed
    rw [committed] at taken
    obtain ⟨result, state⟩ := attempt_of_rejected committed (Admission.assess_taken taken)
    rw [runUngated_eq, run_of_turned_away passed, result, state, Gate.check_error passed]
    exact ⟨rfl, start⟩
  | ok u =>
    cases accepted : (a.assess s.store.committed.reader q).result with
    | error r =>
      obtain ⟨result, state⟩ := run_of_rejected passed accepted
      obtain ⟨result', state'⟩ := attempt_of_rejected committed accepted
      rw [runUngated_eq, result, state, result', state']
      exact ⟨rfl, start⟩
    | ok plan =>
      have given : (Gate.repoId a.config s q.command.name).1
          = some (s.store.ids.repoId plan.zone).1 := given_of_accepted accepted
      cases made : newDomain (s.store.ids.repoId plan.zone).1 plan q with
      | error r =>
        obtain ⟨result, state⟩ := run_of_unmade passed accepted made
        obtain ⟨result', state'⟩ := attempt_of_unmade committed accepted made
        rw [runUngated_eq, given, result, state, result', state']
        exact ⟨rfl, start⟩
      | ok d =>
        have named : d.name = q.command.name :=
          (newDomain_eq_ok made).2.1.trans (plan_name accepted)
        obtain ⟨result, state⟩ := run_of_made passed accepted made
        obtain ⟨result', state'⟩ := attempt_of_made committed accepted made
        rw [runUngated_eq, given, result, state, result', state']
        exact ⟨rfl, store_alike named⟩

/-- A creation keeps the cache in step, unless it takes the identifier of another name's domain. -/
theorem run_coherent (coherent : s.store.Coherent)
    (stays : ∀ c, (run a s q).1.result = .ok c →
      ∀ e ∈ s.store.committed.domains.get? c.repoId, e.name = c.plan.name) :
    (run a s q).2.store.Coherent := by
  have start := atStart_coherent coherent a q
  have outcome := run_outcome a s q
  generalize (run a s q).1.result = result at outcome stays
  generalize (run a s q).2 = after at outcome ⊢
  cases outcome with
  | rejected r => exact start
  | stored plan d passed accepted made =>
    have keeps : (atStart a s q).store.committed.KeepsNames [d] := by
      refine ⟨?_, trivial⟩
      rw [atStart_committed, (newDomain_eq_ok made).2.1]
      exact stays _ rfl
    exact start.commit (x := store d q (atStart a s q).store.begin) keeps

end Creation

end DomainRegistry
