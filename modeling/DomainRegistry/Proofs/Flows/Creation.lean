import DomainRegistry.Creation.Flow
import DomainRegistry.Crypto.Ed25519
import DomainRegistry.Proofs.Admission.Accepted
import DomainRegistry.Proofs.Flows.Gate

/-!
What a creation does. Main statements: a rejected creation changes nothing but the cache and the
number of the next identifier, and an accepted one makes the domain of a plan that admission made
with the identifier that was next, stores it and queues its name, in one commit.
-/

namespace DomainRegistry

namespace State

variable {ε α : Type} {s : State} {work : Transaction → Except ε α × Transaction} {x : Transaction}

theorem transact_of_ok {a : α} (worked : work s.store.begin = (.ok a, x)) :
    s.transact work = (.ok a, s.commit x) := by
  rw [transact, worked]

theorem transact_of_error {e : ε} (failed : work s.store.begin = (.error e, x)) :
    s.transact work = (.error e, s.rollback x) := by
  rw [transact, failed]

end State

namespace Creation

variable {a : Admission} {s : State} {t : Tables} {q : CreateRequest} {plan : CreatePlan}
  {d : Domain}

def registration (repoId : String) (plan : CreatePlan) (q : CreateRequest)
    (expirationTime graceEnd : Instant) : Domain where
  repoId
  name := plan.name
  zone := plan.zone
  sponsor := q.registrar.clientId
  creationTime := q.now
  deletionTime := none
  expirationTime
  registrant := some plan.registrant
  contacts := plan.contacts
  nameservers := plan.nameservers
  subordinateHosts := .empty
  dsData := plan.dsData
  claimsNotice := plan.notice
  smdId := plan.smdId
  idnTable := plan.table
  gracePeriods := [⟨.add, graceEnd, q.registrar.clientId⟩]
  status := .none

theorem newDomain_eq_ok_iff {id : String} :
    newDomain id plan q = .ok d ↔
      ∃ expirationTime graceEnd, q.now.addMonths? (12 * plan.years.toNat) = some expirationTime
        ∧ q.now.addDays? plan.addGraceDays = some graceEnd
        ∧ d = registration id plan q expirationTime graceEnd := by
  unfold newDomain
  cases q.now.addMonths? (12 * plan.years.toNat) with
  | none => simp
  | some expirationTime =>
    cases q.now.addDays? plan.addGraceDays with
    | none => simp
    | some graceEnd =>
      constructor
      · intro made
        exact ⟨expirationTime, graceEnd, rfl, rfl, (Except.ok.inj made).symm⟩
      · rintro ⟨_, _, ⟨⟩, ⟨⟩, rfl⟩
        rfl

theorem newDomain_eq_ok {id : String} (made : newDomain id plan q = .ok d) :
    d.repoId = id ∧ d.name = plan.name ∧ d.nameservers = plan.nameservers
      ∧ d.deletionTime = none := by
  obtain ⟨_, _, _, _, rfl⟩ := newDomain_eq_ok_iff.mp made
  exact ⟨rfl, rfl, rfl, rfl⟩

theorem persist_error {given : Option String} {plan : CreatePlan} {x y : Transaction}
    {id : String} {r : Rejection} (chosen : chosenId given plan.zone x = (id, y))
    (made : newDomain id plan q = .error r) :
    persist given (.ok plan) q x = (.error r, y) := by
  unfold persist
  dsimp only
  rw [chosen]
  dsimp only
  rw [made]

theorem persist_ok {given : Option String} {plan : CreatePlan} {x y : Transaction}
    {id : String} {d : Domain} (chosen : chosenId given plan.zone x = (id, y))
    (made : newDomain id plan q = .ok d) :
    persist given (.ok plan) q x =
      (.ok ⟨d.repoId, d.creationTime, d.expirationTime, plan⟩, store d q y) := by
  unfold persist
  dsimp only
  rw [chosen]
  dsimp only
  rw [made]

section Store

variable (s : State) (d : Domain) (q : CreateRequest)

theorem store_committed :
    (s.commit (store d q s.store.begin)).store.committed
      = (s.store.committed.insertDomain d).log [historyEntry d q] [] :=
  Store.commit_committed _ _

theorem store_ids : (s.commit (store d q s.store.begin)).store.ids = s.store.ids :=
  Store.commit_ids _ _

theorem store_queues :
    (s.commit (store d q s.store.begin)).queues =
      State.dispatch s.queues (.refresh (.domain d.name)) :=
  rfl

theorem store_remembered? (name : String) :
    (s.commit (store d q s.store.begin)).store.remembered? name =
      if name = d.name then none else s.store.remembered? name := by
  have stored : (s.commit (store d q s.store.begin)).store.remembered? name =
      if name ∈ [d.name] then none else s.store.remembered? name := Store.remembered?_forget
  simpa using stored

end Store

/-- The state in which the identifier for a request has been taken. -/
def drawnState (a : Admission) (s : State) (q : CreateRequest) : State :=
  (Gate.repoId a.config s q.command.name).2

def gated (a : Admission) (s : State) (q : CreateRequest) : Except Rejection Unit :=
  (Gate.check (drawnState a s q) q.command.name q.now).1

def atStart (a : Admission) (s : State) (q : CreateRequest) : State :=
  (Gate.check (drawnState a s q) q.command.name q.now).2

def attempt (a : Admission) (given : Option String) (s : State) (q : CreateRequest) :
    Traced Created × State :=
  let answer := a.assess s.store.begin.reader q
  let (result, s) := s.transact (persist given answer.result q)
  (⟨result, answer.reports⟩, s)

theorem run_of_turned_away {r : Rejection} (turned : gated a s q = .error r) :
    run a s q = (⟨.error r, []⟩, atStart a s q) := by
  have gate : Gate.check (drawnState a s q) q.command.name q.now = (.error r, atStart a s q) :=
    Prod.ext turned rfl
  unfold run
  dsimp only
  unfold drawnState at gate
  rw [gate]

theorem run_of_passed (passed : gated a s q = .ok ()) :
    run a s q =
      attempt a (Gate.repoId a.config s q.command.name).1 (atStart a s q) q := by
  have gate : Gate.check (drawnState a s q) q.command.name q.now = (.ok (), atStart a s q) :=
    Prod.ext passed rfl
  unfold run
  dsimp only
  unfold drawnState at gate
  rw [gate]
  rfl

section Attempt

variable {given : Option String} {u : State} (same : u.store.committed = s.store.committed)
include same

theorem attempt_of_error {r : Rejection}
    (failed : persist given (a.assess s.store.committed.reader q).result q u.store.begin
      = (.error r, u.store.begin)) :
    (attempt a given u q).1.result = .error r ∧ (attempt a given u q).2 = u := by
  unfold attempt
  rw [Store.begin_reader, same]
  dsimp only
  rw [State.transact_of_error failed]
  exact ⟨rfl, rfl⟩

theorem attempt_of_rejected {r : Rejection}
    (rejected : (a.assess s.store.committed.reader q).result = .error r) :
    (attempt a given u q).1.result = .error r ∧ (attempt a given u q).2 = u := by
  refine attempt_of_error same ?_
  rw [rejected]
  rfl

theorem attempt_of_unmade {id : String} {r : Rejection}
    (accepted : (a.assess s.store.committed.reader q).result = .ok plan)
    (unmade : newDomain id plan q = .error r) :
    (attempt a (some id) u q).1.result = .error r ∧ (attempt a (some id) u q).2 = u := by
  refine attempt_of_error same ?_
  rw [accepted]
  exact persist_error rfl unmade

theorem attempt_of_made {id : String}
    (accepted : (a.assess s.store.committed.reader q).result = .ok plan)
    (made : newDomain id plan q = .ok d) :
    (attempt a (some id) u q).1.result = .ok ⟨d.repoId, d.creationTime, d.expirationTime, plan⟩
      ∧ (attempt a (some id) u q).2 = u.commit (store d q u.store.begin) := by
  have worked : persist (some id) (a.assess s.store.committed.reader q).result q u.store.begin
      = (.ok ⟨d.repoId, d.creationTime, d.expirationTime, plan⟩, store d q u.store.begin) := by
    rw [accepted]
    exact persist_ok rfl made
  unfold attempt
  rw [Store.begin_reader, same]
  dsimp only
  rw [State.transact_of_ok worked]
  exact ⟨rfl, rfl⟩

end Attempt

section Start

variable (a : Admission) (s : State) (q : CreateRequest)

theorem drawnState_eq :
    drawnState a s q = { s with store := { s.store with
      ids := if Gate.draws a.config q.command.name then ⟨s.store.ids.next + 1⟩
        else s.store.ids } } :=
  Gate.repoId_state a.config s q.command.name

theorem drawnState_committed : (drawnState a s q).store.committed = s.store.committed := by
  rw [drawnState_eq]

theorem drawnState_ids : (drawnState a s q).store.ids =
    if Gate.draws a.config q.command.name then ⟨s.store.ids.next + 1⟩ else s.store.ids := by
  rw [drawnState_eq]

theorem drawnState_queues : (drawnState a s q).queues = s.queues := by
  rw [drawnState_eq]

theorem drawnState_remembered? (name : String) :
    (drawnState a s q).store.remembered? name = s.store.remembered? name := by
  rw [drawnState_eq]
  rfl

theorem atStart_eq :
    ∃ cache, atStart a s q =
      { drawnState a s q with store := { (drawnState a s q).store with cache } } := by
  unfold atStart
  rw [Gate.check_state]
  exact (drawnState a s q).load_state q.command.name q.now

theorem atStart_committed : (atStart a s q).store.committed = s.store.committed := by
  obtain ⟨cache, start⟩ := atStart_eq a s q
  rw [start]
  exact drawnState_committed a s q

theorem atStart_ids : (atStart a s q).store.ids =
    if Gate.draws a.config q.command.name then ⟨s.store.ids.next + 1⟩ else s.store.ids := by
  obtain ⟨cache, start⟩ := atStart_eq a s q
  rw [start]
  exact drawnState_ids a s q

theorem atStart_queues : (atStart a s q).queues = s.queues := by
  obtain ⟨cache, start⟩ := atStart_eq a s q
  rw [start]
  exact drawnState_queues a s q

end Start

theorem atStart_remembered? {other : String} (apart : other ≠ q.command.name) :
    (atStart a s q).store.remembered? other = s.store.remembered? other := by
  rw [← drawnState_remembered? a s q other]
  unfold atStart
  rw [Gate.check_state]
  rcases Store.remembered?_cachedHolder with same | ⟨own, _⟩
  · exact same
  · exact absurd own apart

theorem drawnState_coherent (coherent : s.store.Coherent) (a : Admission) (q : CreateRequest) :
    (drawnState a s q).store.Coherent := by
  rw [drawnState_eq]
  exact coherent.withIds _

theorem atStart_coherent (coherent : s.store.Coherent) (a : Admission) (q : CreateRequest) :
    (atStart a s q).store.Coherent :=
  Gate.check_coherent (drawnState_coherent coherent a q) _ _

theorem plan_name {reader : Reader} (accepted : (a.assess reader q).result = .ok plan) :
    plan.name = q.command.name := by
  obtain ⟨p, rfl⟩ := Admission.accepted_iff.mp accepted
  exact p.plan_name

theorem draws_of_accepted {reader : Reader} (accepted : (a.assess reader q).result = .ok plan) :
    Gate.draws a.config q.command.name = true := by
  obtain ⟨p, rfl⟩ := Admission.accepted_iff.mp accepted
  exact Gate.draws_of_check p.named

theorem given_of_accepted {reader : Reader} (accepted : (a.assess reader q).result = .ok plan) :
    (Gate.repoId a.config s q.command.name).1 = some (s.store.ids.repoId plan.zone).1 := by
  obtain ⟨p, rfl⟩ := Admission.accepted_iff.mp accepted
  rw [Gate.repoId_of_check p.named]
  rfl

inductive Outcome (a : Admission) (s : State) (q : CreateRequest) :
    Except Rejection Created → State → Prop
  | rejected (r : Rejection) : Outcome a s q (.error r) (atStart a s q)
  | stored (plan : CreatePlan) (d : Domain) (passed : gated a s q = .ok ())
      (accepted : (a.assess s.store.committed.reader q).result = .ok plan)
      (made : newDomain (s.store.ids.repoId plan.zone).1 plan q = .ok d) :
      Outcome a s q (.ok ⟨d.repoId, d.creationTime, d.expirationTime, plan⟩)
        ((atStart a s q).commit (store d q (atStart a s q).store.begin))

theorem run_of_rejected {r : Rejection} (passed : gated a s q = .ok ())
    (rejected : (a.assess s.store.committed.reader q).result = .error r) :
    (run a s q).1.result = .error r ∧ (run a s q).2 = atStart a s q := by
  rw [run_of_passed passed]
  exact attempt_of_rejected (atStart_committed a s q) rejected

theorem run_of_unmade {r : Rejection} (passed : gated a s q = .ok ())
    (accepted : (a.assess s.store.committed.reader q).result = .ok plan)
    (unmade : newDomain (s.store.ids.repoId plan.zone).1 plan q = .error r) :
    (run a s q).1.result = .error r ∧ (run a s q).2 = atStart a s q := by
  rw [run_of_passed passed, given_of_accepted accepted]
  exact attempt_of_unmade (atStart_committed a s q) accepted unmade

theorem run_of_made (passed : gated a s q = .ok ())
    (accepted : (a.assess s.store.committed.reader q).result = .ok plan)
    (made : newDomain (s.store.ids.repoId plan.zone).1 plan q = .ok d) :
    (run a s q).1.result = .ok ⟨d.repoId, d.creationTime, d.expirationTime, plan⟩
      ∧ (run a s q).2 = (atStart a s q).commit (store d q (atStart a s q).store.begin) := by
  rw [run_of_passed passed, given_of_accepted accepted]
  exact attempt_of_made (atStart_committed a s q) accepted made

theorem run_outcome (a : Admission) (s : State) (q : CreateRequest) :
    Outcome a s q (run a s q).1.result (run a s q).2 := by
  cases passed : gated a s q with
  | error r =>
    rw [run_of_turned_away passed]
    exact .rejected r
  | ok u =>
    cases accepted : (a.assess s.store.committed.reader q).result with
    | error r =>
      obtain ⟨result, state⟩ := run_of_rejected passed accepted
      rw [result, state]
      exact .rejected r
    | ok plan =>
      cases made : newDomain (s.store.ids.repoId plan.zone).1 plan q with
      | error r =>
        obtain ⟨result, state⟩ := run_of_unmade passed accepted made
        rw [result, state]
        exact .rejected r
      | ok d =>
        obtain ⟨result, state⟩ := run_of_made passed accepted made
        rw [result, state]
        exact .stored plan d passed accepted made

inductive Effect (a : Admission) (t : Tables) (q : CreateRequest) :
    Except Rejection Created → Tables → Prop
  | rejected (r : Rejection) : Effect a t q (.error r) t
  | created (id : String) (plan : CreatePlan) (d : Domain)
      (accepted : (a.assess t.reader q).result = .ok plan)
      (made : newDomain id plan q = .ok d) :
      Effect a t q (.ok ⟨d.repoId, d.creationTime, d.expirationTime, plan⟩)
        ((t.insertDomain d).log [historyEntry d q] [])

theorem Effect.keyed {answer : Except Rejection Created} {after : Tables}
    (effect : Effect a t q answer after) (keyed : t.Keyed) : after.Keyed := by
  cases effect with
  | rejected r => exact keyed
  | created id plan d accepted made => exact (keyed.insertDomain d).log

theorem run_effect (a : Admission) (s : State) (q : CreateRequest) :
    Effect a s.store.committed q (run a s q).1.result (run a s q).2.store.committed := by
  have outcome := run_outcome a s q
  generalize (run a s q).1.result = result at outcome ⊢
  generalize (run a s q).2 = after at outcome ⊢
  cases outcome with
  | rejected r =>
    rw [atStart_committed]
    exact .rejected r
  | stored plan d passed accepted made =>
    rw [store_committed, atStart_committed]
    exact .created _ plan d accepted made

theorem run_taken {d : Domain}
    (taken : s.store.committed.domainNamed? q.command.name q.now = some d) :
    (run a s q).1.result = .error (.resourceAlreadyExists q.command.name) := by
  cases passed : gated a s q with
  | error r => rw [run_of_turned_away passed, Gate.check_error passed]
  | ok u => exact (run_of_rejected passed (Admission.assess_taken taken)).1

/-- The gate has no say about a free name that the cache does not know. -/
theorem run_free {r : Rejection} (forgotten : s.store.Forgets q.command.name)
    (free : s.store.committed.domainNamed? q.command.name q.now = none)
    (rejected : (a.assess s.store.committed.reader q).result = .error r) :
    (run a s q).1.result = .error r := by
  have unknown : (drawnState a s q).store.Forgets q.command.name := by
    rw [drawnState_eq]
    exact forgotten
  have passed : gated a s q = .ok () := by
    rw [← drawnState_committed a s q] at free
    exact Gate.check_unseen ((State.load_forgotten unknown q.now).trans free)
  exact (run_of_rejected passed rejected).1

end Creation

def openRegistry : Admission where
  config := { zones := .ofList [("tld", .generalAvailability "tld")] }
  catalog := {}
  verifier := { scheme := Ed25519.scheme, mode := .production, root := [] }

def plainRequest (name : String) (nameservers : List String) : CreateRequest where
  command := {
    name
    registrant := some "c"
    contacts := [⟨some .admin, "c"⟩, ⟨some .tech, "c"⟩]
    nameservers }
  registrar := { clientId := "r", allowedZones := .ofList ["tld"] }
  superuser := false
  now := .epoch

def contactState : State where
  store := (Store.empty true {}).seed
    { contacts := [{ repoId := "C-1", contactId := "c", sponsor := "r" }] }

end DomainRegistry
