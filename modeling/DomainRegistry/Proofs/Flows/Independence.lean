import DomainRegistry.Proofs.Flows.DryRun
import DomainRegistry.Proofs.Store.Relabelled

/-!
Creations beside one another. Main statements: a creation changes nothing that a creation of another
name reads, and where the same is read, the answers are the same but for the repository id.
-/

namespace DomainRegistry

namespace Store

variable {s : Store}

theorem forget_caching (names : List String) : (s.forget names).cache.isSome = s.cache.isSome :=
  Option.isSome_map

theorem commit_caching (x : Transaction) : (s.commit x).cache.isSome = s.cache.isSome := by
  unfold commit
  dsimp only
  split
  · rfl
  · exact forget_caching _

theorem cachedHolder_caching (name : String) :
    (s.cachedHolder name).2.cache.isSome = s.cache.isSome := by
  unfold cachedHolder
  cases cached : s.cache with
  | none => exact congrArg Option.isSome cached
  | some cache =>
    dsimp only
    cases cache.get? name with
    | none => rfl
    | some holder => exact congrArg Option.isSome cached

theorem remembered?_own (name : String) :
    (s.cachedHolder name).2.remembered? name
      = if s.cache.isSome then some ((s.remembered? name).getD (s.committed.holder? name))
        else none := by
  unfold cachedHolder remembered?
  cases cached : s.cache with
  | none =>
    dsimp only
    rw [cached]
    rfl
  | some cache =>
    dsimp only [Option.bind_some]
    cases known : cache.get? name with
    | some holder =>
      dsimp only
      rw [cached, Option.bind_some, known]
      rfl
    | none => exact (SortedMap.get?_insert _ _ _ _).trans (if_pos rfl)

end Store

structure State.AlikeFor (name : String) (s t : State) : Prop where
  holder : t.store.committed.holder? name = s.store.committed.holder? name
  remembered : t.store.remembered? name = s.store.remembered? name
  caching : t.store.cache.isSome = s.store.cache.isSome
  hosts : t.store.committed.hostNamed? = s.store.committed.hostNamed?
  contacts : t.store.committed.contactWithId? = s.store.committed.contactWithId?

theorem Admission.assess_congr {a : Admission} {q : CreateRequest} {reader other : Reader}
    (domain : other.domainNamed? q.command.name q.now = reader.domainNamed? q.command.name q.now)
    (hosts : other.hostNamed? = reader.hostNamed?)
    (contacts : other.contactWithId? = reader.contactWithId?) :
    a.assess other q = a.assess reader q := by
  have existence : checkExistence other q = checkExistence reader q := by
    rw [checkExistence, checkExistence, domain]
  have linked : checkLinkedResources other q = checkLinkedResources reader q := by
    have contact : contactLink other q.now = contactLink reader q.now := by
      funext id
      rw [contactLink, contactLink, contacts]
    have host : hostLink other q.now = hostLink reader q.now := by
      funext name
      rw [hostLink, hostLink, hosts]
    rw [checkLinkedResources, checkLinkedResources, contact, host]
  have served (zone : ZonePolicy) : checkNameservers a.config.limits other q zone
      = checkNameservers a.config.limits reader q zone := by
    have glue : lacksGlue other q.now = lacksGlue reader q.now := by
      funext name
      rw [lacksGlue, lacksGlue, hosts]
    rw [checkNameservers, checkNameservers, glue]
  simp only [assess, existence, linked, served]

namespace Creation

variable {a : Admission} {s t : State} {q : CreateRequest}

inductive AgreeButId : Except Rejection Created → Except Rejection Created → Prop
  | rejected (r : Rejection) : AgreeButId (.error r) (.error r)
  | accepted (id other : String) (creationTime expirationTime : Instant) (plan : CreatePlan) :
    AgreeButId (.ok ⟨id, creationTime, expirationTime, plan⟩)
      (.ok ⟨other, creationTime, expirationTime, plan⟩)

section AlikeFor

variable (alike : s.AlikeFor q.command.name t)
include alike

theorem check_alike :
    (Gate.check t q.command.name q.now).1 = (Gate.check s q.command.name q.now).1 := by
  have loads : (t.load q.command.name q.now).1 = (s.load q.command.name q.now).1 := by
    rw [State.load_fst, State.load_fst, alike.remembered, alike.holder]
  rw [Gate.check_fst, Gate.check_fst, loads]

theorem assess_alike :
    a.assess t.store.committed.reader q = a.assess s.store.committed.reader q := by
  refine Admission.assess_congr ?_ alike.hosts alike.contacts
  change t.store.committed.domainNamed? _ _ = s.store.committed.domainNamed? _ _
  rw [Tables.domainNamed?, Tables.domainNamed?, alike.holder]

theorem dryRun_alike : (dryRun a t q).1.result = (dryRun a s q).1.result := by
  have gates : gated a t q = gated a s q := by
    rw [gated_eq, gated_eq, check_alike alike]
  cases passed : gated a s q with
  | error r =>
    rw [dryRun_of_turned_away passed, dryRun_of_turned_away (gates.trans passed)]
  | ok u =>
    rw [dryRun_of_passed passed, dryRun_of_passed (gates.trans passed), assess_alike alike]

/-- Whether a plan is carried out does not depend on the number that is next. -/
theorem run_agree : AgreeButId (run a s q).1.result (run a t q).1.result := by
  rw [run_result, run_result, dryRun_alike alike]
  cases (dryRun a s q).1.result with
  | error r => exact .rejected r
  | ok plan =>
    change AgreeButId (carryOut s q plan) (carryOut t q plan)
    unfold carryOut newDomain
    cases q.now.addMonths? (12 * plan.years.toNat) with
    | none => exact .rejected _
    | some expirationTime =>
      cases q.now.addDays? plan.addGraceDays with
      | none => exact .rejected _
      | some graceEnd => exact .accepted _ _ _ _ _

theorem atStart_remembered?_alike :
    (atStart a t q).store.remembered? q.command.name
      = (atStart a s q).store.remembered? q.command.name := by
  have own (u : State) : (atStart a u q).store.remembered? q.command.name
      = if u.store.cache.isSome then
          some ((u.store.remembered? q.command.name).getD
            (u.store.committed.holder? q.command.name))
        else none := by
    have kept : (drawnState a u q).store.cache = u.store.cache := by rw [drawnState_eq]
    unfold atStart
    rw [Gate.check_state, ← kept, ← drawnState_remembered? a u q, ← drawnState_committed a u q]
    exact Store.remembered?_own _
  rw [own, own, alike.caching, alike.remembered, alike.holder]

end AlikeFor

/-- The repository id that a request gets, whether it is accepted or not. -/
def HandsOut (a : Admission) (s : State) (q : CreateRequest) (id : String) : Prop :=
  (Gate.repoId a.config s q.command.name).1 = some id

def assigned? : Except Rejection Created → Option String
  | .error _ => none
  | .ok c => some c.repoId

def stored? (q : CreateRequest) : Except Rejection Created → Option Domain
  | .error _ => none
  | .ok c => (q.now.addDays? c.plan.addGraceDays).map fun graceEnd =>
    registration c.repoId c.plan q c.expirationTime graceEnd

theorem run_stored (a : Admission) (s : State) (q : CreateRequest) :
    (∃ r, (run a s q).1.result = .error r ∧ (run a s q).2 = atStart a s q)
      ∨ ∃ c d, (run a s q).1.result = .ok c ∧ stored? q (.ok c) = some d
        ∧ HandsOut a s q c.repoId ∧ c.plan.name = q.command.name
        ∧ (run a s q).2 = (atStart a s q).commit (store d q (atStart a s q).store.begin) := by
  have outcome := run_outcome a s q
  generalize (run a s q).1.result = result at outcome ⊢
  generalize (run a s q).2 = after at outcome ⊢
  cases outcome with
  | rejected r => exact Or.inl ⟨r, rfl, rfl⟩
  | stored plan d passed accepted made =>
    obtain ⟨expirationTime, graceEnd, _, ends, rfl⟩ := newDomain_eq_ok_iff.mp made
    refine Or.inr ⟨_, _, rfl, ?_, given_of_accepted accepted, plan_name accepted, rfl⟩
    change (q.now.addDays? plan.addGraceDays).map _ = _
    rw [ends]
    rfl

theorem stored?_registration {c : Created} {d : Domain} (stored : stored? q (.ok c) = some d) :
    d.repoId = c.repoId ∧ d.name = c.plan.name := by
  obtain ⟨graceEnd, _, rfl⟩ := Option.map_eq_some_iff.mp stored
  exact ⟨rfl, rfl⟩

namespace AgreeButId

variable {r r' : Except Rejection Created}

theorem symm (agree : AgreeButId r r') : AgreeButId r' r := by
  cases agree with
  | rejected r => exact .rejected r
  | accepted id other creationTime expirationTime plan => exact .accepted ..

theorem assigned? (agree : AgreeButId r r') :
    (Creation.assigned? r).isSome = (Creation.assigned? r').isSome := by
  cases agree with
  | rejected r => rfl
  | accepted id other creationTime expirationTime plan => rfl

theorem stored? {ρ : Equiv.Perm String} (agree : AgreeButId r r')
    (moved : (Creation.assigned? r).map ρ = Creation.assigned? r') :
    Creation.stored? q r' = (Creation.stored? q r).map (Domain.relabel ρ) := by
  cases agree with
  | rejected r => rfl
  | accepted id other creationTime expirationTime plan =>
    obtain rfl : ρ id = other := Option.some.inj moved
    unfold Creation.stored?
    rw [Option.map_map]
    rfl

end AgreeButId

theorem run_caching (a : Admission) (s : State) (q : CreateRequest) :
    (run a s q).2.store.cache.isSome = s.store.cache.isSome := by
  have start : (atStart a s q).store.cache.isSome = s.store.cache.isSome := by
    have kept : (drawnState a s q).store.cache = s.store.cache := by rw [drawnState_eq]
    unfold atStart
    rw [Gate.check_state, ← kept]
    exact Store.cachedHolder_caching _
  rcases run_stored a s q with ⟨r, _, after⟩ | ⟨c, d, _, _, _, _, after⟩
  · rw [after]
    exact start
  · rw [after]
    exact (Store.commit_caching _).trans start

theorem run_remembered? (name : String) :
    (run a s q).2.store.remembered? name
      = if name = q.command.name then
          match (run a s q).1.result with
          | .ok _ => none
          | .error _ => (atStart a s q).store.remembered? name
        else s.store.remembered? name := by
  by_cases own : name = q.command.name
  · rw [if_pos own]
    rcases run_stored a s q with ⟨r, result, after⟩ | ⟨c, d, result, stored, _, named, after⟩
    · rw [result, after]
    · rw [result, after, store_remembered?, (stored?_registration stored).2, named, if_pos own]
  · have start := atStart_remembered? (a := a) (s := s) (q := q) own
    rw [if_neg own]
    rcases run_stored a s q with ⟨r, _, after⟩ | ⟨c, d, _, stored, _, named, after⟩
    · rw [after]
      exact start
    · rw [after, store_remembered?, (stored?_registration stored).2, named, if_neg own]
      exact start

theorem run_remembered?_alike (alike : s.AlikeFor q.command.name t) :
    (run a t q).2.store.remembered? q.command.name
      = (run a s q).2.store.remembered? q.command.name := by
  rw [run_remembered?, run_remembered?, if_pos rfl, if_pos rfl, atStart_remembered?_alike alike]
  -- What is asked of the answers is only whether they accept.
  have agree := run_agree (a := a) alike
  generalize (run a s q).1.result = r at agree ⊢
  generalize (run a t q).1.result = r' at agree ⊢
  cases agree with
  | rejected r => rfl
  | accepted id other creationTime expirationTime plan => rfl

theorem run_assigned {id : String} (told : assigned? (run a s q).1.result = some id) :
    HandsOut a s q id := by
  rcases run_stored a s q with ⟨r, result, _⟩ | ⟨c, d, result, _, given, _, _⟩
  · rw [result] at told
    cases told
  · rw [result] at told
    exact Option.some.inj told ▸ given

theorem run_stored? {d : Domain} (stored : stored? q (run a s q).1.result = some d) :
    HandsOut a s q d.repoId ∧ d.name = q.command.name := by
  rcases run_stored a s q with ⟨r, result, _⟩ | ⟨c, e, result, made, given, named, _⟩
  · rw [result] at stored
    cases stored
  · rw [result] at stored
    obtain ⟨own, carried⟩ := stored?_registration stored
    exact ⟨own ▸ given, carried.trans named⟩

theorem run_sameDomains (a : Admission) (s : State) (q : CreateRequest) :
    (s.store.committed.adding (stored? q (run a s q).1.result)).SameDomains
      (run a s q).2.store.committed := by
  rcases run_stored a s q with ⟨r, result, after⟩ | ⟨c, d, result, stored, _, _, after⟩
  · rw [result, after, atStart_committed]
    exact .refl _
  · rw [result, after, stored, store_committed, atStart_committed]
    exact ⟨rfl, rfl⟩

theorem run_holder? {name : String} (rooted : s.store.Rooted)
    (free : ∀ id, HandsOut a s q id → ¬s.store.committed.Holds id)
    (apart : name ≠ q.command.name) :
    (run a s q).2.store.committed.holder? name = s.store.committed.holder? name := by
  rw [(run_sameDomains a s q).holder?]
  cases stored : stored? q (run a s q).1.result with
  | none => rfl
  | some d =>
    obtain ⟨given, carried⟩ := run_stored? stored
    change (s.store.committed.insertDomain d).holder? name = _
    rw [Tables.holder?, Tables.holder?, Tables.insertDomain_names, carried, if_neg apart]
    cases leads : s.store.committed.domainNames.get? name with
    | none => rfl
    | some id =>
      have other : id ≠ d.repoId := by
        intro same
        exact free d.repoId given (same ▸ rooted.tables.leads name id leads)
      rw [Option.bind_some, Option.bind_some, Tables.insertDomain_get?, if_neg other]

/-- A creation leaves alone what a creation of another name reads. -/
theorem run_alikeFor {name : String} (rooted : s.store.Rooted)
    (free : ∀ id, HandsOut a s q id → ¬s.store.committed.Holds id)
    (apart : name ≠ q.command.name) : s.AlikeFor name (run a s q).2 := by
  have others : (run a s q).2.store.committed.hostNamed? = s.store.committed.hostNamed?
      ∧ (run a s q).2.store.committed.contactWithId? = s.store.committed.contactWithId? := by
    rcases run_stored a s q with ⟨r, _, after⟩ | ⟨c, d, _, _, _, _, after⟩
    · rw [after, atStart_committed]
      exact ⟨rfl, rfl⟩
    · rw [after, store_committed, atStart_committed]
      exact ⟨rfl, rfl⟩
  refine ⟨run_holder? rooted free apart, ?_, run_caching a s q, others.1, others.2⟩
  rw [run_remembered?, if_neg apart]

end Creation

end DomainRegistry
