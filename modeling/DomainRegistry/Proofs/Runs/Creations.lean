import DomainRegistry.Proofs.Flows.Registration
import DomainRegistry.Proofs.RepoId
import DomainRegistry.Proofs.Runs.Basic

/-!
Runs of creations. Main statement: no domain is lost in such a run exactly as long as no accepted
creation is given the identifier of a domain that the store was filled with.
-/

namespace DomainRegistry

def State.domain? (s : State) (id : String) : Option Domain := s.store.committed.domains.get? id

namespace Creation

variable {a : Admission} {s : State} {q : CreateRequest} {c : Created} {id : String} {d : Domain}

def runAll (a : Admission) (s : State) (qs : List CreateRequest) : State :=
  qs.foldl (fun s q => (run a s q).2) s

/-- How many identifiers creations use up, rejected ones included. -/
def drawn (a : Admission) (qs : List CreateRequest) : Nat :=
  qs.countP fun q => Gate.draws a.config q.command.name

structure Accepts (a : Admission) (s : State) (qs before : List CreateRequest) (q : CreateRequest)
    (c : Created) : Prop where
  part : before ++ [q] <+: qs
  result : (run a (runAll a s before) q).1.result = .ok c

/-- That no accepted creation of a run is given the identifier of a domain stored at that time. -/
def Fresh (a : Admission) (s : State) (qs : List CreateRequest) : Prop :=
  ∀ before q c, Accepts a s qs before q c → (runAll a s before).domain? c.repoId = none

/-- That at the end of a run all is stored unchanged that was stored at some time. -/
structure NothingLost (a : Admission) (s : State) (seeded : List Domain) (qs : List CreateRequest) :
    Prop where
  fresh : Fresh a s qs
  seeded : ∀ d ∈ seeded, (runAll a s qs).domain? d.repoId = some d
  created : ∀ before q c, Accepts a s qs before q c →
    ∃ d, newDomain c.repoId c.plan q = .ok d ∧ (runAll a s qs).domain? c.repoId = some d

section Step

theorem drawn_append (qs more : List CreateRequest) :
    drawn a (qs ++ more) = drawn a qs + drawn a more :=
  List.countP_append

theorem drawn_cons (a : Admission) (q : CreateRequest) (qs : List CreateRequest) :
    drawn a (q :: qs) = drawn a [q] + drawn a qs :=
  drawn_append [q] qs

theorem run_ids (a : Admission) (s : State) (q : CreateRequest) :
    (run a s q).2.store.ids = ⟨s.store.ids.next + .ofNat (drawn a [q])⟩ := by
  have start : (atStart a s q).store.ids = ⟨s.store.ids.next + .ofNat (drawn a [q])⟩ := by
    rw [atStart_ids, drawn, List.countP_singleton]
    by_cases draws : Gate.draws a.config q.command.name = true
    · rw [if_pos draws, if_pos draws]
      rfl
    · rw [if_neg draws, if_neg draws]
      exact congrArg RepoId.Allocator.mk (UInt64.add_zero _).symm
  have outcome := run_outcome a s q
  generalize (run a s q).1.result = result at outcome
  generalize (run a s q).2 = after at outcome ⊢
  cases outcome with
  | rejected r => exact start
  | stored plan d passed accepted made => exact (store_ids _ d q).trans start

theorem run_rejected {r : Rejection} (rejected : (run a s q).1.result = .error r) (id : String) :
    (run a s q).2.domain? id = s.domain? id := by
  have outcome := run_outcome a s q
  rw [rejected] at outcome
  generalize (run a s q).2 = after at outcome ⊢
  cases outcome with
  | rejected r => rw [State.domain?, atStart_committed, State.domain?]

theorem run_accepted (accepted : (run a s q).1.result = .ok c) :
    drawn a [q] = 1 ∧ c.repoId = s.store.ids.nth 0 c.plan.zone
      ∧ ∃ d, newDomain c.repoId c.plan q = .ok d
        ∧ ∀ id, (run a s q).2.domain? id = if id = c.repoId then some d else s.domain? id := by
  have outcome := run_outcome a s q
  rw [accepted] at outcome
  generalize (run a s q).2 = after at outcome ⊢
  cases outcome with
  | stored plan d passed admitted made =>
    have own : d.repoId = (s.store.ids.repoId plan.zone).1 := (newDomain_eq_ok made).1
    refine ⟨?_, ?_, d, ?_, ?_⟩
    · rw [drawn, List.countP_singleton, if_pos (draws_of_accepted admitted)]
    · have number : s.store.ids.next + .ofNat 0 = s.store.ids.next := UInt64.add_zero _
      rw [own, RepoId.Allocator.nth, number]
      rfl
    · rw [own]
      exact made
    · intro id
      have tables : ((atStart a s q).commit (store d q (atStart a s q).store.begin)).store.committed
          = (s.store.committed.insertDomain d).log [historyEntry d q] [] := by
        rw [← atStart_committed a s q]
        exact store_committed _ d q
      rw [State.domain?, tables]
      exact Tables.insertDomain_get? d id

theorem run_stays (stored : s.domain? id ≠ none) (q : CreateRequest) :
    (run a s q).2.domain? id ≠ none := by
  cases result : (run a s q).1.result with
  | error r =>
    rw [run_rejected result]
    exact stored
  | ok c =>
    obtain ⟨_, _, d, _, found⟩ := run_accepted result
    rw [found]
    by_cases own : id = c.repoId
    · simp [own]
    · rw [if_neg own]
      exact stored

end Step

section Run

variable {qs before more : List CreateRequest}

theorem runAll_append (qs more : List CreateRequest) :
    runAll a s (qs ++ more) = runAll a (runAll a s qs) more :=
  List.foldl_append

theorem runAll_ids (a : Admission) (s : State) (qs : List CreateRequest) :
    (runAll a s qs).store.ids = ⟨s.store.ids.next + .ofNat (drawn a qs)⟩ := by
  induction qs generalizing s with
  | nil => exact congrArg RepoId.Allocator.mk (UInt64.add_zero _).symm
  | cons q qs ih =>
    calc (runAll a (run a s q).2 qs).store.ids
      _ = ⟨(run a s q).2.store.ids.next + .ofNat (drawn a qs)⟩ := ih _
      _ = ⟨s.store.ids.next + .ofNat (drawn a [q]) + .ofNat (drawn a qs)⟩ := by rw [run_ids]
      _ = ⟨s.store.ids.next + .ofNat (drawn a ([q] ++ qs))⟩ := by
        rw [drawn_append, UInt64.ofNat_add, UInt64.add_assoc]

theorem nth_after (n : Nat) (zone : String) (qs : List CreateRequest) :
    (runAll a s qs).store.ids.nth n zone = s.store.ids.nth (drawn a qs + n) zone := by
  rw [RepoId.Allocator.nth, runAll_ids, RepoId.Allocator.nth, UInt64.ofNat_add, UInt64.add_assoc]

theorem Accepts.repoId (accepts : Accepts a s qs before q c) :
    c.repoId = s.store.ids.nth (drawn a before) c.plan.zone := by
  obtain ⟨_, next, _⟩ := run_accepted accepts.result
  exact next.trans (nth_after 0 c.plan.zone before)

theorem Accepts.drawn_lt (accepts : Accepts a s qs before q c) : drawn a before < drawn a qs := by
  obtain ⟨draws, _⟩ := run_accepted accepts.result
  obtain ⟨after, rfl⟩ := accepts.part
  rw [drawn_append, drawn_append]
  omega

theorem Accepts.after (accepts : Accepts a (runAll a s qs) more before q c) :
    Accepts a s (qs ++ more) (qs ++ before) q c where
  part := by
    rw [List.append_assoc]
    exact List.prefix_append_right_inj qs |>.mpr accepts.part
  result := by
    rw [runAll_append]
    exact accepts.result

theorem Fresh.after (fresh : Fresh a s (qs ++ more)) : Fresh a (runAll a s qs) more := by
  intro before q c accepts
  rw [← runAll_append]
  exact fresh (qs ++ before) q c accepts.after

theorem runAll_stays (stored : s.domain? id ≠ none) (qs : List CreateRequest) :
    (runAll a s qs).domain? id ≠ none := by
  induction qs generalizing s with
  | nil => exact stored
  | cons q qs ih => exact ih (run_stays stored q)

theorem runAll_known (stored : (runAll a s qs).domain? id ≠ none) :
    s.domain? id ≠ none ∨ ∃ n < drawn a qs, ∃ zone, id = s.store.ids.nth n zone := by
  induction qs generalizing s with
  | nil => exact Or.inl stored
  | cons q qs ih =>
    -- Numbers handed out after the first request count from where that request leaves them.
    have total := drawn_cons a q qs
    rcases ih stored with earlier | ⟨n, small, zone, rfl⟩
    · cases result : (run a s q).1.result with
      | error r =>
        rw [run_rejected result] at earlier
        exact Or.inl earlier
      | ok c =>
        obtain ⟨draws, next, d, _, found⟩ := run_accepted result
        rw [found] at earlier
        by_cases own : id = c.repoId
        · exact Or.inr ⟨0, by omega, c.plan.zone, own.trans next⟩
        · rw [if_neg own] at earlier
          exact Or.inl earlier
    · exact Or.inr ⟨drawn a [q] + n, by omega, zone, nth_after n zone [q]⟩

theorem Fresh.kept (fresh : Fresh a s qs) (stored : s.domain? id = some d) :
    (runAll a s qs).domain? id = some d := by
  induction qs generalizing s with
  | nil => exact stored
  | cons q qs ih =>
    -- What is left of the run after its first request is fresh from there.
    have later : Fresh a (runAll a s [q]) qs := Fresh.after fresh
    refine ih later ?_
    cases result : (run a s q).1.result with
    | error r =>
      rw [run_rejected result]
      exact stored
    | ok c =>
      have unused : s.domain? c.repoId = none :=
        fresh [] q c ⟨List.prefix_append [q] qs, result⟩
      have other : id ≠ c.repoId := by
        rintro rfl
        rw [unused] at stored
        cases stored
      obtain ⟨_, _, _, _, found⟩ := run_accepted result
      rw [found, if_neg other]
      exact stored

theorem Fresh.created (fresh : Fresh a s qs) (accepts : Accepts a s qs before q c) :
    ∃ d, newDomain c.repoId c.plan q = .ok d ∧ (runAll a s qs).domain? c.repoId = some d := by
  obtain ⟨after, rfl⟩ := accepts.part
  obtain ⟨_, _, d, made, found⟩ := run_accepted accepts.result
  refine ⟨d, made, ?_⟩
  rw [runAll_append]
  refine fresh.after.kept ?_
  rw [runAll_append]
  exact (found c.repoId).trans (if_pos rfl)

/-- A run is fresh exactly if none of its domains is given an identifier in use from the start. -/
theorem fresh_iff (few : drawn a qs < UInt64.size) :
    Fresh a s qs ↔ ∀ before q c, Accepts a s qs before q c →
      s.domain? (s.store.ids.nth (drawn a before) c.plan.zone) = none := by
  constructor
  · intro fresh before q c accepts
    rw [← accepts.repoId]
    by_cases unused : s.domain? c.repoId = none
    · exact unused
    · exact absurd (fresh before q c accepts) (runAll_stays unused before)
  · intro unused before q c accepts
    have own := accepts.repoId
    by_cases stored : (runAll a s before).domain? c.repoId = none
    · exact stored
    · rcases runAll_known stored with earlier | ⟨n, small, zone, same⟩
      · rw [own] at earlier
        exact absurd (unused before q c accepts) earlier
      · -- A number that was handed out before would have come again.
        have large := accepts.drawn_lt
        have again : n = drawn a before :=
          RepoId.Allocator.nth_injective (by omega) (by omega) (same.symm.trans own)
        omega

end Run

section Seeds

variable {cached : Bool} {ids : RepoId.Allocator} {queues : TaskQueues} {seeds : List Fixtures}

theorem seeded_ids : (World.seeded cached ids queues seeds).state.store.ids = ids := by
  change (seeds.foldl Store.seed (.empty cached ids)).ids = ids
  generalize start : Store.empty cached ids = s
  have numbers : s.ids = ids := start ▸ rfl
  clear start
  induction seeds generalizing s with
  | nil => exact numbers
  | cons x seeds ih => exact ih (s.seed x) numbers

theorem seeded_domain? (id : String) :
    (World.seeded cached ids queues seeds).state.domain? id =
      ((seeds.flatMap Fixtures.domains).foldl Tables.insertDomain {}).domains.get? id :=
  congrArg (fun m => m.get? id) ((Store.empty cached ids).seeds_sameDomains seeds).domains

theorem seeded_domain?_of_mem (distinct : ((seeds.flatMap Fixtures.domains).map Domain.repoId).Nodup)
    (member : d ∈ seeds.flatMap Fixtures.domains) :
    (World.seeded cached ids queues seeds).state.domain? d.repoId = some d := by
  rw [seeded_domain?]
  exact Tables.insertDomains_get?_of_mem distinct member

theorem seeded_domain?_eq_none_iff
    (distinct : ((seeds.flatMap Fixtures.domains).map Domain.repoId).Nodup) :
    (World.seeded cached ids queues seeds).state.domain? id = none
      ↔ id ∉ (seeds.flatMap Fixtures.domains).map Domain.repoId := by
  constructor
  · intro unused listed
    obtain ⟨d, member, rfl⟩ := List.mem_map.mp listed
    rw [seeded_domain?_of_mem distinct member] at unused
    cases unused
  · intro absent
    rw [seeded_domain?]
    exact Tables.insertDomains_get?_of_not_mem absent

theorem nothing_lost_iff {qs : List CreateRequest}
    (filled : s = (World.seeded cached ids queues seeds).state)
    (distinct : ((seeds.flatMap Fixtures.domains).map Domain.repoId).Nodup)
    (few : drawn a qs < UInt64.size) :
    NothingLost a s (seeds.flatMap Fixtures.domains) qs ↔
      ∀ before q c, Accepts a s qs before q c →
        ids.nth (drawn a before) c.plan.zone
          ∉ (seeds.flatMap Fixtures.domains).map Domain.repoId := by
  subst filled
  have fresh := fresh_iff (s := (World.seeded cached ids queues seeds).state) few
  simp only [seeded_ids, seeded_domain?_eq_none_iff distinct] at fresh
  constructor
  · intro kept
    exact fresh.mp kept.fresh
  · intro unlisted
    have fresh := fresh.mpr unlisted
    refine ⟨fresh, ?_, fun _ _ _ => fresh.created⟩
    intro d member
    exact fresh.kept (seeded_domain?_of_mem distinct member)

def filed (repoId : String) : Fixtures where
  domains := [{
    repoId
    name := "b.tld"
    zone := "tld"
    sponsor := "r"
    creationTime := .epoch
    deletionTime := none
    expirationTime := .epoch
    registrant := none
    contacts := []
    nameservers := .empty
    subordinateHosts := .empty
    dsData := []
    claimsNotice := none
    smdId := none
    idnTable := none
    gracePeriods := []
    status := .none }]
  contacts := [{ repoId := "C-1", contactId := "c", sponsor := "r" }]

def filedState (repoId : String) : State := (World.seeded true {} {} [filed repoId]).state

theorem second_not_lost :
    (∃ c, Accepts openRegistry (filedState "2-TLD") [plainRequest "a.tld" []] []
        (plainRequest "a.tld" []) c)
      ∧ NothingLost openRegistry (filedState "2-TLD") (filed "2-TLD").domains
        [plainRequest "a.tld" []] := by
  constructor
  · have accepted : ((run openRegistry (filedState "2-TLD")
        (plainRequest "a.tld" [])).1.result.toOption).isSome = true := by decide +kernel
    obtain ⟨c, accepted⟩ := Option.isSome_iff_exists.mp accepted
    exact ⟨c, List.prefix_rfl, eq_ok_of_toOption accepted⟩
  · have filled : filedState "2-TLD" = (World.seeded true {} {} [filed "2-TLD"]).state := rfl
    refine (nothing_lost_iff filled (by decide) (by decide)).mpr ?_
    intro before q c accepts listed
    have short : (before ++ [q]).length ≤ 1 := accepts.part.length_le
    rw [List.length_append, List.length_singleton] at short
    obtain rfl : before = [] := List.length_eq_zero_iff.mp (by omega)
    have same : ({} : RepoId.Allocator).nth 0 c.plan.zone = ({} : RepoId.Allocator).nth 1 "tld" :=
      List.mem_singleton.mp listed
    exact absurd (RepoId.Allocator.nth_injective (by decide) (by decide) same) (by decide)

theorem first_lost :
    ((filed "1-TLD").domains.map Domain.repoId).Nodup
      ∧ drawn openRegistry [plainRequest "a.tld" []] < UInt64.size
      ∧ ¬NothingLost openRegistry (filedState "1-TLD") (filed "1-TLD").domains
        [plainRequest "a.tld" []] := by
  refine ⟨by decide, by decide, ?_⟩
  intro kept
  have found : ∀ d ∈ (filed "1-TLD").domains,
      ((runAll openRegistry (filedState "1-TLD") [plainRequest "a.tld" []]).domain? "1-TLD").map
        Domain.name = some d.name := by
    intro d member
    obtain rfl := List.mem_singleton.mp member
    rw [kept.seeded _ member]
    rfl
  have overwritten : ((runAll openRegistry (filedState "1-TLD")
      [plainRequest "a.tld" []]).domain? "1-TLD").map Domain.name = some "a.tld" := by
    decide +kernel
  have same := overwritten.symm.trans (found _ List.mem_cons_self)
  exact absurd same (by decide)

end Seeds

end Creation

end DomainRegistry
