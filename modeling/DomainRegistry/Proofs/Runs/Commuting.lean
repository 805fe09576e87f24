import DomainRegistry.Proofs.Flows.Independence
import DomainRegistry.Proofs.Runs.Creations
import DomainRegistry.Proofs.Runs.Lookups

/-!
Creations in either order. Main statements: whatever happens to a registry, names lead to stored
domains, and so creations of two names answer and store the same in either order, up to the
repository ids that they are given.
-/

namespace DomainRegistry

namespace State

variable {s t : State} {ρ : Equiv.Perm String}

theorem commit_rooted (rooted : s.store.Rooted) (x : Transaction) : (s.commit x).store.Rooted :=
  Store.Rooted.commit rooted x

theorem transact_rooted {ε α : Type} {work : Transaction → Except ε α × Transaction}
    (rooted : s.store.Rooted) : (s.transact work).2.store.Rooted := by
  unfold transact
  split
  · next x _ => exact commit_rooted rooted x
  · next x _ => exact rooted.withIds x.ids

/-- The same domains and the same look-ups of them, up to repository ids. -/
structure Relabelled (ρ : Equiv.Perm String) (s t : State) : Prop where
  domains : ∀ id, t.domain? (ρ id) = (s.domain? id).map (Domain.relabel ρ)
  named : ∀ name now,
    t.snapshot.domainNamed? name now = (s.snapshot.domainNamed? name now).map (Domain.relabel ρ)
  loads : ∀ name now, (t.load name now).1 = ((s.load name now).1).map (Domain.relabel ρ)

theorem relabelled_of_remembered (tables : s.store.committed.Relabelled ρ t.store.committed)
    (remembered : ∀ name, t.store.remembered? name = s.store.remembered? name)
    (fixed : ∀ name d, s.store.remembered? name = some (some d) → d.relabel ρ = d) :
    Relabelled ρ s t := by
  refine ⟨tables.domains, tables.domainNamed?, ?_⟩
  intro name now
  have holder : (t.store.remembered? name).getD (t.store.committed.holder? name)
      = ((s.store.remembered? name).getD (s.store.committed.holder? name)).map
        (Domain.relabel ρ) := by
    rw [remembered]
    cases known : s.store.remembered? name with
    | none => exact tables.holder? name
    | some holder =>
      cases holder with
      | none => rfl
      | some d => exact congrArg some (fixed name d known).symm
  rw [load_fst, load_fst, holder, Option.filter_map]
  rfl

end State

namespace Creation

variable {a : Admission} {s : State} {q p : CreateRequest}

theorem atStart_rooted (rooted : s.store.Rooted) (a : Admission) (q : CreateRequest) :
    (atStart a s q).store.Rooted := by
  have drawn : (drawnState a s q).store.Rooted := by
    rw [drawnState_eq]
    exact rooted.withIds _
  unfold atStart
  rw [Gate.check_state]
  exact drawn.load q.command.name q.now

theorem run_rooted (rooted : s.store.Rooted) (a : Admission) (q : CreateRequest) :
    (run a s q).2.store.Rooted := by
  have start := atStart_rooted rooted a q
  rcases run_stored a s q with ⟨r, _, after⟩ | ⟨c, d, _, _, _, _, after⟩
  · rw [after]
    exact start
  · rw [after]
    exact State.commit_rooted start _

end Creation

namespace World

variable {a : Admission} {w : World} {e : Event} {es : List Event}

theorem committed_rooted (rooted : w.state.store.Rooted) (c : Option Commit) :
    (w.committed c).store.Rooted := by
  cases c with
  | none => exact rooted
  | some c =>
    change (DeletionJob.commit w.state c.request c.referenced c.now).2.store.Rooted
    rw [DeletionJob.commit_eq]
    split
    · exact State.commit_rooted rooted _
    · split
      · exact State.commit_rooted rooted _
      · exact State.commit_rooted rooted _

theorem step_rooted (rooted : w.state.store.Rooted) (op : Operation) :
    (w.step a op).state.store.Rooted := by
  cases op with
  | create q => exact Creation.run_rooted rooted a q
  | requestDeletion jobId q => exact State.transact_rooted rooted
  | start job => exact rooted
  | scan i order now =>
    dsimp only [step]
    split
    · exact rooted
    · exact rooted
  | resume i order broken now =>
    rw [resume_state]
    exact committed_rooted rooted _
  | commit i referenced now =>
    rw [commit_state]
    exact committed_rooted rooted _

theorem perform_rooted (rooted : w.state.store.Rooted) (e : Event) :
    (w.perform a e).state.store.Rooted := by
  cases e with
  | seed x => exact rooted.seed x
  | transact work => exact State.transact_rooted rooted
  | operate op => exact step_rooted rooted op
  | check name now =>
    rw [perform, Gate.check_state]
    exact rooted.load name now
  | load name now => exact rooted.load name now
  | expire names => exact rooted.forget names

theorem performAll_rooted (rooted : w.state.store.Rooted) (es : List Event) :
    (w.performAll a es).state.store.Rooted := by
  induction es generalizing w with
  | nil => exact rooted
  | cons e es ih => exact ih (perform_rooted rooted e)

end World

namespace Creation

variable {a : Admission} {s : State} {q p : CreateRequest} {id other : String}

theorem HandsOut.nth (given : HandsOut a s q id) :
    drawn a [q] = 1 ∧ ∃ zone, id = s.store.ids.nth 0 zone := by
  have sought : Gate.isPlausible q.command.name = true := by
    by_contra plain
    rw [HandsOut, Gate.repoId, if_neg plain] at given
    cases given
  rw [HandsOut, Gate.repoId, if_pos sought] at given
  cases zoned : DomainName.findZone? a.config q.command.name with
  | none =>
    rw [zoned] at given
    cases given
  | some zone =>
    rw [zoned] at given
    have own : (s.store.ids.repoId zone.name).1 = id := Option.some.inj given
    have draws : Gate.draws a.config q.command.name = true := by
      rw [Gate.draws, sought, zoned]
      rfl
    have number : s.store.ids.next + .ofNat 0 = s.store.ids.next := UInt64.add_zero _
    refine ⟨?_, zone.name, ?_⟩
    · rw [drawn, List.countP_singleton, if_pos draws]
    · rw [← own, RepoId.Allocator.nth, number]
      rfl

theorem HandsOut.apart (given : HandsOut a s q id) (later : HandsOut a (run a s q).2 p other) :
    id ≠ other := by
  obtain ⟨draws, zone, rfl⟩ := given.nth
  obtain ⟨_, zone', rfl⟩ := later.nth
  intro same
  have numbers : s.store.ids.nth 0 zone = s.store.ids.nth (drawn a [q] + 0) zone' :=
    same.trans (nth_after 0 zone' [q])
  have again := RepoId.Allocator.nth_injective (by decide) (by rw [draws]; decide) numbers
  omega

theorem run_remembered_holds {name : String} {d : Domain} (rooted : s.store.Rooted)
    (known : (run a s q).2.store.remembered? name = some (some d)) :
    s.store.committed.Holds d.repoId := by
  rw [run_remembered?] at known
  split at known
  · split at known
    · cases known
    · rw [← atStart_committed a s q]
      exact (atStart_rooted rooted a q).remembered name d known
  · exact rooted.remembered name d known

/-- That no stored domain has an id that a request is given, alone or after another one. -/
structure Unclaimed (a : Admission) (s : State) (q p : CreateRequest) : Prop where
  alone : ∀ id, HandsOut a s q id → s.domain? id = none
  after : ∀ id, HandsOut a (run a s p).2 q id → s.domain? id = none

/-- Two creations in either order: `ρ` takes the ids of the one order to those of the other. -/
structure Commuted (a : Admission) (s : State) (q p : CreateRequest) (ρ : Equiv.Perm String) :
    Prop where
  others : ∀ id, s.domain? id ≠ none → ρ id = id
  first : (assigned? (run a s q).1.result).map ρ = assigned? (run a (run a s p).2 q).1.result
  second : (assigned? (run a (run a s q).2 p).1.result).map ρ = assigned? (run a s p).1.result
  states : (run a (run a s q).2 p).2.Relabelled ρ (run a (run a s p).2 q).2

section Pair

variable (rooted : s.store.Rooted) (apart : q.command.name ≠ p.command.name)
  (free : Unclaimed a s q p)

include rooted apart free in
theorem alike_after : s.AlikeFor p.command.name (run a s q).2 := by
  refine run_alikeFor rooted ?_ apart.symm
  intro id given held
  exact held (free.alone id given)

include rooted apart free in
theorem second_remembered? (name : String) :
    (run a (run a s q).2 p).2.store.remembered? name
      = if name = p.command.name then (run a s p).2.store.remembered? name
        else (run a s q).2.store.remembered? name := by
  by_cases own : name = p.command.name
  · rw [if_pos own, own]
    exact run_remembered?_alike (alike_after rooted apart free)
  · rw [if_neg own, run_remembered?, if_neg own]

include rooted apart free in
theorem second_remembered_holds {name : String} {d : Domain}
    (known : (run a (run a s q).2 p).2.store.remembered? name = some (some d)) :
    s.store.committed.Holds d.repoId := by
  rw [second_remembered? rooted apart free] at known
  split at known
  · exact run_remembered_holds rooted known
  · exact run_remembered_holds rooted known

theorem second_sameDomains (a : Admission) (s : State) (q p : CreateRequest) :
    ((s.store.committed.adding (stored? q (run a s q).1.result)).adding
        (stored? p (run a (run a s q).2 p).1.result)).SameDomains
      (run a (run a s q).2 p).2.store.committed :=
  ((run_sameDomains a s q).adding _).trans (run_sameDomains a (run a s q).2 p)

include apart in
theorem stored_comm (t : Tables) :
    ((t.adding (stored? p (run a (run a s q).2 p).1.result)).adding
        (stored? q (run a s q).1.result)).SameDomains
      ((t.adding (stored? q (run a s q).1.result)).adding
        (stored? p (run a (run a s q).2 p).1.result)) := by
  refine Tables.adding_comm ?_ ?_
  · intro d later e stored
    exact ((run_stored? stored).1.apart (run_stored? later).1).symm
  · intro d later e stored
    rw [(run_stored? later).2, (run_stored? stored).2]
    exact apart.symm

variable (free' : Unclaimed a s p q)
include rooted apart free free'

theorem second_remembered_comm (name : String) :
    (run a (run a s p).2 q).2.store.remembered? name
      = (run a (run a s q).2 p).2.store.remembered? name := by
  rw [second_remembered? rooted apart free, second_remembered? rooted apart.symm free']
  by_cases first : name = q.command.name
  · have other : name ≠ p.command.name := first ▸ apart
    rw [if_pos first, if_neg other]
  · rw [if_neg first]
    by_cases second : name = p.command.name
    · rw [if_pos second]
    · rw [if_neg second, run_remembered?, if_neg second, run_remembered?, if_neg first]

/-- The tables that two orders leave agree under any change of ids that suits both answers. -/
theorem second_relabelled {ρ : Equiv.Perm String} (fixed : ∀ id, s.domain? id ≠ none → ρ id = id)
    (first : (assigned? (run a s q).1.result).map ρ = assigned? (run a (run a s p).2 q).1.result)
    (second : (assigned? (run a (run a s q).2 p).1.result).map ρ
      = assigned? (run a s p).1.result) :
    (run a (run a s q).2 p).2.store.committed.Relabelled ρ
      (run a (run a s p).2 q).2.store.committed := by
  have start := Tables.Relabelled.of_fixed rooted.tables fixed
  have both := (start.adding (stored? q (run a s q).1.result)).adding
    (stored? p (run a (run a s q).2 p).1.result)
  have firstAgree := run_agree (a := a) (alike_after rooted apart.symm free')
  have secondAgree := run_agree (a := a) (alike_after rooted apart free)
  rw [← firstAgree.stored? first, ← secondAgree.symm.stored? second] at both
  exact both.of_same (second_sameDomains a s q p)
    ((stored_comm apart.symm _).trans (second_sameDomains a s p q))

theorem exists_commuted : ∃ ρ, Commuted a s q p ρ := by
  have first := run_agree (a := a) (alike_after rooted apart.symm free')
  have second := run_agree (a := a) (alike_after rooted apart free)
  obtain ⟨ρ, firstId, secondId, moved⟩ := exists_relabelling? first.assigned? second.assigned?.symm
    (fun id told other later => (run_assigned told).apart (run_assigned later))
    (fun id told other later => ((run_assigned later).apart (run_assigned told)).symm)
  -- Only ids that are handed out move, and no stored domain has one of them.
  have fixed : ∀ id, s.domain? id ≠ none → ρ id = id := by
    intro id held
    by_contra moves
    have listed := moved id moves
    simp only [List.mem_cons, List.not_mem_nil, or_false] at listed
    rcases listed with told | told | told | told
    · exact held (free.alone id (run_assigned told.symm))
    · exact held (free'.after id (run_assigned told.symm))
    · exact held (free.after id (run_assigned told.symm))
    · exact held (free'.alone id (run_assigned told.symm))
  have tables := second_relabelled rooted apart free free' fixed firstId secondId
  have remembered := second_remembered_comm rooted apart free free'
  refine ⟨ρ, fixed, firstId, secondId, State.relabelled_of_remembered tables remembered ?_⟩
  intro name d known
  exact Domain.relabel_of_fixed (fixed _ (second_remembered_holds rooted apart free known))

end Pair

theorem creations_commute {cached : Bool} {ids : RepoId.Allocator} {queues : TaskQueues}
    {es : List Event} {q₁ q₂ : CreateRequest}
    (reached : s = ((World.seeded cached ids queues []).performAll a es).state)
    (apart : q₁.command.name ≠ q₂.command.name) (free₁ : Unclaimed a s q₁ q₂)
    (free₂ : Unclaimed a s q₂ q₁) :
    AgreeButId (run a s q₂).1.result (run a (run a s q₁).2 q₂).1.result
      ∧ ∃ ρ, Commuted a s q₁ q₂ ρ := by
  have rooted : s.store.Rooted := by
    rw [reached]
    exact World.performAll_rooted (Store.rooted_empty cached ids) es
  exact ⟨run_agree (alike_after rooted apart free₁), exists_commuted rooted apart free₁ free₂⟩

/-- Each of two names is registered, under an id that depends on the order. -/
theorem plainRequests_commuted :
    assigned? (run openRegistry contactState (plainRequest "b.tld" [])).1.result = some "1-TLD"
      ∧ assigned? (run openRegistry (run openRegistry contactState (plainRequest "a.tld" [])).2
        (plainRequest "b.tld" [])).1.result = some "2-TLD"
      ∧ AgreeButId (run openRegistry contactState (plainRequest "b.tld" [])).1.result
        (run openRegistry (run openRegistry contactState (plainRequest "a.tld" [])).2
          (plainRequest "b.tld" [])).1.result
      ∧ ∃ ρ, Commuted openRegistry contactState (plainRequest "a.tld" [])
        (plainRequest "b.tld" []) ρ := by
  have reached : contactState = ((World.seeded true {} {} []).performAll openRegistry
      [.seed { contacts := [{ repoId := "C-1", contactId := "c", sponsor := "r" }] }]).state := rfl
  have unclaimed (q p : CreateRequest) : Unclaimed openRegistry contactState q p :=
    ⟨fun _ _ => rfl, fun _ _ => rfl⟩
  refine ⟨by decide +kernel, by decide +kernel, ?_⟩
  exact creations_commute reached (by decide) (unclaimed _ _) (unclaimed _ _)

end Creation

end DomainRegistry
