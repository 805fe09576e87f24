import DomainRegistry.Proofs.Flows.Creation

/-!
What a creation commits. Main statement: it stores one new domain as planned, with its name, its
entry in the history and its task in the queue, and from then on the name is taken; or it leaves all
of these as they were.
-/

namespace DomainRegistry

namespace Creation

variable {a : Admission} {s : State} {q : CreateRequest} {plan : CreatePlan} {d : Domain}

def notified (queue : Queue DnsRefresh) (name : String) : Queue DnsRefresh :=
  if queue.closed then queue else { queue with tasks := queue.tasks ++ [.domain name] }

structure Registered (a : Admission) (q : CreateRequest) (before : State) (c : Created)
    (after : State) : Prop where
  planned : (a.assess before.store.committed.reader q).result = .ok c.plan
  named : c.plan.name = q.command.name
  repoId : c.repoId = (before.store.ids.repoId c.plan.zone).1
  creationTime : c.creationTime = q.now
  unused : before.store.committed.domains.get? c.repoId = none
  committed : ∃ graceEnd,
    q.now.addMonths? (12 * c.plan.years.toNat) = some c.expirationTime
      ∧ q.now.addDays? c.plan.addGraceDays = some graceEnd
      ∧ after.store.committed = { before.store.committed with
          domains := before.store.committed.domains.insert c.repoId
            (registration c.repoId c.plan q c.expirationTime graceEnd)
          domainNames := before.store.committed.domainNames.insert c.plan.name c.repoId
          history := before.store.committed.history
            ++ [⟨c.repoId, .domainCreate, q.registrar.clientId, q.now, q.superuser⟩] }
  ids : after.store.ids = ⟨before.store.ids.next + 1⟩
  cache : ∀ name, after.store.remembered? name =
    if name = c.plan.name then none else before.store.remembered? name
  dns : after.queues.dns = notified before.queues.dns c.plan.name
  asyncDelete : after.queues.asyncDelete = before.queues.asyncDelete

theorem Registered.taken {c : Created} {after : State} (registered : Registered a q s c after)
    (now : Instant) : ∃ d, after.store.committed.domainNamed? q.command.name now = some d := by
  obtain ⟨graceEnd, _, _, committed⟩ := registered.committed
  refine ⟨registration c.repoId c.plan q c.expirationTime graceEnd, ?_⟩
  refine Tables.domainNamed?_eq_some_iff.mpr ⟨c.repoId, ?_, ?_, rfl⟩
  · rw [committed, ← registered.named, SortedMap.get?_insert, if_pos rfl]
  · rw [committed, SortedMap.get?_insert, if_pos rfl]

end Creation

end DomainRegistry
