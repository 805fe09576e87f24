import DomainRegistry.Admission.Assessment
import DomainRegistry.Proofs.Answers
import DomainRegistry.Proofs.Label.DomainNames

/-!
What an accepted request has passed. Main statements: a request is accepted exactly when there is a
passage through all twelve steps, and the hosts that a passage links are those its names lead to.
-/

namespace DomainRegistry

namespace Admission

variable {a : Admission} {reader : Reader} {q : CreateRequest}

structure Passage (a : Admission) (reader : Reader) (q : CreateRequest) where
  name : DomainName
  years : UInt32
  cost : CreateCost
  nameservers : SortedSet String
  evidence : Launch.Evidence
  free : checkExistence reader q = .ok ()
  named : DomainName.check a.config q.command.name = .ok name
  authorized : q.superuser = true ∨ checkRegistrarAccess q name.zone = .ok ()
  opened : q.superuser = true ∨ checkZoneState q name.zone = .ok ()
  priced : checkPeriod a.config.limits a.catalog.pricing q name = .ok (years, cost)
  linked : checkLinkedResources reader q = .ok nameservers
  contacted : checkContacts q.command name.zone = .ok ()
  served : checkNameservers a.config.limits reader q name.zone = .ok ()
  evidenced : Launch.check (a.launchContext q name) q.command.launch = .ok evidence
  delegated : a.checkSecDns q = .ok ()
  gated : q.superuser = true ∨
    checkGating a.catalog q name cost (a.reservationOf name) (a.isAnchorTenant q name) = .ok ()
  paid : checkFee q cost = .ok ()

def Passage.plan (p : Passage a reader q) : CreatePlan :=
  a.planOf q p.name p.years p.cost p.nameservers p.evidence

theorem accepted_iff {plan : CreatePlan} :
    (a.assess reader q).result = .ok plan ↔ ∃ p : Passage a reader q, p.plan = plan := by
  simp only [assess, Traced.result_bind_eq_ok, Traced.result_step, Traced.result_stepUnless_eq_ok]
  constructor
  · rintro ⟨_, free, name, named, _, authorized, _, opened, ⟨years, cost⟩, priced, nameservers,
      linked, _, contacted, _, served, evidence, evidenced, _, delegated, _, gated, _, paid, made⟩
    exact ⟨⟨name, years, cost, nameservers, evidence, free, named, authorized, opened, priced,
      linked, contacted, served, evidenced, delegated, gated, paid⟩, Except.ok.inj made⟩
  · rintro ⟨p, rfl⟩
    exact ⟨(), p.free, p.name, p.named, (), p.authorized, (), p.opened, (p.years, p.cost),
      p.priced, p.nameservers, p.linked, (), p.contacted, (), p.served, p.evidence, p.evidenced,
      (), p.delegated, (), p.gated, (), p.paid, rfl⟩

theorem Passage.plan_name (p : Passage a reader q) : p.plan.name = q.command.name :=
  DomainName.fullName_of_check p.named

theorem checkExistence_eq_ok_iff :
    checkExistence reader q = .ok () ↔ reader.domainNamed? q.command.name q.now = none := by
  unfold checkExistence
  cases reader.domainNamed? q.command.name q.now <;> simp

theorem assess_taken {d : Domain} (taken : reader.domainNamed? q.command.name q.now = some d) :
    (a.assess reader q).result = .error (.resourceAlreadyExists q.command.name) := by
  refine Traced.result_bind_eq_error.mpr (Or.inl ?_)
  rw [Traced.result_step, checkExistence, taken]

/-- A free name is never said to be taken: here the period is what a request fails for at last. -/
theorem assess_free (free : reader.domainNamed? q.command.name q.now = none)
    (privileged : q.superuser = true) (months : q.command.period.unit ≠ .years) :
    ∃ r, (a.assess reader q).result = .error r ∧ r ≠ .resourceAlreadyExists q.command.name := by
  have existence : (Traced.step .existence (checkExistence reader q)).result = .ok () := by
    rw [Traced.result_step]
    exact checkExistence_eq_ok_iff.mpr free
  cases named : DomainName.check a.config q.command.name with
  | error r =>
    refine ⟨r, ?_, ?_⟩
    · refine Traced.result_bind_eq_error.mpr (Or.inr ⟨(), existence, ?_⟩)
      refine Traced.result_bind_eq_error.mpr (Or.inl ?_)
      rw [Traced.result_step, named]
    · rintro rfl
      exact DomainName.check_error named
  | ok name =>
    have bypassed {s : AdmissionStep} {answer : Except Rejection Unit} :
        (Traced.stepUnless q.superuser s answer).result = .ok () :=
      Traced.result_stepUnless_eq_ok.mpr (Or.inl privileged)
    refine ⟨.badPeriodUnit, ?_, by simp⟩
    refine Traced.result_bind_eq_error.mpr (Or.inr ⟨(), existence, ?_⟩)
    refine Traced.result_bind_eq_error.mpr (Or.inr ⟨name, by rw [Traced.result_step, named], ?_⟩)
    refine Traced.result_bind_eq_error.mpr (Or.inr ⟨(), bypassed, ?_⟩)
    refine Traced.result_bind_eq_error.mpr (Or.inr ⟨(), bypassed, ?_⟩)
    refine Traced.result_bind_eq_error.mpr (Or.inl ?_)
    rw [Traced.result_step, checkPeriod, if_pos months]

section Links

variable {α : Type}

theorem followLinks_eq_ok_iff {kind : LinkKind} {follow : String → Link α} {ids : List String}
    {missing : List String} {found result : List α} :
    followLinks kind follow missing found ids = .ok result ↔
      missing = [] ∧ ∃ reached, ids.map follow = reached.map Link.found
        ∧ result = found.reverse ++ reached := by
  induction ids generalizing missing found with
  | nil =>
    simp only [followLinks, List.isEmpty_iff, List.map_nil]
    split
    · next all =>
      constructor
      · rintro ⟨⟩; exact ⟨all, [], by simp⟩
      · rintro ⟨_, reached, same, rfl⟩; cases reached <;> simp at same ⊢
    · next lost => simp [lost]
  | cons id ids ih =>
    rw [followLinks]
    split
    · next lost =>
      rw [ih]
      constructor
      · rintro ⟨all, _⟩; cases all
      · rintro ⟨_, reached, same, _⟩; cases reached <;> simp [lost] at same
    · next pending =>
      constructor
      · intro rejected; cases rejected
      · rintro ⟨_, reached, same, _⟩; cases reached <;> simp [pending] at same
    · next h there =>
      rw [ih]
      constructor
      · rintro ⟨all, reached, same, rfl⟩
        exact ⟨all, h :: reached, by simp [there, same], by simp⟩
      · rintro ⟨all, reached, same, rfl⟩
        cases reached with
        | nil => simp at same
        | cons b reached =>
          simp only [List.map_cons, there, List.cons.injEq, Link.found.injEq] at same
          exact ⟨all, reached, same.2, by simp [same.1]⟩

theorem followLinks_found {kind : LinkKind} {follow : String → Link α} {ids : List String}
    {result : List α} (followed : followLinks kind follow [] [] ids = .ok result) :
    (∀ id ∈ ids, ∃ a, follow id = .found a)
      ∧ ∀ a, a ∈ result ↔ ∃ id ∈ ids, follow id = .found a := by
  obtain ⟨_, reached, same, made⟩ := followLinks_eq_ok_iff.mp followed
  obtain rfl : result = reached := made
  constructor
  · intro id member
    have led : follow id ∈ result.map Link.found := same ▸ List.mem_map_of_mem member
    obtain ⟨a, _, leads⟩ := List.mem_map.mp led
    exact ⟨a, leads.symm⟩
  · intro a
    have led : Link.found a ∈ ids.map follow ↔ a ∈ result := by simp [same]
    rw [← led, List.mem_map]

theorem link_eq_found (isPending : α → Bool) {b c : α} :
    (if isPending b then Link.pendingDelete else .found b) = .found c ↔
      some b = some c ∧ isPending c = false := by
  split
  · next pending =>
    simp only [reduceCtorEq, Option.some.injEq, false_iff, not_and]
    rintro rfl
    simp [pending]
  · next pending =>
    simp only [Link.found.injEq, Option.some.injEq, iff_self_and]
    rintro rfl
    simpa using pending

end Links

theorem hostLink_eq_found {now : Instant} {name : String} {h : Host} :
    hostLink reader now name = .found h ↔
      reader.hostNamed? name now = some h ∧ h.isPendingDelete = false := by
  unfold hostLink
  cases reader.hostNamed? name now with
  | none => simp
  | some g => exact link_eq_found Host.isPendingDelete

theorem contactLink_eq_found {now : Instant} {id : String} {c : Contact} :
    contactLink reader now id = .found c ↔
      reader.contactWithId? id now = some c ∧ c.isPendingDelete = false := by
  unfold contactLink
  cases reader.contactWithId? id now with
  | none => simp
  | some b => exact link_eq_found Contact.isPendingDelete

theorem linked_host {nameservers : SortedSet String} {id : String}
    (linked : checkLinkedResources reader q = .ok nameservers) (member : id ∈ nameservers) :
    ∃ name ∈ q.command.nameservers, ∃ h, reader.hostNamed? name q.now = some h
      ∧ h.isPendingDelete = false ∧ h.repoId = id := by
  simp only [checkLinkedResources, bind_eq_ok] at linked
  obtain ⟨_, _, hosts, followed, made⟩ := linked
  obtain rfl : SortedSet.ofList (hosts.map Host.repoId) = nameservers := Except.ok.inj made
  obtain ⟨h, found, rfl⟩ := List.mem_map.mp (SortedSet.mem_ofList.mp member)
  obtain ⟨name, listed, leads⟩ := ((followLinks_found followed).2 h).mp found
  obtain ⟨named, waiting⟩ := hostLink_eq_found.mp leads
  exact ⟨name, SortedSet.mem_ofList.mp listed, h, named, waiting, rfl⟩

end Admission

end DomainRegistry
