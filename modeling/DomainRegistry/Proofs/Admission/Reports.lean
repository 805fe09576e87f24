import DomainRegistry.Proofs.Admission.Drafts

/-!
What an admission reports of its steps. Main statements: what is reported of a step is what its
check says, unless superusers are excused from it; the period and the gate are reported if and only
if all before them let the request pass; and a rejection that is reported is the result.
-/

namespace DomainRegistry

namespace Traced

variable {α β : Type}

def outcomeOf : Except Rejection α → StepOutcome
  | .ok _ => .passed
  | .error r => .rejected r

theorem outcomeOf_eq_rejected_iff {answer : Except Rejection α} {r : Rejection} :
    outcomeOf answer = .rejected r ↔ answer = .error r := by
  cases answer <;> simp [outcomeOf]

theorem outcomeOf_eq_passed_iff {answer : Except Rejection Unit} :
    outcomeOf answer = .passed ↔ answer = .ok () := by
  cases answer <;> simp [outcomeOf]

theorem mem_reports_bind {x : Traced α} {f : α → Traced β} {r : StepReport} :
    r ∈ (x >>= f).reports ↔ r ∈ x.reports ∨ ∃ a, x.result = .ok a ∧ r ∈ (f a).reports := by
  change r ∈ (Traced.bind x f).reports ↔ _
  unfold Traced.bind
  cases x.result with
  | error e => simp
  | ok a => simp

theorem mem_reports_step {s t : AdmissionStep} {answer : Except Rejection α} {o : StepOutcome} :
    ⟨t, o⟩ ∈ (step s answer).reports ↔ t = s ∧ o = outcomeOf answer := by
  cases answer <;> simp [step, outcomeOf]

theorem mem_reports_stepUnless {superuser : Bool} {s t : AdmissionStep}
    {answer : Except Rejection Unit} {o : StepOutcome} :
    ⟨t, o⟩ ∈ (stepUnless superuser s answer).reports ↔
      t = s ∧ o = if superuser then .bypassed else outcomeOf answer := by
  cases superuser with
  | true => simp [stepUnless]
  | false => simp [stepUnless, mem_reports_step]

theorem mem_reports_step_bind {s t : AdmissionStep} {answer : Except Rejection α} {o : StepOutcome}
    {f : α → Traced β} :
    ⟨t, o⟩ ∈ (step s answer >>= f).reports ↔
      (t = s ∧ o = outcomeOf answer) ∨ ∃ a, answer = .ok a ∧ ⟨t, o⟩ ∈ (f a).reports := by
  rw [mem_reports_bind, mem_reports_step, result_step]

theorem mem_reports_stepUnless_bind {superuser : Bool} {s t : AdmissionStep}
    {answer : Except Rejection Unit} {o : StepOutcome} {f : Unit → Traced β} :
    ⟨t, o⟩ ∈ (stepUnless superuser s answer >>= f).reports ↔
      (t = s ∧ o = if superuser then .bypassed else outcomeOf answer)
        ∨ (superuser = true ∨ answer = .ok ()) ∧ ⟨t, o⟩ ∈ (f ()).reports := by
  rw [mem_reports_bind, mem_reports_stepUnless]
  simp only [result_stepUnless_eq_ok]
  refine or_congr_right ⟨?_, fun passed => ⟨(), passed⟩⟩
  rintro ⟨_, passed⟩
  exact passed

theorem not_mem_reports_pure {a : α} {r : StepReport} : r ∉ (pure a : Traced α).reports :=
  List.not_mem_nil

/-- That a rejection is reported only if it is the result. -/
def Truthful (x : Traced α) : Prop :=
  ∀ s r, ⟨s, .rejected r⟩ ∈ x.reports → x.result = .error r

theorem Told.truthful {superuser : Bool} {steps : List AdmissionStep} {x : Traced α}
    (told : Told superuser steps x) : x.Truthful := by
  intro s r reported
  -- No step that is passed is reported as one that rejects.
  have not_passed : ∀ taken : List AdmissionStep,
      ⟨s, .rejected r⟩ ∉ taken.map (AdmissionStep.passage superuser) := by
    intro taken member
    rcases AdmissionStep.passing_of_mem_passages member with passed | bypassed
    · cases passed
    · cases bypassed
  cases told with
  | passed a result reports =>
    rw [reports] at reported
    exact absurd reported (not_passed steps)
  | rejected before after t e result split reports =>
    rw [reports] at reported
    rcases List.mem_append.mp reported with early | last
    · exact absurd early (not_passed before)
    · cases List.mem_singleton.mp last
      exact result

end Traced

namespace Admission

variable {a : Admission} {reader : Reader} {q : CreateRequest} {o : StepOutcome} {r : Rejection}

open Traced

def Reports (a : Admission) (reader : Reader) (q : CreateRequest) (s : AdmissionStep)
    (o : StepOutcome) : Prop :=
  ⟨s, o⟩ ∈ (a.assess reader q).reports

theorem assess_truthful (a : Admission) (reader : Reader) (q : CreateRequest) :
    (a.assess reader q).Truthful :=
  (told_assess a reader q).truthful

theorem Reports.result {s : AdmissionStep} (reported : Reports a reader q s (.rejected r)) :
    (a.assess reader q).result = .error r :=
  assess_truthful a reader q s r reported

def FailsAt (a : Admission) (reader : Reader) (q : CreateRequest) (s : AdmissionStep)
    (r : Rejection) : Prop :=
  Reports a reader q s (.rejected r) ∧ (a.assess reader q).result = .error r

theorem failsAt_iff {s : AdmissionStep} :
    FailsAt a reader q s r ↔ Reports a reader q s (.rejected r) :=
  ⟨And.left, fun reported => ⟨reported, reported.result⟩⟩

/-- What the check of a step says of a request, as far as its name and its price are known. -/
inductive Says (a : Admission) (reader : Reader) (q : CreateRequest) :
    AdmissionStep → StepOutcome → Prop
  | existence : Says a reader q .existence (outcomeOf (checkExistence reader q))
  | domainName :
      Says a reader q .domainName (outcomeOf (DomainName.check a.config q.command.name))
  | registrarAccess {name : DomainName}
      (named : DomainName.check a.config q.command.name = .ok name) :
      Says a reader q .registrarAccess (outcomeOf (checkRegistrarAccess q name.zone))
  | zoneState {name : DomainName} (named : DomainName.check a.config q.command.name = .ok name) :
      Says a reader q .zoneState (outcomeOf (checkZoneState q name.zone))
  | period {name : DomainName} (named : DomainName.check a.config q.command.name = .ok name) :
      Says a reader q .period
        (outcomeOf (checkPeriod a.config.limits a.catalog.pricing q name))
  | linkedResources :
      Says a reader q .linkedResources (outcomeOf (checkLinkedResources reader q))
  | contacts {name : DomainName} (named : DomainName.check a.config q.command.name = .ok name) :
      Says a reader q .contacts (outcomeOf (checkContacts q.command name.zone))
  | nameservers {name : DomainName} (named : DomainName.check a.config q.command.name = .ok name) :
      Says a reader q .nameservers
        (outcomeOf (checkNameservers a.config.limits reader q name.zone))
  | launchEvidence {name : DomainName}
      (named : DomainName.check a.config q.command.name = .ok name) :
      Says a reader q .launchEvidence
        (outcomeOf (Launch.check (a.launchContext q name) q.command.launch))
  | dnssec : Says a reader q .dnssec (outcomeOf (a.checkSecDns q))
  | gating {name : DomainName} {years : UInt32} {cost : CreateCost}
      (named : DomainName.check a.config q.command.name = .ok name)
      (priced : checkPeriod a.config.limits a.catalog.pricing q name = .ok (years, cost)) :
      Says a reader q .gating (outcomeOf (checkGating a.catalog q name cost (a.reservationOf name)
        (a.isAnchorTenant q name)))
  | fee {name : DomainName} {years : UInt32} {cost : CreateCost}
      (named : DomainName.check a.config q.command.name = .ok name)
      (priced : checkPeriod a.config.limits a.catalog.pricing q name = .ok (years, cost)) :
      Says a reader q .fee (outcomeOf (checkFee q cost))

/-- What is to be reported of a step: what its check says, if it is asked. -/
def Due (a : Admission) (reader : Reader) (q : CreateRequest) (s : AdmissionStep)
    (o : StepOutcome) : Prop :=
  if q.superuser && s.isExcused then o = .bypassed else Says a reader q s o

theorem Says.due {s : AdmissionStep} (said : Says a reader q s o) (asked : s.isExcused = false) :
    Due a reader q s o := by
  rw [Due, asked, Bool.and_false]
  exact said

theorem Says.due_unless {s : AdmissionStep} (said : Says a reader q s o)
    (excused : s.isExcused = true) : Due a reader q s (if q.superuser then .bypassed else o) := by
  rw [Due, excused, Bool.and_true]
  cases q.superuser with
  | true => exact rfl
  | false => exact said

theorem Reports.due {s : AdmissionStep} (reported : Reports a reader q s o) :
    Due a reader q s o := by
  unfold Reports assess at reported
  -- The steps are taken off one by one; what is reported comes from one of them.
  rcases mem_reports_step_bind.mp reported with ⟨rfl, rfl⟩ | ⟨_, _, reported⟩
  · exact Says.existence.due rfl
  rcases mem_reports_step_bind.mp reported with ⟨rfl, rfl⟩ | ⟨name, named, reported⟩
  · exact Says.domainName.due rfl
  rcases mem_reports_stepUnless_bind.mp reported with ⟨rfl, rfl⟩ | ⟨_, reported⟩
  · exact (Says.registrarAccess named).due_unless rfl
  rcases mem_reports_stepUnless_bind.mp reported with ⟨rfl, rfl⟩ | ⟨_, reported⟩
  · exact (Says.zoneState named).due_unless rfl
  rcases mem_reports_step_bind.mp reported with ⟨rfl, rfl⟩ | ⟨⟨years, cost⟩, priced, reported⟩
  · exact (Says.period named).due rfl
  rcases mem_reports_step_bind.mp reported with ⟨rfl, rfl⟩ | ⟨_, _, reported⟩
  · exact Says.linkedResources.due rfl
  rcases mem_reports_step_bind.mp reported with ⟨rfl, rfl⟩ | ⟨_, _, reported⟩
  · exact (Says.contacts named).due rfl
  rcases mem_reports_step_bind.mp reported with ⟨rfl, rfl⟩ | ⟨_, _, reported⟩
  · exact (Says.nameservers named).due rfl
  rcases mem_reports_step_bind.mp reported with ⟨rfl, rfl⟩ | ⟨_, _, reported⟩
  · exact (Says.launchEvidence named).due rfl
  rcases mem_reports_step_bind.mp reported with ⟨rfl, rfl⟩ | ⟨_, _, reported⟩
  · exact Says.dnssec.due rfl
  rcases mem_reports_stepUnless_bind.mp reported with ⟨rfl, rfl⟩ | ⟨_, reported⟩
  · exact (Says.gating named priced).due_unless rfl
  rcases mem_reports_step_bind.mp reported with ⟨rfl, rfl⟩ | ⟨_, _, reported⟩
  · exact (Says.fee named priced).due rfl
  exact absurd reported not_mem_reports_pure

/-- That a name and its zone let a request pass, before anything else of the command is looked at. -/
structure Entered (a : Admission) (reader : Reader) (q : CreateRequest) (name : DomainName) :
    Prop where
  free : checkExistence reader q = .ok ()
  named : DomainName.check a.config q.command.name = .ok name
  authorized : q.superuser = true ∨ checkRegistrarAccess q name.zone = .ok ()
  opened : q.superuser = true ∨ checkZoneState q name.zone = .ok ()

theorem reports_period_iff :
    Reports a reader q .period o ↔ ∃ name, Entered a reader q name
      ∧ o = outcomeOf (checkPeriod a.config.limits a.catalog.pricing q name) := by
  simp only [Reports, assess, mem_reports_bind, mem_reports_step, mem_reports_stepUnless,
    not_mem_reports_pure, reduceCtorEq, false_and, false_or, true_and, and_false, exists_false,
    or_false, result_step, result_stepUnless_eq_ok]
  constructor
  · rintro ⟨_, free, name, named, _, authorized, _, opened, said⟩
    exact ⟨name, ⟨free, named, authorized, opened⟩, said⟩
  · rintro ⟨name, ⟨free, named, authorized, opened⟩, said⟩
    exact ⟨(), free, name, named, (), authorized, (), opened, said⟩

/-- That a request has passed all that everyone has to pass, but for what it costs being stated. -/
structure Vetted (a : Admission) (reader : Reader) (q : CreateRequest) (name : DomainName)
    (cost : CreateCost) : Prop where
  entered : Entered a reader q name
  priced : ∃ years, checkPeriod a.config.limits a.catalog.pricing q name = .ok (years, cost)
  linked : ∃ nameservers, checkLinkedResources reader q = .ok nameservers
  contacted : checkContacts q.command name.zone = .ok ()
  served : checkNameservers a.config.limits reader q name.zone = .ok ()
  evidenced : ∃ evidence, Launch.check (a.launchContext q name) q.command.launch = .ok evidence
  delegated : a.checkSecDns q = .ok ()

theorem reports_gating_iff :
    Reports a reader q .gating o ↔ ∃ name cost, Vetted a reader q name cost
      ∧ o = if q.superuser then .bypassed
        else outcomeOf (checkGating a.catalog q name cost (a.reservationOf name)
          (a.isAnchorTenant q name)) := by
  simp only [Reports, assess, mem_reports_bind, mem_reports_step, mem_reports_stepUnless,
    not_mem_reports_pure, reduceCtorEq, false_and, false_or, true_and, and_false, exists_false,
    or_false, result_step, result_stepUnless_eq_ok]
  constructor
  · rintro ⟨_, free, name, named, _, authorized, _, opened, ⟨years, cost⟩, priced, nameservers,
      linked, _, contacted, _, served, evidence, evidenced, _, delegated, said⟩
    exact ⟨name, cost, ⟨⟨free, named, authorized, opened⟩, ⟨years, priced⟩, ⟨nameservers, linked⟩,
      contacted, served, ⟨evidence, evidenced⟩, delegated⟩, said⟩
  · rintro ⟨name, cost, ⟨⟨free, named, authorized, opened⟩, ⟨years, priced⟩, ⟨nameservers, linked⟩,
      contacted, served, ⟨evidence, evidenced⟩, delegated⟩, said⟩
    exact ⟨(), free, name, named, (), authorized, (), opened, (years, cost), priced, nameservers,
      linked, (), contacted, (), served, evidence, evidenced, (), delegated, said⟩

theorem Vetted.unique {name other : DomainName} {cost price : CreateCost}
    (vetted : Vetted a reader q name cost) (again : Vetted a reader q other price) :
    other = name ∧ price = cost := by
  obtain rfl : other = name :=
    Except.ok.inj (again.entered.named.symm.trans vetted.entered.named)
  obtain ⟨_, first⟩ := vetted.priced
  obtain ⟨_, second⟩ := again.priced
  exact ⟨rfl, (Prod.mk.inj (Except.ok.inj (second.symm.trans first))).2⟩

theorem Vetted.reports_gating_iff {name : DomainName} {cost : CreateCost}
    (vetted : Vetted a reader q name cost) (ordinary : q.superuser = false) :
    Reports a reader q .gating o ↔ o = outcomeOf (checkGating a.catalog q name cost
      (a.reservationOf name) (a.isAnchorTenant q name)) := by
  rw [Admission.reports_gating_iff, ordinary]
  constructor
  · rintro ⟨_, _, again, said⟩
    obtain ⟨rfl, rfl⟩ := vetted.unique again
    exact said
  · intro said
    exact ⟨name, cost, vetted, said⟩

end Admission

end DomainRegistry
