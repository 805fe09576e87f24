import DomainRegistry.Proofs.Answers
import DomainRegistry.Admission.Assessment

/-!
An admission as a loop over the list of its steps, each of which fills in a part of a draft. Main
statements: this loop is the admission, what it reports is the list of the steps up to the first
that rejects, and a draft that has passed all of them lacks nothing that a plan needs.
-/

namespace DomainRegistry

def AdmissionStep.isExcused : AdmissionStep → Bool
  | registrarAccess => true
  | zoneState => true
  | gating => true
  | _ => false

def AdmissionStep.passage (superuser : Bool) (s : AdmissionStep) : StepReport :=
  ⟨s, if superuser && s.isExcused then .bypassed else .passed⟩

namespace AdmissionStep

variable {superuser : Bool} {steps : List AdmissionStep} {r : StepReport}

theorem isExcused_iff {s : AdmissionStep} :
    s.isExcused = true ↔ s = registrarAccess ∨ s = zoneState ∨ s = gating := by
  cases s <;> simp [isExcused]

theorem map_step_passages (superuser : Bool) (steps : List AdmissionStep) :
    (steps.map (passage superuser)).map StepReport.step = steps := by
  simp [passage, Function.comp_def]

theorem passing_of_mem_passages (reported : r ∈ steps.map (passage superuser)) :
    r.outcome = .passed ∨ r.outcome = .bypassed := by
  obtain ⟨s, _, rfl⟩ := List.mem_map.mp reported
  unfold passage
  split
  · exact Or.inr rfl
  · exact Or.inl rfl

theorem excused_of_mem_passages (reported : r ∈ steps.map (passage superuser))
    (bypassed : r.outcome = .bypassed) : superuser = true ∧ r.step.isExcused = true := by
  obtain ⟨s, _, rfl⟩ := List.mem_map.mp reported
  unfold passage at bypassed
  split at bypassed
  · next asked => exact Bool.and_eq_true_iff.mp asked
  · cases bypassed

end AdmissionStep

namespace Traced

variable {α β : Type}

/-- That the reports of a computation are those of its steps up to the one that gave the result. -/
inductive Told (superuser : Bool) (steps : List AdmissionStep) (x : Traced α) : Prop
  | passed (a : α) (result : x.result = .ok a)
      (reports : x.reports = steps.map (AdmissionStep.passage superuser))
  | rejected (before after : List AdmissionStep) (s : AdmissionStep) (r : Rejection)
      (result : x.result = .error r) (split : steps = before ++ s :: after)
      (reports : x.reports = before.map (AdmissionStep.passage superuser) ++ [⟨s, .rejected r⟩])

theorem told_pure (superuser : Bool) (a : α) : Told superuser [] (pure a : Traced α) :=
  .passed a rfl rfl

theorem told_step {superuser : Bool} (s : AdmissionStep) (asked : s.isExcused = false)
    (answer : Except Rejection α) : Told superuser [s] (step s answer) := by
  cases answer with
  | error r => exact .rejected [] [] s r rfl rfl rfl
  | ok a =>
    refine .passed a rfl ?_
    simp [step, AdmissionStep.passage, asked]

theorem told_stepUnless {superuser : Bool} (s : AdmissionStep) (excused : s.isExcused = true)
    (answer : Except Rejection Unit) : Told superuser [s] (stepUnless superuser s answer) := by
  cases superuser with
  | true =>
    refine .passed () rfl ?_
    simp [stepUnless, AdmissionStep.passage, excused]
  | false =>
    cases answer with
    | error r => exact .rejected [] [] s r rfl rfl rfl
    | ok a => exact .passed () rfl rfl

theorem Told.bind {superuser : Bool} {steps more : List AdmissionStep} {x : Traced α}
    {f : α → Traced β} (first : Told superuser steps x)
    (rest : ∀ a, Told superuser more (f a)) : Told superuser (steps ++ more) (x >>= f) := by
  change Told superuser (steps ++ more) (Traced.bind x f)
  cases first with
  | rejected before after s r result split reports =>
    refine .rejected before (after ++ more) s r ?_ ?_ ?_
    · simp [Traced.bind, result]
    · simp [split]
    · simp [Traced.bind, result, reports]
  | passed a result reports =>
    have whole : Traced.bind x f = ⟨(f a).result, x.reports ++ (f a).reports⟩ := by
      simp [Traced.bind, result]
    rw [whole]
    cases rest a with
    | passed b result' reports' =>
      refine .passed b result' ?_
      simp [reports, reports']
    | rejected before after s r result' split reports' =>
      refine .rejected (steps ++ before) after s r result' ?_ ?_
      · simp [split]
      · simp [reports, reports']

theorem Told.returning {superuser : Bool} {steps : List AdmissionStep} {x : Traced α}
    (told : Told superuser steps x) (f : α → β) :
    Told superuser steps (x >>= fun a => pure (f a)) := by
  have returned := told.bind fun a => told_pure superuser (f a)
  rw [List.append_nil] at returned
  exact returned

theorem told_foldlM {superuser : Bool} {take : α → AdmissionStep → Traced α}
    (round : ∀ a s, Told superuser [s] (take a s)) (steps : List AdmissionStep) (a : α) :
    Told superuser steps (steps.foldlM take a) := by
  induction steps generalizing a with
  | nil => exact told_pure superuser a
  | cons s steps ih =>
    rw [List.foldlM_cons]
    exact (round a s).bind ih

section Observed

variable {superuser : Bool} {steps : List AdmissionStep} {x : Traced α}

theorem Told.inOrder (told : Told superuser steps x) : x.reports.map StepReport.step <+: steps := by
  cases told with
  | passed a result reports =>
    refine ⟨[], ?_⟩
    rw [reports, AdmissionStep.map_step_passages, List.append_nil]
  | rejected before after s r result split reports =>
    refine ⟨after, ?_⟩
    rw [reports, List.map_append, AdmissionStep.map_step_passages, split]
    simp

theorem Told.passing (told : Told superuser steps x) {r : StepReport}
    (early : r ∈ x.reports.dropLast) : r.outcome = .passed ∨ r.outcome = .bypassed := by
  cases told with
  | passed a result reports =>
    rw [reports] at early
    exact AdmissionStep.passing_of_mem_passages (List.dropLast_subset _ early)
  | rejected before after s r result split reports =>
    rw [reports, List.dropLast_concat] at early
    exact AdmissionStep.passing_of_mem_passages early

theorem Told.last_of_error (told : Told superuser steps x) {r : Rejection}
    (failed : x.result = .error r) : ∃ s, x.reports.getLast? = some ⟨s, .rejected r⟩ := by
  cases told with
  | passed a result reports =>
    rw [result] at failed
    cases failed
  | rejected before after s r result split reports =>
    rw [result] at failed
    cases failed
    exact ⟨s, by rw [reports, List.getLast?_concat]⟩

theorem Told.reports_of_ok (told : Told superuser steps x) {a : α} (passed : x.result = .ok a) :
    x.reports = steps.map (AdmissionStep.passage superuser) := by
  cases told with
  | passed a result reports => exact reports
  | rejected before after s r result split reports =>
    rw [result] at passed
    cases passed

theorem Told.excused (told : Told superuser steps x) {r : StepReport} (reported : r ∈ x.reports)
    (bypassed : r.outcome = .bypassed) : superuser = true ∧ r.step.isExcused = true := by
  cases told with
  | passed a result reports =>
    rw [reports] at reported
    exact AdmissionStep.excused_of_mem_passages reported bypassed
  | rejected before after s r result split reports =>
    rw [reports] at reported
    rcases List.mem_append.mp reported with early | last
    · exact AdmissionStep.excused_of_mem_passages early bypassed
    · cases List.mem_singleton.mp last
      cases bypassed

end Observed

instance : LawfulMonad Traced := LawfulMonad.mk' Traced
  (fun x => by
    change Traced.bind x _ = x
    unfold Traced.bind
    cases same : x.result with
    | error r => cases x; cases same; rfl
    | ok a =>
      cases x; cases same
      simp [Traced.pure])
  (fun a f => by
    change Traced.bind (Traced.pure a) f = f a
    simp [Traced.bind, Traced.pure])
  (fun x f g => by
    change Traced.bind (Traced.bind x f) g = Traced.bind x fun a => Traced.bind (f a) g
    unfold Traced.bind
    cases x.result with
    | error r => rfl
    | ok a =>
      dsimp only
      cases (f a).result with
      | error r => rfl
      | ok b => simp)

end Traced

structure Draft where
  name : DomainName
  years : UInt32 := 0
  cost : Option CreateCost := none
  nameservers : SortedSet String := .empty
  evidence : Launch.Evidence := {}
  reservation : Reservation := .unreserved
  anchorTenant : Bool := false

namespace Draft

def costMissing : Rejection := .pricingUnavailable "create cost was never computed"

def plan (d : Draft) (q : CreateRequest) : Except Rejection CreatePlan :=
  match d.cost with
  | none => .error costMissing
  | some cost => .ok {
      name := d.name.fullName
      label := d.name.label
      zone := d.name.zone.name
      years := d.years
      cost := cost.amount
      premium := cost.premium
      reservation := d.reservation
      anchorTenant := d.anchorTenant
      sunrise := q.command.isSunrise
      table := d.name.table
      notice := d.evidence.notice
      smdId := d.evidence.mark.map fun m => m.data.id
      dsData := (q.command.secDns.map SecDns.dsData).getD []
      registrant := q.command.registrant.getD ""
      contacts := q.command.contacts
      nameservers := d.nameservers
      addGraceDays := d.name.zone.addGraceDays }

end Draft

namespace Admission

variable {a : Admission} {reader : Reader} {q : CreateRequest}

open Traced

/-- A name without a cost counts as one that is not premium. -/
def costOf (d : Draft) : CreateCost := d.cost.getD ⟨⟨"USD", 0⟩, false⟩

def takeStep (a : Admission) (reader : Reader) (q : CreateRequest) (d : Draft) :
    AdmissionStep → Traced Draft
  | .existence => step .existence (.ok d)
  | .domainName => step .domainName (.ok d)
  | .registrarAccess => do
    stepUnless q.superuser .registrarAccess (checkRegistrarAccess q d.name.zone)
    return d
  | .zoneState => do
    stepUnless q.superuser .zoneState (checkZoneState q d.name.zone)
    return d
  | .period => do
    let (years, cost) ← step .period (checkPeriod a.config.limits a.catalog.pricing q d.name)
    return { d with years, cost := some cost }
  | .linkedResources => do
    let nameservers ← step .linkedResources (checkLinkedResources reader q)
    return { d with nameservers }
  | .contacts => do
    step .contacts (checkContacts q.command d.name.zone)
    return d
  | .nameservers => do
    step .nameservers (checkNameservers a.config.limits reader q d.name.zone)
    return d
  | .launchEvidence => do
    let evidence ← step .launchEvidence (Launch.check (a.launchContext q d.name) q.command.launch)
    return { d with evidence }
  | .dnssec => do
    step .dnssec (a.checkSecDns q)
    return d
  | .gating => do
    let d := { d with
      reservation := a.reservationOf d.name
      anchorTenant := a.isAnchorTenant q d.name }
    stepUnless q.superuser .gating
      (checkGating a.catalog q d.name (costOf d) d.reservation d.anchorTenant)
    return d
  | .fee => do
    step .fee (match d.cost with
      | none => .ok ()
      | some cost => checkFee q cost)
    return d

/-- The steps that come before there is a draft, and the loop over all others. -/
def draft (a : Admission) (reader : Reader) (q : CreateRequest) : Traced Draft := do
  step .existence (checkExistence reader q)
  let name ← step .domainName (DomainName.check a.config q.command.name)
  (AdmissionStep.all.drop 2).foldlM (takeStep a reader q) { name }

def conclude (q : CreateRequest) (d : Draft) : Traced CreatePlan := ⟨d.plan q, []⟩

theorem assess_eq_draft (a : Admission) (reader : Reader) (q : CreateRequest) :
    a.assess reader q = a.draft reader q >>= conclude q := by
  simp only [assess, draft, AdmissionStep.all, List.drop, List.foldlM_cons, List.foldlM_nil,
    takeStep, bind_assoc, pure_bind]
  rfl

theorem told_takeStep (a : Admission) (reader : Reader) (q : CreateRequest) (d : Draft)
    (s : AdmissionStep) : Told q.superuser [s] (a.takeStep reader q d s) := by
  cases s with
  | existence => exact told_step .existence rfl (.ok d)
  | domainName => exact told_step .domainName rfl (.ok d)
  | registrarAccess => exact (told_stepUnless .registrarAccess rfl _).returning _
  | zoneState => exact (told_stepUnless .zoneState rfl _).returning _
  | period => exact (told_step .period rfl _).returning _
  | linkedResources => exact (told_step .linkedResources rfl _).returning _
  | contacts => exact (told_step .contacts rfl _).returning _
  | nameservers => exact (told_step .nameservers rfl _).returning _
  | launchEvidence => exact (told_step .launchEvidence rfl _).returning _
  | dnssec => exact (told_step .dnssec rfl _).returning _
  | gating => exact (told_stepUnless .gating rfl _).returning _
  | fee => exact (told_step .fee rfl _).returning _

theorem told_draft (a : Admission) (reader : Reader) (q : CreateRequest) :
    Told q.superuser AdmissionStep.all (a.draft reader q) :=
  (told_step .existence rfl _).bind fun _ => (told_step .domainName rfl _).bind fun _ =>
    told_foldlM (told_takeStep a reader q) (AdmissionStep.all.drop 2) _

/-- A round gives a draft a cost if it is that of the period, and else leaves it the one it has. -/
theorem takeStep_cost {d e : Draft} {s : AdmissionStep}
    (taken : (a.takeStep reader q d s).result = .ok e) (priced : d.cost.isSome ∨ s = .period) :
    e.cost.isSome := by
  by_cases period : s = .period
  · subst period
    obtain ⟨⟨years, cost⟩, _, made⟩ := result_bind_eq_ok.mp taken
    cases made
    rfl
  · have before := priced.resolve_right period
    cases s with
    | period => exact absurd rfl period
    | existence => cases taken; exact before
    | domainName => cases taken; exact before
    | _ =>
      obtain ⟨_, _, made⟩ := result_bind_eq_ok.mp taken
      cases made
      exact before

theorem foldlM_cost {d e : Draft} {steps : List AdmissionStep}
    (taken : (steps.foldlM (a.takeStep reader q) d).result = .ok e)
    (priced : d.cost.isSome ∨ .period ∈ steps) : e.cost.isSome := by
  induction steps generalizing d with
  | nil =>
    cases taken
    exact priced.resolve_right List.not_mem_nil
  | cons s steps ih =>
    rw [List.foldlM_cons] at taken
    obtain ⟨f, first, rest⟩ := result_bind_eq_ok.mp taken
    rcases priced with before | listed
    · exact ih rest (Or.inl (takeStep_cost first (Or.inl before)))
    · rcases List.mem_cons.mp listed with now | later
      · exact ih rest (Or.inl (takeStep_cost first (Or.inr now.symm)))
      · exact ih rest (Or.inr later)

theorem draft_cost {d : Draft} (drafted : (a.draft reader q).result = .ok d) :
    ∃ cost, d.cost = some cost := by
  obtain ⟨_, _, rest⟩ := result_bind_eq_ok.mp drafted
  obtain ⟨name, _, looped⟩ := result_bind_eq_ok.mp rest
  exact Option.isSome_iff_exists.mp (foldlM_cost looped (Or.inr (by decide)))

theorem draft_plan {d : Draft} (drafted : (a.draft reader q).result = .ok d) :
    ∃ plan, d.plan q = .ok plan := by
  obtain ⟨cost, priced⟩ := draft_cost drafted
  unfold Draft.plan
  rw [priced]
  exact ⟨_, rfl⟩

theorem told_assess (a : Admission) (reader : Reader) (q : CreateRequest) :
    Told q.superuser AdmissionStep.all (a.assess reader q) := by
  rw [assess_eq_draft]
  cases told_draft a reader q with
  | rejected before after s r result split reports =>
    refine .rejected before after s r ?_ split ?_
    · exact result_bind_eq_error.mpr (Or.inl result)
    · change (Traced.bind _ _).reports = _
      simp [Traced.bind, result, reports]
  | passed d result reports =>
    obtain ⟨plan, made⟩ := draft_plan result
    refine .passed plan ?_ ?_
    · exact result_bind_eq_ok.mpr ⟨d, result, made⟩
    · change (Traced.bind _ _).reports = _
      simp [Traced.bind, result, reports, conclude]

end Admission

end DomainRegistry
