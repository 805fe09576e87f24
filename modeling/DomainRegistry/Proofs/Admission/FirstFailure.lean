import DomainRegistry.Proofs.Admission.Reports
import DomainRegistry.Proofs.Label.DomainNames

/-!
The first step whose check fails decides an admission, and an observer sees it fail last. Main
statements: no check but that of the period rejects for want of a price, and that check says what is
wrong with the price, so that no admission ends for want of a cost that was never worked out.
-/

namespace DomainRegistry

/-- That a rejection is for something else than the price being unavailable. -/
def Rejection.IsPriced : Rejection → Prop
  | .pricingUnavailable _ => False
  | _ => True

theorem DomainName.isPriced_of_check {config : Config} {text : String} {r : Rejection}
    (rejected : check config text = .error r) : r.IsPriced := by
  have naming := check_error rejected
  cases r <;> trivial

theorem Dnssec.isPriced_of_check {limit : Nat} {s : SecDns} {r : Rejection}
    (rejected : check limit s = .error r) : r.IsPriced := by
  have record : ∀ ds e, checkRecord ds = .error e → e.IsPriced := by
    intro ds e rejected
    unfold checkRecord at rejected
    split at rejected <;> cases rejected
    trivial
  unfold check at rejected
  repeat' split at rejected
  all_goals first | exact forM_error record rejected | cases rejected
  all_goals trivial

namespace Launch

variable {c : Context} {r : Rejection}

theorem isPriced_of_checkNotice {n : ClaimsNotice} (rejected : checkNotice c n = .error r) :
    r.IsPriced := by
  have times : ∀ e, checkNoticeTimes c n = .error e → e.IsPriced := by
    intro e rejected
    unfold checkNoticeTimes at rejected
    repeat' split at rejected
    all_goals cases rejected
    all_goals trivial
  have id : ∀ e, checkNoticeId c n = .error e → e.IsPriced := by
    intro e rejected
    unfold checkNoticeId at rejected
    repeat' split at rejected
    all_goals cases rejected
    all_goals trivial
  unfold checkNotice at rejected
  dsimp only at rejected
  split at rejected
  · cases rejected; trivial
  · split at rejected
    · rcases guard_eq_error.mp rejected with timed | ⟨_, identified⟩
      · exact times r timed
      · exact id r identified
    · exact id r rejected

theorem isPriced_of_checkMarks {marks : List MarkEvidence}
    (rejected : checkMarks c marks = .error r) : r.IsPriced := by
  have mark : ∀ encoding data e, checkMark c encoding data = .error e → e.IsPriced := by
    intro encoding data e rejected
    unfold checkMark at rejected
    split at rejected
    · cases rejected; trivial
    · split at rejected
      · cases rejected
        unfold markRejection
        split <;> trivial
      · split at rejected <;> cases rejected
        trivial
  unfold checkMarks at rejected
  split at rejected
  · cases rejected
  · cases rejected; trivial
  · next encoding data =>
    cases marked : checkMark c encoding data with
    | ok m => rw [marked] at rejected; cases rejected
    | error e =>
      rw [marked] at rejected
      cases rejected
      exact mark encoding data r marked
  · cases rejected; trivial

theorem isPriced_of_check {l : Option Launch} (rejected : check c l = .error r) : r.IsPriced := by
  have form : ∀ l e, checkForm c l = .error e → e.IsPriced := by
    intro l e rejected
    unfold checkForm at rejected
    repeat' split at rejected
    all_goals cases rejected
    all_goals trivial
  cases l with
  | none => cases rejected
  | some l =>
    unfold check at rejected
    rcases guard_eq_error.mp rejected with formed | ⟨_, rest⟩
    · exact form l r formed
    · have marks : ∀ e, (do
          let mark ← checkMarks c l.signedMarks
          pure (⟨l.notice, mark⟩ : Evidence)) = .error e → e.IsPriced := by
        intro e rejected
        rcases bind_eq_error.mp rejected with marked | ⟨_, _, made⟩
        · exact isPriced_of_checkMarks marked
        · cases made
      dsimp only at rest
      split at rest
      · rcases guard_eq_error.mp rest with noticed | ⟨_, rest⟩
        · exact isPriced_of_checkNotice noticed
        · exact marks r rest
      · exact marks r rest

end Launch

namespace Admission

variable {a : Admission} {reader : Reader} {q : CreateRequest} {zone : ZonePolicy} {r : Rejection}

open Traced

theorem isPriced_of_checkExistence (rejected : checkExistence reader q = .error r) :
    r.IsPriced := by
  unfold checkExistence at rejected
  split at rejected <;> cases rejected
  trivial

theorem isPriced_of_checkRegistrarAccess (rejected : checkRegistrarAccess q zone = .error r) :
    r.IsPriced := by
  unfold checkRegistrarAccess at rejected
  split at rejected <;> cases rejected
  trivial

theorem isPriced_of_checkZoneState (rejected : checkZoneState q zone = .error r) :
    r.IsPriced := by
  unfold checkZoneState at rejected
  repeat' split at rejected
  all_goals cases rejected
  all_goals trivial

theorem isPriced_of_followLinks {α : Type} {kind : LinkKind} {follow : String → Link α}
    {ids missing : List String} {found : List α}
    (rejected : followLinks kind follow missing found ids = .error r) : r.IsPriced := by
  induction ids generalizing missing found with
  | nil =>
    unfold followLinks at rejected
    split at rejected <;> cases rejected
    trivial
  | cons id ids ih =>
    rw [followLinks] at rejected
    split at rejected
    · exact ih rejected
    · cases rejected; trivial
    · exact ih rejected

theorem isPriced_of_checkLinkedResources (rejected : checkLinkedResources reader q = .error r) :
    r.IsPriced := by
  unfold checkLinkedResources at rejected
  rcases bind_eq_error.mp rejected with contacts | ⟨_, _, rest⟩
  · exact isPriced_of_followLinks contacts
  · rcases bind_eq_error.mp rest with hosts | ⟨_, _, made⟩
    · exact isPriced_of_followLinks hosts
    · cases made

theorem isPriced_of_distinctRoles {seen : List ContactRole} {links : List ContactLink}
    (rejected : distinctRoles seen links = .error r) : r.IsPriced := by
  induction links generalizing seen with
  | nil => cases rejected
  | cons c links ih =>
    rw [distinctRoles] at rejected
    split at rejected
    · cases rejected; trivial
    · split at rejected
      · cases rejected; trivial
      · exact ih rejected

theorem isPriced_of_checkContacts {c : CreateCommand} (rejected : checkContacts c zone = .error r) :
    r.IsPriced := by
  unfold checkContacts at rejected
  rcases bind_eq_error.mp rejected with roles | ⟨_, _, rest⟩
  · exact isPriced_of_distinctRoles roles
  · repeat' split at rest
    all_goals cases rest
    all_goals trivial

theorem isPriced_of_checkNameservers {limits : LimitsConfig}
    (rejected : checkNameservers limits reader q zone = .error r) : r.IsPriced := by
  unfold checkNameservers at rejected
  dsimp only at rejected
  repeat' split at rejected
  all_goals cases rejected
  all_goals trivial

theorem isPriced_of_checkSecDns (rejected : a.checkSecDns q = .error r) : r.IsPriced := by
  unfold checkSecDns at rejected
  split at rejected
  · exact Dnssec.isPriced_of_check rejected
  · cases rejected

theorem isPriced_of_checkGating {catalog : LabelCatalog} {name : DomainName} {cost : CreateCost}
    {type : Reservation} {anchor : Bool}
    (rejected : checkGating catalog q name cost type anchor = .error r) : r.IsPriced := by
  unfold checkGating at rejected
  rcases guard_eq_error.mp rejected with reserved | ⟨_, rest⟩
  · unfold checkReservation at reserved
    split at reserved <;> cases reserved
    trivial
  · rcases guard_eq_error.mp rest with claimed | ⟨_, blocked⟩
    · unfold checkClaims at claimed
      dsimp only at claimed
      repeat' split at claimed
      all_goals cases claimed
      all_goals trivial
    · split at blocked <;> cases blocked
      trivial

theorem isPriced_of_checkFee {cost : CreateCost} (rejected : checkFee q cost = .error r) :
    r.IsPriced := by
  unfold checkFee at rejected
  repeat' split at rejected
  all_goals cases rejected
  all_goals trivial

theorem checkPeriod_error {limits : LimitsConfig} {pricing : Pricing} {name : DomainName}
    (rejected : checkPeriod limits pricing q name = .error r) :
    r.IsPriced ∨ ∃ e : PricingError, r = .pricingUnavailable e.message := by
  unfold checkPeriod at rejected
  dsimp only at rejected
  repeat' split at rejected
  all_goals cases rejected
  · exact Or.inl trivial
  · exact Or.inl trivial
  · exact Or.inr ⟨_, rfl⟩

theorem error_of_step {α β : Type} {s : AdmissionStep} {answer : Except Rejection α} {f : α → β}
    {r : Rejection} (rejected : (step s answer >>= fun b => pure (f b)).result = .error r) :
    answer = .error r := by
  rcases result_bind_eq_error.mp rejected with first | ⟨_, _, made⟩
  · rwa [result_step] at first
  · cases made

theorem error_of_stepUnless {β : Type} {superuser : Bool} {s : AdmissionStep}
    {answer : Except Rejection Unit} {f : Unit → β} {r : Rejection}
    (rejected : (stepUnless superuser s answer >>= fun b => pure (f b)).result = .error r) :
    answer = .error r := by
  cases superuser with
  | true => cases rejected
  | false => exact error_of_step rejected

theorem takeStep_error {d : Draft} {s : AdmissionStep} {r : Rejection}
    (rejected : (a.takeStep reader q d s).result = .error r) :
    r.IsPriced ∨ ∃ e : PricingError, r = .pricingUnavailable e.message := by
  cases s with
  | existence => cases rejected
  | domainName => cases rejected
  | registrarAccess =>
    have checked := error_of_stepUnless rejected
    exact Or.inl (isPriced_of_checkRegistrarAccess checked)
  | zoneState =>
    have checked := error_of_stepUnless rejected
    exact Or.inl (isPriced_of_checkZoneState checked)
  | gating =>
    have checked := error_of_stepUnless rejected
    exact Or.inl (isPriced_of_checkGating checked)
  | period =>
    have checked := error_of_step rejected
    exact checkPeriod_error checked
  | linkedResources =>
    have checked := error_of_step rejected
    exact Or.inl (isPriced_of_checkLinkedResources checked)
  | contacts =>
    have checked := error_of_step rejected
    exact Or.inl (isPriced_of_checkContacts checked)
  | nameservers =>
    have checked := error_of_step rejected
    exact Or.inl (isPriced_of_checkNameservers checked)
  | launchEvidence =>
    have checked := error_of_step rejected
    exact Or.inl (Launch.isPriced_of_check checked)
  | dnssec =>
    have checked := error_of_step rejected
    exact Or.inl (isPriced_of_checkSecDns checked)
  | fee =>
    have checked := error_of_step rejected
    cases priced : d.cost with
    | none =>
      rw [priced] at checked
      cases checked
    | some cost =>
      rw [priced] at checked
      exact Or.inl (isPriced_of_checkFee checked)

theorem foldlM_error {d : Draft} {steps : List AdmissionStep} {r : Rejection}
    (rejected : (steps.foldlM (a.takeStep reader q) d).result = .error r) :
    r.IsPriced ∨ ∃ e : PricingError, r = .pricingUnavailable e.message := by
  induction steps generalizing d with
  | nil => cases rejected
  | cons s steps ih =>
    rw [List.foldlM_cons] at rejected
    rcases result_bind_eq_error.mp rejected with first | ⟨e, _, rest⟩
    · exact takeStep_error first
    · exact ih rest

theorem assess_error {r : Rejection} (rejected : (a.assess reader q).result = .error r) :
    r.IsPriced ∨ ∃ e : PricingError, r = .pricingUnavailable e.message := by
  rw [assess_eq_draft] at rejected
  rcases result_bind_eq_error.mp rejected with undrafted | ⟨d, drafted, unplanned⟩
  · rcases result_bind_eq_error.mp undrafted with existing | ⟨_, _, rest⟩
    · rw [result_step] at existing
      exact Or.inl (isPriced_of_checkExistence existing)
    · rcases result_bind_eq_error.mp rest with named | ⟨_, _, looped⟩
      · rw [result_step] at named
        exact Or.inl (DomainName.isPriced_of_check named)
      · exact foldlM_error looped
  · obtain ⟨plan, made⟩ := draft_plan (q := q) drafted
    change d.plan q = _ at unplanned
    rw [made] at unplanned
    cases unplanned

theorem toList_message (e : PricingError) :
    ∃ rest, e.message.toList = "Pricing error (".toList ++ rest := by
  cases e <;> unfold PricingError.message <;>
    simp only [String.toList_append, List.append_assoc] <;> exact ⟨_, rfl⟩

/-- What is said of a wrong price begins in another way than what is said of a missing one. -/
theorem message_ne_costMissing (e : PricingError) :
    Rejection.pricingUnavailable e.message ≠ Draft.costMissing := by
  intro same
  rw [Draft.costMissing, Rejection.pricingUnavailable.injEq] at same
  obtain ⟨rest, text⟩ := toList_message e
  rw [same] at text
  exact absurd (congrArg List.head? text) (by simp)

theorem assess_of_drafted {d : Draft} (drafted : (a.draft reader q).result = .ok d) :
    ∃ plan, d.plan q = .ok plan ∧ (a.assess reader q).result = .ok plan := by
  obtain ⟨plan, made⟩ := draft_plan (q := q) drafted
  rw [assess_eq_draft]
  exact ⟨plan, made, result_bind_eq_ok.mpr ⟨d, drafted, made⟩⟩

/-- What an observer of an admission sees, and that it is how the admission ends. -/
structure FirstFailureWins (a : Admission) (reader : Reader) (q : CreateRequest) : Prop where
  inOrder : (a.assess reader q).reports.map StepReport.step <+: AdmissionStep.all
  passing : ∀ r ∈ (a.assess reader q).reports.dropLast, r.outcome = .passed ∨ r.outcome = .bypassed
  rejected : ∀ r, (a.assess reader q).result = .error r →
    ∃ s, (a.assess reader q).reports.getLast? = some ⟨s, .rejected r⟩
  accepted : ∀ plan, (a.assess reader q).result = .ok plan →
    (a.assess reader q).reports.map StepReport.step = AdmissionStep.all
      ∧ ∀ r ∈ (a.assess reader q).reports, r.outcome = .passed ∨ r.outcome = .bypassed
  /-- A step passes or rejects as its check does, unless a superuser is excused from it. -/
  answered : ∀ s o, Reports a reader q s o → Due a reader q s o
  bypassed : ∀ r ∈ (a.assess reader q).reports, r.outcome = .bypassed →
    q.superuser = true ∧ (r.step = .registrarAccess ∨ r.step = .zoneState ∨ r.step = .gating)
  /-- The steps are those of a loop, and what comes after the loop does not fail. -/
  looped : a.assess reader q = a.draft reader q >>= conclude q
  concluded : ∀ d, (a.draft reader q).result = .ok d →
    ∃ plan, d.plan q = .ok plan ∧ (a.assess reader q).result = .ok plan
  neverMissing : (a.assess reader q).result ≠ .error Draft.costMissing

theorem first_failure_wins (a : Admission) (reader : Reader) (q : CreateRequest) :
    FirstFailureWins a reader q := by
  have told := told_assess a reader q
  refine {
    inOrder := told.inOrder
    passing := fun r early => told.passing early
    rejected := fun r failed => told.last_of_error failed
    accepted := ?_
    answered := fun _ _ reported => reported.due
    bypassed := ?_
    looped := assess_eq_draft a reader q
    concluded := fun d drafted => assess_of_drafted drafted
    neverMissing := ?_ }
  · intro plan accepted
    rw [told.reports_of_ok accepted]
    exact ⟨AdmissionStep.map_step_passages _ _, fun r => AdmissionStep.passing_of_mem_passages⟩
  · intro r reported bypassed
    obtain ⟨superuser, excused⟩ := told.excused reported bypassed
    exact ⟨superuser, AdmissionStep.isExcused_iff.mp excused⟩
  · intro missing
    rcases assess_error missing with priced | ⟨e, same⟩
    · exact priced
    · exact message_ne_costMissing e same.symm

end Admission

end DomainRegistry
