import DomainRegistry.Proofs.Admission.Evidence
import DomainRegistry.Proofs.Admission.Reports
import DomainRegistry.Proofs.Money.Bounds

/-!
What accepted requests are charged. Main statement: the cost of a plan is exactly its years times the
price of one, and a price that cannot be had in the currency of the zone and within 64 bits is the
only reason to turn a valid period away.
-/

namespace DomainRegistry

namespace Pricing

variable {p : Pricing} {label : String} {zone : ZonePolicy} {years : UInt32}

def Lists (p : Pricing) (label : String) (zone : ZonePolicy) (price : Money) : Prop :=
  ∃ name list, zone.premiumList = some name ∧ p.lists.get? name = some list
    ∧ list.get? label = some price

inductive YearlyPrice (p : Pricing) (label : String) (zone : ZonePolicy) : Bool → Money → Prop
  | premium {price : Money} (listed : p.Lists label zone price) :
      YearlyPrice p label zone true price
  | standard (unlisted : ∀ price, ¬p.Lists label zone price) :
      YearlyPrice p label zone false zone.createCost

theorem premiumPrice?_eq_some_iff {price : Money} :
    p.premiumPrice? label zone = some price ↔ p.Lists label zone price := by
  simp only [premiumPrice?, Option.bind_eq_bind, Option.bind_eq_some_iff, Lists]
  constructor
  · rintro ⟨name, bound, list, loaded, listed⟩; exact ⟨name, list, bound, loaded, listed⟩
  · rintro ⟨name, list, bound, loaded, listed⟩; exact ⟨name, bound, list, loaded, listed⟩

theorem isPremium_iff : p.isPremium label zone = true ↔ ∃ price, p.Lists label zone price := by
  simp only [isPremium, Option.isSome_iff_exists, premiumPrice?_eq_some_iff]

theorem yearlyPrice_iff {premium : Bool} {unit : Money} :
    p.YearlyPrice label zone premium unit ↔
      premium = p.isPremium label zone ∧ unit = p.unitPrice label zone := by
  cases found : p.premiumPrice? label zone with
  | some price =>
    have listed := premiumPrice?_eq_some_iff.mp found
    simp only [isPremium, unitPrice, found, Option.isSome_some, Option.getD_some]
    constructor
    · rintro (listed' | unlisted)
      · rw [premiumPrice?_eq_some_iff.mpr listed'] at found
        exact ⟨rfl, Option.some.inj found⟩
      · exact absurd listed (unlisted price)
    · rintro ⟨rfl, rfl⟩
      exact .premium listed
  | none =>
    have unlisted : ∀ price, ¬p.Lists label zone price := fun price listed => by
      rw [premiumPrice?_eq_some_iff.mpr listed] at found
      cases found
    simp only [isPremium, unitPrice, found, Option.isSome_none, Option.getD_none]
    constructor
    · rintro (listed | _)
      · exact absurd listed (unlisted unit)
      · exact ⟨rfl, rfl⟩
    · rintro ⟨rfl, rfl⟩
      exact .standard unlisted

theorem createCost_eq_ok_iff {cost : CreateCost} :
    p.createCost label zone years = .ok cost ↔
      ∃ unit, p.YearlyPrice label zone cost.premium unit ∧ unit.currency = zone.currency
        ∧ unit.times years = some cost.amount := by
  simp only [createCost, ite_error_eq_ok, ne_eq, Classical.not_not, yearlyPrice_iff]
  obtain ⟨amount, premium⟩ := cost
  cases product : (p.unitPrice label zone).times years with
  | none =>
    simp only [reduceCtorEq, and_false, false_iff]
    rintro ⟨_, ⟨_, rfl⟩, _, made⟩
    rw [product] at made
    cases made
  | some whole =>
    simp only [Except.ok.injEq, CreateCost.mk.injEq]
    constructor
    · rintro ⟨same, rfl, rfl⟩
      exact ⟨_, ⟨rfl, rfl⟩, same, product⟩
    · rintro ⟨_, ⟨rfl, rfl⟩, same, made⟩
      rw [product] at made
      exact ⟨same, Option.some.inj made, rfl⟩

theorem createCost_fails_iff :
    (∃ e, p.createCost label zone years = .error e) ↔
      ∃ premium unit, p.YearlyPrice label zone premium unit
        ∧ (unit.currency ≠ zone.currency ∨ ¬Money.Fits (years.toNat * unit.minor.toInt)) := by
  simp only [yearlyPrice_iff, ← Money.times_eq_none_iff, createCost]
  split
  · next foreign =>
    simp only [Except.error.injEq, exists_eq', true_iff]
    exact ⟨_, _, ⟨rfl, rfl⟩, Or.inl foreign⟩
  · next same =>
    cases product : (p.unitPrice label zone).times years with
    | none =>
      simp only [Except.error.injEq, exists_eq', true_iff]
      exact ⟨_, _, ⟨rfl, rfl⟩, Or.inr product⟩
    | some whole =>
      simp only [reduceCtorEq, exists_false, false_iff]
      rintro ⟨_, _, ⟨rfl, rfl⟩, foreign | large⟩
      · exact same foreign
      · rw [product] at large
        cases large

end Pricing

namespace Admission

variable {a : Admission} {reader : Reader} {q : CreateRequest} {plan : CreatePlan}

structure ValidPeriod (limits : LimitsConfig) (period : Period) : Prop where
  inYears : period.unit = .years
  atLeast : 1 ≤ period.value.toNat
  atMost : period.value.toNat ≤ limits.maxRegistrationYears

variable {limits : LimitsConfig} {pricing : Pricing} {name : DomainName}

theorem checkPeriod_of_valid (valid : ValidPeriod limits q.command.period) :
    checkPeriod limits pricing q name =
      match pricing.createCost name.label name.zone q.command.period.value with
      | .error e => .error (.pricingUnavailable e.message)
      | .ok cost => .ok (q.command.period.value, cost) := by
  have inRange : ¬(q.command.period.value.toNat < 1
      ∨ limits.maxRegistrationYears < q.command.period.value.toNat) := by
    have := valid.atLeast
    have := valid.atMost
    omega
  have inYears : ¬q.command.period.unit ≠ .years := by simp [valid.inYears]
  exact (if_neg inYears).trans (if_neg inRange)

theorem checkPeriod_of_invalid (pricing : Pricing) (name : DomainName)
    (invalid : ¬ValidPeriod limits q.command.period) :
    checkPeriod limits pricing q name = .error .badPeriodUnit
      ∨ checkPeriod limits pricing q name = .error (.badPeriod limits.maxRegistrationYears) := by
  unfold checkPeriod
  dsimp only
  split
  · exact Or.inl rfl
  · next inYears =>
    split
    · exact Or.inr rfl
    · next inRange =>
      exact absurd ⟨Classical.not_not.mp inYears, by omega, by omega⟩ invalid

theorem checkPeriod_eq_ok_iff {years : UInt32} {cost : CreateCost} :
    checkPeriod limits pricing q name = .ok (years, cost) ↔
      ValidPeriod limits q.command.period ∧ years = q.command.period.value
        ∧ pricing.createCost name.label name.zone years = .ok cost := by
  by_cases valid : ValidPeriod limits q.command.period
  · rw [checkPeriod_of_valid valid]
    cases priced : pricing.createCost name.label name.zone q.command.period.value with
    | error e =>
      simp only [reduceCtorEq, false_iff]
      rintro ⟨_, rfl, made⟩
      rw [priced] at made
      cases made
    | ok whole =>
      simp only [Except.ok.injEq, Prod.mk.injEq]
      constructor
      · rintro ⟨rfl, rfl⟩
        exact ⟨valid, rfl, priced⟩
      · rintro ⟨_, rfl, made⟩
        rw [priced] at made
        exact ⟨rfl, Except.ok.inj made⟩
  · simp only [valid, false_and, iff_false]
    rcases checkPeriod_of_invalid pricing name valid with rejected | rejected <;> simp [rejected]

theorem checkPeriod_unavailable_iff :
    (∃ message, checkPeriod limits pricing q name = .error (.pricingUnavailable message)) ↔
      ValidPeriod limits q.command.period
        ∧ ∃ e, pricing.createCost name.label name.zone q.command.period.value = .error e := by
  by_cases valid : ValidPeriod limits q.command.period
  · rw [checkPeriod_of_valid valid]
    cases pricing.createCost name.label name.zone q.command.period.value <;> simp [valid]
  · simp only [valid, false_and, iff_false]
    rcases checkPeriod_of_invalid pricing name valid with rejected | rejected <;> simp [rejected]

theorem checkFee_eq_ok_iff {cost : CreateCost} :
    checkFee q cost = .ok () ↔ (∀ fee, q.command.fee = some fee → fee = cost.amount)
      ∧ (q.command.fee = none → cost.premium = true → q.superuser = true) := by
  unfold checkFee
  cases q.command.fee with
  | some fee =>
    simp only [ite_error_eq_ok, Option.some.injEq, forall_eq', reduceCtorEq, false_implies,
      and_true, ne_eq, Classical.not_not, and_iff_right_iff_imp]
    exact congrArg Money.currency
  | none => cases cost.premium <;> cases q.superuser <;> simp

theorem checkGating_unblocked {catalog : LabelCatalog} {cost : CreateCost}
    {type : Reservation} {anchor : Bool}
    (gated : checkGating catalog q name cost type anchor = .ok ()) :
    ¬(cost.premium = true ∧ q.registrar.blocksPremiumNames = true) := by
  obtain ⟨_, gated⟩ := guard_eq_ok.mp gated
  obtain ⟨_, gated⟩ := guard_eq_ok.mp gated
  rintro ⟨premium, blocked⟩
  rw [premium, blocked] at gated
  cases gated

/-- That a plan charges what a name costs for the years that the command asks for, that a stated fee
is this cost, and that only a superuser gets a premium name otherwise. -/
structure ChargesExactly (a : Admission) (q : CreateRequest) (name : DomainName)
    (plan : CreatePlan) : Prop where
  valid : ValidPeriod a.config.limits q.command.period
  years : plan.years = q.command.period.value
  cost : ∃ unit, a.catalog.pricing.YearlyPrice name.label name.zone plan.premium unit
    ∧ plan.cost.minor.toInt = plan.years.toNat * unit.minor.toInt
  currency : plan.cost.currency = name.zone.currency
  fee : ∀ fee, q.command.fee = some fee → fee = plan.cost
  stated : plan.premium = true → q.command.fee = none → q.superuser = true
  unblocked : plan.premium = true → q.registrar.blocksPremiumNames = true → q.superuser = true

theorem Passage.chargesExactly (p : Passage a reader q) : ChargesExactly a q p.name p.plan := by
  obtain ⟨valid, years, made⟩ := checkPeriod_eq_ok_iff.mp p.priced
  obtain ⟨unit, price, same, product⟩ := Pricing.createCost_eq_ok_iff.mp made
  obtain ⟨currency, exact⟩ := Money.times_eq_some_iff.mp product
  obtain ⟨fee, stated⟩ := checkFee_eq_ok_iff.mp p.paid
  refine ⟨valid, years, ⟨unit, price, exact⟩, currency.trans same, fee, ?_, ?_⟩
  · intro premium unstated
    exact stated unstated premium
  · intro premium blocked
    exact p.gated.resolve_right fun gated => checkGating_unblocked gated ⟨premium, blocked⟩

theorem charged_exactly (a : Admission) (reader : Reader) (q : CreateRequest) :
    (∀ plan, (a.assess reader q).result = .ok plan →
      ∃ name, DomainName.check a.config q.command.name = .ok name ∧ plan.label = name.label
        ∧ ChargesExactly a q name plan)
      ∧ ∀ name, Entered a reader q name →
        ((∃ message, FailsAt a reader q .period (.pricingUnavailable message)) ↔
          ValidPeriod a.config.limits q.command.period
            ∧ ∃ premium unit, a.catalog.pricing.YearlyPrice name.label name.zone premium unit
              ∧ (unit.currency ≠ name.zone.currency
                ∨ ¬Money.Fits (q.command.period.value.toNat * unit.minor.toInt))) := by
  constructor
  · intro plan accepted
    obtain ⟨p, rfl⟩ := accepted_iff.mp accepted
    exact ⟨p.name, p.named, rfl, p.chargesExactly⟩
  · intro name entered
    rw [← Pricing.createCost_fails_iff, ← checkPeriod_unavailable_iff]
    refine exists_congr fun message => ?_
    rw [failsAt_iff, reports_period_iff]
    constructor
    · rintro ⟨other, reached, said⟩
      obtain rfl : other = name := Except.ok.inj (reached.named.symm.trans entered.named)
      exact Traced.outcomeOf_eq_rejected_iff.mp said.symm
    · intro rejected
      exact ⟨name, entered, (Traced.outcomeOf_eq_rejected_iff.mpr rejected).symm⟩

def goldZone : ZonePolicy := { ZonePolicy.generalAvailability "tld" with premiumList := some "gold" }

def goldList : PremiumList :=
  ⟨"gold", .ofList [("rich", ⟨"USD", 10000⟩), ("huge", ⟨"USD", 4611686018427387904⟩)]⟩

def goldRegistry : Admission where
  config := { zones := .ofList [("tld", goldZone)] }
  catalog := { pricing := .ofLists [goldList] }
  verifier := markVerifier

def goldRequest (name : String) (fee : Option Money) : CreateRequest where
  command := {
    name
    period := ⟨.years, 2⟩
    registrant := some "c"
    contacts := [⟨some .admin, "c"⟩, ⟨some .tech, "c"⟩]
    fee }
  registrar := { clientId := "r", allowedZones := .ofList ["tld"] }
  superuser := false
  now := .epoch

theorem goldRequest_charged :
    (∃ plan name, (goldRegistry.assess oneContact (goldRequest "rich.tld" (some ⟨"USD", 20000⟩))).result
        = .ok plan ∧ plan.label = name.label
        ∧ ChargesExactly goldRegistry (goldRequest "rich.tld" (some ⟨"USD", 20000⟩)) name plan)
      ∧ ∃ message, FailsAt goldRegistry oneContact (goldRequest "huge.tld" none) .period
        (.pricingUnavailable message) := by
  constructor
  · have accepted : ((goldRegistry.assess oneContact
        (goldRequest "rich.tld" (some ⟨"USD", 20000⟩))).result.toOption).isSome = true := by
      decide +kernel
    obtain ⟨plan, accepted⟩ := Option.isSome_iff_exists.mp accepted
    have accepted := eq_ok_of_toOption accepted
    obtain ⟨name, _, same, charges⟩ := (charged_exactly _ _ _).1 plan accepted
    exact ⟨plan, name, accepted, same, charges⟩
  · have entered : Entered goldRegistry oneContact (goldRequest "huge.tld" none)
        ⟨"huge.tld", "huge", "huge", goldZone, none⟩ := {
      free := eq_ok_of_toOption (by decide +kernel)
      named := eq_ok_of_toOption (by decide +kernel)
      authorized := Or.inr (eq_ok_of_toOption (by decide +kernel))
      opened := Or.inr (eq_ok_of_toOption (by decide +kernel)) }
    have listed : goldRegistry.catalog.pricing.Lists "huge" goldZone
        ⟨"USD", 4611686018427387904⟩ :=
      ⟨"gold", goldList, rfl, by decide +kernel, by decide +kernel⟩
    refine ((charged_exactly _ _ _).2 _ entered).mpr ⟨⟨rfl, by decide, by decide⟩, true, _,
      .premium listed, Or.inr fun fits => ?_⟩
    exact absurd fits.2 (by decide)

end Admission

end DomainRegistry
