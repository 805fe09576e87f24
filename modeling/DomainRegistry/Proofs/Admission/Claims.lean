import DomainRegistry.Proofs.Admission.Charges
import DomainRegistry.Proofs.Admission.Reservations

/-!
Trademark claims of accepted labels. Main statements: a label is on a claims list exactly if a row of
its text names it. While claims run, only superusers register a claimed label without a mark or a
notice, or another label with a notice; later on, only they register one with a notice. The gate says
which of these a request comes to.
-/

namespace DomainRegistry

namespace ClaimsList

open Text ListSource

theorem contains_iff {l : ClaimsList} {label : String} :
    l.contains label = true ↔ ∃ key, l.keys.get? label = some key :=
  Option.isSome_iff_exists

def Names (row : Nat × List Char) (label : String) : Prop :=
  ∃ raw key inserted, columns row.2 = [raw, key, inserted] ∧ lower (String.ofList raw) = label

variable {label : String}

theorem addRow_get?_iff {keys after : SortedMap String String} {row : Nat × List Char}
    (added : addRow keys row = .ok after) :
    (∃ key, after.get? label = some key) ↔ (∃ key, keys.get? label = some key) ∨ Names row label := by
  unfold addRow at added
  split at added
  · next raw key inserted cells =>
    obtain ⟨_, _, added⟩ := bind_eq_ok.mp added
    obtain rfl := Except.ok.inj (ite_error_eq_ok.mp added).2
    have names : Names row label ↔ lower (String.ofList raw) = label := by simp [Names, cells]
    rw [names, SortedMap.get?_insert]
    split
    · next same => simp [same]
    · next other => simp [Ne.symm other]
  · cases added

theorem addRows_get?_iff {rows : List (Nat × List Char)} {keys after : SortedMap String String}
    (added : rows.foldlM addRow keys = .ok after) :
    (∃ key, after.get? label = some key) ↔
      (∃ key, keys.get? label = some key) ∨ ∃ row ∈ rows, Names row label := by
  induction rows generalizing keys with
  | nil =>
    obtain rfl := Except.ok.inj added
    simp
  | cons row rows ih =>
    rw [List.foldlM_cons] at added
    obtain ⟨middle, first, rest⟩ := bind_eq_ok.mp added
    rw [ih rest, addRow_get?_iff first, or_assoc]
    simp

theorem parse_contains_iff {text : String} {l : ClaimsList} (parsed : parse text = .ok l) :
    l.contains label = true ↔ ∃ row ∈ (filledLines text).drop 2, Names row label := by
  rw [contains_iff]
  unfold parse at parsed
  split at parsed
  · cases parsed
  · next first rest lines =>
    obtain ⟨created, _, parsed⟩ := bind_eq_ok.mp parsed
    cases rest with
    | nil => cases parsed
    | cons second rows =>
      obtain ⟨keys, added, made⟩ := bind_eq_ok.mp (ite_error_eq_ok.mp parsed).2
      obtain rfl := Except.ok.inj made
      rw [addRows_get?_iff added, lines]
      simp

end ClaimsList

theorem CreateCommand.claimsNotice_isSome_iff {c : CreateCommand} :
    c.claimsNotice.isSome = true ↔
      ∃ launch notice, c.launch = some launch ∧ launch.notice = some notice := by
  simp only [claimsNotice, Option.isSome_iff_exists, Option.bind_eq_some_iff]
  constructor
  · rintro ⟨notice, launch, given, noted⟩; exact ⟨launch, notice, given, noted⟩
  · rintro ⟨launch, notice, given, noted⟩; exact ⟨notice, launch, given, noted⟩

namespace Admission

variable {a : Admission} {reader : Reader} {q : CreateRequest} {name : DomainName}

def ClaimsRun (q : CreateRequest) (name : DomainName) : Prop := q.now < name.zone.claimsPeriodEnd

def Claimed (a : Admission) (name : DomainName) : Prop :=
  ∃ key, a.catalog.claims.keys.get? name.label = some key

def Marked (q : CreateRequest) : Prop :=
  ∃ launch, q.command.launch = some launch ∧ launch.signedMarks ≠ []

def Acknowledged (q : CreateRequest) : Prop :=
  ∃ launch notice, q.command.launch = some launch ∧ launch.notice = some notice

def Refused (a : Admission) (q : CreateRequest) (name : DomainName) : Prop :=
  (∃ price, a.catalog.pricing.Lists name.label name.zone price)
    ∧ q.registrar.blocksPremiumNames = true

def Reserved (a : Admission) (q : CreateRequest) (name : DomainName) : Prop :=
  a.isAnchorTenant q name = false ∧ blocks q.command.isSunrise (a.reservationOf name) = true

/-- That a command says of a claim on its label what it has to say, and nothing if there is none. -/
structure ClaimsAgree (a : Admission) (q : CreateRequest) (name : DomainName) : Prop where
  running : ClaimsRun q name →
    (Acknowledged q → Claimed a name) ∧ (Claimed a name → Marked q ∨ Acknowledged q)
  past : ¬ClaimsRun q name → ¬Acknowledged q

structure GatingAnswers (a : Admission) (reader : Reader) (q : CreateRequest) (name : DomainName) :
    Prop where
  missing : FailsAt a reader q .gating (.missingClaimsNotice name.label) ↔
    ClaimsRun q name ∧ Claimed a name ∧ ¬Marked q ∧ ¬Acknowledged q
  unexpected : FailsAt a reader q .gating (.unexpectedClaimsNotice name.label) ↔
    ClaimsRun q name ∧ ¬Claimed a name ∧ Acknowledged q
  ended : FailsAt a reader q .gating (.claimsPeriodEnded name.zone.name) ↔
    ¬ClaimsRun q name ∧ Acknowledged q
  blocked : FailsAt a reader q .gating .premiumNameBlocked ↔
    ClaimsAgree a q name ∧ Refused a q name
  passed : Reports a reader q .gating .passed ↔ ClaimsAgree a q name ∧ ¬Refused a q name

inductive ClaimsRow (a : Admission) (q : CreateRequest) (name : DomainName) :
    Except Rejection Unit → Prop
  | missing (running : ClaimsRun q name) (claimed : Claimed a name) (unmarked : ¬Marked q)
      (silent : ¬Acknowledged q) : ClaimsRow a q name (.error (.missingClaimsNotice name.label))
  | unexpected (running : ClaimsRun q name) (unclaimed : ¬Claimed a name)
      (noticed : Acknowledged q) : ClaimsRow a q name (.error (.unexpectedClaimsNotice name.label))
  | ended (past : ¬ClaimsRun q name) (noticed : Acknowledged q) :
      ClaimsRow a q name (.error (.claimsPeriodEnded name.zone.name))
  | agreed (agree : ClaimsAgree a q name) : ClaimsRow a q name (.ok ())

theorem checkClaims_row (a : Admission) (q : CreateRequest) (name : DomainName) :
    ClaimsRow a q name (checkClaims a.catalog.claims q name.label name.zone) := by
  have running : name.zone.inClaimsPeriod q.now = true ↔ ClaimsRun q name := decide_eq_true_iff
  have claimed : a.catalog.claims.contains name.label = true ↔ Claimed a name :=
    ClaimsList.contains_iff
  have marked : q.command.isSunrise = true ↔ Marked q := CreateCommand.isSunrise_eq_true_iff
  have noticed : q.command.claimsNotice.isSome = true ↔ Acknowledged q :=
    CreateCommand.claimsNotice_isSome_iff
  have silent : q.command.claimsNotice.isNone = true ↔ ¬Acknowledged q := by
    rw [← noticed, Bool.not_eq_true, Option.isSome_eq_false_iff]
  have lacking : (a.catalog.claims.contains name.label && !q.command.isSunrise
      && q.command.claimsNotice.isNone) = true ↔
        (Claimed a name ∧ ¬Marked q) ∧ ¬Acknowledged q := by
    simp only [Bool.and_eq_true, Bool.not_eq_true', ← Bool.not_eq_true, claimed, marked, silent]
  have needless : (!a.catalog.claims.contains name.label && q.command.claimsNotice.isSome) = true ↔
      ¬Claimed a name ∧ Acknowledged q := by
    simp only [Bool.and_eq_true, Bool.not_eq_true', ← Bool.not_eq_true, claimed, noticed]
  unfold checkClaims
  dsimp only
  split
  · next run =>
    have run := running.mp run
    split
    · next row =>
      obtain ⟨⟨listed, unmarked⟩, quiet⟩ := lacking.mp row
      exact .missing run listed unmarked quiet
    · next enough =>
      split
      · next row =>
        obtain ⟨unlisted, notice⟩ := needless.mp row
        exact .unexpected run unlisted notice
      · next needed =>
        refine .agreed ⟨fun _ => ⟨?_, ?_⟩, fun past => absurd run past⟩
        · intro notice
          refine Classical.byContradiction fun unlisted => ?_
          exact needed (needless.mpr ⟨unlisted, notice⟩)
        · intro listed
          by_cases mark : Marked q
          · exact Or.inl mark
          · refine Or.inr (Classical.byContradiction fun quiet => ?_)
            exact enough (lacking.mpr ⟨⟨listed, mark⟩, quiet⟩)
  · next past =>
    have past := mt running.mpr past
    split
    · next notice => exact .ended past (noticed.mp notice)
    · next quiet => exact .agreed ⟨fun run => absurd run past, fun _ => quiet ∘ noticed.mpr⟩

theorem ClaimsAgree.not_missing (agree : ClaimsAgree a q name) :
    ¬(ClaimsRun q name ∧ Claimed a name ∧ ¬Marked q ∧ ¬Acknowledged q) := by
  rintro ⟨run, claimed, unmarked, silent⟩
  exact ((agree.running run).2 claimed).elim unmarked silent

theorem ClaimsAgree.not_unexpected (agree : ClaimsAgree a q name) :
    ¬(ClaimsRun q name ∧ ¬Claimed a name ∧ Acknowledged q) :=
  fun ⟨run, unclaimed, noticed⟩ => unclaimed ((agree.running run).1 noticed)

theorem ClaimsAgree.not_ended (agree : ClaimsAgree a q name) :
    ¬(¬ClaimsRun q name ∧ Acknowledged q) :=
  fun ⟨past, noticed⟩ => agree.past past noticed

theorem checkClaims_eq_ok_iff :
    checkClaims a.catalog.claims q name.label name.zone = .ok () ↔ ClaimsAgree a q name := by
  have row := checkClaims_row a q name
  generalize checkClaims a.catalog.claims q name.label name.zone = answer at row
  cases row with
  | missing run claimed unmarked silent =>
    simp only [reduceCtorEq, false_iff]
    exact fun agree => agree.not_missing ⟨run, claimed, unmarked, silent⟩
  | unexpected run unclaimed noticed =>
    simp only [reduceCtorEq, false_iff]
    exact fun agree => agree.not_unexpected ⟨run, unclaimed, noticed⟩
  | ended past noticed =>
    simp only [reduceCtorEq, false_iff]
    exact fun agree => agree.not_ended ⟨past, noticed⟩
  | agreed agree => simp [agree]

theorem checkClaims_eq_error_iff {r : Rejection} :
    checkClaims a.catalog.claims q name.label name.zone = .error r ↔
      (r = .missingClaimsNotice name.label
          ∧ ClaimsRun q name ∧ Claimed a name ∧ ¬Marked q ∧ ¬Acknowledged q)
        ∨ (r = .unexpectedClaimsNotice name.label
          ∧ ClaimsRun q name ∧ ¬Claimed a name ∧ Acknowledged q)
        ∨ (r = .claimsPeriodEnded name.zone.name ∧ ¬ClaimsRun q name ∧ Acknowledged q) := by
  have row := checkClaims_row a q name
  generalize checkClaims a.catalog.claims q name.label name.zone = answer at row
  cases row with
  | missing run claimed unmarked silent => simp [run, claimed, unmarked, silent, eq_comm]
  | unexpected run unclaimed noticed => simp [run, unclaimed, noticed, eq_comm]
  | ended past noticed => simp [past, noticed, eq_comm]
  | agreed agree =>
    simp only [reduceCtorEq, agree.not_missing, agree.not_unexpected, agree.not_ended, and_false,
      or_false]

theorem Vetted.premium_iff {cost : CreateCost} (vetted : Vetted a reader q name cost) :
    cost.premium = true ↔ ∃ price, a.catalog.pricing.Lists name.label name.zone price := by
  obtain ⟨_, priced⟩ := vetted.priced
  obtain ⟨_, _, made⟩ := checkPeriod_eq_ok_iff.mp priced
  obtain ⟨_, price, _⟩ := Pricing.createCost_eq_ok_iff.mp made
  rw [(Pricing.yearlyPrice_iff.mp price).1, Pricing.isPremium_iff]

theorem not_reserved_iff :
    ¬Reserved a q name ↔ checkReservation q name.label (a.reservationOf name)
      (a.isAnchorTenant q name) = .ok () := by
  rw [checkReservation_eq_ok_iff, Reserved, Classical.not_and_iff_not_or_not, Bool.not_eq_false,
    Bool.not_eq_true]

theorem Vetted.refused_iff {cost : CreateCost} (vetted : Vetted a reader q name cost) :
    Refused a q name ↔ (cost.premium && q.registrar.blocksPremiumNames) = true := by
  rw [Refused, ← vetted.premium_iff, Bool.and_eq_true]

theorem checkGating_of_free (cost : CreateCost) (free : ¬Reserved a q name) :
    checkGating a.catalog q name cost (a.reservationOf name) (a.isAnchorTenant q name)
      = (checkClaims a.catalog.claims q name.label name.zone >>= fun _ =>
          if cost.premium && q.registrar.blocksPremiumNames then .error .premiumNameBlocked
          else .ok ()) := by
  rw [checkGating, not_reserved_iff.mp free]
  rfl

section Unreserved

variable {cost : CreateCost}

theorem Vetted.reports_passed_iff (vetted : Vetted a reader q name cost)
    (ordinary : q.superuser = false) (free : ¬Reserved a q name) :
    Reports a reader q .gating .passed ↔ ClaimsAgree a q name ∧ ¬Refused a q name := by
  rw [vetted.reports_gating_iff ordinary, eq_comm, Traced.outcomeOf_eq_passed_iff,
    checkGating_of_free cost free]
  simp only [guard_eq_ok, checkClaims_eq_ok_iff, vetted.refused_iff, ite_error_eq_ok, and_true]

theorem Vetted.failsAt_gating_iff {r : Rejection} (vetted : Vetted a reader q name cost)
    (ordinary : q.superuser = false) (free : ¬Reserved a q name) :
    FailsAt a reader q .gating r ↔
      checkClaims a.catalog.claims q name.label name.zone = .error r
        ∨ r = .premiumNameBlocked ∧ ClaimsAgree a q name ∧ Refused a q name := by
  rw [failsAt_iff, vetted.reports_gating_iff ordinary, eq_comm, Traced.outcomeOf_eq_rejected_iff,
    checkGating_of_free cost free]
  simp only [guard_eq_error, checkClaims_eq_ok_iff, vetted.refused_iff]
  refine or_congr_right ?_
  cases cost.premium && q.registrar.blocksPremiumNames <;> simp [eq_comm, and_comm]

/-- The gate says which row of the matrix it is, and only then looks at the price. -/
theorem Vetted.gatingAnswers (vetted : Vetted a reader q name cost)
    (ordinary : q.superuser = false) (free : ¬Reserved a q name) :
    GatingAnswers a reader q name where
  missing := by simp [vetted.failsAt_gating_iff ordinary free, checkClaims_eq_error_iff]
  unexpected := by simp [vetted.failsAt_gating_iff ordinary free, checkClaims_eq_error_iff]
  ended := by simp [vetted.failsAt_gating_iff ordinary free, checkClaims_eq_error_iff]
  blocked := by simp [vetted.failsAt_gating_iff ordinary free, checkClaims_eq_error_iff]
  passed := vetted.reports_passed_iff ordinary free

end Unreserved

theorem Passage.claimsAgree (p : Passage a reader q) (ordinary : q.superuser = false) :
    ClaimsAgree a q p.name := by
  have gated := p.gated.resolve_left (by simp [ordinary])
  obtain ⟨_, gated⟩ := guard_eq_ok.mp gated
  exact checkClaims_eq_ok_iff.mp (guard_eq_ok.mp gated).1

theorem claimed_iff {text : String} (parsed : ClaimsList.parse text = .ok a.catalog.claims) :
    Claimed a name ↔
      ∃ row ∈ (ListSource.filledLines text).drop 2, ClaimsList.Names row name.label := by
  rw [Claimed, ← ClaimsList.contains_iff, ClaimsList.parse_contains_iff parsed]

theorem claims_respected (a : Admission) (reader : Reader) (q : CreateRequest)
    (ordinary : q.superuser = false) :
    (∀ plan, (a.assess reader q).result = .ok plan →
      ∃ name, DomainName.check a.config q.command.name = .ok name ∧ plan.label = name.label
        ∧ ClaimsAgree a q name)
      ∧ (∀ name cost, Vetted a reader q name cost → ¬Reserved a q name →
        GatingAnswers a reader q name)
      ∧ ∀ text, ClaimsList.parse text = .ok a.catalog.claims → ∀ name, Claimed a name ↔
        ∃ row ∈ (ListSource.filledLines text).drop 2, ClaimsList.Names row name.label := by
  refine ⟨?_, ?_, fun text parsed name => claimed_iff parsed⟩
  · intro plan accepted
    obtain ⟨p, rfl⟩ := accepted_iff.mp accepted
    exact ⟨p.name, p.named, rfl, p.claimsAgree ordinary⟩
  · intro name cost vetted free
    exact vetted.gatingAnswers ordinary free

def claimsRegistry : Admission where
  config := { zones := .ofList [("tld", .generalAvailability "tld")] }
  catalog := { claims := { keys := .ofList [("a", "key")] } }
  verifier := markVerifier

def claimedName : DomainName := ⟨"a.tld", "a", "a", .generalAvailability "tld", none⟩

theorem claimsRegistry_respects :
    (∃ plan name, (claimsRegistry.assess oneContact (goldRequest "b.tld" none)).result = .ok plan
        ∧ plan.label = name.label ∧ ClaimsAgree claimsRegistry (goldRequest "b.tld" none) name)
      ∧ FailsAt claimsRegistry oneContact (goldRequest "a.tld" none) .gating
        (.missingClaimsNotice "a") := by
  constructor
  · have accepted : ((claimsRegistry.assess oneContact
        (goldRequest "b.tld" none)).result.toOption).isSome = true := by
      decide +kernel
    obtain ⟨plan, accepted⟩ := Option.isSome_iff_exists.mp accepted
    have accepted := eq_ok_of_toOption accepted
    obtain ⟨name, _, same, agree⟩ :=
      (claims_respected claimsRegistry oneContact _ rfl).1 plan accepted
    exact ⟨plan, name, accepted, same, agree⟩
  · have vetted : Vetted claimsRegistry oneContact (goldRequest "a.tld" none) claimedName
        ⟨⟨"USD", 2600⟩, false⟩ := {
      entered := {
        free := eq_ok_of_toOption (by decide +kernel)
        named := eq_ok_of_toOption (by decide +kernel)
        authorized := Or.inr (eq_ok_of_toOption (by decide +kernel))
        opened := Or.inr (eq_ok_of_toOption (by decide +kernel)) }
      priced := ⟨2, eq_ok_of_toOption (by decide +kernel)⟩
      linked := ⟨.empty, eq_ok_of_toOption (by decide +kernel)⟩
      contacted := eq_ok_of_toOption (by decide +kernel)
      served := eq_ok_of_toOption (by decide +kernel)
      evidenced := ⟨⟨none, none⟩, eq_ok_of_toOption (by decide +kernel)⟩
      delegated := eq_ok_of_toOption (by decide +kernel) }
    have free : ¬Reserved claimsRegistry (goldRequest "a.tld" none) claimedName := by
      rintro ⟨_, blocked⟩
      revert blocked
      decide +kernel
    have running : ClaimsRun (goldRequest "a.tld" none) claimedName :=
      show Instant.epoch < Instant.latest by decide
    refine ((claims_respected claimsRegistry oneContact _ rfl).2.1 _ _ vetted free).missing.mpr
      ⟨running, ⟨"key", by decide +kernel⟩, ?_, ?_⟩
    · rintro ⟨_, given, _⟩
      cases given
    · rintro ⟨_, _, given, _⟩
      cases given

end Admission

end DomainRegistry
