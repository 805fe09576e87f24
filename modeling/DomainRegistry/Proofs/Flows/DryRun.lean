import DomainRegistry.Proofs.Flows.Ungated

/-!
Dry runs beside the creations they stand for. Main statement: a creation makes a domain of the plan
of its dry run, so that the dry run says what the creation will say exactly as long as the times of
that domain are on the calendar.
-/

namespace DomainRegistry

namespace Gate

variable {s : State} {text : String} {now : Instant}

theorem check_fst (s : State) (text : String) (now : Instant) :
    (check s text now).1 =
      match (s.load text now).1 with
      | none => .ok ()
      | some d =>
        if (d.graceAt now).contains .add then .ok () else .error (.resourceAlreadyExists text) := by
  unfold check
  dsimp only
  cases (s.load text now).1 with
  | none => rfl
  | some d =>
    dsimp only
    split
    · rfl
    · rfl

end Gate

namespace Creation

variable {a : Admission} {s : State} {q : CreateRequest} {plan : CreatePlan}

/-- That a dry run says what a creation says: the same rejection, or the plan that it follows. -/
structure Predicts (dry : Except Rejection CreatePlan) (real : Except Rejection Created) :
    Prop where
  rejected : ∀ r, dry = .error r ↔ real = .error r
  planned : ∀ plan, dry = .ok plan ↔ ∃ c, real = .ok c ∧ c.plan = plan

/-- That the domain of a plan would expire and leave its first days before the last date. -/
def Dated (q : CreateRequest) (plan : CreatePlan) : Prop :=
  (∃ expirationTime, q.now.addMonths? (12 * plan.years.toNat) = some expirationTime)
    ∧ ∃ graceEnd, q.now.addDays? plan.addGraceDays = some graceEnd

theorem dated_of_made {id : String} {d : Domain} (made : newDomain id plan q = .ok d) :
    Dated q plan := by
  obtain ⟨expirationTime, graceEnd, expires, ends, _⟩ := newDomain_eq_ok_iff.mp made
  exact ⟨⟨expirationTime, expires⟩, graceEnd, ends⟩

theorem made_of_dated (id : String) (dated : Dated q plan) : ∃ d, newDomain id plan q = .ok d := by
  obtain ⟨⟨expirationTime, expires⟩, graceEnd, ends⟩ := dated
  exact ⟨_, newDomain_eq_ok_iff.mpr ⟨expirationTime, graceEnd, expires, ends, rfl⟩⟩

theorem newDomain_eq_error {id : String} {r : Rejection} (unmade : newDomain id plan q = .error r) :
    r = .expirationOutOfRange := by
  unfold newDomain at unmade
  split at unmade
  · cases unmade
  · exact (Except.error.inj unmade).symm

theorem gated_eq (a : Admission) (s : State) (q : CreateRequest) :
    gated a s q = (Gate.check s q.command.name q.now).1 := by
  have loads : ((drawnState a s q).load q.command.name q.now).1
      = (s.load q.command.name q.now).1 :=
    State.loads_of_remembered (drawnState_committed a s q) (drawnState_remembered? a s q) _ _
  unfold gated
  rw [Gate.check_fst, Gate.check_fst, loads]

theorem dryRun_of_turned_away {r : Rejection} (turned : gated a s q = .error r) :
    (dryRun a s q).1.result = .error r := by
  rw [gated_eq] at turned
  have gate : Gate.check s q.command.name q.now
      = (.error r, (Gate.check s q.command.name q.now).2) := Prod.ext turned rfl
  unfold dryRun
  rw [gate]

theorem dryRun_of_passed (passed : gated a s q = .ok ()) :
    (dryRun a s q).1.result = (a.assess s.store.committed.reader q).result := by
  rw [gated_eq] at passed
  have gate : Gate.check s q.command.name q.now
      = (.ok (), (Gate.check s q.command.name q.now).2) := Prod.ext passed rfl
  have committed := Gate.check_committed s q.command.name q.now
  unfold dryRun
  rw [gate]
  dsimp only [State.snapshot]
  rw [committed]

def carryOut (s : State) (q : CreateRequest) (plan : CreatePlan) : Except Rejection Created :=
  (newDomain (s.store.ids.repoId plan.zone).1 plan q).map fun d =>
    ⟨d.repoId, d.creationTime, d.expirationTime, plan⟩

theorem run_result (a : Admission) (s : State) (q : CreateRequest) :
    (run a s q).1.result = (dryRun a s q).1.result >>= carryOut s q := by
  cases passed : gated a s q with
  | error r =>
    rw [run_of_turned_away passed, dryRun_of_turned_away passed]
    rfl
  | ok u =>
    rw [dryRun_of_passed passed]
    cases accepted : (a.assess s.store.committed.reader q).result with
    | error r => exact (run_of_rejected passed accepted).1
    | ok plan =>
      change _ = carryOut s q plan
      unfold carryOut
      cases made : newDomain (s.store.ids.repoId plan.zone).1 plan q with
      | error r => exact (run_of_unmade passed accepted made).1
      | ok d => exact (run_of_made passed accepted made).1

theorem carryOut_of_dated (s : State) (dated : Dated q plan) :
    ∃ c, carryOut s q plan = .ok c ∧ c.plan = plan := by
  obtain ⟨d, made⟩ := made_of_dated (s.store.ids.repoId plan.zone).1 dated
  refine ⟨⟨d.repoId, d.creationTime, d.expirationTime, plan⟩, ?_, rfl⟩
  rw [carryOut, made]
  rfl

theorem carryOut_of_undated (s : State) (undated : ¬Dated q plan) :
    carryOut s q plan = .error .expirationOutOfRange := by
  unfold carryOut
  cases made : newDomain (s.store.ids.repoId plan.zone).1 plan q with
  | error r =>
    rw [newDomain_eq_error made]
    rfl
  | ok d => exact absurd (dated_of_made made) undated

theorem predicts_of_rejected {r : Rejection} : Predicts (.error r) (.error r) := by
  constructor
  · intro r'
    simp
  · intro plan
    simp

theorem predicts_of_planned {c : Created} (same : c.plan = plan) : Predicts (.ok plan) (.ok c) := by
  subst same
  constructor
  · intro r
    simp
  · intro plan
    simp

theorem not_predicts {r : Rejection} : ¬Predicts (.ok plan) (.error r) := by
  intro predicts
  obtain ⟨c, accepted, _⟩ := (predicts.planned plan).mp rfl
  cases accepted

theorem dry_run_predicts_iff (a : Admission) (s : State) (q : CreateRequest) :
    (Predicts (dryRun a s q).1.result (run a s q).1.result ↔
        ∀ plan, (dryRun a s q).1.result = .ok plan → Dated q plan)
      ∧ (∀ r, (dryRun a s q).1.result = .error r → (run a s q).1.result = .error r)
      ∧ ∀ plan, (dryRun a s q).1.result = .ok plan → ¬Dated q plan →
          (run a s q).1.result = .error .expirationOutOfRange := by
  rw [run_result]
  cases (dryRun a s q).1.result with
  | error r =>
    refine ⟨?_, ?_, ?_⟩
    · constructor
      · intro _ plan planned
        cases planned
      · intro _
        exact predicts_of_rejected
    · intro r' rejected
      cases rejected
      rfl
    · intro plan planned
      cases planned
  | ok plan =>
    change (Predicts (.ok plan) (carryOut s q plan) ↔ _) ∧ _ ∧ _
    refine ⟨?_, ?_, ?_⟩
    · constructor
      · intro predicts
        rintro _ ⟨⟩
        by_cases dated : Dated q plan
        · exact dated
        · rw [carryOut_of_undated s dated] at predicts
          exact absurd predicts not_predicts
      · intro dated
        obtain ⟨c, carried, same⟩ := carryOut_of_dated s (dated plan rfl)
        rw [carried]
        exact predicts_of_planned same
    · intro r rejected
      cases rejected
    · rintro _ ⟨⟩ undated
      exact carryOut_of_undated s undated

theorem plainRequest_predicted :
    ∃ plan c, (dryRun openRegistry contactState (plainRequest "a.tld" [])).1.result = .ok plan
      ∧ (run openRegistry contactState (plainRequest "a.tld" [])).1.result = .ok c
      ∧ c.plan = plan := by
  have years : ((dryRun openRegistry contactState (plainRequest "a.tld" [])).1.result.toOption).map
      (fun plan => (plan.years, plan.addGraceDays)) = some (1, 5) := by decide +kernel
  obtain ⟨plan, planned, same⟩ := Option.map_eq_some_iff.mp years
  obtain ⟨one, five⟩ := Prod.mk.inj same
  have planned := eq_ok_of_toOption planned
  have dated : Dated (plainRequest "a.tld" []) plan := by
    unfold Dated
    rw [one, five]
    exact ⟨Option.isSome_iff_exists.mp (by decide +kernel),
      Option.isSome_iff_exists.mp (by decide +kernel)⟩
  have predicts : Predicts (dryRun openRegistry contactState (plainRequest "a.tld" [])).1.result
      (run openRegistry contactState (plainRequest "a.tld" [])).1.result := by
    refine (dry_run_predicts_iff openRegistry contactState (plainRequest "a.tld" [])).1.mpr ?_
    intro plan' planned'
    obtain rfl : plan = plan' := Except.ok.inj (planned.symm.trans planned')
    exact dated
  obtain ⟨c, accepted, same⟩ := (predicts.planned plan).mp planned
  exact ⟨plan, c, planned, accepted, same⟩

/-- A zone that takes names back for longer than the calendar goes on. -/
def graciousZone : ZonePolicy :=
  { ZonePolicy.generalAvailability "tld" with addGraceDays := 4294967295 }

def graciousRegistry : Admission :=
  { openRegistry with config := { zones := .ofList [("tld", graciousZone)] } }

theorem graciousRegistry_not_predicted :
    ¬Predicts (dryRun graciousRegistry contactState (plainRequest "a.tld" [])).1.result
      (run graciousRegistry contactState (plainRequest "a.tld" [])).1.result := by
  intro predicts
  have planned : ((dryRun graciousRegistry contactState
      (plainRequest "a.tld" [])).1.result.toOption).isSome = true := by decide +kernel
  obtain ⟨plan, planned⟩ := Option.isSome_iff_exists.mp planned
  obtain ⟨c, accepted, _⟩ := (predicts.planned plan).mp (eq_ok_of_toOption planned)
  have rejected : ((run graciousRegistry contactState
      (plainRequest "a.tld" [])).1.result.toOption).isSome = false := by decide +kernel
  rw [accepted] at rejected
  cases rejected

end Creation

end DomainRegistry
