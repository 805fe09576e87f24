import DomainRegistry.Proofs.Admission.Accepted
import DomainRegistry.Proofs.Trademark.Marks
import DomainRegistry.Store.Tables

/-!
The evidence of accepted requests. Main statement: in the trademark phases nobody but a superuser
registers without exactly one mark that verifies for the label, and after them nobody with a mark.
-/

namespace DomainRegistry

theorem CreateCommand.isSunrise_eq_true_iff {c : CreateCommand} :
    c.isSunrise = true ↔ ∃ l, c.launch = some l ∧ l.signedMarks ≠ [] := by
  unfold isSunrise
  cases c.launch <;> simp

theorem ZoneState.acceptsSignedMarks_iff {s : ZoneState} :
    s.acceptsSignedMarks = true ↔ s = .sunrise ∨ s = .sunrush := by
  cases s <;> simp [acceptsSignedMarks]

namespace Launch

variable {c : Context} {l : Launch}

theorem checkForm_eq_ok_iff :
    checkForm c l = .ok () ↔
      (c.superuser = true ∨ l.phase ∈ c.state.acceptedPhases)
        ∧ (l.codeMarks = [] ∧ ∀ m ∈ l.signedMarks, m.isUnencoded = false)
        ∧ (l.signedMarks = [] ∨ c.superuser = true ∨ c.state.acceptsSignedMarks = true) := by
  simp only [checkForm, ite_error_eq_ok, and_true]
  refine and_congr ?_ (and_congr ?_ ?_)
  · cases c.superuser <;> simp
  · simp
  · cases c.superuser <;> simp [Classical.or_iff_not_imp_left]

theorem checkMark_eq_ok_iff {encoding data : String} {m : SignedMark} :
    checkMark c encoding data = .ok m ↔
      Text.sameIgnoringCase encoding markEncoding = true
        ∧ c.verifier.verifyForLabel data c.label c.now = .ok m := by
  rw [Verifier.verifyForLabel_eq_ok_iff]
  simp only [checkMark, ite_error_eq_ok, Bool.not_eq_true', Bool.not_eq_false]
  refine and_congr_right fun _ => ?_
  cases c.verifier.verify data c.now with
  | error e => simp
  | ok n =>
    dsimp only
    split
    · next covers =>
      constructor
      · rintro ⟨⟩; exact ⟨rfl, covers⟩
      · rintro ⟨⟨⟩, _⟩; rfl
    · next bare =>
      constructor
      · rintro ⟨⟩
      · rintro ⟨⟨⟩, covers⟩; exact absurd covers bare

theorem checkMarks_eq_ok_iff {marks : List MarkEvidence} {mark : Option SignedMark} :
    checkMarks c marks = .ok mark ↔
      marks = [] ∧ mark = none
        ∨ ∃ encoding data m, marks = [.encoded encoding data]
          ∧ Text.sameIgnoringCase encoding markEncoding = true
          ∧ c.verifier.verifyForLabel data c.label c.now = .ok m ∧ mark = some m := by
  constructor
  · intro accepted
    match marks with
    | [] => exact Or.inl ⟨rfl, (Except.ok.inj accepted).symm⟩
    | [.unencoded _] => cases accepted
    | [.encoded encoding data] =>
      obtain ⟨m, verified, same⟩ : ∃ m, checkMark c encoding data = .ok m ∧ some m = mark := by
        rw [checkMarks] at accepted
        cases checked : checkMark c encoding data with
        | error e => rw [checked] at accepted; cases accepted
        | ok m => rw [checked] at accepted; exact ⟨m, rfl, Except.ok.inj accepted⟩
      obtain ⟨base64, counts⟩ := checkMark_eq_ok_iff.mp verified
      exact Or.inr ⟨encoding, data, m, rfl, base64, counts, same.symm⟩
    | first :: _ :: _ => cases first <;> cases accepted
  · rintro (⟨rfl, rfl⟩ | ⟨encoding, data, m, rfl, base64, counts, rfl⟩)
    · rfl
    · rw [checkMarks, checkMark_eq_ok_iff.mpr ⟨base64, counts⟩]
      rfl

theorem check_some_eq_ok_iff {evidence : Evidence} :
    check c (some l) = .ok evidence ↔
      checkForm c l = .ok () ∧ (∀ n, l.notice = some n → checkNotice c n = .ok ())
        ∧ ∃ mark, checkMarks c l.signedMarks = .ok mark ∧ evidence = ⟨l.notice, mark⟩ := by
  cases given : l.notice with
  | none =>
    simp only [check, given, bind_eq_ok]
    constructor
    · rintro ⟨_, form, mark, marked, made⟩
      exact ⟨form, by simp, mark, marked, (Except.ok.inj made).symm⟩
    · rintro ⟨form, _, mark, marked, rfl⟩
      exact ⟨(), form, mark, marked, rfl⟩
  | some n =>
    simp only [check, given, bind_eq_ok]
    constructor
    · rintro ⟨_, form, _, noticed, mark, marked, made⟩
      refine ⟨form, ?_, mark, marked, (Except.ok.inj made).symm⟩
      rintro _ ⟨⟩
      exact noticed
    · rintro ⟨form, noticed, mark, marked, rfl⟩
      exact ⟨(), form, (), noticed n rfl, mark, marked, rfl⟩

end Launch

namespace Admission

variable {a : Admission} {reader : Reader} {q : CreateRequest} {plan : CreatePlan}

theorem checkZoneState_eq_ok_iff {zone : ZonePolicy} :
    checkZoneState q zone = .ok () ↔
      (zone.stateAt q.now = .landrush ∨ zone.stateAt q.now = .generalAvailability)
        ∨ (zone.stateAt q.now = .sunrise ∨ zone.stateAt q.now = .sunrush)
          ∧ q.command.isSunrise = true := by
  unfold checkZoneState
  cases zone.stateAt q.now <;> simp

/-- A command with exactly one mark, in base64, that verifies for the label and is in the plan. -/
def CarriesVerifiedMark (v : Verifier) (q : CreateRequest) (plan : CreatePlan) : Prop :=
  ∃ launch encoding data mark, q.command.launch = some launch
    ∧ launch.signedMarks = [.encoded encoding data]
    ∧ Text.sameIgnoringCase encoding Launch.markEncoding = true
    ∧ v.verifyForLabel data plan.label q.now = .ok mark
    ∧ plan.smdId = some mark.data.id

theorem CarriesVerifiedMark.isSunrise {v : Verifier} (carries : CarriesVerifiedMark v q plan) :
    q.command.isSunrise = true := by
  obtain ⟨launch, _, _, _, given, only, _⟩ := carries
  exact CreateCommand.isSunrise_eq_true_iff.mpr ⟨launch, given, by simp [only]⟩

namespace Passage

theorem marked_or_unmarked (p : Passage a reader q) :
    (∀ launch, q.command.launch = some launch → launch.signedMarks = []) ∧ p.plan.smdId = none
      ∨ CarriesVerifiedMark a.verifier q p.plan := by
  have evidenced := p.evidenced
  have noted : p.plan.smdId = p.evidence.mark.map fun m => m.data.id := rfl
  cases given : q.command.launch with
  | none =>
    rw [given] at evidenced
    rw [← Except.ok.inj evidenced] at noted
    exact Or.inl ⟨by simp, noted⟩
  | some launch =>
    rw [given, Launch.check_some_eq_ok_iff] at evidenced
    obtain ⟨_, _, mark, marked, same⟩ := evidenced
    rw [same] at noted
    rcases Launch.checkMarks_eq_ok_iff.mp marked with
      ⟨bare, rfl⟩ | ⟨encoding, data, m, only, base64, verified, rfl⟩
    · refine Or.inl ⟨?_, noted⟩
      rintro _ ⟨⟩
      exact bare
    · exact Or.inr ⟨launch, encoding, data, m, given, only, base64, verified, noted⟩

theorem launch_form (p : Passage a reader q) {launch : Launch}
    (given : q.command.launch = some launch) :
    launch.codeMarks = []
      ∧ (q.superuser = false → launch.phase ∈ (p.name.zone.stateAt q.now).acceptedPhases) := by
  have evidenced := p.evidenced
  rw [given, Launch.check_some_eq_ok_iff, Launch.checkForm_eq_ok_iff] at evidenced
  obtain ⟨⟨phased, ⟨uncoded, _⟩, _⟩, _⟩ := evidenced
  refine ⟨uncoded, fun ordinary => phased.resolve_left ?_⟩
  change ¬q.superuser = true
  simp [ordinary]

/-- A zone open to everyone lets a mark pass; it is the look at the evidence that stops it. -/
theorem marks_in_trademark_phase (p : Passage a reader q) (ordinary : q.superuser = false)
    (marked : q.command.isSunrise = true) :
    p.name.zone.stateAt q.now = .sunrise ∨ p.name.zone.stateAt q.now = .sunrush := by
  obtain ⟨launch, given, some⟩ := CreateCommand.isSunrise_eq_true_iff.mp marked
  have evidenced := p.evidenced
  rw [given, Launch.check_some_eq_ok_iff, Launch.checkForm_eq_ok_iff] at evidenced
  obtain ⟨⟨_, _, bare | super | accepts⟩, _⟩ := evidenced
  · exact absurd bare some
  · exact absurd super (by change ¬q.superuser = true; simp [ordinary])
  · exact ZoneState.acceptsSignedMarks_iff.mp accepts

end Passage

theorem accepted_with_evidence (accepted : (a.assess reader q).result = .ok plan) :
    ∃ name, DomainName.check a.config q.command.name = .ok name ∧ plan.label = name.label
      ∧ (q.superuser = false →
        (name.zone.stateAt q.now = .landrush ∨ name.zone.stateAt q.now = .generalAvailability)
            ∧ (∀ launch, q.command.launch = some launch → launch.signedMarks = [])
            ∧ plan.smdId = none
          ∨ (name.zone.stateAt q.now = .sunrise ∨ name.zone.stateAt q.now = .sunrush)
            ∧ CarriesVerifiedMark a.verifier q plan)
      ∧ (∀ launch, q.command.launch = some launch →
        launch.codeMarks = []
          ∧ (q.superuser = false → launch.phase ∈ (name.zone.stateAt q.now).acceptedPhases)
          ∧ (launch.signedMarks ≠ [] → CarriesVerifiedMark a.verifier q plan)) := by
  obtain ⟨p, rfl⟩ := accepted_iff.mp accepted
  refine ⟨p.name, p.named, rfl, ?_, ?_⟩
  · intro ordinary
    have opened : checkZoneState q p.name.zone = .ok () :=
      p.opened.resolve_left (by simp [ordinary])
    rcases p.marked_or_unmarked with ⟨bare, unnoted⟩ | carries
    · rcases checkZoneState_eq_ok_iff.mp opened with late | ⟨_, marked⟩
      · exact Or.inl ⟨late, bare, unnoted⟩
      · obtain ⟨launch, given, some⟩ := CreateCommand.isSunrise_eq_true_iff.mp marked
        exact absurd (bare launch given) some
    · exact Or.inr ⟨p.marks_in_trademark_phase ordinary carries.isSunrise, carries⟩
  · intro launch given
    obtain ⟨uncoded, phased⟩ := p.launch_form given
    refine ⟨uncoded, phased, fun some => ?_⟩
    exact p.marked_or_unmarked.resolve_left fun bare => some (bare.1 launch given)

def sunriseZone : ZonePolicy where
  name := "sun"
  stateTransitions := .ofList [(.epoch, .sunrise)]
  reservedLists := ["first", "second"]

def sunriseConfig : Config := { zones := .ofList [("sun", sunriseZone)] }

def sunriseRegistry (reservations : ReservationPolicy) : Admission :=
  ⟨sunriseConfig, { reservations }, markVerifier⟩

def oneContact : Reader :=
  (({} : Tables).insertContact { repoId := "C-1", contactId := "c", sponsor := "r" }).reader

def markedRequest : CreateRequest where
  command := {
    name := "a.sun"
    registrant := some "c"
    contacts := [⟨some .admin, "c"⟩, ⟨some .tech, "c"⟩]
    launch := some { phase := .sunrise, signedMarks := [.encoded "base64" writtenMark] } }
  registrar := { clientId := "r", allowedZones := .ofList ["sun"] }
  superuser := false
  now := .epoch

def markedName : DomainName := ⟨"a.sun", "a", "a", sunriseZone, none⟩

theorem markedName_checked : DomainName.check sunriseConfig "a.sun" = .ok markedName :=
  eq_ok_of_toOption (by decide +kernel)

/-- Whatever the lists hold, nothing but the reservations can stand in the way of the request. -/
theorem markedRequest_passage (reservations : ReservationPolicy)
    (free : checkReservation markedRequest "a" (reservations.typeOf "a" sunriseZone)
      (reservations.unlocks "a" sunriseZone "") = .ok ()) :
    ∃ p : Passage (sunriseRegistry reservations) oneContact markedRequest,
      p.plan.label = "a" := by
  obtain ⟨m, verified, _, covers⟩ := writtenMark_verifies
  have priced : (checkPeriod {} {} markedRequest markedName).toOption
      = some (1, ⟨⟨"USD", 1300⟩, false⟩) := by decide +kernel
  have served : (checkNameservers {} oneContact markedRequest sunriseZone).toOption
      = some () := by decide +kernel
  refine ⟨{
    name := markedName
    years := 1
    cost := ⟨⟨"USD", 1300⟩, false⟩
    nameservers := .empty
    evidence := ⟨none, some m⟩
    free := rfl
    named := markedName_checked
    authorized := Or.inr (eq_ok_of_toOption (by decide +kernel))
    opened := Or.inr (eq_ok_of_toOption (by decide +kernel))
    priced := eq_ok_of_toOption priced
    linked := eq_ok_of_toOption (by decide +kernel)
    contacted := eq_ok_of_toOption (by decide +kernel)
    served := eq_ok_of_toOption served
    evidenced := ?_
    delegated := rfl
    gated := Or.inr ?_
    paid := rfl }, rfl⟩
  · refine Launch.check_some_eq_ok_iff.mpr ⟨rfl, by simp, some m, ?_, rfl⟩
    exact Launch.checkMarks_eq_ok_iff.mpr (Or.inr ⟨"base64", writtenMark, m, rfl, by decide +kernel,
      Verifier.verifyForLabel_eq_ok_iff.mpr ⟨verified, covers⟩, rfl⟩)
  · exact bind_eq_ok.mpr ⟨(), free, rfl⟩

theorem markedRequest_accepted_with_evidence :
    ∃ plan, ((sunriseRegistry {}).assess oneContact markedRequest).result = .ok plan
      ∧ CarriesVerifiedMark markVerifier markedRequest plan := by
  have free : (checkReservation markedRequest "a" .unreserved false).toOption = some () := by decide
  obtain ⟨p, _⟩ := markedRequest_passage {} (eq_ok_of_toOption free)
  have accepted := accepted_iff.mpr ⟨p, rfl⟩
  obtain ⟨_, _, _, _, launched⟩ := accepted_with_evidence accepted
  obtain ⟨_, _, marked⟩ := launched _ rfl
  exact ⟨p.plan, accepted, marked (List.cons_ne_nil _ _)⟩

end Admission

end DomainRegistry
