import DomainRegistry.Proofs.Admission.Claims
import DomainRegistry.Proofs.Flows.Privilege
import DomainRegistry.Proofs.Trademark.ClaimsNoticeIds

/-!
The notices of accepted requests. Main statement: a notice is genuine and has not run out, it was
not acknowledged before the window that ends now, and it was acknowledged inside that window exactly
if the time it gives for this has come.
-/

namespace DomainRegistry

namespace Launch

variable {c : Context} {n : ClaimsNotice}

structure Genuine (label : String) (n : ClaimsNotice) : Prop where
  validator : n.validatorId = "tmch"
  bound : ∃ checksum digits, ClaimsNoticeId.HasParts n.tcnId checksum digits
    ∧ Text.sameIgnoringCase (String.ofList checksum)
      (ClaimsNoticeId.checksumOf label n.expirationTime digits) = true

structure Fresh (now : Instant) (hours : Nat) (n : ClaimsNotice) : Prop where
  holds : now ≤ n.expirationTime
  past : n.acceptedTime ≤ now
  recent : ∀ earliest, now.subHours? hours = some earliest → earliest ≤ n.acceptedTime

theorem checkNoticeTimes_eq_ok_iff :
    checkNoticeTimes c n = .ok ()
      ↔ c.now ≤ n.expirationTime
        ∧ ∀ earliest, c.now.subHours? c.acceptanceHours = some earliest →
          earliest ≤ n.acceptedTime := by
  rw [checkNoticeTimes, ite_error_eq_ok, Instant.not_lt]
  refine and_congr_right fun _ => ?_
  cases c.now.subHours? c.acceptanceHours with
  | none => simp
  | some earliest =>
    dsimp only
    rw [ite_error_eq_ok, Instant.not_lt]
    simp

theorem checkNoticeId_eq_ok_iff :
    checkNoticeId c n = .ok ()
      ↔ ClaimsNoticeId.validate n.tcnId c.label n.expirationTime = .ok () := by
  unfold checkNoticeId
  split <;> simp_all

theorem genuine_of_checkNotice (checked : checkNotice c n = .ok ()) : Genuine c.label n := by
  obtain ⟨known, _, identified⟩ := checkNotice_eq_ok_iff.mp checked
  exact ⟨known, ClaimsNoticeId.validate_eq_ok_iff.mp (checkNoticeId_eq_ok_iff.mp identified)⟩

end Launch

namespace Admission

variable {a : Admission} {reader : Reader} {q : CreateRequest} {plan : CreatePlan}

theorem Passage.checkNotice (p : Passage a reader q) {launch : Launch} {n : ClaimsNotice}
    (given : q.command.launch = some launch) (noticed : launch.notice = some n) :
    Launch.checkNotice (a.launchContext q p.name) n = .ok () ∧ p.plan.notice = some n := by
  have evidenced := p.evidenced
  rw [given, Launch.check_some_eq_ok_iff] at evidenced
  obtain ⟨_, checked, mark, _, same⟩ := evidenced
  refine ⟨checked n noticed, ?_⟩
  change p.evidence.notice = some n
  rw [same]
  exact noticed

theorem noticed_fresh_iff {launch : Launch} {n : ClaimsNotice}
    (accepted : (a.assess reader q).result = .ok plan)
    (given : q.command.launch = some launch) (noticed : launch.notice = some n) :
    plan.notice = some n ∧ Launch.Genuine plan.label n
      ∧ (q.superuser = false → q.now ≤ n.expirationTime
        ∧ (∀ earliest, q.now.subHours? a.config.limits.claimsAcceptanceHours = some earliest →
          earliest ≤ n.acceptedTime)
        ∧ (Launch.Fresh q.now a.config.limits.claimsAcceptanceHours n
          ↔ n.acceptedTime ≤ q.now)) := by
  obtain ⟨p, rfl⟩ := accepted_iff.mp accepted
  obtain ⟨checked, planned⟩ := p.checkNotice given noticed
  refine ⟨planned, Launch.genuine_of_checkNotice checked, ?_⟩
  intro ordinary
  obtain ⟨_, timely, _⟩ := Launch.checkNotice_eq_ok_iff.mp checked
  have timed : Launch.checkNoticeTimes (a.launchContext q p.name) n = .ok () := by
    refine timely.resolve_left ?_
    change ¬q.superuser = true
    rw [ordinary]
    exact Bool.false_ne_true
  obtain ⟨holds, recent⟩ := Launch.checkNoticeTimes_eq_ok_iff.mp timed
  refine ⟨holds, recent, ?_⟩
  constructor
  · intro fresh
    exact fresh.past
  · intro past
    exact ⟨holds, past, recent⟩

def claimNotice (acceptedTime : Instant) : ClaimsNotice where
  tcnId := "01a0c7040000000000000000001"
  validatorId := "tmch"
  expirationTime := .epoch
  acceptedTime

def acknowledgedRequest (acceptedTime : Instant) : CreateRequest :=
  { goldRequest "a.tld" none with
    command := { (goldRequest "a.tld" none).command with
      launch := some { phase := .claims, notice := some (claimNotice acceptedTime) } } }

theorem acknowledgedRequest_fresh :
    ∃ plan, (claimsRegistry.assess oneContact (acknowledgedRequest .epoch)).result = .ok plan
      ∧ plan.notice = some (claimNotice .epoch)
      ∧ Launch.Genuine plan.label (claimNotice .epoch)
      ∧ Launch.Fresh .epoch 48 (claimNotice .epoch) := by
  have passes : ((claimsRegistry.assess oneContact
      (acknowledgedRequest .epoch)).result.toOption).isSome = true := by decide +kernel
  obtain ⟨plan, found⟩ := Option.isSome_iff_exists.mp passes
  have accepted := eq_ok_of_toOption found
  obtain ⟨planned, genuine, timely⟩ := noticed_fresh_iff accepted rfl rfl
  exact ⟨plan, accepted, planned, genuine, (timely rfl).2.2.mpr (Instant.le_refl _)⟩

/-- A claim is taken as acknowledged although its holder says that it will only be. -/
theorem early_acknowledgement_accepted :
    ∃ plan, (claimsRegistry.assess oneContact (acknowledgedRequest .latest)).result = .ok plan
      ∧ plan.notice = some (claimNotice .latest)
      ∧ (acknowledgedRequest .latest).superuser = false
      ∧ ¬Launch.Fresh .epoch 48 (claimNotice .latest) := by
  have passes : ((claimsRegistry.assess oneContact
      (acknowledgedRequest .latest)).result.toOption).isSome = true := by decide +kernel
  obtain ⟨plan, found⟩ := Option.isSome_iff_exists.mp passes
  have accepted := eq_ok_of_toOption found
  obtain ⟨p, rfl⟩ := accepted_iff.mp accepted
  refine ⟨p.plan, accepted, (p.checkNotice rfl rfl).2, rfl, ?_⟩
  intro fresh
  exact absurd fresh.past (by decide)

end Admission

end DomainRegistry
