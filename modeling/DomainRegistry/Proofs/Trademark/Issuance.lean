import DomainRegistry.Proofs.Answers
import DomainRegistry.Proofs.Trademark.Records
import DomainRegistry.Proofs.Trademark.Revocations
import DomainRegistry.Trademark.Issuance
import DomainRegistry.Trademark.Verifier

/-!
Issued marks before the verifier of their root. Main statement: the last rows for the certificate
and for the mark decide, together with the times of both, and the first of these checks that fails
is named; any row in effect would decide the same, unless a last row puts a revocation off.
-/

namespace DomainRegistry

/-- That a seed has a key under which what it signed verifies, for one message. -/
structure SignatureScheme.Signs (scheme : SignatureScheme) (seed message : Bytes) : Prop where
  key_length : (scheme.publicKey seed).length = SignatureScheme.keySize
  key_valid : scheme.isKey (scheme.publicKey seed) = true
  signature_length : (scheme.sign seed message).length = SignatureScheme.signatureSize
  verifies : scheme.verifies (scheme.publicKey seed) message (scheme.sign seed message) = true

instance (scheme : SignatureScheme) (seed message : Bytes) :
    Decidable (scheme.Signs seed message) :=
  decidable_of_iff
    ((scheme.publicKey seed).length = SignatureScheme.keySize
      ∧ scheme.isKey (scheme.publicKey seed) = true
      ∧ (scheme.sign seed message).length = SignatureScheme.signatureSize
      ∧ scheme.verifies (scheme.publicKey seed) message (scheme.sign seed message) = true)
    ⟨fun ⟨length, valid, sized, verifies⟩ => ⟨length, valid, sized, verifies⟩,
      fun signs => ⟨signs.key_length, signs.key_valid, signs.signature_length, signs.verifies⟩⟩

section Judged

def CertificateInTime (c : CertificateData) (now : Instant) : Prop :=
  c.notBefore ≤ now ∧ now ≤ c.notAfter

def MarkInTime (m : MarkData) (now : Instant) : Prop := m.notBefore ≤ now ∧ now ≤ m.notAfter

variable (c : CertificateData) (m : MarkData) (now : Instant)
  (revokes : RevokedCertificate → Prop) (revokedAt : Instant → Prop)

/-- The first check that fails, given the rows that revoke the certificate and the times at which
the mark is revoked. -/
inductive FirstFault : TrademarkError → Prop
  | certificateEarly (early : now < c.notBefore) :
      FirstFault (.certificateNotYetValid c.subject c.notBefore)
  | certificateLate (begun : c.notBefore ≤ now) (late : c.notAfter < now) :
      FirstFault (.certificateExpired c.subject c.notAfter)
  | certificateRevoked {r : RevokedCertificate} (inTime : CertificateInTime c now)
      (revoked : revokes r) : FirstFault (.certificateRevoked c.subject r)
  | markRevoked {t : Instant} (inTime : CertificateInTime c now) (stands : ¬∃ r, revokes r)
      (revoked : revokedAt t) : FirstFault (.markRevoked m.id t)
  | markEarly (inTime : CertificateInTime c now) (stands : ¬∃ r, revokes r)
      (kept : ¬∃ t, revokedAt t) (early : now < m.notBefore) :
      FirstFault (.markNotYetValid m.id m.notBefore)
  | markLate (inTime : CertificateInTime c now) (stands : ¬∃ r, revokes r)
      (kept : ¬∃ t, revokedAt t) (begun : m.notBefore ≤ now) (late : m.notAfter < now) :
      FirstFault (.markExpired m.id m.notAfter)

structure Judged (answer : Except TrademarkError Unit) : Prop where
  accepted_iff : answer = .ok () ↔ CertificateInTime c now ∧ (¬∃ r, revokes r)
    ∧ (¬∃ t, revokedAt t) ∧ MarkInTime m now
  refused : ∀ e, answer = .error e → FirstFault c m now revokes revokedAt e

variable {c m now revokes revokedAt} {answer : Except TrademarkError Unit}
  {revokes' : RevokedCertificate → Prop} {revokedAt' : Instant → Prop}

namespace Judged

theorem revoked_answer (judged : Judged c m now revokes revokedAt answer)
    (inTime : CertificateInTime c now) (listed : ∃ r, revokes r) :
    ∃ r, revokes r ∧ answer = .error (.certificateRevoked c.subject r) := by
  cases answer with
  | ok _ => exact absurd listed (judged.accepted_iff.mp rfl).2.1
  | error e =>
    cases judged.refused e rfl with
    | certificateEarly early => exact absurd inTime.1 (Instant.not_le.mpr early)
    | certificateLate _ late => exact absurd inTime.2 (Instant.not_le.mpr late)
    | certificateRevoked _ revoked => exact ⟨_, revoked, rfl⟩
    | markRevoked _ stands => exact absurd listed stands
    | markEarly _ stands => exact absurd listed stands
    | markLate _ stands => exact absurd listed stands

theorem markRevoked_answer (judged : Judged c m now revokes revokedAt answer)
    (inTime : CertificateInTime c now) (stands : ¬∃ r, revokes r) (listed : ∃ t, revokedAt t) :
    ∃ t, revokedAt t ∧ answer = .error (.markRevoked m.id t) := by
  cases answer with
  | ok _ => exact absurd listed (judged.accepted_iff.mp rfl).2.2.1
  | error e =>
    cases judged.refused e rfl with
    | certificateEarly early => exact absurd inTime.1 (Instant.not_le.mpr early)
    | certificateLate _ late => exact absurd inTime.2 (Instant.not_le.mpr late)
    | certificateRevoked _ revoked => exact absurd ⟨_, revoked⟩ stands
    | markRevoked _ _ revoked => exact ⟨_, revoked, rfl⟩
    | markEarly _ _ kept => exact absurd listed kept
    | markLate _ _ kept => exact absurd listed kept

theorem revokes_of_answer {r : RevokedCertificate}
    (judged : Judged c m now revokes revokedAt (.error (.certificateRevoked c.subject r))) :
    revokes r := by
  cases judged.refused _ rfl with
  | certificateRevoked _ revoked => exact revoked

theorem revokedAt_of_answer {t : Instant}
    (judged : Judged c m now revokes revokedAt (.error (.markRevoked m.id t))) : revokedAt t := by
  cases judged.refused _ rfl with
  | markRevoked _ _ revoked => exact revoked

/-- With more rows to go by, an answer stays right exactly if the added ones revoke nothing anew. -/
theorem by_more_iff (judged : Judged c m now revokes revokedAt answer)
    (more : ∀ r, revokes r → revokes' r) (moreTimes : ∀ t, revokedAt t → revokedAt' t) :
    Judged c m now revokes' revokedAt' answer ↔
      (CertificateInTime c now → ((∃ r, revokes' r) → ∃ r, revokes r)
        ∧ ((¬∃ r, revokes' r) → (∃ t, revokedAt' t) → ∃ t, revokedAt t)) := by
  constructor
  · intro right inTime
    constructor
    · intro listed
      obtain ⟨r, _, rfl⟩ := right.revoked_answer inTime listed
      exact ⟨r, judged.revokes_of_answer⟩
    · intro stands listed
      obtain ⟨t, _, rfl⟩ := right.markRevoked_answer inTime stands listed
      exact ⟨t, judged.revokedAt_of_answer⟩
  · intro same
    have stands' (inTime : CertificateInTime c now) (stands : ¬∃ r, revokes r) :
        ¬∃ r, revokes' r := fun listed => stands ((same inTime).1 listed)
    have kept' (inTime : CertificateInTime c now) (stands : ¬∃ r, revokes r)
        (kept : ¬∃ t, revokedAt t) : ¬∃ t, revokedAt' t := fun listed =>
      kept ((same inTime).2 (stands' inTime stands) listed)
    constructor
    · rw [judged.accepted_iff]
      constructor
      · rintro ⟨inTime, stands, kept, markInTime⟩
        exact ⟨inTime, stands' inTime stands, kept' inTime stands kept, markInTime⟩
      · rintro ⟨inTime, stands, kept, markInTime⟩
        exact ⟨inTime, mt (Exists.imp more) stands, mt (Exists.imp moreTimes) kept, markInTime⟩
    · intro e failed
      cases judged.refused e failed with
      | certificateEarly early => exact .certificateEarly early
      | certificateLate begun late => exact .certificateLate begun late
      | certificateRevoked inTime revoked => exact .certificateRevoked inTime (more _ revoked)
      | markRevoked inTime stands revoked =>
        exact .markRevoked inTime (stands' inTime stands) (moreTimes _ revoked)
      | markEarly inTime stands kept early =>
        exact .markEarly inTime (stands' inTime stands) (kept' inTime stands kept) early
      | markLate inTime stands kept begun late =>
        exact .markLate inTime (stands' inTime stands) (kept' inTime stands kept) begun late

end Judged

end Judged

section Rows

variable (c : CertificateData) (m : MarkData) (d : RevocationData) (rows : List (String × Instant))
  (now : Instant)

open CertificateRevocations

/-- The answer if any row revokes that has taken effect. -/
def JudgedByAny (answer : Except TrademarkError Unit) : Prop :=
  Judged c m now (Revokes d c.serial now) (fun t => (m.id, t) ∈ rows ∧ t ≤ now) answer

/-- The answer if only the last row for a certificate or mark counts. -/
def JudgedByLast (answer : Except TrademarkError Unit) : Prop :=
  Judged c m now (LastRevokes d c.serial now) (fun t => LastRow rows m.id t ∧ t ≤ now) answer

variable {c m d rows now}

theorem JudgedByLast.by_any_iff {answer : Except TrademarkError Unit}
    (judged : JudgedByLast c m d rows now answer) :
    JudgedByAny c m d rows now answer ↔
      (CertificateInTime c now →
        ¬PutOff (CertificateRevocations.rows d) c.serial now
          ∧ (¬Revoked (CertificateRevocations.rows d) c.serial now → ¬PutOff rows m.id now)) := by
  rw [JudgedByAny, Judged.by_more_iff judged (fun r last => last.revokes)
    (fun t last => ⟨last.1.mem, last.2⟩), not_putOff_iff, not_putOff_iff, exists_revokes_iff,
    exists_lastRevokes_iff, ← lastInEffect_iff]
  rfl

end Rows

namespace Verifier

variable {v : Verifier} {c : CertificateData} {m : MarkData} {now : Instant}

theorem checkCertificateTimes_eq_ok_iff :
    checkCertificateTimes c now = .ok () ↔ CertificateInTime c now := by
  rw [checkCertificateTimes, ite_error_eq_ok, ite_error_eq_ok, CertificateInTime, Instant.not_lt,
    Instant.not_lt, and_iff_left rfl]

theorem checkMarkTimes_eq_ok_iff : checkMarkTimes m now = .ok () ↔ MarkInTime m now := by
  rw [checkMarkTimes, ite_error_eq_ok, ite_error_eq_ok, MarkInTime, Instant.not_lt, Instant.not_lt,
    and_iff_left rfl]

theorem checkCertificateRevocation_eq_ok_iff :
    v.checkCertificateRevocation c now = .ok ()
      ↔ ¬∃ r, v.certificates.inEffect? c.serial now = some r := by
  rw [checkCertificateRevocation]
  cases v.certificates.inEffect? c.serial now with
  | none => simp
  | some r => simp

theorem checkMarkRevocation_eq_ok_iff :
    v.checkMarkRevocation m now = .ok () ↔ ¬∃ t, v.marks.inEffect? m.id now = some t := by
  rw [checkMarkRevocation]
  cases v.marks.inEffect? m.id now with
  | none => simp
  | some t => simp

section Faults

variable {revokes : RevokedCertificate → Prop} {revokedAt : Instant → Prop} {e : TrademarkError}

theorem checkCertificateTimes_eq_error (refused : checkCertificateTimes c now = .error e) :
    FirstFault c m now revokes revokedAt e := by
  unfold checkCertificateTimes at refused
  split at refused
  · next early => cases refused; exact .certificateEarly early
  · next begun =>
    split at refused
    · next late => cases refused; exact .certificateLate (Instant.not_lt.mp begun) late
    · cases refused

theorem checkMarkTimes_eq_error (inTime : CertificateInTime c now) (stands : ¬∃ r, revokes r)
    (kept : ¬∃ t, revokedAt t) (refused : checkMarkTimes m now = .error e) :
    FirstFault c m now revokes revokedAt e := by
  unfold checkMarkTimes at refused
  split at refused
  · next early => cases refused; exact .markEarly inTime stands kept early
  · next begun =>
    split at refused
    · next late => cases refused; exact .markLate inTime stands kept (Instant.not_lt.mp begun) late
    · cases refused

theorem checkCertificateRevocation_eq_error (inTime : CertificateInTime c now)
    (refused : v.checkCertificateRevocation c now = .error e) :
    FirstFault c m now (fun r => v.certificates.inEffect? c.serial now = some r) revokedAt e := by
  unfold checkCertificateRevocation at refused
  split at refused
  · next r found => cases refused; exact .certificateRevoked inTime found
  · cases refused

theorem checkMarkRevocation_eq_error (inTime : CertificateInTime c now) (stands : ¬∃ r, revokes r)
    (refused : v.checkMarkRevocation m now = .error e) :
    FirstFault c m now revokes (fun t => v.marks.inEffect? m.id now = some t) e := by
  unfold checkMarkRevocation at refused
  split at refused
  · next t found => cases refused; exact .markRevoked inTime stands found
  · cases refused

end Faults

def judge (v : Verifier) (c : CertificateData) (m : MarkData) (now : Instant) :
    Except TrademarkError Unit := do
  checkCertificateTimes c now
  v.checkCertificateRevocation c now
  v.checkMarkRevocation m now
  checkMarkTimes m now

theorem bind_of_ok {α : Type} {x : Except TrademarkError Unit} {y : Except TrademarkError α}
    (passed : x = .ok ()) : (do x; y) = y := by
  rw [passed]
  rfl

theorem judged_judge (v : Verifier) (c : CertificateData) (m : MarkData) (now : Instant) :
    Judged c m now (fun r => v.certificates.inEffect? c.serial now = some r)
      (fun t => v.marks.inEffect? m.id now = some t) (v.judge c m now) := by
  constructor
  · rw [judge, guard_eq_ok, guard_eq_ok, guard_eq_ok, checkCertificateTimes_eq_ok_iff,
      checkCertificateRevocation_eq_ok_iff, checkMarkRevocation_eq_ok_iff, checkMarkTimes_eq_ok_iff]
  · -- The check that names the fault is reached only if those before it have passed.
    intro e refused
    rw [judge, guard_eq_error, guard_eq_error, guard_eq_error, checkCertificateTimes_eq_ok_iff,
      checkCertificateRevocation_eq_ok_iff, checkMarkRevocation_eq_ok_iff] at refused
    rcases refused with times | ⟨inTime, revoked | ⟨stands, revoked | ⟨kept, times⟩⟩⟩
    · exact checkCertificateTimes_eq_error times
    · exact checkCertificateRevocation_eq_error inTime revoked
    · exact checkMarkRevocation_eq_error inTime stands revoked
    · exact checkMarkTimes_eq_error inTime stands kept times

theorem agentKey_of_checked {c : Certificate}
    (checked : v.checkSignature v.root (SignedBytes.certificate c.data) c.signature "certificate"
      = .ok ())
    (sized : c.data.publicKey.length = SignatureScheme.keySize)
    (valid : v.scheme.isKey c.data.publicKey = true) : v.agentKey c = .ok c.data.publicKey := by
  rw [agentKey, bind_of_ok checked]
  rw [if_neg (not_not.mpr sized), if_pos valid]

theorem verifyMark_of_signed {m : SignedMark} {key : Bytes}
    (agent : v.agentKey m.certificate = .ok key)
    (holds : v.checkSignature key (SignedBytes.mark m.data) m.signature "signed mark" = .ok ()) :
    v.verifyMark m now = v.judge m.certificate.data m.data now := by
  rw [verifyMark, agent]
  exact bind_of_ok holds

end Verifier

namespace Issuance

open Verifier

variable {scheme : SignatureScheme} {rootSeed agentSeed : Bytes} {c : CertificateData}
  {m : MarkData} {d : RevocationData} {v : Verifier}

theorem verify_revocations (signs : scheme.Signs rootSeed (SignedBytes.revocations d)) :
    (revocations scheme rootSeed d).verify scheme (scheme.publicKey rootSeed)
      = .ok (.ofData d) := by
  have sized : ¬(revocations scheme rootSeed d).signature.length ≠ SignatureScheme.signatureSize :=
    not_not.mpr signs.signature_length
  rw [SignedRevocations.verify, if_neg sized]
  exact if_pos signs.verifies

theorem parse_render (s : SignedRevocations) : SignedRevocations.parse s.render = .ok s := by
  rw [SignedRevocations.parse, SignedRevocations.render,
    Json.parse?_renderIndented (SignedRevocations.hasForm.writable s), Option.bind_some,
    SignedRevocations.hasForm.back]

theorem checkSignature_sign {seed message : Bytes} {what : String} (same : v.scheme = scheme)
    (signs : scheme.Signs seed message) :
    v.checkSignature (scheme.publicKey seed) message (scheme.sign seed message) what = .ok () := by
  have sized : ¬(scheme.sign seed message).length ≠ SignatureScheme.signatureSize :=
    not_not.mpr signs.signature_length
  rw [checkSignature, if_neg sized, same, if_pos signs.verifies]

theorem verifyMark_eq_judge (same : v.scheme = scheme) (trusts : v.root = scheme.publicKey rootSeed)
    (carries : c.publicKey = scheme.publicKey agentSeed)
    (certified : scheme.Signs rootSeed (SignedBytes.certificate c))
    (signed : scheme.Signs agentSeed (SignedBytes.mark m)) (now : Instant) :
    v.verifyMark (mark scheme agentSeed (certificate scheme rootSeed c) m) now
      = v.judge c m now := by
  have checked : v.checkSignature v.root (SignedBytes.certificate c)
      (scheme.sign rootSeed (SignedBytes.certificate c)) "certificate" = .ok () := by
    rw [trusts]
    exact checkSignature_sign same certified
  have sized : c.publicKey.length = SignatureScheme.keySize := by rw [carries, signed.key_length]
  have valid : v.scheme.isKey c.publicKey = true := by rw [same, carries, signed.key_valid]
  have holds : v.checkSignature c.publicKey (SignedBytes.mark m)
      (scheme.sign agentSeed (SignedBytes.mark m)) "signed mark" = .ok () := by
    rw [carries]
    exact checkSignature_sign same signed
  have agent : v.agentKey (certificate scheme rootSeed c) = .ok c.publicKey :=
    agentKey_of_checked checked sized valid
  exact verifyMark_of_signed (m := mark scheme agentSeed (certificate scheme rootSeed c) m) agent
    holds

/-- The verifier of the root, with both lists, goes by the last rows for a certificate or mark. -/
theorem judgedByLast (scheme : SignatureScheme) (mode : TrustMode) (rootSeed agentSeed : Bytes)
    (c : CertificateData) (m : MarkData) (d : RevocationData)
    (carries : c.publicKey = scheme.publicKey agentSeed)
    (certified : scheme.Signs rootSeed (SignedBytes.certificate c))
    (listed : scheme.Signs rootSeed (SignedBytes.revocations d))
    (signed : scheme.Signs agentSeed (SignedBytes.mark m)) :
    ∃ plain installed : Verifier,
      ofRoot scheme mode (scheme.publicKey rootSeed) = .ok plain
        ∧ plain.withRevocations (revocations scheme rootSeed d) = .ok installed
        ∧ (SignedRevocations.parse (revocations scheme rootSeed d).render).bind
            plain.withRevocations = .ok installed
        ∧ ∀ marks rows, MarkRevocations.HasRows marks rows → ∀ now, JudgedByLast c m d rows now
          ((installed.withMarkRevocations marks).verifyMark
            (mark scheme agentSeed (certificate scheme rootSeed c) m) now) := by
  refine ⟨{ scheme, mode, root := scheme.publicKey rootSeed },
    { scheme, mode, root := scheme.publicKey rootSeed, certificates := .ofData d }, ?_, ?_, ?_, ?_⟩
  · rw [ofRoot, if_pos certified.key_valid]
  · rw [withRevocations, verify_revocations listed]
    rfl
  · rw [parse_render, Except.bind, withRevocations, verify_revocations listed]
    rfl
  · intro marks rows has now
    let v : Verifier :=
      { scheme, mode, root := scheme.publicKey rootSeed, certificates := .ofData d, marks }
    have judged := judged_judge v c m now
    have answered : v.verifyMark _ now = _ :=
      verifyMark_eq_judge rfl rfl carries certified signed now
    rw [← answered] at judged
    simp only [v, CertificateRevocations.inEffect?_eq_some_iff,
      MarkRevocations.inEffect?_eq_some_iff has] at judged
    exact judged

/-- Issued marks count exactly while their times hold and no last row for them is in effect; that
is as long as no row in effect is, unless a last row puts a revocation off. -/
theorem issued_marks_judged (scheme : SignatureScheme) (mode : TrustMode)
    (rootSeed agentSeed : Bytes) (c : CertificateData) (m : MarkData) (d : RevocationData)
    (carries : c.publicKey = scheme.publicKey agentSeed)
    (certified : scheme.Signs rootSeed (SignedBytes.certificate c))
    (listed : scheme.Signs rootSeed (SignedBytes.revocations d))
    (signed : scheme.Signs agentSeed (SignedBytes.mark m)) :
    ∃ plain installed : Verifier,
      ofRoot scheme mode (scheme.publicKey rootSeed) = .ok plain
        ∧ plain.withRevocations (revocations scheme rootSeed d) = .ok installed
        ∧ (SignedRevocations.parse (revocations scheme rootSeed d).render).bind
            plain.withRevocations = .ok installed
        ∧ ∀ marks rows, MarkRevocations.HasRows marks rows → ∀ now answer,
          (installed.withMarkRevocations marks).verifyMark
              (mark scheme agentSeed (certificate scheme rootSeed c) m) now = answer →
            JudgedByLast c m d rows now answer
              ∧ (JudgedByAny c m d rows now answer ↔
                (CertificateInTime c now → ¬PutOff (CertificateRevocations.rows d) c.serial now
                  ∧ (¬Revoked (CertificateRevocations.rows d) c.serial now →
                    ¬PutOff rows m.id now))) := by
  obtain ⟨plain, installed, started, taken, read, judged⟩ :=
    judgedByLast scheme mode rootSeed agentSeed c m d carries certified listed signed
  refine ⟨plain, installed, started, taken, read, ?_⟩
  rintro marks rows has now _ rfl
  exact ⟨judged marks rows has now, (judged marks rows has now).by_any_iff⟩

namespace Samples

def oneSecond : Instant := ⟨1, 0, by decide, by decide⟩

def twoSeconds : Instant := ⟨2, 0, by decide, by decide⟩

/-- A certificate of the agent with seed bytes 3, in its times for two seconds. -/
def brief : CertificateData where
  serial := 42
  subject := ""
  publicKey := [237, 73, 40, 198, 40, 209, 194, 198, 234, 233, 3, 56, 144, 89, 149, 97, 41, 89, 39,
    58, 92, 99, 249, 54, 54, 193, 70, 20, 172, 135, 55, 209]
  notBefore := .epoch
  notAfter := twoSeconds

def briefMark : MarkData := ⟨"m", "", "", [], .epoch, twoSeconds⟩

def twiceRevoked : RevocationData :=
  ⟨.epoch, [⟨42, oneSecond, .keyCompromise⟩, ⟨42, twoSeconds, .keyCompromise⟩]⟩

def root : Bytes := List.replicate 32 1

def agent : Bytes := List.replicate 32 3

theorem samples_sign :
    brief.publicKey = Ed25519.scheme.publicKey agent
      ∧ Ed25519.scheme.Signs root (SignedBytes.certificate brief)
      ∧ Ed25519.scheme.Signs root (SignedBytes.revocations twiceRevoked)
      ∧ Ed25519.scheme.Signs agent (SignedBytes.mark briefMark) := by
  decide +kernel

end Samples

open Samples in
/-- The mark counts at the start, and no more once the last row for its certificate has effect. -/
theorem brief_mark_judged :
    ∃ plain installed,
      ofRoot Ed25519.scheme .production (Ed25519.scheme.publicKey root) = .ok plain
      ∧ plain.withRevocations (revocations Ed25519.scheme root twiceRevoked) = .ok installed
      ∧ (installed.withMarkRevocations (.ofEntries [("other", .epoch)])).verifyMark
          (mark Ed25519.scheme agent (certificate Ed25519.scheme root brief) briefMark)
            .epoch = .ok ()
      ∧ (installed.withMarkRevocations (.ofEntries [("other", .epoch)])).verifyMark
          (mark Ed25519.scheme agent (certificate Ed25519.scheme root brief) briefMark)
            twoSeconds = .error (.certificateRevoked "" ⟨42, twoSeconds, .keyCompromise⟩) := by
  obtain ⟨carries, certified, signsList, signed⟩ := samples_sign
  obtain ⟨plain, installed, started, listed, _, judged⟩ := issued_marks_judged Ed25519.scheme
    .production root agent brief briefMark twiceRevoked carries certified signsList signed
  refine ⟨plain, installed, started, listed, ?_, ?_⟩
  · obtain ⟨byLast, _⟩ := judged _ _ (.entries [("other", .epoch)]) .epoch _ rfl
    refine byLast.accepted_iff.mpr ⟨⟨by decide, by decide⟩, ?_, ?_, ⟨by decide, by decide⟩⟩
    · rintro ⟨r, last⟩
      have none : (CertificateRevocations.ofData twiceRevoked).inEffect? 42 .epoch = none := by
        decide
      cases none.symm.trans (CertificateRevocations.inEffect?_eq_some_iff.mpr last)
    · rintro ⟨t, last, _⟩
      exact absurd last.mem (by simp [briefMark])
  · obtain ⟨byLast, _⟩ := judged _ _ (.entries [("other", .epoch)]) twoSeconds _ rfl
    have last : CertificateRevocations.LastRevokes twiceRevoked 42 twoSeconds
        ⟨42, twoSeconds, .keyCompromise⟩ :=
      ⟨⟨[(42, ⟨42, oneSecond, .keyCompromise⟩)], [], rfl, by simp⟩, by decide⟩
    obtain ⟨r, found, answered⟩ := byLast.revoked_answer ⟨by decide, by decide⟩ ⟨_, last⟩
    have same := (CertificateRevocations.inEffect?_eq_some_iff.mpr last).symm.trans
      (CertificateRevocations.inEffect?_eq_some_iff.mpr found)
    cases same
    exact answered

open Samples in
/-- At one second the first row has revoked the certificate, but the second puts that off. -/
theorem second_row_lets_count :
    ¬∀ (scheme : SignatureScheme) (mode : TrustMode) (rootSeed agentSeed : Bytes)
      (c : CertificateData) (m : MarkData) (d : RevocationData),
      c.publicKey = scheme.publicKey agentSeed →
      scheme.Signs rootSeed (SignedBytes.certificate c) →
      scheme.Signs rootSeed (SignedBytes.revocations d) →
      scheme.Signs agentSeed (SignedBytes.mark m) →
      ∀ plain installed, ofRoot scheme mode (scheme.publicKey rootSeed) = .ok plain →
        plain.withRevocations (revocations scheme rootSeed d) = .ok installed →
        ∀ marks rows, MarkRevocations.HasRows marks rows → ∀ now,
          JudgedByAny c m d rows now ((installed.withMarkRevocations marks).verifyMark
            (mark scheme agentSeed (certificate scheme rootSeed c) m) now) := by
  intro right
  obtain ⟨carries, certified, signsList, signed⟩ := samples_sign
  obtain ⟨plain, installed, started, listed, _, judged⟩ := judgedByLast Ed25519.scheme
    .production root agent brief briefMark twiceRevoked carries certified signsList signed
  have byAny := right _ _ _ _ _ _ _ carries certified signsList signed _ _ started listed _ _
    (.entries []) oneSecond
  have clear := (judged _ _ (.entries []) oneSecond).by_any_iff.mp byAny ⟨by decide, by decide⟩
  exact clear.1 ⟨[(42, oneSecond)], twoSeconds, [], rfl, by simp, by decide, oneSecond,
    List.mem_singleton.mpr rfl, by decide⟩

end Issuance

end DomainRegistry
