import DomainRegistry.Record.Command
import DomainRegistry.Rejection
import DomainRegistry.Trademark.ClaimsNoticeId
import DomainRegistry.Trademark.Verifier
import DomainRegistry.Zone.Phase

/-!
The evidence that a command carries for a launch phase: a signed mark or the acknowledgement of a
claim. Superusers are not held to the phases and times, but to everything else.
-/

namespace DomainRegistry.Launch

structure Context where
  label : String
  state : ZoneState
  superuser : Bool
  now : Instant
  /-- How long ago a claim may have been acknowledged. -/
  acceptanceHours : Nat
  verifier : Verifier

structure Evidence where
  notice : Option ClaimsNotice := none
  mark : Option SignedMark := none
  deriving DecidableEq

/-- The only organization whose notices count. -/
def validator : String := "tmch"

def markEncoding : String := "base64"

def checkNoticeTimes (c : Context) (n : ClaimsNotice) : Except Rejection Unit :=
  if n.expirationTime < c.now then .error .expiredClaim
  else
    match c.now.subHours? c.acceptanceHours with
    | none => .ok ()
    | some earliest =>
      if n.acceptedTime < earliest then .error (.acceptedTooLongAgo c.acceptanceHours) else .ok ()

def checkNoticeId (c : Context) (n : ClaimsNotice) : Except Rejection Unit :=
  match ClaimsNoticeId.validate n.tcnId c.label n.expirationTime with
  | .ok () => .ok ()
  | .error (.malformed _) => .error .malformedClaimsNoticeId
  | .error (.checksum _) => .error .claimsNoticeIdChecksum

def checkNotice (c : Context) (n : ClaimsNotice) : Except Rejection Unit := do
  if n.validatorId ≠ validator then .error .invalidClaimsNoticeValidator
  if !c.superuser then checkNoticeTimes c n
  checkNoticeId c n

def markRejection (e : TrademarkError) : Rejection :=
  if e.isEncoding then .signedMarkEncoding e.message else .signedMarkInvalid e.message

def checkMark (c : Context) (encoding data : String) : Except Rejection SignedMark :=
  if !Text.sameIgnoringCase encoding markEncoding then
    .error (.signedMarkEncoding ("unsupported encoding '" ++ encoding ++ "'"))
  else
    match c.verifier.verify data c.now with
    | .error e => .error (markRejection e)
    | .ok mark => if mark.data.covers c.label then .ok mark else .error .noMarksFoundMatchingDomain

/-- At most one mark may be given. -/
def checkMarks (c : Context) : List MarkEvidence → Except Rejection (Option SignedMark)
  | [] => .ok none
  | [.unencoded _] => .error .unsupportedMarkType
  | [.encoded encoding data] => (checkMark c encoding data).map some
  | _ => .error .tooManySignedMarks

def checkForm (c : Context) (l : Launch) : Except Rejection Unit :=
  if !c.superuser && !c.state.acceptedPhases.contains l.phase then .error .launchPhaseMismatch
  else if !l.codeMarks.isEmpty || l.signedMarks.any MarkEvidence.isUnencoded then
    .error .unsupportedMarkType
  else if !l.signedMarks.isEmpty && !c.superuser && !c.state.acceptsSignedMarks then
    .error .signedMarksNotAcceptedInCurrentPhase
  else .ok ()

def check (c : Context) : Option Launch → Except Rejection Evidence
  | none => .ok {}
  | some l => do
    checkForm c l
    match l.notice with
    | some n => checkNotice c n
    | none => pure ()
    let mark ← checkMarks c l.signedMarks
    return ⟨l.notice, mark⟩

end DomainRegistry.Launch
