import DomainRegistry.Config
import DomainRegistry.Trademark.Armor
import DomainRegistry.Trademark.Revocation

/-!
Which signed marks count. The trust root signs the certificate of an agent and the agent the mark;
then the times of the certificate, the lists of revoked certificates and marks, and the times of the
mark are looked at, in this order.
-/

namespace DomainRegistry

open Text

structure Verifier where
  scheme : SignatureScheme
  mode : TrustMode
  /-- The key of the trust root. -/
  root : Bytes
  certificates : CertificateRevocations := {}
  marks : MarkRevocations := {}

namespace Verifier

def ofRoot (scheme : SignatureScheme) (mode : TrustMode) (root : Bytes) :
    Except TrademarkError Verifier :=
  if scheme.isKey root then .ok { scheme, mode, root } else .error (.key "trust root")

def withRevocations (v : Verifier) (s : SignedRevocations) : Except TrademarkError Verifier := do
  let certificates ← s.verify v.scheme v.root
  return { v with certificates }

def withMarkRevocations (v : Verifier) (marks : MarkRevocations) : Verifier := { v with marks }

def rootText (config : TrustConfig) : String :=
  match config.mode with
  | .production => config.productionRoot
  | .pilot => config.pilotRoot

def rootKey (config : TrustConfig) : Except TrademarkError Bytes :=
  match Base64.decodeText .canonical (String.ofList (trim (rootText config).toList)) with
  | .error fault => .error (.base64 "trust root" fault)
  | .ok bytes =>
    if bytes.length = SignatureScheme.keySize then .ok bytes
    else
      .error (.encoding
        ("trust root must be " ++ toString SignatureScheme.keySize ++ " bytes, got "
          ++ toString bytes.length) none)

def contents (read : String → Option String) (path : String) : Except TrademarkError String :=
  match read path with
  | some text => .ok text
  | none => .error .unreadable

def load (scheme : SignatureScheme) (read : String → Option String) (config : TrustConfig) :
    Except TrademarkError Verifier := do
  let root ← rootKey config
  let v ← ofRoot scheme config.mode root
  let v ←
    match config.crlPath with
    | some path => do v.withRevocations (← SignedRevocations.parse (← contents read path))
    | none => pure v
  match config.smdrlPath with
  | some path => do
    return v.withMarkRevocations (← MarkRevocations.parse (← contents read path))
  | none => return v

def checkSignature (v : Verifier) (key message signature : Bytes) (what : String) :
    Except TrademarkError Unit :=
  if signature.length ≠ SignatureScheme.signatureSize then .error (.key what)
  else if v.scheme.verifies key message signature then .ok ()
  else .error (.signatureMismatch what)

def agentKey (v : Verifier) (c : Certificate) : Except TrademarkError Bytes := do
  v.checkSignature v.root (SignedBytes.certificate c.data) c.signature "certificate"
  let key := c.data.publicKey
  if key.length ≠ SignatureScheme.keySize then
    .error (.encoding "certificate key must be 32 bytes" (some c.data.subject))
  else if v.scheme.isKey key then .ok key
  else .error (.key "certificate key")

def checkCertificateTimes (c : CertificateData) (now : Instant) : Except TrademarkError Unit :=
  if now < c.notBefore then .error (.certificateNotYetValid c.subject c.notBefore)
  else if c.notAfter < now then .error (.certificateExpired c.subject c.notAfter)
  else .ok ()

def checkCertificateRevocation (v : Verifier) (c : CertificateData) (now : Instant) :
    Except TrademarkError Unit :=
  match v.certificates.inEffect? c.serial now with
  | some revoked => .error (.certificateRevoked c.subject revoked)
  | none => .ok ()

def checkMarkRevocation (v : Verifier) (m : MarkData) (now : Instant) : Except TrademarkError Unit :=
  match v.marks.inEffect? m.id now with
  | some revokedAt => .error (.markRevoked m.id revokedAt)
  | none => .ok ()

def checkMarkTimes (m : MarkData) (now : Instant) : Except TrademarkError Unit :=
  if now < m.notBefore then .error (.markNotYetValid m.id m.notBefore)
  else if m.notAfter < now then .error (.markExpired m.id m.notAfter)
  else .ok ()

def verifyMark (v : Verifier) (m : SignedMark) (now : Instant) : Except TrademarkError Unit := do
  let agent ← v.agentKey m.certificate
  v.checkSignature agent (SignedBytes.mark m.data) m.signature "signed mark"
  checkCertificateTimes m.certificate.data now
  v.checkCertificateRevocation m.certificate.data now
  v.checkMarkRevocation m.data now
  checkMarkTimes m.data now

def verify (v : Verifier) (encoded : String) (now : Instant) : Except TrademarkError SignedMark := do
  let m ← SignedMark.decode encoded
  v.verifyMark m now
  return m

def verifyForLabel (v : Verifier) (encoded label : String) (now : Instant) :
    Except TrademarkError SignedMark := do
  let m ← v.verify encoded now
  if m.data.covers label then return m else .error (.labelMismatch label m.data.id)

end Verifier

end DomainRegistry
