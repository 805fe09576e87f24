import DomainRegistry.Bytes.Base64
import DomainRegistry.Json.Record

/-!
Marks, the certificates of the agents that sign them, and the lists that revoke certificates, with
their JSON forms. Byte strings are written in base64 without padding.
-/

namespace DomainRegistry

structure CertificateData where
  serial : UInt64
  subject : String
  publicKey : Bytes
  notBefore : Instant
  notAfter : Instant
  deriving DecidableEq

structure Certificate where
  data : CertificateData
  signature : Bytes
  deriving DecidableEq

structure MarkData where
  id : String
  markName : String
  holder : String
  labels : List String
  notBefore : Instant
  notAfter : Instant
  deriving DecidableEq

/-- Whether the mark entitles its holder to a label, up to case. -/
def MarkData.covers (m : MarkData) (label : String) : Bool :=
  m.labels.any fun l => Text.sameIgnoringCase l label

structure SignedMark where
  data : MarkData
  signature : Bytes
  certificate : Certificate
  deriving DecidableEq

inductive RevocationReason where
  | unspecified
  | keyCompromise
  | caCompromise
  | affiliationChanged
  | superseded
  | cessationOfOperation
  | certificateHold
  | removeFromCrl
  | privilegeWithdrawn
  | aaCompromise
  deriving DecidableEq

namespace RevocationReason

def all : List RevocationReason :=
  [unspecified, keyCompromise, caCompromise, affiliationChanged, superseded, cessationOfOperation,
    certificateHold, removeFromCrl, privilegeWithdrawn, aaCompromise]

def word : RevocationReason → String
  | unspecified => "UNSPECIFIED"
  | keyCompromise => "KEY_COMPROMISE"
  | caCompromise => "CA_COMPROMISE"
  | affiliationChanged => "AFFILIATION_CHANGED"
  | superseded => "SUPERSEDED"
  | cessationOfOperation => "CESSATION_OF_OPERATION"
  | certificateHold => "CERTIFICATE_HOLD"
  | removeFromCrl => "REMOVE_FROM_CRL"
  | privilegeWithdrawn => "PRIVILEGE_WITHDRAWN"
  | aaCompromise => "AA_COMPROMISE"

def index : RevocationReason → Nat
  | unspecified => 0
  | keyCompromise => 1
  | caCompromise => 2
  | affiliationChanged => 3
  | superseded => 4
  | cessationOfOperation => 5
  | certificateHold => 6
  | removeFromCrl => 7
  | privilegeWithdrawn => 8
  | aaCompromise => 9

def words : List (String × RevocationReason) := all.map fun r => (r.word, r)

end RevocationReason

structure RevokedCertificate where
  serial : UInt64
  revokedAt : Instant
  reason : RevocationReason
  deriving DecidableEq

structure RevocationData where
  thisUpdate : Instant
  revoked : List RevokedCertificate
  deriving DecidableEq

structure SignedRevocations where
  data : RevocationData
  signature : Bytes
  deriving DecidableEq

open Json

def bytes? (j : Json) : Option Bytes := do
  (Base64.decodeText .absent (← j.string?)).toOption

def ofBytes (bytes : Bytes) : Json := str (Base64.encodeText .absent bytes)

def CertificateData.ofJson? (j : Json) : Option CertificateData := do
  let f ← j.exactFields? ["serial", "subject", "publicKey", "notBefore", "notAfter"]
  return ⟨← f.required "serial" word64?, ← f.required "subject" string?,
    ← f.required "publicKey" bytes?, ← f.required "notBefore" instant?,
    ← f.required "notAfter" instant?⟩

def CertificateData.toJson (c : CertificateData) : Json :=
  obj [("serial", ofNat c.serial.toNat), ("subject", str c.subject),
    ("publicKey", ofBytes c.publicKey), ("notBefore", ofInstant c.notBefore),
    ("notAfter", ofInstant c.notAfter)]

def Certificate.ofJson? (j : Json) : Option Certificate := do
  let f ← j.fields? ["data", "signature"]
  return ⟨← f.required "data" CertificateData.ofJson?, ← f.required "signature" bytes?⟩

def Certificate.toJson (c : Certificate) : Json :=
  obj [("data", c.data.toJson), ("signature", ofBytes c.signature)]

def MarkData.ofJson? (j : Json) : Option MarkData := do
  let f ← j.exactFields? ["id", "markName", "holder", "labels", "notBefore", "notAfter"]
  return ⟨← f.required "id" string?, ← f.required "markName" string?,
    ← f.required "holder" string?, ← f.required "labels" (list? string?),
    ← f.required "notBefore" instant?, ← f.required "notAfter" instant?⟩

def MarkData.toJson (m : MarkData) : Json :=
  obj [("id", str m.id), ("markName", str m.markName), ("holder", str m.holder),
    ("labels", ofStrings m.labels), ("notBefore", ofInstant m.notBefore),
    ("notAfter", ofInstant m.notAfter)]

def SignedMark.ofJson? (j : Json) : Option SignedMark := do
  let f ← j.fields? ["data", "signature", "certificate"]
  return ⟨← f.required "data" MarkData.ofJson?, ← f.required "signature" bytes?,
    ← f.required "certificate" Certificate.ofJson?⟩

def SignedMark.toJson (m : SignedMark) : Json :=
  obj [("data", m.data.toJson), ("signature", ofBytes m.signature),
    ("certificate", m.certificate.toJson)]

def RevokedCertificate.ofJson? (j : Json) : Option RevokedCertificate := do
  let f ← j.fields? ["serial", "revokedAt", "reason"]
  return ⟨← f.required "serial" word64?, ← f.required "revokedAt" instant?,
    ← f.required "reason" (word? RevocationReason.words)⟩

def RevokedCertificate.toJson (r : RevokedCertificate) : Json :=
  obj [("serial", ofNat r.serial.toNat), ("revokedAt", ofInstant r.revokedAt),
    ("reason", str r.reason.word)]

def RevocationData.ofJson? (j : Json) : Option RevocationData := do
  let f ← j.exactFields? ["thisUpdate", "revoked"]
  return ⟨← f.required "thisUpdate" instant?,
    ← f.required "revoked" (list? RevokedCertificate.ofJson?)⟩

def RevocationData.toJson (d : RevocationData) : Json :=
  obj [("thisUpdate", ofInstant d.thisUpdate),
    ("revoked", ofList RevokedCertificate.toJson d.revoked)]

def SignedRevocations.ofJson? (j : Json) : Option SignedRevocations := do
  let f ← j.fields? ["data", "signature"]
  return ⟨← f.required "data" RevocationData.ofJson?, ← f.required "signature" bytes?⟩

def SignedRevocations.toJson (s : SignedRevocations) : Json :=
  obj [("data", s.data.toJson), ("signature", ofBytes s.signature)]

end DomainRegistry
