import DomainRegistry.Collection.SortedMap
import DomainRegistry.Json.Parser
import DomainRegistry.Json.Printer
import DomainRegistry.Lists.Source
import DomainRegistry.Trademark.Error
import DomainRegistry.Trademark.SignedBytes

/-!
Lists of revoked certificates, signed by the trust root, and of revoked marks.
-/

namespace DomainRegistry

open Text ListSource

structure CertificateRevocations where
  thisUpdate : Option Instant := none
  entries : SortedMap UInt64 RevokedCertificate := .empty
  deriving DecidableEq

namespace CertificateRevocations

def inEffect? (l : CertificateRevocations) (serial : UInt64) (now : Instant) :
    Option RevokedCertificate :=
  (l.entries.get? serial).filter fun r => decide (r.revokedAt ≤ now)

/-- Of rows for one certificate, the last counts. -/
def ofData (d : RevocationData) : CertificateRevocations :=
  ⟨some d.thisUpdate, .ofList (d.revoked.map fun r => (r.serial, r))⟩

end CertificateRevocations

namespace SignedRevocations

def parse (text : String) : Except TrademarkError SignedRevocations :=
  match (Json.parse? text).bind SignedRevocations.ofJson? with
  | some s => .ok s
  | none => .error (.json "certificate revocation list")

def render (s : SignedRevocations) : String := s.toJson.renderIndented

def verify (scheme : SignatureScheme) (root : Bytes) (s : SignedRevocations) :
    Except TrademarkError CertificateRevocations :=
  if s.signature.length ≠ SignatureScheme.signatureSize then .error (.key "CRL signature")
  else if scheme.verifies root (SignedBytes.revocations s.data) s.signature then
    .ok (.ofData s.data)
  else .error (.signatureMismatch "certificate revocation list")

end SignedRevocations

structure MarkRevocations where
  created : Option Instant := none
  revoked : SortedMap String Instant := .empty
  deriving DecidableEq

namespace MarkRevocations

def columnLine : String := "smd-id,insertion-datetime"

/-- Of entries for one id, the last counts. -/
def ofEntries (entries : List (String × Instant)) : MarkRevocations := ⟨none, .ofList entries⟩

def inEffect? (l : MarkRevocations) (id : String) (now : Instant) : Option Instant :=
  (l.revoked.get? id).filter fun t => decide (t ≤ now)

def fault {α : Type} (line : Nat) (message : String) : Except TrademarkError α :=
  .error (.revocationList line message)

def time (line : Nat) (raw : List Char) : Except TrademarkError Instant :=
  match Instant.parseStrict? (String.ofList raw) with
  | some t => .ok t
  | none => fault line (badTimestamp raw)

def header (line : List Char) : Except TrademarkError Instant :=
  match columns line with
  | [['1'], created] => time 1 created
  | _ => fault 1 "expected header '1,<creation time>'"

def addRow (revoked : SortedMap String Instant) (row : Nat × List Char) :
    Except TrademarkError (SortedMap String Instant) :=
  match columns row.2 with
  | [id, inserted] =>
    if id.isEmpty then fault row.1 "empty smd id"
    else do
      let t ← time row.1 inserted
      return revoked.insert (String.ofList id) t
  | _ => fault row.1 "expected 2 fields"

def parse (text : String) : Except TrademarkError MarkRevocations :=
  match filledLines text with
  | [] => fault 1 "empty list"
  | (_, first) :: rest => do
    let created ← header first
    match rest with
    | [] => fault 2 "missing column line"
    | (line, second) :: rows =>
      if String.ofList (trim second) ≠ columnLine then fault line "unexpected column line"
      else do
        let revoked ← rows.foldlM addRow .empty
        return ⟨some created, revoked⟩

end MarkRevocations

end DomainRegistry
