import DomainRegistry.Crypto.SignatureScheme
import DomainRegistry.Trademark.Mark

/-!
What can be wrong with a signed mark, a revocation list or the configured trust.
-/

namespace DomainRegistry

inductive TrademarkError where
  | encoding (message : String) (subject : Option String)
  | signatureMismatch (what : String)
  | key (what : String)
  | certificateNotYetValid (subject : String) (notBefore : Instant)
  | certificateExpired (subject : String) (notAfter : Instant)
  | certificateRevoked (subject : String) (revoked : RevokedCertificate)
  | markRevoked (id : String) (revokedAt : Instant)
  | markNotYetValid (id : String) (notBefore : Instant)
  | markExpired (id : String) (notAfter : Instant)
  | labelMismatch (label id : String)
  | revocationList (line : Nat) (message : String)
  | base64 (what : String) (fault : Base64.DecodeError)
  | json (what : String)
  /-- A configured file cannot be read. -/
  | unreadable
  deriving DecidableEq

namespace TrademarkError

def name : TrademarkError → String
  | encoding _ _ => "Encoding"
  | signatureMismatch _ => "SignatureMismatch"
  | key _ => "Key"
  | certificateNotYetValid _ _ => "CertificateNotYetValid"
  | certificateExpired _ _ => "CertificateExpired"
  | certificateRevoked _ _ => "CertificateRevoked"
  | markRevoked _ _ => "MarkRevoked"
  | markNotYetValid _ _ => "MarkValidity"
  | markExpired _ _ => "MarkValidity"
  | labelMismatch _ _ => "LabelMismatch"
  | revocationList _ _ => "RevocationList"
  | base64 _ _ => "Base64"
  | json _ => "Json"
  | unreadable => "Io"

/-- Whether reading failed, rather than trust. -/
def isEncoding : TrademarkError → Bool
  | encoding _ _ => true
  | base64 _ _ => true
  | json _ => true
  | _ => false

def about (subject : String) : String := " (" ++ subject ++ ")"

def message : TrademarkError → String
  | encoding message subject =>
    "Signed mark data is improperly encoded" ++ (subject.map about).getD "" ++ ": " ++ message
  | signatureMismatch what =>
    "Signature does not match" ++ about what ++ ": " ++ SignatureScheme.failure
  | key what => "Invalid key or signature bytes" ++ about what ++ ": " ++ SignatureScheme.failure
  | certificateNotYetValid subject notBefore =>
    "Certificate is not yet valid" ++ about subject ++ ": valid from " ++ notBefore.display
  | certificateExpired subject notAfter =>
    "Certificate has expired" ++ about subject ++ ": valid until " ++ notAfter.display
  | certificateRevoked subject r =>
    "Certificate has been revoked" ++ about subject ++ ": serial " ++ toString r.serial.toNat
      ++ ", reason " ++ r.reason.word ++ ", at " ++ r.revokedAt.display
  | markRevoked id revokedAt =>
    "Signed mark " ++ id ++ " has been revoked at " ++ revokedAt.display
  | markNotYetValid id notBefore =>
    "Signed mark is not currently valid" ++ about id ++ ": not valid before " ++ notBefore.display
  | markExpired id notAfter =>
    "Signed mark is not currently valid" ++ about id ++ ": expired at " ++ notAfter.display
  | labelMismatch label id =>
    "Signed mark does not cover label '" ++ label ++ "'" ++ about id
  | revocationList line message =>
    "Malformed revocation list (smdrl) at line " ++ toString line ++ ": " ++ message
  | base64 what fault => "Base64 decoding failed" ++ about what ++ ": " ++ fault.message
  | json what => "JSON error" ++ about what
  | unreadable => "I/O error"

end TrademarkError

end DomainRegistry
