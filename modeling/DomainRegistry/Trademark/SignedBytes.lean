import DomainRegistry.Trademark.Mark

/-!
The bytes that signatures are made over. The fields of a record follow each other; numbers take
seven bits to a byte, the lowest first; texts and lists start with their length; times are written
out, and byte strings in base64.
-/

namespace DomainRegistry.SignedBytes

/-- Seven bits to a byte; all bytes but the last have the high bit set. -/
def number (n : Nat) : Bytes :=
  if n < 128 then [UInt8.ofNat n] else UInt8.ofNat (128 + n % 128) :: number (n / 128)
termination_by n
decreasing_by omega

def text (s : String) : Bytes :=
  let bytes := Bytes.ofString s
  number bytes.length ++ bytes

def list {α : Type} (item : α → Bytes) (items : List α) : Bytes :=
  number items.length ++ items.flatMap item

def time (t : Instant) : Bytes := text t.render

def key (bytes : Bytes) : Bytes := text (Base64.encodeText .absent bytes)

def certificate (c : CertificateData) : Bytes :=
  number c.serial.toNat ++ text c.subject ++ key c.publicKey ++ time c.notBefore ++ time c.notAfter

def mark (m : MarkData) : Bytes :=
  text m.id ++ text m.markName ++ text m.holder ++ list text m.labels ++ time m.notBefore
    ++ time m.notAfter

def revoked (r : RevokedCertificate) : Bytes :=
  number r.serial.toNat ++ time r.revokedAt ++ number r.reason.index

def revocations (d : RevocationData) : Bytes := time d.thisUpdate ++ list revoked d.revoked

end DomainRegistry.SignedBytes
