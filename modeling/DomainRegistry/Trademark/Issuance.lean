import DomainRegistry.Crypto.SignatureScheme
import DomainRegistry.Trademark.SignedBytes

/-!
Signing certificates, marks and revocation lists.
-/

namespace DomainRegistry.Issuance

def certificate (scheme : SignatureScheme) (rootSeed : Bytes) (data : CertificateData) :
    Certificate :=
  ⟨data, scheme.sign rootSeed (SignedBytes.certificate data)⟩

def mark (scheme : SignatureScheme) (agentSeed : Bytes) (certificate : Certificate)
    (data : MarkData) : SignedMark :=
  ⟨data, scheme.sign agentSeed (SignedBytes.mark data), certificate⟩

def revocations (scheme : SignatureScheme) (rootSeed : Bytes) (data : RevocationData) :
    SignedRevocations :=
  ⟨data, scheme.sign rootSeed (SignedBytes.revocations data)⟩

end DomainRegistry.Issuance
