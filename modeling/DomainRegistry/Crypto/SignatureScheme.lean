import DomainRegistry.Bytes.Basic

/-!
What the trademark clearinghouse needs of a signature scheme: keys of 32 bytes made from seeds, and
signatures of 64 bytes.
-/

namespace DomainRegistry

structure SignatureScheme where
  publicKey : (seed : Bytes) → Bytes
  sign : (seed message : Bytes) → Bytes
  isKey : (key : Bytes) → Bool
  verifies : (key message signature : Bytes) → Bool

namespace SignatureScheme

def keySize : Nat := 32

def signatureSize : Nat := 64

def failure : String := "signature error"

end SignatureScheme

end DomainRegistry
