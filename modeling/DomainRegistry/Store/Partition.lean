import DomainRegistry.Checksum.WordHash

/-!
The division of stored domains into partitions, by a hash of their repository ids.
-/

namespace DomainRegistry

/-- The partition of an id, of as many as given; no partitions count as one. -/
def partitionOf (repoId : String) (partitions : Nat) : Nat :=
  (WordHash.hash (Bytes.ofString repoId)).toNat % max partitions 1

theorem partitionOf_lt (repoId : String) (partitions : Nat) :
    partitionOf repoId partitions < max partitions 1 :=
  Nat.mod_lt _ (by omega)

end DomainRegistry
