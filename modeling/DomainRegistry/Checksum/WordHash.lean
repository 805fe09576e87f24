import DomainRegistry.Bytes.Basic

/-!
A quick hash of byte strings by words of 64 bits: first the length, then the bytes eight at a time,
then four of the rest if there are as many, then the others one by one.
-/

namespace DomainRegistry.WordHash

def multiplier : UInt64 := 0x517cc1b727220a95

def rotate (h : UInt64) : UInt64 := (h <<< 5) ||| (h >>> 59)

def mix (h word : UInt64) : UInt64 := (rotate h ^^^ word) * multiplier

/-- The words that fewer than eight bytes are hashed as. -/
def lastWords : Bytes → List UInt64
  | a :: b :: c :: d :: rest =>
    UInt64.ofNat (Bytes.toNatLittle [a, b, c, d]) :: rest.map UInt8.toUInt64
  | rest => rest.map UInt8.toUInt64

def words : Bytes → List UInt64
  | a :: b :: c :: d :: e :: f :: g :: h :: rest =>
    UInt64.ofNat (Bytes.toNatLittle [a, b, c, d, e, f, g, h]) :: words rest
  | rest => lastWords rest

def hash (bytes : Bytes) : UInt64 :=
  (UInt64.ofNat bytes.length :: words bytes).foldl mix 0

end DomainRegistry.WordHash
