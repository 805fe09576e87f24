import DomainRegistry.Bytes.Basic

/-!
The CRC-32 checksum with reflected bits.
-/

namespace DomainRegistry.Crc32

def polynomial : UInt32 := 0xEDB88320

def shift (crc : UInt32) : UInt32 :=
  if crc &&& 1 = 1 then (crc >>> 1) ^^^ polynomial else crc >>> 1

def step (crc : UInt32) (byte : UInt8) : UInt32 :=
  Nat.repeat shift 8 (crc ^^^ byte.toUInt32)

def update (crc : UInt32) (bytes : Bytes) : UInt32 := bytes.foldl step crc

def start : UInt32 := 0xFFFFFFFF

def finish (crc : UInt32) : UInt32 := crc ^^^ 0xFFFFFFFF

def checksum (bytes : Bytes) : UInt32 := finish (update start bytes)

end DomainRegistry.Crc32
