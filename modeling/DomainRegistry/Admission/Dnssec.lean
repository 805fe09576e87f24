import DomainRegistry.Bytes.Hex
import DomainRegistry.Record.Command
import DomainRegistry.Rejection

/-!
The delegation signer records that a command may carry.
-/

namespace DomainRegistry.Dnssec

def algorithms : List UInt8 := [5, 7, 8, 10, 13, 14, 15, 16]

def digestLength? (digestType : UInt8) : Option Nat :=
  match digestType with
  | 1 => some 20
  | 2 => some 32
  | 4 => some 48
  | _ => none

def fault? (ds : DsData) : Option String :=
  if !algorithms.contains ds.algorithm then
    some ("algorithm " ++ toString ds.algorithm.toNat ++ " is not supported")
  else
    match digestLength? ds.digestType with
    | none => some ("digest type " ++ toString ds.digestType.toNat ++ " is not supported")
    | some expected =>
      match Hex.decodeText ds.digest with
      | .error e => some ("digest is not valid hex: " ++ e.message)
      | .ok digest =>
        if digest.length = expected then none
        else
          some ("digest type " ++ toString ds.digestType.toNat ++ " requires "
            ++ toString expected ++ " bytes, got " ++ toString digest.length)

def checkRecord (ds : DsData) : Except Rejection Unit :=
  match fault? ds with
  | some message => .error (.invalidDsRecord message)
  | none => .ok ()

/-- There must be records, no `maxSigLife`, not too many records, and each must be in order. -/
def check (maxRecords : Nat) (s : SecDns) : Except Rejection Unit :=
  if s.dsData.isEmpty then .error .dsDataRequired
  else if s.maxSigLife.isSome then .error .maxSigLifeNotSupported
  else if maxRecords < s.dsData.length then .error (.tooManyDsRecords maxRecords)
  else s.dsData.forM checkRecord

end DomainRegistry.Dnssec
