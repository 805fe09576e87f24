import DomainRegistry.Bytes.Basic
import DomainRegistry.Text.Basic

/-!
Hexadecimal byte strings. Reading checks the length first and then names the first byte that is no
digit.
-/

namespace DomainRegistry.Hex

inductive DecodeError where
  | oddLength
  | character (byte : UInt8) (index : Nat)
  deriving DecidableEq

def digit? (byte : UInt8) : Option Nat := Text.hexDigitValue? (Char.ofNat byte.toNat)

def apostrophe : Char := Char.ofNat 39

/-- Code points below 256 that have no visible form of their own. -/
def isHidden (n : Nat) : Bool := n < 32 || (127 ≤ n && n ≤ 160) || n == 173

/-- The character numbered `byte` between apostrophes, escaped where it would not show. -/
def quoted (byte : UInt8) : String :=
  let n := byte.toNat
  let body : List Char :=
    if n = 0 then ['\\', '0']
    else if n = 9 then ['\\', 't']
    else if n = 10 then ['\\', 'n']
    else if n = 13 then ['\\', 'r']
    else if n = 39 then ['\\', apostrophe]
    else if n = 92 then ['\\', '\\']
    else if isHidden n then ['\\', 'u', '\x7b'] ++ Text.hexLower n ++ ['\x7d']
    else [Char.ofNat n]
  String.ofList (apostrophe :: body ++ [apostrophe])

def DecodeError.message : DecodeError → String
  | .oddLength => "Odd number of digits"
  | .character byte index => "Invalid character " ++ quoted byte ++ " at position " ++ toString index

def digitAt (index : Nat) (byte : UInt8) : Except DecodeError Nat :=
  match digit? byte with
  | some value => .ok value
  | none => .error (.character byte index)

def decodeFrom : (index : Nat) → Bytes → Except DecodeError Bytes
  | _, [] => .ok []
  | _, [_] => .error .oddLength
  | index, high :: low :: rest => do
    let h ← digitAt index high
    let l ← digitAt (index + 1) low
    let tail ← decodeFrom (index + 2) rest
    return UInt8.ofNat (16 * h + l) :: tail

def decode (input : Bytes) : Except DecodeError Bytes :=
  if input.length % 2 = 1 then .error .oddLength else decodeFrom 0 input

def decodeText (text : String) : Except DecodeError Bytes := decode (Bytes.ofString text)

end DomainRegistry.Hex
