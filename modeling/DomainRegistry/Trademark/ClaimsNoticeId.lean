import DomainRegistry.Checksum.Crc32
import DomainRegistry.Text.Basic
import DomainRegistry.Time.Instant

/-!
Ids of claims notices: eight hexadecimal digits of a checksum and nineteen decimal digits. The
checksum is that of the label, the second in which the notice expires, and the digits.
-/

namespace DomainRegistry.ClaimsNoticeId

open Text

inductive Fault where
  | malformed (message : String)
  | checksum (expected : String)
  deriving DecidableEq

def Fault.message : Fault → String
  | malformed message => "Malformed TCNID: " ++ message
  | checksum expected => "TCNID checksum mismatch: expected " ++ expected

def checksumLength : Nat := 8

def digitsLength : Nat := 19

def checksumOf (label : String) (expiration : Instant) (digits : List Char) : String :=
  let crc := Crc32.checksum (Bytes.ofString label
    ++ Bytes.ofString (toString expiration.second) ++ Bytes.ofString (String.ofList digits))
  String.ofList (padZeros checksumLength (hexLower crc.toNat))

def isDigits (cs : List Char) : Bool := cs.length == digitsLength && cs.all isDigitAscii

def generate (label : String) (expiration : Instant) (digits : String) : Except Fault String :=
  if isDigits digits.toList then .ok (checksumOf label expiration digits.toList ++ digits)
  else
    .error (.malformed ("expected " ++ toString digitsLength ++ " digits, got '" ++ digits ++ "'"))

def split (id : String) : Except Fault (List Char × List Char) :=
  let cs := id.toList
  let checksum := cs.take checksumLength
  let digits := cs.drop checksumLength
  if cs.length ≠ checksumLength + digitsLength ∨ !cs.all isAscii then
    .error (.malformed ("expected " ++ toString (checksumLength + digitsLength) ++ " characters"))
  else if !checksum.all isHexDigit then .error (.malformed "checksum is not hex")
  else if !digits.all isDigitAscii then .error (.malformed "notice id is not decimal")
  else .ok (checksum, digits)

/-- The checksum of an id must be that of its label and expiration, up to case. -/
def validate (id label : String) (expiration : Instant) : Except Fault Unit := do
  let (checksum, digits) ← split id
  let expected := checksumOf label expiration digits
  if sameIgnoringCase (String.ofList checksum) expected then return ()
  else .error (.checksum expected)

end DomainRegistry.ClaimsNoticeId
