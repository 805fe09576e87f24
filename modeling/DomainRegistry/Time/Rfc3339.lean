import DomainRegistry.Text.Basic
import DomainRegistry.Time.Instant

/-!
Times as text. Two readings of RFC 3339 share their pieces: the strict one of list files, and the
relaxed one of resources and commands, which allows blanks, short numbers and signed long years.
-/

namespace DomainRegistry

namespace Instant

open Text

def scanNumber (max : Nat) (cs : List Char) : Option (Nat × List Char) :=
  let digits := (cs.take max).takeWhile isDigitAscii
  if digits.isEmpty then none else some (decimalValue digits, cs.drop digits.length)

def scanDigits (width : Nat) (cs : List Char) : Option (Nat × List Char) :=
  let digits := (cs.take width).takeWhile isDigitAscii
  if digits.length = width then some (decimalValue digits, cs.drop width) else none

def scanChar (c : Char) (cs : List Char) : Option (List Char) := dropLead [c] cs

/-- A point and digits, read as nanoseconds; digits beyond the ninth are dropped. -/
def scanFraction (cs : List Char) : Option (Nat × List Char) :=
  match cs with
  | '.' :: rest =>
    let digits := rest.takeWhile isDigitAscii
    let kept := digits.take 9
    if digits.isEmpty then none
    else some (decimalValue kept * Nat.pow 10 (9 - kept.length), rest.dropWhile isDigitAscii)
  | _ => some (0, cs)

def scanColon (cs : List Char) : Option (List Char) := scanChar ':' cs

def skipColonsAndBlanks (cs : List Char) : Option (List Char) :=
  some (cs.dropWhile fun c => c == ':' || isBlank c)

/-- The sign of an offset; both the hyphen and the minus sign are negative. -/
def scanSign : List Char → Option (Bool × List Char)
  | '+' :: rest => some (false, rest)
  | '-' :: rest => some (true, rest)
  | '\u2212' :: rest => some (true, rest)
  | _ => none

/-- Seconds east of UTC; the letter Z stands for none. -/
def scanOffset (separator : List Char → Option (List Char)) (cs : List Char) : Option (Int × List Char) :=
  match cs with
  | 'Z' :: rest => some (0, rest)
  | 'z' :: rest => some (0, rest)
  | _ => do
    let (negative, rest) ← scanSign cs
    let (hours, rest) ← scanDigits 2 rest
    let rest ← separator rest
    let (minutes, rest) ← scanDigits 2 rest
    if hours ≤ 23 ∧ minutes ≤ 59 then
      let seconds : Int := hours * 3600 + minutes * 60
      some (if negative then -seconds else seconds, rest)
    else none

structure Fields where
  date : Date
  hour : Nat
  minute : Nat
  second : Nat
  nano : Nat
  offset : Int

/-- The instant that the fields name; second 60 is a leap second. -/
def ofFields? (f : Fields) : Option Instant :=
  if f.date.valid ∧ f.hour ≤ 23 ∧ f.minute ≤ 59 ∧ f.second ≤ 60 then
    let second := min f.second 59
    let nano := if f.second = 60 then f.nano + billion else f.nano
    ofParts? (f.date.toDays * 86400 + f.hour * 3600 + f.minute * 60 + second - f.offset) nano
  else none

def isDateTimeSeparator (c : Char) : Bool := c == 'T' || c == 't' || c == ' '

def scanSeparator : List Char → Option (List Char)
  | c :: rest => if isDateTimeSeparator c then some rest else none
  | [] => none

def strictFields? (cs : List Char) : Option Fields := do
  let (year, cs) ← scanDigits 4 cs
  let cs ← scanChar '-' cs
  let (month, cs) ← scanDigits 2 cs
  let cs ← scanChar '-' cs
  let (day, cs) ← scanDigits 2 cs
  let cs ← scanSeparator cs
  let (hour, cs) ← scanDigits 2 cs
  let cs ← scanChar ':' cs
  let (minute, cs) ← scanDigits 2 cs
  let cs ← scanChar ':' cs
  let (second, cs) ← scanDigits 2 cs
  let (nano, cs) ← scanFraction cs
  let (offset, cs) ← scanOffset scanColon cs
  if cs.isEmpty then some ⟨⟨year, month, day⟩, hour, minute, second, nano, offset⟩ else none

/-- Four year digits, two digits elsewhere, no blanks, and an offset with a colon. -/
def parseStrict? (text : String) : Option Instant := (strictFields? text.toList).bind ofFields?

/-- A year of up to four digits, or of any length after a sign. -/
def scanYear (cs : List Char) : Option (Int × List Char) :=
  match trimLeft cs with
  | '-' :: rest => (scanNumber rest.length rest).map fun (n, rest) => (-(n : Int), rest)
  | '+' :: rest => (scanNumber rest.length rest).map fun (n, rest) => ((n : Int), rest)
  | rest => (scanNumber 4 rest).map fun (n, rest) => ((n : Int), rest)

def scanShort (cs : List Char) : Option (Nat × List Char) := scanNumber 2 (trimLeft cs)

def scanLoose (c : Char) (cs : List Char) : Option (List Char) := scanChar c (trimLeft cs)

def scanZone (cs : List Char) : Option (Int × List Char) :=
  match cs with
  | u :: t :: c :: rest =>
    if [u, t, c].map Char.toUpper = ['U', 'T', 'C'] then some (0, rest)
    else scanOffset skipColonsAndBlanks cs
  | _ => scanOffset skipColonsAndBlanks cs

def relaxedFields? (cs : List Char) : Option Fields := do
  let (year, cs) ← scanYear cs
  let cs ← scanLoose '-' cs
  let (month, cs) ← scanShort cs
  let cs ← scanLoose '-' cs
  let (day, cs) ← scanShort cs
  let cs ← scanSeparator cs
  let (hour, cs) ← scanShort cs
  let cs ← scanLoose ':' cs
  let (minute, cs) ← scanShort cs
  let cs ← scanLoose ':' cs
  let (second, cs) ← scanShort cs
  let (nano, cs) ← scanFraction cs
  let (offset, cs) ← scanZone (trimLeft cs)
  if (trimLeft cs).isEmpty then some ⟨⟨year, month, day⟩, hour, minute, second, nano, offset⟩
  else none

/--
Blanks may stand around the numbers, numbers may be short, years may be long and signed, and the
offset may be UTC or lack its colon.
-/
def parse? (text : String) : Option Instant := (relaxedFields? text.toList).bind ofFields?

def digits (n : Nat) : List Char := Nat.toDigits 10 n

/-- Four digits for years 0 to 9999, a sign and at least four digits for others. -/
def writeYear (year : Int) : List Char :=
  if 0 ≤ year ∧ year ≤ 9999 then padZeros 4 (digits year.toNat)
  else (if year < 0 then '-' else '+') :: padZeros 4 (digits year.natAbs)

def writeTwo (n : Nat) : List Char := padZeros 2 (digits n)

def writeDate (d : Date) : List Char :=
  writeYear d.year ++ '-' :: writeTwo d.month ++ '-' :: writeTwo d.day

/-- The shortest of 0, 3, 6 and 9 digits that loses nothing. -/
def writeFraction (nano : Nat) : List Char :=
  if nano = 0 then []
  else if nano % 1000000 = 0 then '.' :: padZeros 3 (digits (nano / 1000000))
  else if nano % 1000 = 0 then '.' :: padZeros 6 (digits (nano / 1000))
  else '.' :: padZeros 9 (digits nano)

def writeTimeOfDay (t : Instant) : List Char :=
  let leap := decide (billion ≤ t.nano)
  let second := t.secondOfDay % 60 + if leap then 1 else 0
  let nano := if leap then t.nano - billion else t.nano
  writeTwo (t.secondOfDay / 3600) ++ ':' :: writeTwo (t.secondOfDay / 60 % 60)
    ++ ':' :: writeTwo second ++ writeFraction nano

def render (t : Instant) : String :=
  String.ofList (writeDate t.date ++ 'T' :: writeTimeOfDay t ++ ['Z'])

def display (t : Instant) : String :=
  String.ofList (writeDate t.date ++ ' ' :: writeTimeOfDay t ++ [' ', 'U', 'T', 'C'])

end Instant

end DomainRegistry
