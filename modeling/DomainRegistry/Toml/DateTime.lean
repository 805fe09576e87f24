import DomainRegistry.Text.Basic
import DomainRegistry.Time.Calendar

/-!
Dates and times of TOML. A date, a time or both are read, with an offset if both are there, and
written again in one form.
-/

namespace DomainRegistry.Toml

open Text

structure TimeOfDay where
  hour : List Char
  minute : List Char
  second : Option (List Char) := none
  /-- Digits after the point. -/
  fraction : Option (List Char) := none

def scanNumber (width first last : Nat) (cs : List Char) : Option (List Char × List Char) :=
  let digits := cs.takeWhile isDigitAscii
  let n := decimalValue digits
  if digits.length = width ∧ first ≤ n ∧ n ≤ last then some (digits, cs.drop width) else none

def scanMark (mark : Char) (cs : List Char) : Option (List Char) := dropLead [mark] cs

def scanDate (cs : List Char) : Option (List Char × List Char) := do
  let (year, cs) ← scanNumber 4 0 9999 cs
  let (month, cs) ← scanNumber 2 1 12 (← scanMark '-' cs)
  let (day, cs) ← scanNumber 2 1 31 (← scanMark '-' cs)
  if Date.valid ⟨decimalValue year, decimalValue month, decimalValue day⟩ then
    return (year ++ '-' :: month ++ '-' :: day, cs)
  else none

def scanFraction (cs : List Char) : Option (Option (List Char) × List Char) :=
  match cs with
  | '.' :: rest =>
    let digits := rest.takeWhile isDigitAscii
    if digits.isEmpty then none else some (some digits, rest.drop digits.length)
  | _ => some (none, cs)

/-- Seconds may be left out, and they may be sixty. -/
def scanTime (cs : List Char) : Option (TimeOfDay × List Char) := do
  let (hour, cs) ← scanNumber 2 0 23 cs
  let (minute, cs) ← scanNumber 2 0 59 (← scanMark ':' cs)
  match cs with
  | ':' :: cs =>
    let (second, cs) ← scanNumber 2 0 60 cs
    let (fraction, cs) ← scanFraction cs
    return (⟨hour, minute, some second, fraction⟩, cs)
  | cs => return (⟨hour, minute, none, none⟩, cs)

/-- Nine digits at most, without zeros at the end unless there is nothing else. -/
def shortFraction (digits : List Char) : List Char :=
  match (digits.take 9).reverse.dropWhile (· == '0') with
  | [] => ['0']
  | kept => kept.reverse

def TimeOfDay.render (t : TimeOfDay) : List Char :=
  t.hour ++ ':' :: t.minute ++ (t.second.map (':' :: ·)).getD []
    ++ (t.fraction.map fun digits => '.' :: shortFraction digits).getD []

/-- An offset as it is written again: none, the letter or hours and minutes. -/
def offset? : List Char → Option (List Char)
  | [] => some []
  | ['Z'] => some ['Z']
  | ['z'] => some ['Z']
  | sign :: cs => do
    if sign ≠ '+' ∧ sign ≠ '-' then none
    else
      let (hours, cs) ← scanNumber 2 0 23 cs
      let (minutes, cs) ← scanNumber 2 0 59 (← scanMark ':' cs)
      let isZero := decimalValue hours = 0 ∧ decimalValue minutes = 0
      if cs.isEmpty then return (if isZero then '+' else sign) :: hours ++ ':' :: minutes else none

def isSeparator (c : Char) : Bool := c == 'T' || c == 't' || c == ' '

def dateTime? (cs : List Char) : Option (List Char) :=
  match scanDate cs with
  | some (date, []) => some date
  | some (date, c :: rest) =>
    if isSeparator c then do
      let (time, rest) ← scanTime rest
      return date ++ 'T' :: time.render ++ (← offset? rest)
    else none
  | none =>
    match scanTime cs with
    | some (time, []) => some time.render
    | _ => none

end DomainRegistry.Toml
