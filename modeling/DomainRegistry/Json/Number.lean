import DomainRegistry.Number.Binary64
import DomainRegistry.Text.Basic

/-!
Numbers of JSON as they are read: digits go into a significand of 64 bits while they fit, and a
power of ten makes up for the others.
-/

namespace DomainRegistry.Json

open Text

structure Decimal where
  significand : Nat := 0
  exponent : Int := 0
  /-- Whether a digit did not fit. -/
  isFull : Bool := false

namespace Decimal

def maxSignificand : Nat := UInt64.size - 1

def takeWhole (d : Decimal) (c : Char) : Decimal :=
  let next := 10 * d.significand + decimalValue [c]
  if d.isFull || maxSignificand < next then { d with exponent := d.exponent + 1, isFull := true }
  else { d with significand := next }

/-- Digits after the point that do not fit make no difference. -/
def takeFraction (d : Decimal) (c : Char) : Decimal :=
  let next := 10 * d.significand + decimalValue [c]
  if d.isFull || maxSignificand < next then { d with isFull := true }
  else { d with significand := next, exponent := d.exponent - 1 }

def takeExponent (d : Decimal) : List Char → Decimal
  | _ :: '-' :: digits => { d with exponent := d.exponent - decimalValue digits }
  | _ :: '+' :: digits => { d with exponent := d.exponent + decimalValue digits }
  | _ :: digits => { d with exponent := d.exponent + decimalValue digits }
  | [] => d

def ofText (whole rest : List Char) : Decimal :=
  let d := whole.foldl takeWhole {}
  match rest with
  | '.' :: more =>
    let digits := more.takeWhile isDigitAscii
    (digits.foldl takeFraction { d with isFull := false }).takeExponent (more.drop digits.length)
  | more => d.takeExponent more

def overflows (d : Decimal) : Bool := Binary64.productOverflows d.significand d.exponent

end Decimal

end DomainRegistry.Json
