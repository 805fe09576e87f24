import DomainRegistry.Text.Basic

/-!
Amounts of money in minor units, and their text such as `USD 13.00`.
-/

namespace DomainRegistry

open Text

structure Money where
  currency : String
  minor : Int64
  deriving DecidableEq, Inhabited

namespace Money

/-- An amount in a currency, whose letters are put in upper case. -/
def of (currency : String) (minor : Int64) : Money := ⟨upper currency, minor⟩

def scale (currency : String) : Nat :=
  if currency = "JPY" ∨ currency = "KRW" then 0 else 2

def minor? (n : Int) : Option Int64 :=
  if Int64.minValue.toInt ≤ n ∧ n ≤ Int64.maxValue.toInt then some (Int64.ofInt n) else none

def times (m : Money) (count : UInt32) : Option Money :=
  (minor? (m.minor.toInt * count.toNat)).map fun minor => ⟨m.currency, minor⟩

def digits (n : Nat) : List Char := Nat.toDigits 10 n

def renderChars (m : Money) : List Char :=
  let amount := m.minor.toInt.natAbs
  let sign := if m.minor.toInt < 0 then ['-'] else []
  m.currency.toList ++ ' ' ::
    (if scale m.currency = 0 then sign ++ digits amount
     else sign ++ digits (amount / 100) ++ '.' :: padZeros 2 (digits (amount % 100)))

def render (m : Money) : String := String.ofList (renderChars m)

/-- Digits, and after a point at most `scale` more, as minor units. -/
def unsigned? (scale : Nat) (cs : List Char) : Option Nat :=
  let (whole, fraction) := (splitOnce '.' cs).getD (cs, [])
  if whole.isEmpty || !whole.all isDigitAscii || !fraction.all isDigitAscii
      || scale < fraction.length then none
  else
    some (decimalValue whole * Nat.pow 10 scale
      + decimalValue fraction * Nat.pow 10 (scale - fraction.length))

/-- An amount after an optional minus sign, its digits within 64 bits with a sign. -/
def amount? (scale : Nat) (cs : List Char) : Option Int64 :=
  let (negative, body) := match cs with
    | '-' :: rest => (true, rest)
    | rest => (false, rest)
  match unsigned? scale body with
  | some n =>
    if n < Nat.pow 2 63 then minor? (if negative then -(n : Int) else n) else none
  | none => none

def parseChars? (cs : List Char) : Option Money := do
  let (currency, amount) ← splitOnce ' ' (trim cs)
  if currency.length = 3 ∧ currency.all isLetterAscii then
    let currency := upper (String.ofList currency)
    let minor ← amount? (scale currency) (trim amount)
    some ⟨currency, minor⟩
  else none

def parse? (s : String) : Option Money := parseChars? s.toList

def parseFailure (s : String) : String := "invalid money value '" ++ s ++ "'"

end Money

end DomainRegistry
