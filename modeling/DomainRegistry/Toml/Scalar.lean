import DomainRegistry.Json.Basic
import DomainRegistry.Number.Binary64
import DomainRegistry.Toml.DateTime
import DomainRegistry.Toml.Text

/-!
Values of TOML that are one word: truth values, integers of 64 bits, other numbers, dates and times.
Dates and times are kept as text.
-/

namespace DomainRegistry.Toml

open Text

def isWordChar (c : Char) : Bool :=
  isBareKeyChar c || c == '+' || c == '.' || c == ':'

/-- Digits between which single low lines may stand. -/
def digits? (isDigit : Char → Bool) (cs : List Char) : Option (List Char) :=
  if (splitAll '_' cs).all fun part => !part.isEmpty && part.all isDigit then
    some (cs.filter (· != '_'))
  else none

def whole? (cs : List Char) : Option (List Char) :=
  (digits? isDigitAscii cs).filter fun ds => ds.length == 1 || ds.head? != some '0'

def splitSign : List Char → Bool × List Char
  | '-' :: rest => (true, rest)
  | '+' :: rest => (false, rest)
  | cs => (false, cs)

def ofInt? (n : Int) : Option Json :=
  if Int64.minValue.toInt ≤ n ∧ n ≤ Int64.maxValue.toInt then some (.int n) else none

def radixValue (radix : Nat) (ds : List Char) : Nat :=
  ds.foldl (fun n c => radix * n + (hexDigitValue? c).getD 0) 0

def integer? (cs : List Char) : Option Json :=
  match cs with
  | '0' :: 'x' :: rest => (digits? isHexDigit rest).bind fun ds => ofInt? (radixValue 16 ds)
  | '0' :: 'o' :: rest =>
    (digits? (fun c => '0' ≤ c && c ≤ '7') rest).bind fun ds => ofInt? (radixValue 8 ds)
  | '0' :: 'b' :: rest =>
    (digits? (fun c => c == '0' || c == '1') rest).bind fun ds => ofInt? (radixValue 2 ds)
  | _ =>
    let (negative, rest) := splitSign cs
    (whole? rest).bind fun ds =>
      let n : Int := decimalValue ds
      ofInt? (if negative then -n else n)

def splitExponent (cs : List Char) : List Char × Option (List Char) :=
  let isMark (c : Char) := c == 'e' || c == 'E'
  match cs.dropWhile fun c => !isMark c with
  | [] => (cs, none)
  | _ :: exponent => (cs.takeWhile fun c => !isMark c, some exponent)

def exponent? (cs : List Char) : Option Int :=
  let (negative, rest) := splitSign cs
  (digits? isDigitAscii rest).map fun ds =>
    let n : Int := decimalValue ds
    if negative then -n else n

/-- The digits of a number with a fraction or an exponent, and the power of ten they count. -/
def decimalParts? (cs : List Char) : Option (Nat × Int) := do
  let (mantissa, exponent) := splitExponent cs
  let power ← match exponent with
    | some cs => exponent? cs
    | none => some 0
  match splitOnce '.' mantissa with
  | some (before, after) =>
    let after ← digits? isDigitAscii after
    return (decimalValue ((← whole? before) ++ after), power - after.length)
  | none => if exponent.isSome then return (decimalValue (← whole? mantissa), power) else none

def isFloat (cs : List Char) : Bool :=
  let body := (splitSign cs).2
  body == "inf".toList || body == "nan".toList
    || match decimalParts? body with
      | some (n, power) => !Binary64.decimalOverflows n power
      | none => false

def word? (cs : List Char) : Option Json :=
  if cs = "true".toList then some (.bool true)
  else if cs = "false".toList then some (.bool false)
  else
    match integer? cs with
    | some j => some j
    | none =>
      if isFloat cs then some .fraction
      else (dateTime? cs).map fun text => .str (String.ofList text)

/-- The word at the start of a text; a date and a time may have a space between them. -/
def splitWord (cs : List Char) : List Char × List Char :=
  let word := cs.takeWhile isWordChar
  let rest := cs.dropWhile isWordChar
  match scanDate word, rest with
  | some (_, []), ' ' :: c :: more =>
    if isDigitAscii c then
      (word ++ ' ' :: (c :: more).takeWhile isWordChar, (c :: more).dropWhile isWordChar)
    else (word, rest)
  | _, _ => (word, rest)

def scanWord (cs : List Char) : Option (Json × List Char) :=
  let (word, rest) := splitWord cs
  (word? word).map fun j => (j, rest)

end DomainRegistry.Toml
