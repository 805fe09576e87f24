import DomainRegistry.Json.Basic
import DomainRegistry.Json5.Text
import DomainRegistry.Number.Binary64

/-!
JSON5 documents, read as JSON. Whole numbers have 64 bits, or 32 if they are hexadecimal.
-/

namespace DomainRegistry.Json5

open Text

abbrev Parsed := Option (Json × List Char)

def exponentOf (cs : List Char) : Option (Int × Nat) :=
  let digitsOf (cs : List Char) := cs.takeWhile isDigitAscii
  let found (negative : Bool) (lead : Nat) (digits : List Char) : Option (Int × Nat) :=
    let n : Int := decimalValue digits
    if digits.isEmpty then none else some (if negative then -n else n, lead + digits.length)
  match cs with
  | e :: sign :: rest =>
    if e ≠ 'e' ∧ e ≠ 'E' then none
    else if sign = '-' then found true 2 (digitsOf rest)
    else if sign = '+' then found false 2 (digitsOf rest)
    else found false 1 (digitsOf (sign :: rest))
  | _ => none

/-- Digits before the point, of which the first is no zero unless it is the only one. -/
def wholeOf : List Char → List Char
  | '0' :: _ => ['0']
  | cs => cs.takeWhile isDigitAscii

/-- A finite number that is no integer. -/
def finite (digits : List Char) (exponent : Int) : Option Json :=
  if Binary64.decimalOverflows (decimalValue digits) exponent then none else some .fraction

def decimal (negative : Bool) (cs : List Char) : Parsed :=
  let whole := wholeOf cs
  match cs.drop whole.length with
  | '.' :: rest =>
    let fraction := rest.takeWhile isDigitAscii
    let rest := rest.drop fraction.length
    if whole.isEmpty && fraction.isEmpty then none
    else
      let (exponent, length) := (exponentOf rest).getD (0, 0)
      (finite (whole ++ fraction) (exponent - fraction.length)).map fun j => (j, rest.drop length)
  | rest =>
    if whole.isEmpty then none
    else
      match exponentOf rest with
      | some (exponent, length) => (finite whole exponent).map fun j => (j, rest.drop length)
      | none =>
        let n : Int := if negative then -decimalValue whole else decimalValue whole
        if Int64.minValue.toInt ≤ n ∧ n ≤ Int64.maxValue.toInt then some (.int n, rest) else none

def hexadecimal (cs : List Char) : Parsed :=
  let digits := cs.takeWhile isHexDigit
  ((hex? digits).filter (· < UInt32.size)).map fun n => (.int n, cs.drop digits.length)

def unsigned (negative : Bool) (cs : List Char) : Parsed :=
  match dropLead "Infinity".toList cs, dropLead "NaN".toList cs with
  | some rest, _ => some (.fraction, rest)
  | _, some rest => some (.fraction, rest)
  | none, none => decimal negative cs

def number : List Char → Parsed
  | '0' :: 'x' :: rest => hexadecimal rest
  | '0' :: 'X' :: rest => hexadecimal rest
  | '-' :: rest => unsigned true rest
  | '+' :: rest => decimal false rest
  | cs => unsigned false cs

def words : List (String × Json) :=
  [("null", .null), ("true", .bool true), ("false", .bool false)]

def word? (cs : List Char) : Parsed :=
  words.findSome? fun (word, value) =>
    (dropLead word.toList cs).map fun rest => (value, rest)

mutual

/-- A value; `limit` is reached by none, since each step takes a character. -/
def scanValue : (limit : Nat) → List Char → Parsed
  | 0, _ => none
  | _ + 1, [] => none
  | limit + 1, c :: rest =>
    if c = '[' then (scanItems limit rest []).map fun (items, rest) => (.arr items, rest)
    else if c = '\x7b' then
      (scanPairs limit rest []).map fun (entries, rest) => (.obj entries, rest)
    else if isQuote c then
      (textOf (scanString c rest)).map fun (text, rest) => (.str text, rest)
    else (word? (c :: rest)).or (number (c :: rest))

def scanItems : (limit : Nat) → List Char → List Json → Option (List Json × List Char)
  | 0, _, _ => none
  | limit + 1, cs, items =>
    match skip .outside cs with
    | none => none
    | some (']' :: rest) => some (items.reverse, rest)
    | some cs =>
      match scanValue limit cs with
      | none => none
      | some (item, rest) =>
        match skip .outside rest with
        | some (',' :: rest) => scanItems limit rest (item :: items)
        | some (']' :: rest) => some ((item :: items).reverse, rest)
        | _ => none

def scanPairs : (limit : Nat) → List Char → List (String × Json) →
    Option (List (String × Json) × List Char)
  | 0, _, _ => none
  | limit + 1, cs, entries =>
    match skip .outside cs with
    | none => none
    | some ('\x7d' :: rest) => some (entries.reverse, rest)
    | some cs =>
      match scanEntry limit cs with
      | none => none
      | some (entry, rest) =>
        match skip .outside rest with
        | some (',' :: rest) => scanPairs limit rest (entry :: entries)
        | some ('\x7d' :: rest) => some ((entry :: entries).reverse, rest)
        | _ => none

def scanEntry : (limit : Nat) → List Char → Option ((String × Json) × List Char)
  | 0, _ => none
  | limit + 1, cs => do
    let (key, rest) ← scanKey cs
    let rest ← dropLead [':'] (← skip .outside rest)
    let (value, rest) ← scanValue limit (← skip .outside rest)
    return ((key, value), rest)

end

def parse? (text : String) : Option Json := do
  let cs ← skip .outside text.toList
  let (value, rest) ← scanValue (4 * cs.length + 1) cs
  if (← skip .outside rest).isEmpty then return value else none

end DomainRegistry.Json5
