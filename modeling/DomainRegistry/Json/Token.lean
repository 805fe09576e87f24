import DomainRegistry.Bytes.Basic
import DomainRegistry.Json.Number

/-!
The tokens of a JSON text.
-/

namespace DomainRegistry.Json

open Text

inductive Token where
  | openArray
  | closeArray
  | openObject
  | closeObject
  | comma
  | colon
  | null
  | bool (value : Bool)
  | int (value : Int)
  | fraction
  | str (text : String)
  /-- A string that is no text. -/
  | garbled
  | outOfRange
  deriving DecidableEq

def quote : Char := Char.ofNat 34

def isJsonBlank (c : Char) : Bool := c == ' ' || c == '\t' || c == '\n' || c == '\r'

/-- A character of a string, or half of one that an escape names by its UTF-16 unit. -/
inductive Piece where
  | char (c : Char)
  | unit (n : Nat)

def simpleEscape? (c : Char) : Option Char :=
  if c = quote then some quote
  else if c = '\\' then some '\\'
  else if c = '/' then some '/'
  else if c = 'b' then some '\x08'
  else if c = 'f' then some '\x0c'
  else if c = 'n' then some '\n'
  else if c = 'r' then some '\r'
  else if c = 't' then some '\t'
  else none

def scanPieces : List Char → Option (List Piece × List Char)
  | [] => none
  | '\\' :: 'u' :: a :: b :: c :: d :: rest =>
    match hex? [a, b, c, d], scanPieces rest with
    | some n, some (pieces, after) => some (.unit n :: pieces, after)
    | _, _ => none
  | '\\' :: e :: rest =>
    match simpleEscape? e, scanPieces rest with
    | some c, some (pieces, after) => some (.char c :: pieces, after)
    | _, _ => none
  | c :: rest =>
    if c = quote then some ([], rest)
    else if c = '\\' ∨ c.toNat < 32 then none
    else (scanPieces rest).map fun (pieces, after) => (.char c :: pieces, after)

def isHighUnit (n : Nat) : Bool := 0xD800 ≤ n && n < 0xDC00

def isLowUnit (n : Nat) : Bool := 0xDC00 ≤ n && n < 0xE000

def joinUnits (high low : Nat) : Char :=
  Char.ofNat (0x10000 + (high - 0xD800) * 0x400 + (low - 0xDC00))

section

variable {α : Type} (raw named : Char → List α)

/--
What the pieces spell, given how to write characters that stand for themselves and characters that
escapes name. A half without its other half names nothing.
-/
def joinPieces : List Piece → Option (List α)
  | [] => some []
  | .char c :: rest => (joinPieces rest).map (raw c ++ ·)
  | .unit high :: .unit low :: rest =>
    if isHighUnit high then
      if isLowUnit low then (joinPieces rest).map (named (joinUnits high low) ++ ·) else none
    else if isLowUnit high then none
    else (joinPieces (.unit low :: rest)).map (named (Char.ofNat high) ++ ·)
  | .unit n :: rest =>
    if isHighUnit n || isLowUnit n then none
    else (joinPieces rest).map (named (Char.ofNat n) ++ ·)

end

abbrev Spelling := List Piece → Option String

def Spelling.ofText : Spelling := fun pieces =>
  (joinPieces (fun c => [c]) (fun c => [c]) pieces).map String.ofList

/-- For characters that stand for the bytes of a text. -/
def Spelling.ofBytes : Spelling := fun pieces =>
  (joinPieces (fun c => [UInt8.ofNat c.toNat]) (fun c => Bytes.ofString (String.singleton c))
    pieces).bind Bytes.toString?

def stringToken (spell : Spelling) (pieces : List Piece) : Token :=
  match spell pieces with
  | some text => .str text
  | none => .garbled

def isNumberChar (c : Char) : Bool :=
  isDigitAscii c || c == '-' || c == '+' || c == '.' || c == 'e' || c == 'E'

/-- The digits before a point or exponent: a zero alone, or no leading zero. -/
def wholeFits (digits : List Char) : Bool :=
  match digits with
  | [] => false
  | ['0'] => true
  | c :: _ => c != '0'

def exponentFits : List Char → Bool
  | [] => true
  | e :: rest =>
    (e == 'e' || e == 'E')
      && (let digits := match rest with
            | '+' :: ds => ds
            | '-' :: ds => ds
            | ds => ds
          !digits.isEmpty && digits.all isDigitAscii)

/-- What may follow the whole digits: a point with digits, an exponent, both or nothing. -/
def fractionFits : List Char → Bool
  | '.' :: rest =>
    let digits := rest.takeWhile isDigitAscii
    !digits.isEmpty && exponentFits (rest.drop digits.length)
  | rest => exponentFits rest

def numberToken? (cs : List Char) : Option Token :=
  let (negative, body) := match cs with
    | '-' :: rest => (true, rest)
    | rest => (false, rest)
  let whole := body.takeWhile isDigitAscii
  let rest := body.drop whole.length
  let n := decimalValue whole
  if !wholeFits whole || !fractionFits rest then none
  else if rest.isEmpty && negative && n != 0 && n ≤ Nat.pow 2 63 then some (.int (-n))
  else if rest.isEmpty && !negative && n < UInt64.size then some (.int n)
  else if (Decimal.ofText whole rest).overflows then some .outOfRange
  else some .fraction

def scanToken (spell : Spelling) : List Char → Option (Token × List Char)
  | [] => none
  | '[' :: rest => some (.openArray, rest)
  | ']' :: rest => some (.closeArray, rest)
  | '\x7b' :: rest => some (.openObject, rest)
  | '\x7d' :: rest => some (.closeObject, rest)
  | ',' :: rest => some (.comma, rest)
  | ':' :: rest => some (.colon, rest)
  | c :: rest =>
    if c = quote then (scanPieces rest).map fun (pieces, after) => (stringToken spell pieces, after)
    else if isNumberChar c then
      let digits := (c :: rest).takeWhile isNumberChar
      (numberToken? digits).map fun token => (token, (c :: rest).drop digits.length)
    else
      match dropLead ['n', 'u', 'l', 'l'] (c :: rest), dropLead ['t', 'r', 'u', 'e'] (c :: rest),
        dropLead ['f', 'a', 'l', 's', 'e'] (c :: rest) with
      | some after, _, _ => some (.null, after)
      | _, some after, _ => some (.bool true, after)
      | _, _, some after => some (.bool false, after)
      | _, _, _ => none

/-- All tokens of a text. A token takes at least one character, so the text gets shorter. -/
def tokens? (spell : Spelling) (cs : List Char) : Option (List Token) :=
  match cs with
  | [] => some []
  | c :: rest =>
    if isJsonBlank c then tokens? spell rest
    else
      match scanToken spell (c :: rest) with
      | none => none
      | some (token, after) =>
        if _ : after.length < (c :: rest).length then (tokens? spell after).map (token :: ·)
        else none
termination_by cs.length
decreasing_by
  · exact Nat.lt_succ_self _
  · assumption

end DomainRegistry.Json
