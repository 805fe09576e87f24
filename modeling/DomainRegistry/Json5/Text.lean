import DomainRegistry.Text.Alphanumeric
import DomainRegistry.Text.Basic

/-!
The characters of JSON5 documents: what may be skipped between values, strings in either quotes,
and names without quotes.
-/

namespace DomainRegistry.Json5

open Text

def isLineEnd (c : Char) : Bool :=
  c == '\n' || c == '\r' || c.toNat == 0x2028 || c.toNat == 0x2029

def isSpace (c : Char) : Bool :=
  (isBlank c && c.toNat != 0x85) || c == '\ufeff'

inductive Comment where
  | outside
  | line
  | block

/-- Skips spaces and comments; a comment between marks has to end. -/
def skip : Comment → List Char → Option (List Char)
  | .block, '*' :: '/' :: rest => skip .outside rest
  | .block, _ :: rest => skip .block rest
  | .block, [] => none
  | .line, c :: rest => skip (if isLineEnd c then .outside else .line) rest
  | .line, [] => some []
  | .outside, '/' :: '/' :: rest => skip .line rest
  | .outside, '/' :: '*' :: rest => skip .block rest
  | .outside, c :: rest => if isSpace c then skip .outside rest else some (c :: rest)
  | .outside, [] => some []

/-- A part of a string: a character, or a number of 16 bits that stands for one or half of one. -/
inductive Part where
  | char (c : Char)
  | unit (n : Nat)

abbrev Scanned := Option (List Part × List Char)

def cons (part : Option Part) (rest : Scanned) : Scanned := do
  let part ← part
  let (parts, after) ← rest
  return (part :: parts, after)

def escaped? : Char → Option Char
  | 'b' => some '\x08'
  | 'f' => some '\x0c'
  | 'n' => some '\n'
  | 'r' => some '\r'
  | 't' => some '\t'
  | 'v' => some '\x0b'
  | '0' => some '\x00'
  | c => if isDigitAscii c || c == 'x' || c == 'u' then none else some c

/-- A string after its opening quote; a backslash takes a line end out of it. -/
def scanString (quote : Char) : List Char → Scanned
  | [] => none
  | '\\' :: 'u' :: a :: b :: c :: d :: rest =>
    cons ((hex? [a, b, c, d]).map .unit) (scanString quote rest)
  | '\\' :: 'x' :: a :: b :: rest =>
    cons ((hex? [a, b]).map fun n => .char (Char.ofNat n)) (scanString quote rest)
  | '\\' :: '\r' :: '\n' :: rest => scanString quote rest
  | '\\' :: c :: rest =>
    if isLineEnd c then scanString quote rest
    else cons ((escaped? c).map .char) (scanString quote rest)
  | c :: rest =>
    if c = quote then some ([], rest)
    else if c = '\\' || isLineEnd c then none
    else cons (some (.char c)) (scanString quote rest)

def isNameStart (c : Char) : Bool :=
  isLetterAscii c || c == '$' || c == '_' || (!isAscii c && isAlphanumeric c)

def isNamePart (c : Char) : Bool :=
  isNameStart c || isDigitAscii c || c.toNat == 0x200C || c.toNat == 0x200D

def scanNameRest : List Char → List Part × List Char
  | '\\' :: 'u' :: a :: b :: c :: d :: rest =>
    match hex? [a, b, c, d] with
    | some n => let (parts, after) := scanNameRest rest; (.unit n :: parts, after)
    | none => ([], '\\' :: 'u' :: a :: b :: c :: d :: rest)
  | c :: rest =>
    if isNamePart c then let (parts, after) := scanNameRest rest; (.char c :: parts, after)
    else ([], c :: rest)
  | [] => ([], [])

def isHigh (n : Nat) : Bool := 0xD800 ≤ n && n < 0xDC00

def isLow (n : Nat) : Bool := 0xDC00 ≤ n && n < 0xE000

/-- The characters of parts, of which halves stand in pairs. -/
def joined? : List Part → Option (List Char)
  | [] => some []
  | .char c :: parts => (joined? parts).map (c :: ·)
  | .unit m :: .unit n :: parts =>
    if isHigh m then
      if isLow n then
        (joined? parts).map (Char.ofNat (0x10000 + (m - 0xD800) * 0x400 + (n - 0xDC00)) :: ·)
      else none
    else if isLow m then none
    else (joined? (.unit n :: parts)).map (Char.ofNat m :: ·)
  | .unit m :: parts =>
    if isHigh m || isLow m then none else (joined? parts).map (Char.ofNat m :: ·)

def isQuote (c : Char) : Bool := c.toNat == 34 || c == '\x27'

def textOf (scanned : Scanned) : Option (String × List Char) := do
  let (parts, rest) ← scanned
  return (String.ofList (← joined? parts), rest)

def scanKey : List Char → Option (String × List Char)
  | [] => none
  | c :: rest =>
    if isQuote c then textOf (scanString c rest)
    else if isNameStart c || (c = '\\' && !(scanNameRest (c :: rest)).1.isEmpty) then
      textOf (some (scanNameRest (c :: rest)))
    else none

end DomainRegistry.Json5
