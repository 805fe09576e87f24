import DomainRegistry.Text.Alphanumeric
import DomainRegistry.Text.Basic

/-!
The characters of RON documents: what may be skipped between values, identifiers, strings and single
characters.
-/

namespace DomainRegistry.Ron

open Text

def isSpace (c : Char) : Bool :=
  let n := c.toNat
  n == 32 || (9 ≤ n && n ≤ 13) || n == 0x85 || n == 0x200E || n == 0x200F || n == 0x2028
    || n == 0x2029

inductive Comment where
  | outside
  | line
  /-- A comment between marks, with others in it. -/
  | block (nesting : Nat)

def skip : Comment → List Char → Option (List Char)
  | .block n, '/' :: '*' :: rest => skip (.block (n + 1)) rest
  | .block 0, '*' :: '/' :: rest => skip .outside rest
  | .block (n + 1), '*' :: '/' :: rest => skip (.block n) rest
  | .block n, _ :: rest => skip (.block n) rest
  | .block _, [] => none
  | .line, c :: rest => skip (if c = '\n' then .outside else .line) rest
  | .line, [] => some []
  | .outside, '/' :: '/' :: rest => skip .line rest
  | .outside, '/' :: '*' :: rest => skip (.block 0) rest
  | .outside, c :: rest => if isSpace c then skip .outside rest else some (c :: rest)
  | .outside, [] => some []

/-- Skips spaces and, among them, a comma if there is one, and tells whether there was. -/
def skipComma (cs : List Char) : Option (Bool × List Char) := do
  match ← skip .outside cs with
  | ',' :: rest => return (true, ← skip .outside rest)
  | rest => return (false, rest)

def isNameStart (c : Char) : Bool :=
  isLetterAscii c || c == '_' || (!isAscii c && isAlphanumeric c)

def isNamePart (c : Char) : Bool := isNameStart c || isDigitAscii c

def isRawPart (c : Char) : Bool := isNamePart c || c == '.' || c == '+' || c == '-'

def quote : Char := Char.ofNat 34

def scanName : List Char → Option (List Char × List Char)
  | 'r' :: '#' :: rest =>
    let name := rest.takeWhile isRawPart
    if name.isEmpty then none else some (name, rest.drop name.length)
  | c :: rest =>
    if !isNameStart c || (c = 'r' && rest.head? = some quote) then none
    else
      let more := rest.takeWhile isNamePart
      some (c :: more, rest.drop more.length)
  | [] => none

def named? (digits : List Char) : Option Char :=
  (hex? digits).bind fun n => if n.isValidChar then some (Char.ofNat n) else none

def escaped? (c : Char) : Option Char :=
  if c = quote || c = '\\' || c = '\x27' then some c
  else if c = 'n' then some '\n'
  else if c = 'r' then some '\r'
  else if c = 't' then some '\t'
  else if c = '0' then some '\x00'
  else none

def scanEscape : List Char → Option (Char × List Char)
  | 'x' :: a :: b :: rest => (named? [a, b]).map fun c => (c, rest)
  | 'u' :: '\x7b' :: rest =>
    let digits := rest.takeWhile isHexDigit
    match rest.drop digits.length with
    | '\x7d' :: rest =>
      if digits.length ≤ 6 then (named? digits).map fun c => (c, rest) else none
    | _ => none
  | c :: rest => (escaped? c).map fun c => (c, rest)
  | [] => none

/-- A string after its opening quote; each step takes a character, so `limit` is reached by none. -/
def scanString : (limit : Nat) → List Char → Option (List Char × List Char)
  | 0, _ => none
  | _, [] => none
  | limit + 1, c :: rest =>
    if c = quote then some ([], rest)
    else do
      let (c, rest) ← if c = '\\' then scanEscape rest else some (c, rest)
      let (text, rest) ← scanString limit rest
      return (c :: text, rest)

/-- A string without escapes after its letter: as many marks as stand before it end it. -/
def scanRaw (cs : List Char) : Option (List Char × List Char) :=
  let marks := cs.takeWhile (· == '#')
  match cs.drop marks.length with
  | c :: rest => if c = quote then splitAtMarker (quote :: marks) rest else none
  | [] => none

def scanChar : List Char → Option (Char × List Char)
  | '\\' :: rest => do
    let (c, rest) ← scanEscape rest
    return (c, ← dropLead ['\x27'] rest)
  | c :: '\x27' :: rest => some (c, rest)
  | _ => none

end DomainRegistry.Ron
