import DomainRegistry.Text.Basic

/-!
The characters of TOML documents: what may be skipped between values, and the four kinds of
strings. A scan yields what it read and the text after it.
-/

namespace DomainRegistry.Toml

open Text

def isSpace (c : Char) : Bool := c == ' ' || c == '\t'

def isControl (c : Char) : Bool := (c.toNat < 32 && c != '\t') || c.toNat == 127

def skipSpaces (cs : List Char) : List Char := cs.dropWhile isSpace

def skipFiller : (comment : Bool) → List Char → Option (List Char)
  | _, [] => some []
  | _, '\n' :: rest => skipFiller false rest
  | _, '\r' :: '\n' :: rest => skipFiller false rest
  | true, c :: rest => if isControl c then none else skipFiller true rest
  | false, c :: rest =>
    if isSpace c then skipFiller false rest
    else if c = '#' then skipFiller true rest
    else some (c :: rest)

def skipToLineEnd : (comment : Bool) → List Char → Option (List Char)
  | _, [] => some []
  | _, '\n' :: rest => some rest
  | _, '\r' :: '\n' :: rest => some rest
  | true, c :: rest => if isControl c then none else skipToLineEnd true rest
  | false, c :: rest =>
    if isSpace c then skipToLineEnd false rest
    else if c = '#' then skipToLineEnd true rest
    else none

def quote : Char := Char.ofNat 34

def escaped? (c : Char) : Option Char :=
  if c = quote then some quote
  else if c = '\\' then some '\\'
  else if c = 'b' then some '\x08'
  else if c = 't' then some '\t'
  else if c = 'n' then some '\n'
  else if c = 'f' then some '\x0c'
  else if c = 'r' then some '\r'
  else if c = 'e' then some '\x1b'
  else none

def named? (digits : List Char) : Option Char :=
  (hex? digits).bind fun n => if n.isValidChar then some (Char.ofNat n) else none

abbrev Scanned := Option (List Char × List Char)

def consScanned (c : Option Char) (rest : Scanned) : Scanned := do
  let c ← c
  let (cs, after) ← rest
  return (c :: cs, after)

def scanBasic : List Char → Scanned
  | [] => none
  | '\\' :: 'x' :: a :: b :: rest => consScanned (named? [a, b]) (scanBasic rest)
  | '\\' :: 'u' :: a :: b :: c :: d :: rest => consScanned (named? [a, b, c, d]) (scanBasic rest)
  | '\\' :: 'U' :: a :: b :: c :: d :: e :: f :: g :: h :: rest =>
    consScanned (named? [a, b, c, d, e, f, g, h]) (scanBasic rest)
  | '\\' :: c :: rest => consScanned (escaped? c) (scanBasic rest)
  | c :: rest =>
    if c = quote then some ([], rest)
    else if c = '\\' || isControl c then none
    else consScanned (some c) (scanBasic rest)

def scanLiteral : List Char → Scanned
  | [] => none
  | c :: rest =>
    if c = '\x27' then some ([], rest)
    else if isControl c then none
    else consScanned (some c) (scanLiteral rest)

/-- Three quotes, of which up to two more before them belong to the string. -/
def closing? (mark : Char) : List Char → Scanned
  | a :: b :: c :: d :: e :: rest =>
    if a = mark && b = mark && c = mark then
      if d = mark then
        if e = mark then some ([mark, mark], rest) else some ([mark], e :: rest)
      else some ([], d :: e :: rest)
    else none
  | [a, b, c, d] =>
    if a = mark && b = mark && c = mark then
      if d = mark then some ([mark], []) else some ([], [d])
    else none
  | [a, b, c] => if a = mark && b = mark && c = mark then some ([], []) else none
  | _ => none

def atLineEnd (cs : List Char) : Bool :=
  match skipSpaces cs with
  | '\n' :: _ => true
  | '\r' :: '\n' :: _ => true
  | _ => false

/--
A string of many lines, after its opening quotes. A backslash at the end of a line takes the blanks
after it out of the string.
-/
def scanManyBasic : (trimming : Bool) → List Char → Scanned
  | _, [] => none
  | true, '\n' :: rest => scanManyBasic true rest
  | true, ' ' :: rest => scanManyBasic true rest
  | true, '\t' :: rest => scanManyBasic true rest
  | true, '\r' :: '\n' :: rest => scanManyBasic true rest
  | _, '\r' :: '\n' :: rest => consScanned (some '\n') (scanManyBasic false rest)
  | _, '\\' :: 'x' :: a :: b :: rest => consScanned (named? [a, b]) (scanManyBasic false rest)
  | _, '\\' :: 'u' :: a :: b :: c :: d :: rest =>
    consScanned (named? [a, b, c, d]) (scanManyBasic false rest)
  | _, '\\' :: 'U' :: a :: b :: c :: d :: e :: f :: g :: h :: rest =>
    consScanned (named? [a, b, c, d, e, f, g, h]) (scanManyBasic false rest)
  | _, '\\' :: c :: rest =>
    if atLineEnd (c :: rest) then scanManyBasic true (c :: rest)
    else consScanned (escaped? c) (scanManyBasic false rest)
  | _, c :: rest =>
    match closing? quote (c :: rest) with
    | some found => some found
    | none =>
      if c = '\\' || (isControl c && c != '\n') then none
      else consScanned (some c) (scanManyBasic false rest)

def scanManyLiteral : List Char → Scanned
  | [] => none
  | '\r' :: '\n' :: rest => consScanned (some '\n') (scanManyLiteral rest)
  | c :: rest =>
    match closing? '\x27' (c :: rest) with
    | some found => some found
    | none =>
      if isControl c && c != '\n' then none
      else consScanned (some c) (scanManyLiteral rest)

/-- A line end right after the opening quotes is no part of the string. -/
def dropFirstLineEnd : List Char → List Char
  | '\n' :: rest => rest
  | '\r' :: '\n' :: rest => rest
  | cs => cs

def scanString (cs : List Char) : Scanned :=
  match dropLead [quote, quote, quote] cs, dropLead ['\x27', '\x27', '\x27'] cs with
  | some rest, _ => scanManyBasic false (dropFirstLineEnd rest)
  | _, some rest => scanManyLiteral (dropFirstLineEnd rest)
  | none, none =>
    match cs with
    | c :: rest =>
      if c = quote then scanBasic rest else if c = '\x27' then scanLiteral rest else none
    | [] => none

def isBareKeyChar (c : Char) : Bool := isLetterAscii c || isDigitAscii c || c == '_' || c == '-'

def scanKeyPart (cs : List Char) : Scanned :=
  match cs with
  | [] => none
  | c :: rest =>
    if c = quote then scanBasic rest
    else if c = '\x27' then scanLiteral rest
    else
      let name := cs.takeWhile isBareKeyChar
      if name.isEmpty then none else some (name, cs.dropWhile isBareKeyChar)

/-- How many parts a key may have, and how deep values may nest. -/
def maxNesting : Nat := 80

def scanParts : (limit : Nat) → List Char → Option (List String × List Char)
  | 0, _ => none
  | limit + 1, cs => do
    let (part, rest) ← scanKeyPart (skipSpaces cs)
    match skipSpaces rest with
    | '.' :: rest =>
      let (parts, rest) ← scanParts limit rest
      return (String.ofList part :: parts, rest)
    | rest => return ([String.ofList part], rest)

def scanKey (cs : List Char) : Option (List String × List Char) := scanParts maxNesting cs

end DomainRegistry.Toml
