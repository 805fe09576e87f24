/-!
Plain text as lists of characters: blanks, trimming, splitting, and the decimal and hexadecimal
readings that list files, amounts and identifiers share.
-/

namespace DomainRegistry.Text

/-- A character with the Unicode property White_Space. -/
def isBlank (c : Char) : Bool :=
  let n := c.toNat
  (9 ≤ n && n ≤ 13) || n == 32 || n == 0x85 || n == 0xA0 || n == 0x1680
    || (0x2000 ≤ n && n ≤ 0x200A) || n == 0x2028 || n == 0x2029 || n == 0x202F
    || n == 0x205F || n == 0x3000

def trimLeft (cs : List Char) : List Char := cs.dropWhile isBlank

def trimRight (cs : List Char) : List Char := (cs.reverse.dropWhile isBlank).reverse

def trim (cs : List Char) : List Char := trimRight (trimLeft cs)

def splitOnce (sep : Char) : List Char → Option (List Char × List Char)
  | [] => none
  | c :: cs =>
    if c = sep then some ([], cs)
    else (splitOnce sep cs).map fun (before, after) => (c :: before, after)

/-- The parts between the separators: always at least one, possibly empty. -/
def splitAll (sep : Char) : List Char → List (List Char)
  | [] => [[]]
  | c :: cs =>
    if c = sep then [] :: splitAll sep cs
    else
      match splitAll sep cs with
      | [] => [[c]]
      | part :: parts => (c :: part) :: parts

def dropLead : (lead cs : List Char) → Option (List Char)
  | [], cs => some cs
  | _ :: _, [] => none
  | p :: ps, c :: cs => if p = c then dropLead ps cs else none

def dropTail (tail cs : List Char) : Option (List Char) :=
  (dropLead tail.reverse cs.reverse).map List.reverse

def splitAtMarker (marker : List Char) : List Char → Option (List Char × List Char)
  | [] => if marker.isEmpty then some ([], []) else none
  | c :: cs =>
    match dropLead marker (c :: cs) with
    | some rest => some ([], rest)
    | none => (splitAtMarker marker cs).map fun (before, after) => (c :: before, after)

def dropCarriageReturn (line : List Char) : List Char :=
  (dropTail ['\r'] line).getD line

/--
Lines end with a line feed, or a carriage return and a line feed; text after the last line feed is
a line of its own unless it is empty.
-/
def lines (cs : List Char) : List (List Char) :=
  let parts := splitAll '\n' cs
  parts.dropLast.map dropCarriageReturn
    ++ (match parts.getLast? with
        | some last => if last.isEmpty then [] else [last]
        | none => [])

def numberedLines (cs : List Char) : List (Nat × List Char) :=
  (lines cs).zipIdx.map fun (line, index) => (index + 1, line)

def isUpperAscii (c : Char) : Bool := 'A' ≤ c && c ≤ 'Z'

def isLowerAscii (c : Char) : Bool := 'a' ≤ c && c ≤ 'z'

def isLetterAscii (c : Char) : Bool := isUpperAscii c || isLowerAscii c

def isDigitAscii (c : Char) : Bool := '0' ≤ c && c ≤ '9'

def isAscii (c : Char) : Bool := c.toNat < 128

/-- ASCII letters in upper case, everything else unchanged. -/
def upper (s : String) : String := String.ofList (s.toList.map Char.toUpper)

def lower (s : String) : String := String.ofList (s.toList.map Char.toLower)

def sameIgnoringCase (s t : String) : Bool :=
  s.toList.map Char.toLower == t.toList.map Char.toLower

def digitValue (c : Char) : Nat := c.toNat - 48

def decimalValue (cs : List Char) : Nat := cs.foldl (fun n c => 10 * n + digitValue c) 0

def decimal? (cs : List Char) : Option Nat :=
  if cs.isEmpty || !cs.all isDigitAscii then none else some (decimalValue cs)

def hexDigitValue? (c : Char) : Option Nat :=
  if isDigitAscii c then some (c.toNat - 48)
  else if 'a' ≤ c && c ≤ 'f' then some (c.toNat - 97 + 10)
  else if 'A' ≤ c && c ≤ 'F' then some (c.toNat - 65 + 10)
  else none

def isHexDigit (c : Char) : Bool := (hexDigitValue? c).isSome

def hex? (cs : List Char) : Option Nat :=
  if cs.isEmpty then none
  else cs.foldl (fun n? c => n?.bind fun n => (hexDigitValue? c).map (16 * n + ·)) (some 0)

/-- Hexadecimal digits of either case after an optional plus sign, below `limit`. -/
def boundedHex? (limit : Nat) (cs : List Char) : Option Nat :=
  match cs with
  | '+' :: digits => (hex? digits).filter (· < limit)
  | digits => (hex? digits).filter (· < limit)

def boundedDecimal? (limit : Nat) (cs : List Char) : Option Nat :=
  match cs with
  | '+' :: digits => (decimal? digits).filter (· < limit)
  | digits => (decimal? digits).filter (· < limit)

def hexLower (n : Nat) : List Char := Nat.toDigits 16 n

def hexUpper (n : Nat) : List Char := (Nat.toDigits 16 n).map Char.toUpper

def padZeros (width : Nat) (cs : List Char) : List Char :=
  List.replicate (width - cs.length) '0' ++ cs

def join (sep : String) (parts : List String) : String := sep.intercalate parts

end DomainRegistry.Text
