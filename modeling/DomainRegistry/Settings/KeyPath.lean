import DomainRegistry.Text.Basic

/-!
Where a setting goes: keys with points between them, and places in arrays in square brackets.
-/

namespace DomainRegistry.Settings

open Text

inductive KeyStep where
  | key (name : String)
  /-- A place in an array; a negative one is counted from its end. -/
  | place (n : Int)
  deriving DecidableEq

abbrev KeyPath := List KeyStep

namespace KeyPath

def isNameChar (c : Char) : Bool := isLetterAscii c || isDigitAscii c || c == '_' || c == '-'

def isSpace (c : Char) : Bool := c == ' ' || c == '\t'

def scanName (cs : List Char) : Option (KeyStep × List Char) :=
  let name := cs.takeWhile isNameChar
  if name.isEmpty then none else some (.key (String.ofList name), cs.dropWhile isNameChar)

def scanPlace (cs : List Char) : Option (KeyStep × List Char) :=
  let cs := cs.dropWhile isSpace
  let (negative, cs) := match cs with
    | '-' :: rest => (true, rest)
    | rest => (false, rest)
  let digits := cs.takeWhile isDigitAscii
  let n := decimalValue digits
  match (cs.drop digits.length).dropWhile isSpace with
  | ']' :: rest =>
    if digits.isEmpty || n ≥ Nat.pow 2 63 then none
    else some (.place (if negative then -n else n), rest)
  | _ => none

/-- The steps after the first; each takes at least one character, so `limit` is reached by none. -/
def scanSteps : (limit : Nat) → List Char → Option KeyPath
  | _, [] => some []
  | 0, _ => none
  | limit + 1, '.' :: rest => do
    let (step, rest) ← scanName rest
    return step :: (← scanSteps limit rest)
  | limit + 1, '[' :: rest => do
    let (step, rest) ← scanPlace rest
    return step :: (← scanSteps limit rest)
  | _, _ => none

/-- The path that a key spells; a key of another form is a path by itself. -/
def ofKey (key : String) : KeyPath :=
  let path := do
    let (first, rest) ← scanName key.toList
    return first :: (← scanSteps rest.length rest)
  path.getD [.key key]

end KeyPath

end DomainRegistry.Settings
