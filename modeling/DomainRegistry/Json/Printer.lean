import DomainRegistry.Json.Basic
import DomainRegistry.Json.Token

/-!
Writing JSON, on one line without blanks or over many lines with an indent of two.
-/

namespace DomainRegistry.Json

open Text

def escape (c : Char) : List Char :=
  if c = quote then ['\\', quote]
  else if c = '\\' then ['\\', '\\']
  else if c = '\x08' then ['\\', 'b']
  else if c = '\x0c' then ['\\', 'f']
  else if c = '\n' then ['\\', 'n']
  else if c = '\r' then ['\\', 'r']
  else if c = '\t' then ['\\', 't']
  else if c.toNat < 32 then ['\\', 'u'] ++ padZeros 4 (hexLower c.toNat)
  else [c]

def writeString (s : String) : List Char := quote :: s.toList.flatMap escape ++ [quote]

def writeScalar : Json → List Char
  | null => ['n', 'u', 'l', 'l']
  | bool true => ['t', 'r', 'u', 'e']
  | bool false => ['f', 'a', 'l', 's', 'e']
  | int n => (toString n).toList
  | fraction => ['0', '.', '0']
  | str s => writeString s
  | unreadable => [quote, '\\', 'u', 'd', '8', '0', '0', quote]
  | arr _ => []
  | obj _ => []

mutual

def write : Json → List Char
  | arr [] => ['[', ']']
  | arr (item :: items) => '[' :: write item ++ writeItems items
  | obj [] => ['\x7b', '\x7d']
  | obj ((key, value) :: entries) =>
    '\x7b' :: writeString key ++ ':' :: write value ++ writeEntries entries
  | scalar => writeScalar scalar

def writeItems : List Json → List Char
  | [] => [']']
  | item :: items => ',' :: write item ++ writeItems items

def writeEntries : List (String × Json) → List Char
  | [] => ['\x7d']
  | (key, value) :: entries => ',' :: writeString key ++ ':' :: write value ++ writeEntries entries

end

def newline (depth : Nat) : List Char := '\n' :: List.replicate (2 * depth) ' '

mutual

def writeIndented (depth : Nat) : Json → List Char
  | arr [] => ['[', ']']
  | arr (item :: items) =>
    '[' :: newline (depth + 1) ++ writeIndented (depth + 1) item ++ writeIndentedItems depth items
  | obj [] => ['\x7b', '\x7d']
  | obj ((key, value) :: entries) =>
    '\x7b' :: newline (depth + 1) ++ writeString key ++ ':' :: ' '
      :: writeIndented (depth + 1) value ++ writeIndentedEntries depth entries
  | scalar => writeScalar scalar

def writeIndentedItems (depth : Nat) : List Json → List Char
  | [] => newline depth ++ [']']
  | item :: items =>
    ',' :: newline (depth + 1) ++ writeIndented (depth + 1) item ++ writeIndentedItems depth items

def writeIndentedEntries (depth : Nat) : List (String × Json) → List Char
  | [] => newline depth ++ ['\x7d']
  | (key, value) :: entries =>
    ',' :: newline (depth + 1) ++ writeString key ++ ':' :: ' '
      :: writeIndented (depth + 1) value ++ writeIndentedEntries depth entries

end

def render (j : Json) : String := String.ofList (write j)

def renderIndented (j : Json) : String := String.ofList (writeIndented 0 j)

end DomainRegistry.Json
