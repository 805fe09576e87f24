import DomainRegistry.Text.Basic

/-!
Sets of named bits and their text: the names with bars between them, bits without a name last as
one hexadecimal number. The names are given from the lowest bit up.
-/

namespace DomainRegistry.Flags

open Text

def hexMark : List Char := ['0', 'x']

def namesOf : (names : List String) → (bits : Nat) → List String
  | [], _ => []
  | name :: names, bits => (if bits % 2 = 1 then [name] else []) ++ namesOf names (bits / 2)

def nameless (names : List String) (bits : Nat) : Nat :=
  bits / Nat.pow 2 names.length * Nat.pow 2 names.length

def render (names : List String) (bits : Nat) : String :=
  let rest := nameless names bits
  join " | " (namesOf names bits
    ++ if rest = 0 then [] else [String.ofList (hexMark ++ hexLower rest)])

def bitOf? : (names : List String) → (bit : Nat) → (name : String) → Option Nat
  | [], _, _ => none
  | known :: names, bit, name => if name = known then some bit else bitOf? names (2 * bit) name

def part? (names : List String) (limit : Nat) (part : List Char) : Option Nat :=
  match dropLead hexMark part with
  | some digits => boundedHex? limit digits
  | none => bitOf? names 1 (String.ofList part)

/-- The bits of a text below `limit`; a blank text has none. -/
def parse? (names : List String) (limit : Nat) (text : String) : Option Nat :=
  if (trim text.toList).isEmpty then some 0
  else
    ((splitAll '|' text.toList).mapM fun part => part? names limit (trim part)).map
      fun parts => parts.foldl (· ||| ·) 0

end DomainRegistry.Flags
