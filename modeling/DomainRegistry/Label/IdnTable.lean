import DomainRegistry.Text.Basic

/-!
Tables of the characters that internationalized labels may be made of.
-/

namespace DomainRegistry

structure IdnTable where
  name : String
  /-- First and last code point of each block. -/
  ranges : List (Nat × Nat)
  deriving DecidableEq

namespace IdnTable

def ascii : List (Nat × Nat) := [(0x61, 0x7A), (0x30, 0x39), (0x2D, 0x2D)]

def extendedLatin : IdnTable :=
  ⟨"extended_latin", ascii ++ [(0xDF, 0xF6), (0xF8, 0xFF), (0x100, 0x17F)]⟩

def japanese : IdnTable :=
  ⟨"ja", ascii ++ [(0x3005, 0x3005), (0x3041, 0x3096), (0x309D, 0x309E), (0x30A1, 0x30FA),
    (0x30FC, 0x30FE), (0x4E00, 0x9FFF)]⟩

def all : List IdnTable := [extendedLatin, japanese]

def named? (name : String) : Option IdnTable := all.find? fun t => t.name == name

def hasChar (t : IdnTable) (c : Char) : Bool :=
  t.ranges.any fun (first, last) => decide (first ≤ c.toNat ∧ c.toNat ≤ last)

def accepts (t : IdnTable) (label : String) : Bool := label.toList.all t.hasChar

/-- The first of the named tables that accepts a label; unknown names are passed over. -/
def find? (label : String) (names : List String) : Option IdnTable :=
  (names.filterMap named?).find? fun t => t.accepts label

end IdnTable

end DomainRegistry
