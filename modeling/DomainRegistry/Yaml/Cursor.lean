import DomainRegistry.Text.Basic

/-!
A place in a YAML document: the characters that are left, and where they stand in their line.
-/

namespace DomainRegistry.Yaml

def isBlank (c : Char) : Bool := c == ' ' || c == '\t'

def isBreak (c : Char) : Bool := c == '\n' || c == '\r'

def isFlow (c : Char) : Bool := ",[]\x7b\x7d".toList.contains c

def startsBreak : List Char → Bool
  | [] => true
  | c :: _ => isBreak c

def startsGap : List Char → Bool
  | [] => true
  | c :: _ => isBlank c || isBreak c

def startsFlow : List Char → Bool
  | [] => false
  | c :: _ => isFlow c

/-- Three hyphens or points that are a word by themselves. -/
def startsIndicator (mark : Char) : List Char → Bool
  | a :: b :: c :: rest => a == mark && b == mark && c == mark && startsGap rest
  | _ => false

structure Cursor where
  rest : List Char
  /-- How many characters stand before. -/
  index : Nat := 0
  line : Nat := 0
  column : Nat := 0
  /-- Whether only blanks stand before in the line. -/
  leading : Bool := true

namespace Cursor

def head? (c : Cursor) : Option Char := c.rest.head?

def atBreak (c : Cursor) : Bool := startsBreak c.rest

def atIndicator (c : Cursor) : Bool :=
  c.column == 0 && (startsIndicator '-' c.rest || startsIndicator '.' c.rest)

def skipBlanks (c : Cursor) (n : Nat) : Cursor :=
  { c with rest := c.rest.drop n, index := c.index + n, column := c.column + n }

def advance (c : Cursor) (n : Nat) : Cursor :=
  { c.skipBlanks n with leading := n == 0 && c.leading }

def skipBreak (c : Cursor) : Cursor :=
  let n := match c.rest with
    | '\r' :: '\n' :: _ => 2
    | _ => 1
  { rest := c.rest.drop n, index := c.index + n, line := c.line + 1, column := 0, leading := true }

def skipLine (c : Cursor) : Cursor := c.advance (c.rest.takeWhile fun d => !isBreak d).length

structure Skipped where
  cursor : Cursor
  tab : Bool := false
  space : Bool := false

/-- Skips blanks and then a comment, which has to stand after a blank. -/
def skipToLineEnd (c : Cursor) (tabs : Bool) : Option Skipped :=
  let blanks := c.rest.takeWhile fun d => d == ' ' || (tabs && d == '\t')
  let after := c.skipBlanks blanks.length
  if after.head? = some '#' then
    if blanks.isEmpty then none
    else some ⟨after.skipLine, blanks.contains '\t', blanks.contains ' '⟩
  else some ⟨after, blanks.contains '\t', blanks.contains ' '⟩

def skipEmptyLine (c : Cursor) : Option Cursor := do
  let s ← c.skipToLineEnd true
  if s.cursor.atBreak then return s.cursor else none

end Cursor

end DomainRegistry.Yaml
