import DomainRegistry.Yaml.Cursor

/-!
What may stand before a value of YAML or before a document: anchors and tags, and directives.
-/

namespace DomainRegistry.Yaml

open Text

def isWordChar (c : Char) : Bool := isLetterAscii c || isDigitAscii c || c == '-'

def isNameChar (c : Char) : Bool := isWordChar c || c == '_'

def isUriChar (c : Char) : Bool := isWordChar c || "#;/?:@&=+$,_.!~*\x27()[]%".toList.contains c

def isTagChar (c : Char) : Bool := isUriChar c && !isFlow c && c != '!'

def isAnchorChar (c : Char) : Bool :=
  !isBlank c && !isBreak c && !isFlow c && c != '\ufeff'

abbrev Scanned := Option (List Char × Cursor)

def scanAnchor (c : Cursor) : Scanned :=
  let name := c.rest.takeWhile isAnchorChar
  if name.isEmpty then none else some (name, c.advance name.length)

def percentByte? : List Char → Option Nat
  | '%' :: a :: b :: _ => hex? [a, b]
  | _ => none

def byteCount? (first : Nat) : Option Nat :=
  if first < 0x80 then some 1
  else if 0xC0 ≤ first ∧ first < 0xE0 then some 2
  else if 0xE0 ≤ first ∧ first < 0xF0 then some 3
  else if 0xF0 ≤ first ∧ first < 0xF8 then some 4
  else none

def scanTrailing : (count : Nat) → (code : Nat) → Cursor → Option (Nat × Cursor)
  | 0, code, c => some (code, c)
  | count + 1, code, c => do
    let byte ← percentByte? c.rest
    if byte / 0x40 = 2 then scanTrailing count (code * 0x100 + byte) (c.advance 3) else none

def scanPercent (c : Cursor) : Option (Char × Cursor) := do
  let first ← percentByte? c.rest
  let count ← byteCount? first
  let (code, c) ← scanTrailing (count - 1) first (c.advance 3)
  if code.isValidChar then return (Char.ofNat code, c) else none

/-- Characters of a tag; each step takes at least one, so `limit` is reached by none. -/
def scanUri (allows : Char → Bool) : (limit : Nat) → List Char → Cursor → Scanned
  | 0, _, _ => none
  | limit + 1, text, c =>
    match c.head? with
    | none => some (text, c)
    | some d =>
      if !allows d then some (text, c)
      else if d = '%' then
        (scanPercent c).bind fun (e, c) => scanUri allows limit (text ++ [e]) c
      else scanUri allows limit (text ++ [d]) (c.advance 1)

/-- A handle: an exclamation mark, a name, and mostly another mark. -/
def scanHandle (c : Cursor) : Scanned :=
  match c.rest with
  | '!' :: rest =>
    let name := rest.takeWhile isNameChar
    let text := '!' :: name
    if (rest.drop name.length).head? = some '!' then
      some (text ++ ['!'], c.advance (text.length + 1))
    else some (text, c.advance text.length)
  | _ => none

structure Tag where
  handle : List Char
  suffix : List Char
  deriving DecidableEq

def isFullHandle (handle : List Char) : Bool :=
  2 ≤ handle.length && handle.head? = some '!' && handle.getLast? = some '!'

/-- A tag in angle brackets, with a handle, or without one. -/
def scanTag (c : Cursor) : Option (Tag × Cursor) := do
  let limit := c.rest.length + 1
  match c.rest with
  | '!' :: '<' :: _ =>
    let (suffix, c) ← scanUri isUriChar limit [] (c.advance 2)
    if c.head? = some '>' then return (⟨[], suffix⟩, c.advance 1) else none
  | _ =>
    let (handle, c) ← scanHandle c
    if isFullHandle handle then
      let (suffix, c) ← scanUri isTagChar limit [] c
      if suffix.isEmpty then none else return (⟨handle, suffix⟩, c)
    else
      let (suffix, c) ← scanUri isTagChar limit (handle.drop 1) c
      if suffix.isEmpty then return (⟨[], ['!']⟩, c) else return (⟨['!'], suffix⟩, c)

inductive Directive where
  | version
  | tag (handle : List Char) (lead : List Char)
  deriving DecidableEq

def skipSpaces (c : Cursor) : Cursor := c.skipBlanks (c.rest.takeWhile isBlank).length

def scanVersionPart (c : Cursor) : Option Cursor :=
  let digits := c.rest.takeWhile isDigitAscii
  if digits.isEmpty || 9 < digits.length then none else some (c.advance digits.length)

def scanVersion (c : Cursor) : Option Cursor := do
  let c ← scanVersionPart (skipSpaces c)
  if c.head? = some '.' then scanVersionPart (c.advance 1) else none

def scanTagDirective (c : Cursor) : Option (Directive × Cursor) := do
  let (handle, c) ← scanHandle (skipSpaces c)
  let c := skipSpaces c
  let first ← c.head?
  if !isFullHandle handle && handle ≠ ['!'] then none
  else if first ≠ '!' && !isTagChar first then none
  else
    let lead := if first = '!' then [first] else []
    let (lead, c) ← scanUri isUriChar (c.rest.length + 1) lead (c.advance lead.length)
    if startsGap c.rest then return (.tag handle lead, c) else none

/-- A directive after its mark, with its line. Those of other names mean nothing. -/
def scanDirective (c : Cursor) : Option (Directive × Cursor) := do
  let name := c.rest.takeWhile isNameChar
  let c := c.advance name.length
  if name.isEmpty || !startsGap c.rest then none
  else
    let (directive, c) ← if name = "YAML".toList then (scanVersion c).map fun c => (.version, c)
      else if name = "TAG".toList then scanTagDirective c
      else some (.tag [] [], c.skipLine)
    let c ← c.skipEmptyLine
    return (directive, if c.rest.isEmpty then c else c.skipBreak)

end DomainRegistry.Yaml
