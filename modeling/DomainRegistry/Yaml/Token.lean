import DomainRegistry.Yaml.Property
import DomainRegistry.Yaml.Scalar

/-!
The tokens of YAML documents. Indentation opens and closes block collections. A value may turn out
to be a key only when its colon is found, so the places of possible keys are kept, and the tokens
that make a key of one are put in there.
-/

namespace DomainRegistry.Yaml

inductive Token where
  | directive (d : Directive)
  | documentStart
  | documentEnd
  | blockSequence
  | blockMapping
  | blockEnd
  | flowSequence
  | flowSequenceEnd
  | flowMapping
  | flowMappingEnd
  | blockEntry
  | flowEntry
  | key
  | value
  | alias (name : List Char)
  | anchor (name : List Char)
  | tag (t : Tag)
  | scalar (plain : Bool) (text : List Char)
  deriving DecidableEq

structure KeyPlace where
  possible : Bool := false
  /-- Whether nothing but a key may stand there. -/
  required : Bool := false
  /-- How many tokens stand before. -/
  tokens : Nat := 0
  index : Nat := 0
  line : Nat := 0
  column : Nat := 0

/-- An indentation that was left for a deeper one. -/
structure Indent where
  outer : Int
  /-- Whether the deeper one belongs to a block collection. -/
  isBlock : Bool

structure Lexer where
  cursor : Cursor
  /-- The tokens so far, the last one first. -/
  tokens : List Token := []
  keyAllowed : Bool := true
  /-- A place for each level of brackets, the innermost first. -/
  keys : List KeyPlace := [{}]
  indent : Int := -1
  indents : List Indent := []
  flowLevel : Nat := 0
  /-- Where a colon marks a value without a blank after it. -/
  adjacent : Nat := 0
  /-- Whether a mapping in braces or after a question mark has begun. -/
  flowMapping : Bool := false
  /-- For each list in brackets, whether a mapping without braces is open in it. -/
  pairs : List Bool := []

namespace Lexer

def inFlow (l : Lexer) : Bool := 0 < l.flowLevel

def push (l : Lexer) (t : Token) : Lexer := { l with tokens := t :: l.tokens }

def insert (l : Lexer) (place : Nat) (t : Token) : Lexer :=
  let later := l.tokens.length - place
  { l with tokens := l.tokens.take later ++ t :: l.tokens.drop later }

def moveTo (l : Lexer) (c : Cursor) : Lexer := { l with cursor := c }

def allowKey (l : Lexer) (allowed : Bool) : Lexer := { l with keyAllowed := allowed }

def unrollTo (column : Int) : (indent : Int) → List Indent → List Token →
    Int × List Indent × List Token
  | indent, [], tokens => (indent, [], tokens)
  | indent, i :: indents, tokens =>
    if column < indent then
      unrollTo column i.outer indents (if i.isBlock then .blockEnd :: tokens else tokens)
    else (indent, i :: indents, tokens)

def unroll (l : Lexer) (column : Int) : Lexer :=
  if l.inFlow then l
  else
    let (indent, indents, tokens) := unrollTo column l.indent l.indents l.tokens
    { l with indent, indents, tokens }

/-- Leaves an indentation that belongs to no block collection. -/
def dropLoose (l : Lexer) : Lexer :=
  match l.indents with
  | i :: indents => if i.isBlock then l else { l with indent := i.outer, indents }
  | [] => l

/-- Opens a block collection if a column is deeper than those around it. -/
def roll (l : Lexer) (column : Nat) (place : Option Nat) (t : Token) : Lexer :=
  if l.inFlow then l
  else
    let l := if l.indent ≤ column then l.dropLoose else l
    if l.indent < column then
      let l := { l with indents := ⟨l.indent, true⟩ :: l.indents, indent := column }
      match place with
      | some n => l.insert n t
      | none => l.push t
    else l

/-- Asks of what follows to stand deeper by one column. -/
def rollOne (l : Lexer) : Lexer :=
  if !l.inFlow && l.indents.head?.any Indent.isBlock then
    { l with indents := ⟨l.indent, false⟩ :: l.indents, indent := l.indent + 1 }
  else l

def unrollLoose : (indent : Int) → List Indent → Int × List Indent
  | indent, [] => (indent, [])
  | indent, i :: indents =>
    if i.isBlock then (indent, i :: indents) else unrollLoose i.outer indents

def withoutLoose (l : Lexer) : Lexer :=
  let (indent, indents) := unrollLoose l.indent l.indents
  { l with indent, indents }

def saveKey (l : Lexer) : Lexer :=
  if l.keyAllowed then
    let c := l.cursor
    let required := !l.inFlow && l.indent == c.column && l.indents.head?.any Indent.isBlock
    { l with keys := ⟨true, required, l.tokens.length, c.index, c.line, c.column⟩ :: l.keys.drop 1 }
  else l

def removeKey (l : Lexer) : Option Lexer :=
  match l.keys with
  | k :: keys =>
    if k.possible && k.required then none
    else some { l with keys := { k with possible := false } :: keys }
  | [] => some l

def maxKeyLength : Nat := 1024

/-- Gives up the keys that stand in an earlier line or too far before. -/
def dropStale (l : Lexer) : Option Lexer :=
  let isStale (k : KeyPlace) : Bool :=
    k.possible && !l.inFlow
      && (k.line < l.cursor.line || k.index + maxKeyLength < l.cursor.index)
  if l.keys.any fun k => isStale k && k.required then none
  else some { l with
    keys := l.keys.map fun k => if isStale k then { k with possible := false } else k }

def skipGaps : (limit : Nat) → Lexer → Option Lexer
  | 0, l => some l
  | limit + 1, l =>
    let c := l.cursor
    match c.head? with
    | none => some l
    | some d =>
      if d = '\t' && !l.indents.isEmpty && c.leading && c.column < l.indent then
        c.skipEmptyLine.bind fun c => skipGaps limit (l.moveTo c)
      else if isBlank d then skipGaps limit (l.moveTo (c.skipBlanks 1))
      else if isBreak d then
        skipGaps limit ((l.moveTo c.skipBreak).allowKey (l.keyAllowed || !l.inFlow))
      else if d = '#' then skipGaps limit (l.moveTo c.skipLine)
      else some l

def skipToToken (l : Lexer) : Option Lexer := skipGaps (l.cursor.rest.length + 1) l

def skipToLineEnd (l : Lexer) : Option Lexer :=
  (l.cursor.skipToLineEnd true).map fun s => l.moveTo s.cursor

def closePair (l : Lexer) : Lexer :=
  match l.pairs with
  | true :: pairs => { l with flowMapping := false, pairs := false :: pairs }.push .flowMappingEnd
  | _ => l

def maxFlowLevel : Nat := 255

def openFlow (l : Lexer) (t : Token) : Option Lexer := do
  let l := l.saveKey.rollOne
  if l.flowLevel = maxFlowLevel then none
  else
    let l := { l with keys := {} :: l.keys, flowLevel := l.flowLevel + 1, keyAllowed := true }
    let l := if t = .flowMapping then { l with flowMapping := true }
      else { l with pairs := false :: l.pairs }
    return (← (l.moveTo (l.cursor.advance 1)).skipToLineEnd).push t

def closeFlow (l : Lexer) (t : Token) : Option Lexer := do
  let l ← l.removeKey
  let l := if l.inFlow then { l with flowLevel := l.flowLevel - 1, keys := l.keys.drop 1 } else l
  let l := l.allowKey false
  let l := if t = .flowSequenceEnd then
      let l := l.closePair
      { l with pairs := l.pairs.drop 1 }
    else l
  let l ← (l.moveTo (l.cursor.advance 1)).skipToLineEnd
  let l := if l.inFlow then { l with adjacent := l.cursor.index } else l
  return l.push t

def flowEntry (l : Lexer) : Option Lexer := do
  let l := ((← l.removeKey).allowKey true).closePair
  return (← (l.moveTo (l.cursor.advance 1)).skipToLineEnd).push .flowEntry

def blockEntry (l : Lexer) : Option Lexer := do
  if l.inFlow || !l.keyAllowed then none
  else
    let column := l.cursor.column
    let l := (l.moveTo (l.cursor.advance 1)).roll column none .blockSequence
    let s ← l.cursor.skipToLineEnd true
    let rest := s.cursor.rest
    if s.tab && rest.head? = some '-' && startsGap (rest.drop 1) then none
    else
      let l := l.moveTo s.cursor
      let l := if startsFlow rest || (!rest.isEmpty && startsBreak rest) then l.rollOne else l
      return ((← l.removeKey).allowKey true).push .blockEntry

def skipSpaces : (limit : Nat) → (found : Bool) → Lexer → Option Lexer
  | 0, _, _ => none
  | limit + 1, found, l =>
    let c := l.cursor
    match c.head? with
    | none => if found then some l else none
    | some d =>
      if d = ' ' then skipSpaces limit true (l.moveTo (c.skipBlanks 1))
      else if isBreak d then
        skipSpaces limit true ((l.moveTo c.skipBreak).allowKey (l.keyAllowed || !l.inFlow))
      else if d = '#' then skipSpaces limit found (l.moveTo c.skipLine)
      else if found then some l
      else none

def explicitKey (l : Lexer) : Option Lexer := do
  let l ← if l.inFlow then some { l with flowMapping := true }
    else if l.keyAllowed then some (l.roll l.cursor.column none .blockMapping)
    else none
  let l := (← l.removeKey).allowKey (!l.inFlow)
  let l := l.moveTo (l.cursor.advance 1)
  let l ← skipSpaces (l.cursor.rest.length + 1) false l
  if l.cursor.head? = some '\t' then none else return l.push .key

/-- The tokens that make a key of what stands before a colon. -/
def placeKey (l : Lexer) (k : KeyPlace) (isPair : Bool) (line : Nat) : Option Lexer :=
  let l := l.insert k.tokens .key
  if isPair && k.line < line then none
  else
    let l := if isPair then l.insert k.tokens .flowMapping else l
    let l := (l.roll k.column (some k.tokens) .blockMapping).rollOne
    some { l with keys := { k with possible := false } :: l.keys.drop 1, keyAllowed := false }

/-- A value whose key is no simple one, or is missing. -/
def bareValue (l : Lexer) (column : Nat) (isPair : Bool) : Option Lexer :=
  let l := if isPair then l.push .flowMapping else l
  if !l.inFlow && !l.keyAllowed then none
  else some ((l.roll column none .blockMapping).rollOne.allowKey (!l.inFlow))

def value (l : Lexer) : Option Lexer := do
  let key := l.keys.headD {}
  let start := l.cursor
  let isPair := !l.pairs.isEmpty && !l.flowMapping
  let l := if isPair then { l with pairs := true :: l.pairs.drop 1 } else l
  let l := l.moveTo (start.advance 1)
  let l ← if l.cursor.head? = some '\t' then
      (l.cursor.skipToLineEnd true).bind fun s =>
        let next := s.cursor.head?
        if !s.space && (next = some '-' || next.any isNameChar) then none
        else some (l.moveTo s.cursor)
    else some l
  let l ← if key.possible then l.placeKey key isPair start.line
    else l.bareValue start.column isPair
  return l.push .value

def directive (l : Lexer) : Option Lexer := do
  let l := (← (l.unroll (-1)).removeKey).allowKey false
  let (d, c) ← scanDirective (l.cursor.advance 1)
  return (l.moveTo c).push (.directive d)

def indicator (l : Lexer) (t : Token) : Option Lexer := do
  let l := (← (l.unroll (-1)).removeKey).allowKey false
  return (l.moveTo (l.cursor.advance 3)).push t

def named (l : Lexer) (make : List Char → Token) : Option Lexer := do
  let l := l.saveKey.allowKey false
  let (name, c) ← scanAnchor (l.cursor.advance 1)
  return (l.moveTo c).push (make name)

def tag (l : Lexer) : Option Lexer := do
  let l := l.saveKey.allowKey false
  let (t, c) ← scanTag l.cursor
  if startsGap c.rest || (l.inFlow && startsFlow c.rest) then return (l.moveTo c).push (.tag t)
  else none

def block (l : Lexer) (literal : Bool) : Option Lexer := do
  let l := (l.saveKey.allowKey true).withoutLoose
  let (text, c) ← scanBlock l.indent literal (l.cursor.advance 1)
  return (l.moveTo c).push (.scalar false text)

/-- Whether a quoted scalar may end here, with a key or in brackets. -/
def mayFollowQuote (l : Lexer) (line : Nat) (c : Cursor) : Bool :=
  match c.head? with
  | none => true
  | some d =>
    isBreak d || (l.inFlow && (d == ',' || d == '\x7d' || d == ']' || d == ':'))
      || (!l.inFlow && d == ':' && line == c.line)

def quoted (l : Lexer) (quote : Char) : Option Lexer := do
  let l := l.saveKey.allowKey false
  let start := l.cursor
  let (text, c) ←
    scanQuoted l.indent (quote = '\x27') quote (start.rest.length + 1) {} (start.advance 1)
  let s ← c.skipToLineEnd true
  if l.mayFollowQuote start.line s.cursor then
    let l ← (l.moveTo s.cursor).skipToToken
    return { l with adjacent := l.cursor.index }.push (.scalar false text)
  else none

def plain (l : Lexer) : Option Lexer := do
  let l := (l.saveKey.allowKey false).withoutLoose
  let indent := l.indent + 1
  if l.inFlow && l.cursor.column < indent then none
  else
    let (text, c) ← scanPlain indent l.inFlow (l.cursor.rest.length + 1) {} l.cursor
    return ((l.moveTo c).allowKey c.leading).push (.scalar true text)

def token (l : Lexer) (d : Char) (rest : List Char) : Option Lexer :=
  let gap := startsGap rest
  if d = '[' then l.openFlow .flowSequence
  else if d = '\x7b' then l.openFlow .flowMapping
  else if d = ']' then l.closeFlow .flowSequenceEnd
  else if d = '\x7d' then l.closeFlow .flowMappingEnd
  else if d = ',' then l.flowEntry
  else if d = '-' && gap then l.blockEntry
  else if d = '?' && gap then l.explicitKey
  else if d = ':'
      && (gap || (l.inFlow && (startsFlow rest || l.cursor.index == l.adjacent))) then l.value
  else if d = '*' then l.named .alias
  else if d = '&' then l.named .anchor
  else if d = '!' then l.tag
  else if (d = '|' || d = '>') && !l.inFlow then l.block (d = '|')
  else if d = '\x27' || d.toNat = 34 then l.quoted d
  else if d = '%' || d = '@' || d.toNat = 96 then none
  else l.plain

def next (l : Lexer) : Option (Bool × Lexer) := do
  let l ← (← l.skipToToken).dropStale
  let l := l.unroll l.cursor.column
  match l.cursor.rest with
  | [] =>
    if l.keys.any fun k => k.possible && k.required then none
    else return (false, l.unroll (-1))
  | d :: rest =>
    if l.cursor.column = 0 && d = '%' then return (true, ← l.directive)
    else if l.cursor.column = 0 && startsIndicator '-' (d :: rest) then
      return (true, ← l.indicator .documentStart)
    else if l.cursor.column = 0 && startsIndicator '.' (d :: rest) then
      let l ← l.indicator .documentEnd
      return (true, l.moveTo (← l.cursor.skipEmptyLine))
    else if l.cursor.column < l.indent then none
    else return (true, ← l.token d rest)

/-- Reads tokens to the end; each takes at least one character, so `limit` is reached by none. -/
def run : (limit : Nat) → Lexer → Option (List Token)
  | 0, _ => none
  | limit + 1, l =>
    match l.next with
    | none => none
    | some (true, l) => run limit l
    | some (false, l) => some l.tokens.reverse

end Lexer

/-- The tokens of a text, which a null character ends. -/
def tokens? (text : List Char) : Option (List Token) :=
  let text := text.takeWhile (· != '\x00')
  Lexer.run (text.length + 1) { cursor := { rest := text } }

end DomainRegistry.Yaml
