import DomainRegistry.Yaml.Cursor

/-!
Scalars of YAML in their three forms: plain, quoted, and blocks of lines. Line ends in the first two
are folded: one is a space, and more of them are one less.
-/

namespace DomainRegistry.Yaml

open Text

structure Folding where
  text : List Char := []
  spaces : List Char := []
  /-- Whether the line has ended. -/
  broken : Bool := false
  /-- The line ends after the first one. -/
  breaks : List Char := []

namespace Folding

def gap (f : Folding) : List Char :=
  if f.broken && f.breaks.isEmpty then [' '] else f.breaks

def close (f : Folding) (onNewLine : Bool) : Folding :=
  { text := f.text ++ if onNewLine then f.gap else f.spaces }

def append (f : Folding) (word : List Char) : Folding := { f with text := f.text ++ word }

end Folding

def mayBePlain (inFlow : Bool) (c : Char) (rest : List Char) : Bool :=
  if c = ':' && (startsGap rest || (inFlow && startsFlow rest)) then false
  else !(inFlow && isFlow c)

def plainWord (inFlow : Bool) : List Char → List Char
  | [] => []
  | c :: rest =>
    if isBlank c || isBreak c || !mayBePlain inFlow c rest then [] else c :: plainWord inFlow rest

def plainGap (indent : Int) : (limit : Nat) → Folding → Cursor → Option (Folding × Cursor)
  | 0, _, _ => none
  | limit + 1, f, c =>
    match c.head? with
    | none => some (f, c)
    | some d =>
      if isBlank d then
        if !c.leading then
          plainGap indent limit { f with spaces := f.spaces ++ [d] } (c.skipBlanks 1)
        else if c.column < indent && d = '\t' then
          c.skipEmptyLine.bind fun c => plainGap indent limit f c
        else plainGap indent limit f (c.skipBlanks 1)
      else if isBreak d then
        if c.leading then plainGap indent limit { f with breaks := f.breaks ++ ['\n'] } c.skipBreak
        else plainGap indent limit { f with spaces := [], broken := true } c.skipBreak
      else some (f, c)

/-- A plain scalar, of which all lines but the first have some indentation. -/
def scanPlain (indent : Int) (inFlow : Bool) :
    (limit : Nat) → Folding → Cursor → Option (List Char × Cursor)
  | 0, _, _ => none
  | limit + 1, f, c =>
    if c.atIndicator || c.head? = some '#' then some (f.text, c)
    else if inFlow && c.head? = some '-' && startsFlow (c.rest.drop 1) then none
    else
      let word := plainWord inFlow c.rest
      let (f, c) := if word.isEmpty then (f, c)
        else ((f.close c.leading).append word, c.advance word.length)
      if startsGap c.rest && !c.rest.isEmpty then
        match plainGap indent (c.rest.length + 1) f c with
        | none => none
        | some (f, c) =>
          if !inFlow && c.column < indent then some (f.text, c)
          else scanPlain indent inFlow limit f c
      else some (f.text, c)

def escaped? : Char → Option Char
  | '0' => some '\x00'
  | 'a' => some '\x07'
  | 'b' => some '\x08'
  | 't' => some '\t'
  | '\t' => some '\t'
  | 'n' => some '\n'
  | 'v' => some '\x0b'
  | 'f' => some '\x0c'
  | 'r' => some '\r'
  | 'e' => some '\x1b'
  | ' ' => some ' '
  | '/' => some '/'
  | '\\' => some '\\'
  | 'N' => some (Char.ofNat 0x85)
  | '_' => some (Char.ofNat 0xA0)
  | 'L' => some (Char.ofNat 0x2028)
  | 'P' => some (Char.ofNat 0x2029)
  | c => if c.toNat = 34 then some c else none

def digitsAfter : Char → Nat
  | 'x' => 2
  | 'u' => 4
  | 'U' => 8
  | _ => 0

/-- The character of an escape after its backslash, and the length of the escape. -/
def escape? : List Char → Option (Char × Nat)
  | [] => none
  | c :: rest =>
    let count := digitsAfter c
    if count = 0 then (escaped? c).map fun d => (d, 1)
    else
      let digits := rest.take count
      if digits.length = count then
        (hex? digits).bind fun n =>
          if n.isValidChar then some (Char.ofNat n, count + 1) else none
      else none

/-- A word of a quoted scalar; also tells whether a backslash ended its line. -/
def quotedWord (single : Bool) (quote : Char) : (limit : Nat) → List Char → Cursor →
    Option (List Char × Bool × Cursor)
  | 0, _, _ => none
  | limit + 1, word, c =>
    match c.rest with
    | [] => some (word, false, c)
    | d :: rest =>
      if isBlank d || isBreak d then some (word, false, c)
      else if d = quote then
        if single && rest.head? = some quote then
          quotedWord single quote limit (word ++ [d]) (c.advance 2)
        else some (word, false, c)
      else if d = '\\' && !single then
        if !rest.isEmpty && startsBreak rest then some (word, true, (c.advance 1).skipBreak)
        else
          (escape? rest).bind fun (e, length) =>
            quotedWord single quote limit (word ++ [e]) (c.advance (length + 1))
      else quotedWord single quote limit (word ++ [d]) (c.advance 1)

def quotedGap (indent : Int) : (limit : Nat) → (onNewLine : Bool) → Folding → Cursor →
    Option (Bool × Folding × Cursor)
  | 0, _, _, _ => none
  | limit + 1, onNewLine, f, c =>
    match c.head? with
    | none => some (onNewLine, f, c)
    | some d =>
      if isBlank d then
        if !onNewLine then
          quotedGap indent limit false { f with spaces := f.spaces ++ [d] } (c.skipBlanks 1)
        else if d = '\t' && c.column < indent then none
        else quotedGap indent limit true f (c.skipBlanks 1)
      else if isBreak d then
        if onNewLine then
          quotedGap indent limit true { f with breaks := f.breaks ++ ['\n'] } c.skipBreak
        else quotedGap indent limit true { f with spaces := [], broken := true } c.skipBreak
      else some (onNewLine, f, c)

def scanQuoted (indent : Int) (single : Bool) (quote : Char) :
    (limit : Nat) → Folding → Cursor → Option (List Char × Cursor)
  | 0, _, _ => none
  | limit + 1, f, c => do
    if c.atIndicator || c.rest.isEmpty || c.column < indent then none
    else
      let (word, escaped, c) ← quotedWord single quote (c.rest.length + 1) [] c
      let f := f.append word
      if c.head? = some quote then return (f.text, c.advance 1)
      else
        let (onNewLine, f, c) ← quotedGap indent (c.rest.length + 1) escaped f c
        scanQuoted indent single quote limit (f.close onNewLine) c

inductive Chomping where
  | strip
  | clip
  | keep
  deriving DecidableEq

def Chomping.ofChar? : Char → Option Chomping
  | '+' => some keep
  | '-' => some strip
  | _ => none

/-- The marks after that of a block: its chomping and its own indentation, in any order. -/
def blockHeader (cs : List Char) : Option (Chomping × Nat × Nat) :=
  let increment (cs : List Char) : Option (Nat × Nat) :=
    match cs with
    | d :: _ =>
      if d = '0' then none else if isDigitAscii d then some (digitValue d, 1) else some (0, 0)
    | [] => some (0, 0)
  match cs.head?.bind Chomping.ofChar? with
  | some chomping => (increment (cs.drop 1)).map fun (n, length) => (chomping, n, length + 1)
  | none =>
    (increment cs).map fun (n, length) =>
      if length = 0 then (.clip, n, 0)
      else
        match (cs.drop 1).head?.bind Chomping.ofChar? with
        | some chomping => (chomping, n, 2)
        | none => (.clip, n, 1)

def skipIndent (indent : Nat) : (limit : Nat) → (breaks : List Char) → Cursor →
    List Char × Cursor
  | 0, breaks, c => (breaks, c)
  | limit + 1, breaks, c =>
    let spaces := (c.rest.take (indent - c.column)).takeWhile (· == ' ')
    let c := c.skipBlanks spaces.length
    if c.head?.any isBreak then skipIndent indent limit (breaks ++ ['\n']) c.skipBreak
    else (breaks, c)

/-- Skips spaces and empty lines; the longest run of spaces counts. -/
def findIndent : (limit : Nat) → (longest : Nat) → (breaks : List Char) → Cursor →
    Nat × List Char × Cursor
  | 0, longest, breaks, c => (longest, breaks, c)
  | limit + 1, longest, breaks, c =>
    let c := c.skipBlanks (c.rest.takeWhile (· == ' ')).length
    let longest := max longest c.column
    if c.head?.any isBreak then findIndent limit longest (breaks ++ ['\n']) c.skipBreak
    else (longest, breaks, c)

structure BlockDraft where
  text : List Char := []
  /-- Whether a line has ended that is not written yet. -/
  broken : Bool := false
  breaks : List Char := []
  /-- Whether the last line starts with a blank. -/
  spaced : Bool := false

namespace BlockDraft

def lineEnd (d : BlockDraft) : List Char := if d.broken then ['\n'] else []

/-- Adds a line; in a folded block the line ends between lines without blanks are folded. -/
def addLine (d : BlockDraft) (literal : Bool) (line : List Char) : BlockDraft :=
  let spaced := line.head?.any isBlank
  let gap :=
    if !literal && d.broken && !d.spaced && !spaced then
      if d.breaks.isEmpty then [' '] else d.breaks
    else d.lineEnd ++ d.breaks
  { text := d.text ++ gap ++ line, spaced }

end BlockDraft

def scanLines (literal : Bool) (indent : Nat) : (limit : Nat) → BlockDraft → Cursor →
    BlockDraft × Cursor
  | 0, d, c => (d, c)
  | limit + 1, d, c =>
    if c.column ≠ indent || c.rest.isEmpty || (indent = 0 && startsIndicator '.' c.rest) then (d, c)
    else
      let line := c.rest.takeWhile fun e => !isBreak e
      let d := d.addLine literal line
      let c := c.advance line.length
      if c.rest.isEmpty then (d, c)
      else
        let (breaks, c) := skipIndent indent (c.rest.length + 1) [] c.skipBreak
        scanLines literal indent limit { d with broken := true, breaks } c

/-- The end of the text without a line in it. -/
def emptyBlock (chomping : Chomping) (started : Bool) (breaks : List Char) : List Char :=
  if chomping = .strip || !started then []
  else if chomping = .keep && !breaks.isEmpty then breaks
  else ['\n']

def scanBlock (indent : Int) (literal : Bool) (c : Cursor) : Option (List Char × Cursor) := do
  let (chomping, increment, length) ← blockHeader c.rest
  let line := c.line
  let c ← (c.advance length).skipEmptyLine
  let c := if c.rest.isEmpty then c else c.skipBreak
  if c.head? = some '\t' then none
  else
    let (own, breaks, c) :=
      if increment = 0 then
        let (longest, breaks, c) := findIndent (c.rest.length + 1) 0 [] c
        (max longest (max (indent + 1).toNat (if 0 < indent then 1 else 0)), breaks, c)
      else
        let own := if 0 ≤ indent then (indent + increment).toNat else increment
        let (breaks, c) := skipIndent own (c.rest.length + 1) [] c
        (own, breaks, c)
    if c.rest.isEmpty then return (emptyBlock chomping (line < c.line) breaks, c)
    else if c.column < own && indent < c.column then none
    else
      let (d, c) := scanLines literal own (c.rest.length + 1) { breaks } c
      let atEnd := c.rest.isEmpty && max own 1 ≤ c.column
      let text := if chomping = .strip then d.text
        else d.text ++ d.lineEnd ++ if atEnd then ['\n'] else []
      return (if chomping = .keep then text ++ d.breaks else text, c)

end DomainRegistry.Yaml
