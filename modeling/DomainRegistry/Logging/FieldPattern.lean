import DomainRegistry.Number.Floating
import DomainRegistry.Text.Alphanumeric

/-!
What a log directive may ask of the value of a field: a truth value, a number, or a regular
expression that a finite automaton decides without tables of Unicode. Such expressions have no
classes of Unicode, no look-around, and in their Unicode mode no boundaries of words and no letters
of either case. A closing brace ends the field, so none of them repeats by a count in braces.
-/

namespace DomainRegistry.FieldPattern

open Text

structure Mode where
  ignoresCase : Bool := false
  unicode : Bool := true
  /-- Whether blanks and comments mean nothing. -/
  spaced : Bool := false

def skipComment : (comment : Bool) → List Char → List Char
  | _, [] => []
  | true, c :: cs => skipComment (c != '\n') cs
  | false, c :: cs =>
    if isBlank c then skipComment false cs
    else if c = '#' then skipComment true cs
    else c :: cs

namespace Mode

def skip (m : Mode) (cs : List Char) : List Char :=
  if m.spaced then skipComment false cs else cs

/-- The next character that counts; of a comment that is its first. -/
def peek (m : Mode) (cs : List Char) : Option Char :=
  if !m.spaced then cs.head?
  else
    match cs.dropWhile isBlank with
    | '#' :: rest => (rest.dropWhile isBlank).head?
    | rest => rest.head?

/-- Whether a letter stands for its other case as well, which only tables could tell. -/
def needsTables (m : Mode) : Bool := m.unicode && m.ignoresCase

/-- Whether a character may stand by itself; as a byte it has to be text as well. -/
def allows (m : Mode) (c : Char) (byte : Bool) : Bool :=
  !m.needsTables && (m.unicode || !byte || isAscii c)

def allowsInClass (m : Mode) (c : Char) : Bool := !m.needsTables && (m.unicode || isAscii c)

def set (m : Mode) (flag : Char) (value : Bool) : Option Mode :=
  if flag = 'i' then some { m with ignoresCase := value }
  else if flag = 'u' then some { m with unicode := value }
  else if flag = 'x' then some { m with spaced := value }
  else if "msUR".toList.contains flag then some m
  else none

end Mode

inductive Primitive where
  /-- A character, and whether it is given as a byte. -/
  | literal (c : Char) (byte : Bool)
  | characterClass
  | assertion

def isMeta (c : Char) : Bool := "\\.+*?()|[]\x7b\x7d^$#&-~".toList.contains c

/-- Whether a character may be escaped that needs no escape. -/
def isEscapable (c : Char) : Bool :=
  isMeta c || (isAscii c && !isLetterAscii c && !isDigitAscii c && c != '<' && c != '>')

def controls : List Char := ['a', 'f', 't', 'n', 'r', 'v']

def controlOf : Char → Char
  | 'a' => '\x07'
  | 'f' => '\x0c'
  | 't' => '\t'
  | 'n' => '\n'
  | 'r' => '\r'
  | _ => '\x0b'

def scanHex (m : Mode) : (count value : Nat) → List Char → Option (Char × List Char)
  | 0, value, cs => if value.isValidChar then some (Char.ofNat value, cs) else none
  | count + 1, value, cs =>
    match m.skip cs with
    | c :: rest => (hexDigitValue? c).bind fun d => scanHex m count (16 * value + d) rest
    | [] => none

def scanEscape (m : Mode) : List Char → Option (Primitive × List Char)
  | [] => none
  | c :: rest =>
    let hex (count : Nat) := (scanHex m count 0 rest).map fun (d, rest) =>
      (.literal d (count == 2), m.skip rest)
    if c = 'x' then hex 2
    else if c = 'u' then hex 4
    else if c = 'U' then hex 8
    else if "dsw".toList.contains c then
      if m.unicode then none else some (.characterClass, rest)
    else if "bB<>".toList.contains c then
      if m.unicode then none else some (.assertion, rest)
    else if c = 'A' || c = 'z' then some (.assertion, rest)
    else if controls.contains c then some (.literal (controlOf c) false, rest)
    else if isEscapable c then some (.literal c false, rest)
    else none

structure ClassPart where
  nesting : Nat := 0
  /-- Whether bytes beyond ASCII belong to it. -/
  beyond : Bool := false

namespace ClassPart

def highest (parts : List ClassPart) : Nat := (parts.map nesting).foldl max 0

def union : List ClassPart → ClassPart
  | [] => {}
  | [part] => part
  | parts => ⟨highest parts + 1, parts.any beyond⟩

end ClassPart

inductive SetOperator where
  | intersection
  | difference
  | symmetricDifference

namespace SetOperator

def ofChar? : Char → Option SetOperator
  | '&' => some intersection
  | '-' => some difference
  | '~' => some symmetricDifference
  | _ => none

def apply (o : SetOperator) (a b : ClassPart) : ClassPart :=
  ⟨max a.nesting b.nesting + 1,
    match o with
    | intersection => a.beyond && b.beyond
    | difference => a.beyond && !b.beyond
    | symmetricDifference => a.beyond != b.beyond⟩

end SetOperator

structure ClassDraft where
  left : Option (ClassPart × SetOperator) := none
  parts : List ClassPart := []

namespace ClassDraft

def add (d : ClassDraft) (part : ClassPart) : ClassDraft := { d with parts := part :: d.parts }

def close (d : ClassDraft) : ClassPart :=
  let right := ClassPart.union d.parts
  match d.left with
  | some (left, o) => o.apply left right
  | none => right

def operate (d : ClassDraft) (o : SetOperator) : ClassDraft := ⟨some (d.close, o), []⟩

end ClassDraft

def classNames : List String :=
  ["alnum", "alpha", "ascii", "blank", "cntrl", "digit", "graph", "lower", "print", "punct",
    "space", "upper", "word", "xdigit"]

def scanNamedClass (cs : List Char) : Option (ClassPart × List Char) := do
  let rest ← dropLead [':'] cs
  let (negated, rest) := match rest with
    | '^' :: rest => (true, rest)
    | rest => (false, rest)
  let name := rest.takeWhile (· != ':')
  let rest ← dropLead [':', ']'] (rest.drop name.length)
  if classNames.contains (String.ofList name) then return (⟨0, negated⟩, rest) else none

def scanClassPrimitive (m : Mode) : List Char → Option (Primitive × List Char)
  | '\\' :: rest => scanEscape m rest
  | c :: rest => some (.literal c false, rest)
  | [] => none

def scanRange (m : Mode) (cs : List Char) : Option (ClassPart × List Char) := do
  let (first, cs) ← scanClassPrimitive m cs
  let single := m.skip cs
  let endsRange (c : Option Char) := c = none || c = some ']' || c = some '-'
  match first, single with
  | .literal c _, '-' :: rest =>
    if !m.allowsInClass c then none
    else if endsRange (m.peek rest) then return ({}, single)
    else
      match ← scanClassPrimitive m (m.skip rest) with
      | (.literal d _, rest) => if m.allowsInClass d && c ≤ d then return ({}, rest) else none
      | _ => none
  | .characterClass, '-' :: rest => if endsRange (m.peek rest) then return ({}, single) else none
  | .literal c _, _ => if m.allowsInClass c then return ({}, single) else none
  | .characterClass, _ => return ({}, single)
  | .assertion, _ => none

mutual

/-- A class after its opening bracket. In bytes nothing beyond ASCII may belong to it. -/
def scanClass : (limit : Nat) → Mode → List Char → Option (ClassPart × List Char)
  | 0, _, _ => none
  | limit + 1, m, cs => do
    let (negated, cs) := match m.skip cs with
      | '^' :: rest => (true, rest)
      | rest => (false, rest)
    let (part, rest) ← scanParts limit m true {} cs
    let beyond := part.beyond != negated
    if !m.unicode && beyond then none else return (⟨part.nesting + 1, beyond⟩, rest)

/-- The parts of a class; at its start brackets and hyphens may stand for themselves. -/
def scanParts : (limit : Nat) → Mode → (start : Bool) → ClassDraft → List Char →
    Option (ClassPart × List Char)
  | 0, _, _, _, _ => none
  | limit + 1, m, start, d, cs =>
    match m.skip cs with
    | [] => none
    | c :: rest =>
      if start && c = '-' then
        if m.needsTables then none else scanParts limit m true (d.add {}) rest
      else if start && c = ']' && d.parts.isEmpty then
        if m.needsTables then none else scanParts limit m false (d.add {}) rest
      else if c = '[' then
        match scanNamedClass rest with
        | some (part, rest) =>
          if m.needsTables then none else scanParts limit m false (d.add part) rest
        | none => (scanClass limit m rest).bind fun (part, rest) =>
            scanParts limit m false (d.add part) rest
      else if c = ']' then some (d.close, rest)
      else
        match SetOperator.ofChar? c, rest with
        | some o, e :: more =>
          if e = c then scanParts limit m false (d.operate o) more
          else (scanRange m (c :: rest)).bind fun (part, rest) =>
            scanParts limit m false (d.add part) rest
        | _, _ => (scanRange m (c :: rest)).bind fun (part, rest) =>
            scanParts limit m false (d.add part) rest

end

inductive Piece where
  /-- Flags for what follows, which cannot be repeated. -/
  | flags
  | part (nesting : Nat)

namespace Piece

def nesting : Piece → Nat
  | flags => 0
  | part n => n

def sequence : List Piece → Nat
  | [] => 0
  | [p] => p.nesting
  | ps => (ps.map nesting).foldl max 0 + 1

end Piece

def alternatives : List Nat → Nat
  | [n] => n
  | ns => ns.foldl max 0 + 1

/-- Flags up to a colon or a parenthesis, each at most once; those after a hyphen are off. -/
def scanFlags (seen : List Char) (last : Option Char) (m : Mode) :
    List Char → Option (Mode × Bool × List Char)
  | [] => none
  | c :: rest =>
    if c = ':' || c = ')' then
      if last = some '-' || (c = ')' && last.isNone) then none else some (m, c = ')', rest)
    else if seen.contains c then none
    else if c = '-' then scanFlags (c :: seen) (some c) m rest
    else (m.set c (!seen.contains '-')).bind fun m => scanFlags (c :: seen) (some c) m rest

def scanName (cs : List Char) : Option (List Char × List Char) := do
  let (name, rest) ← splitOnce '>' cs
  let follows (c : Char) := isAlphanumeric c || "_.[]".toList.contains c
  match name with
  | [] => none
  | c :: more =>
    if (c = '_' || (isAlphanumeric c && !isDigitAscii c)) && more.all follows then
      return (name, rest)
    else none

inductive Opening where
  | group (m : Mode) (name : Option (List Char))
  | flags (m : Mode)

def scanOpening (m : Mode) (cs : List Char) : Option (Opening × List Char) :=
  let named (cs : List Char) := (scanName cs).map fun (name, rest) => (.group m (some name), rest)
  match m.skip cs with
  | '?' :: 'P' :: '<' :: rest => named rest
  | '?' :: '<' :: rest => named rest
  | '?' :: rest => (scanFlags [] none m rest).map fun (inner, alone, rest) =>
      (if alone then .flags inner else .group inner none, rest)
  | rest => some (.group m none, rest)

abbrev Names := List (List Char)

/-- Sequences with bars between them, up to a closing parenthesis or the end; how deep they nest. -/
def scanAlternatives : (limit : Nat) → Mode → Names → (done : List Nat) → List Piece →
    List Char → Option (Nat × Names × List Char)
  | 0, _, _, _, _, _ => none
  | limit + 1, m, names, done, pieces, cs =>
    let continueWith (nesting : Nat) (rest : List Char) :=
      scanAlternatives limit m names done (.part nesting :: pieces) rest
    let finished := alternatives (Piece.sequence pieces :: done)
    match m.skip cs with
    | [] => some (finished, names, [])
    | c :: rest =>
      if c = ')' then some (finished, names, c :: rest)
      else if c = '|' then scanAlternatives limit m names (Piece.sequence pieces :: done) [] rest
      else if c = '(' then
        match scanOpening m rest with
        | none => none
        | some (.flags m, rest) => scanAlternatives limit m names done (.flags :: pieces) rest
        | some (.group inner name, rest) =>
          if name.any names.contains then none
          else
            match scanAlternatives limit inner (name.toList ++ names) [] [] rest with
            | some (nesting, names, ')' :: rest) =>
              scanAlternatives limit m names done (.part (nesting + 1) :: pieces) rest
            | _ => none
      else if c = '[' then
        (scanClass limit m rest).bind fun (part, rest) => continueWith part.nesting rest
      else if c = '?' || c = '*' || c = '+' then
        match pieces with
        | .part nesting :: pieces =>
          scanAlternatives limit m names done (.part (nesting + 1) :: pieces)
            ((dropLead ['?'] rest).getD rest)
        | _ => none
      else if c = '\x7b' then none
      else if c = '\\' then
        match scanEscape m rest with
        | some (.literal d byte, rest) => if m.allows d byte then continueWith 0 rest else none
        | some (_, rest) => continueWith 0 rest
        | none => none
      else if c = '.' then if m.unicode then continueWith 0 rest else none
      else if c = '^' || c = '$' then continueWith 0 rest
      else if m.allows c false then continueWith 0 rest
      else none

def maxNesting : Nat := 250

def isValid (cs : List Char) : Bool :=
  match scanAlternatives (2 * cs.length + 2) {} [] [] [] cs with
  | some (nesting, _, []) => nesting ≤ maxNesting
  | _ => false

def isValue (cs : List Char) : Bool :=
  cs = "true".toList || cs = "false".toList || Floating.isNumber cs || isValid cs

end DomainRegistry.FieldPattern
