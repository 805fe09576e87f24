import DomainRegistry.Json.Basic
import DomainRegistry.Text.Basic

/-!
INI documents, read as JSON objects: keys with texts, and sections of them. Keys and values are
scanned up to a character that ends them, and a backslash escapes the next one.
-/

namespace DomainRegistry.Ini

open Text

/-- What a character after a backslash stands for; a line end stands for nothing. -/
def escaped : Char → List Char
  | '0' => ['\x00']
  | 'a' => ['\x07']
  | 'b' => ['\x08']
  | 't' => ['\t']
  | 'r' => ['\r']
  | 'n' => ['\n']
  | '\n' => []
  | c => [c]

abbrev Scanned := Option (List Char × List Char)

def prepend (cs : List Char) (rest : Scanned) : Scanned :=
  rest.map fun (text, after) => (cs ++ text, after)

def named? (digits : List Char) : Option (List Char) :=
  (boundedHex? UInt32.size digits).bind fun n =>
    if n.isValidChar then some [Char.ofNat n] else none

def scanText (ends : Char → Bool) (mayEnd : Bool) : List Char → Scanned
  | [] => if mayEnd then some ([], []) else none
  | '\\' :: 'x' :: a :: b :: c :: d :: rest =>
    (named? [a, b, c, d]).bind fun cs => prepend cs (scanText ends mayEnd rest)
  | '\\' :: c :: rest =>
    if c = 'x' then none else prepend (escaped c) (scanText ends mayEnd rest)
  | c :: rest =>
    if ends c then some ([], c :: rest)
    else if c = '\\' then none
    else prepend [c] (scanText ends mayEnd rest)

def isLineEnd (c : Char) : Bool := c == '\n' || c == '\r'

def isQuote (c : Char) : Bool := c.toNat == 34 || c == '\x27'

/-- A value: texts in quotes, and then what is left of the line. -/
def scanParts : (limit : Nat) → (first : Bool) → List Char → Scanned
  | 0, _, _ => none
  | _, _, [] => some ([], [])
  | limit + 1, first, c :: rest =>
    if isQuote c then do
      let (text, rest) ← scanText (· == c) false rest
      prepend text (scanParts limit false (rest.drop 1))
    else do
      let (text, rest) ← scanText isLineEnd true (c :: rest)
      return (if first then trim text else trimRight text, rest)

def scanValue (cs : List Char) : Scanned :=
  let cs := cs.dropWhile fun c => isBlank c && !isLineEnd c
  scanParts (cs.length + 1) true cs

/-- Skips blanks; also tells whether a line starts after them. -/
def skipBlanks : (lineStart : Bool) → List Char → Bool × List Char
  | lineStart, [] => (lineStart, [])
  | lineStart, c :: rest =>
    if isBlank c then skipBlanks (c == '\n') rest else (lineStart, c :: rest)

abbrev Entries := List (String × Json)

structure Draft where
  entries : Entries := []
  /-- The sections, the current one first. -/
  sections : List (String × Entries) := []
  key : List Char := []

namespace Draft

def put (d : Draft) (value : List Char) : Draft :=
  let entry := (String.ofList d.key, Json.str (String.ofList value))
  match d.sections with
  | [] => { d with entries := d.entries ++ [entry], key := [] }
  | (name, entries) :: others =>
    { d with sections := (name, entries ++ [entry]) :: others, key := [] }

def toJson (d : Draft) : Json :=
  .obj (d.entries ++ d.sections.reverse.map fun (name, entries) => (name, .obj entries))

/-- Reads comments, sections, keys and values; each takes at least one character. -/
def scan : (limit : Nat) → (lineStart : Bool) → Draft → List Char → Option Draft
  | 0, _, _, _ => none
  | limit + 1, lineStart, d, cs =>
    match skipBlanks lineStart cs with
    | (_, []) => some d
    | (lineStart, c :: rest) =>
      if c = ';' || c = '#' then
        if lineStart then scan limit true d ((rest.dropWhile (· != '\n')).drop 1) else none
      else if c = '[' then do
        let (name, rest) ← scanText (· == ']') false rest
        let opened := (String.ofList (trim name), [])
        scan limit false { d with sections := opened :: d.sections } (rest.drop 1)
      else if c = '=' || c = ':' then
        if d.key.isEmpty then none
        else do
          let (value, rest) ← scanValue rest
          scan limit false (d.put value) rest
      else do
        let (key, rest) ← scanText (fun c => c == '=' || c == ':') false (c :: rest)
        scan limit false { d with key := trim key } rest

end Draft

def parse? (text : String) : Option Json :=
  (Draft.scan (text.toList.length + 1) true {} text.toList).map Draft.toJson

end DomainRegistry.Ini
