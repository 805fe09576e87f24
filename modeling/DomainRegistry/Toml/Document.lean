import DomainRegistry.Toml.Scalar
import DomainRegistry.Toml.Table

/-!
TOML documents, read as JSON objects.
-/

namespace DomainRegistry.Toml

open Text

abbrev Parsed := Option (Json × List Char)

mutual

/-- A value; `nesting` bounds how deep values nest, and `limit` is reached by none. -/
def scanValue : (limit nesting : Nat) → List Char → Parsed
  | 0, _, _ => none
  | _ + 1, _, [] => none
  | limit + 1, nesting, c :: rest =>
    if c = '[' then
      if nesting = 0 then none
      else (scanItems limit (nesting - 1) rest []).map fun (items, rest) => (.arr items, rest)
    else if c = '\x7b' then
      if nesting = 0 then none
      else (scanPairs limit (nesting - 1) rest []).map fun (t, rest) =>
        (.obj (entriesToJson t), rest)
    else if c = quote || c = '\x27' then
      (scanString (c :: rest)).map fun (text, rest) => (.str (String.ofList text), rest)
    else scanWord (c :: rest)

def scanItems : (limit nesting : Nat) → List Char → List Json → Option (List Json × List Char)
  | 0, _, _, _ => none
  | limit + 1, nesting, cs, items =>
    match skipFiller false cs with
    | none => none
    | some (']' :: rest) => some (items.reverse, rest)
    | some cs =>
      match scanValue limit nesting cs with
      | none => none
      | some (item, rest) =>
        match skipFiller false rest with
        | some (',' :: rest) => scanItems limit nesting rest (item :: items)
        | some (']' :: rest) => some ((item :: items).reverse, rest)
        | _ => none

def scanPairs : (limit nesting : Nat) → List Char → Table → Option (Table × List Char)
  | 0, _, _, _ => none
  | limit + 1, nesting, cs, t =>
    match skipFiller false cs with
    | none => none
    | some ('\x7d' :: rest) => some (t, rest)
    | some cs =>
      match scanKey cs with
      | some (key, '=' :: rest) =>
        match scanValue limit nesting (skipSpaces rest) with
        | none => none
        | some (value, rest) =>
          match Table.assign key value .header t, skipFiller false rest with
          | some t, some (',' :: rest) => scanPairs limit nesting rest t
          | some t, some ('\x7d' :: rest) => some (t, rest)
          | _, _ => none
      | _ => none

end

structure Draft where
  root : Table := []
  header : List String := []

namespace Draft

def change (d : Draft) (path : List String) (change : Table.Change) : Option Draft :=
  (Table.under change path .header d.root).map fun root => { d with root }

def assign (d : Draft) (key : List String) (value : Json) : Option Draft :=
  d.change d.header (Table.assign key value)

def openHeader (d : Draft) (key : List String) (make : String → Table.Change) : Option Draft :=
  match key.getLast? with
  | none => none
  | some last => (d.change key.dropLast (make last)).map fun d => { d with header := key }

def scanStatement (d : Draft) (cs : List Char) : Option (Draft × List Char) :=
  match cs with
  | '[' :: '[' :: rest => do
    let (key, rest) ← scanKey rest
    let rest ← dropLead [']', ']'] rest
    return (← d.openHeader key Table.openItem, ← skipToLineEnd false rest)
  | '[' :: rest => do
    let (key, rest) ← scanKey rest
    let rest ← dropLead [']'] rest
    return (← d.openHeader key Table.openTable, ← skipToLineEnd false rest)
  | cs => do
    let (key, rest) ← scanKey cs
    let rest ← dropLead ['='] rest
    let (value, rest) ← scanValue (2 * rest.length) maxNesting (skipSpaces rest)
    return (← d.assign key value, ← skipToLineEnd false rest)

/-- Reads statements; each takes at least one character, so `limit` is reached by none. -/
def scan : (limit : Nat) → Draft → List Char → Option Draft
  | 0, _, _ => none
  | limit + 1, d, cs =>
    match skipFiller false cs with
    | none => none
    | some [] => some d
    | some cs =>
      match d.scanStatement cs with
      | none => none
      | some (d, rest) => scan limit d rest

end Draft

def parse? (text : String) : Option Json :=
  let cs := (dropLead ['\ufeff'] text.toList).getD text.toList
  (Draft.scan (cs.length + 1) {} cs).map fun d => .obj (entriesToJson d.root)

end DomainRegistry.Toml
