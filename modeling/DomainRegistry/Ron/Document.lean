import DomainRegistry.Json.Basic
import DomainRegistry.Number.Floating
import DomainRegistry.Ron.Text

/-!
RON documents, read as JSON: structures and maps are objects, lists and tuples are arrays, and a
name alone stands for nothing.
-/

namespace DomainRegistry.Ron

open Text

abbrev Parsed := Option (Json × List Char)

def digitsOf (isDigit : Char → Bool) (cs : List Char) : Option (List Char × List Char) :=
  let run := cs.takeWhile fun c => isDigit c || c == '_'
  match run with
  | [] => none
  | c :: _ => if c = '_' then none else some (run.filter (· != '_'), cs.drop run.length)

def radixValue (radix : Nat) (digits : List Char) : Nat :=
  digits.foldl (fun n c => radix * n + (hexDigitValue? c).getD 0) 0

def ofInt? (n : Int) : Option Json :=
  if Int64.minValue.toInt ≤ n ∧ n < UInt64.size then some (.int n) else none

def integer (negative : Bool) (cs : List Char) : Parsed := do
  let (radix, (digits, rest)) ← match cs with
    | '0' :: 'x' :: rest => (digitsOf isHexDigit rest).map ((16, ·))
    | '0' :: 'b' :: rest => (digitsOf (fun c => c == '0' || c == '1') rest).map ((2, ·))
    | '0' :: 'o' :: rest => (digitsOf (fun c => '0' ≤ c && c ≤ '7') rest).map ((8, ·))
    | rest => (digitsOf isDigitAscii rest).map ((10, ·))
  let n : Int := radixValue radix digits
  return (← ofInt? (if negative then -n else n), rest)

def isFloatPart (c : Char) : Bool := isDigitAscii c || "eE.+-_".toList.contains c

/-- A number; it is an integer unless a point or an exponent stands among its first digits. -/
def number (cs : List Char) : Parsed :=
  let (negative, unsigned) := match cs with
    | '-' :: rest => (true, rest)
    | '+' :: rest => (false, rest)
    | rest => (false, rest)
  let run := unsigned.takeWhile isFloatPart
  if run.any fun c => c == '.' || c == 'e' || c == 'E' then
    if run.head? ≠ some '_' ∧ Floating.isDecimal (run.filter (· != '_')) then
      some (.fraction, unsigned.drop run.length)
    else none
  else integer negative unsigned

def words : List (String × Json) :=
  [("true", .bool true), ("false", .bool false), ("None", .null), ("inf", .fraction),
    ("NaN", .fraction)]

mutual

/-- A value; `nesting` bounds how deep values nest, and `limit` is reached by none. -/
def scanValue : (limit nesting : Nat) → List Char → Parsed
  | 0, _, _ => none
  | limit + 1, nesting, cs =>
    match scanName cs with
    | some (name, rest) =>
      match words.lookup (String.ofList name) with
      | some value => some (value, rest)
      | none => do
        match ← skip .outside rest with
        | '(' :: rest =>
          if name = "Some".toList then
            if nesting = 0 then none
            else
              let (value, rest) ← scanValue limit (nesting - 1) (← skip .outside rest)
              let (_, rest) ← skipComma rest
              return (value, ← dropLead [')'] rest)
          else scanFields limit nesting rest
        | rest => if name = "Some".toList then none else return (.null, rest)
    | none =>
      match cs with
      | '(' :: ')' :: rest => some (.null, rest)
      | '(' :: rest => scanFields limit nesting rest
      | '[' :: rest => (scanItems limit nesting ']' rest []).map fun (items, rest) =>
          (.arr items, rest)
      | '\x7b' :: rest => (scanEntries limit nesting '\x7d' rest []).map fun (entries, rest) =>
          (.obj entries, rest)
      | '\x27' :: rest => (scanChar rest).map fun (c, rest) => (.str (String.ofList [c]), rest)
      | 'r' :: rest => (scanRaw rest).map fun (text, rest) => (.str (String.ofList text), rest)
      | c :: rest =>
        if c = quote then
          (scanString (rest.length + 1) rest).map fun (text, rest) =>
            (.str (String.ofList text), rest)
        else number (c :: rest)
      | [] => none

def scanFields : (limit nesting : Nat) → List Char → Parsed
  | 0, _, _ => none
  | limit + 1, nesting, cs => do
    let cs ← skip .outside cs
    let isNamed := ((scanName cs).bind fun n => skip .outside n.2).any fun rest =>
      rest.head? = some ':'
    if isNamed then
      let (entries, rest) ← scanEntries limit nesting ')' cs []
      return (.obj entries, rest)
    else
      let (items, rest) ← scanItems limit nesting ')' cs []
      return (.arr items, rest)

def scanItems : (limit nesting : Nat) → (last : Char) → List Char → List Json →
    Option (List Json × List Char)
  | 0, _, _, _, _ => none
  | limit + 1, nesting, last, cs, items => do
    let cs ← skip .outside cs
    if cs.head? = some last then return (items.reverse, cs.drop 1)
    else if nesting = 0 then none
    else
      let (item, rest) ← scanValue limit (nesting - 1) cs
      let (comma, rest) ← skipComma rest
      if comma then scanItems limit nesting last rest (item :: items)
      else return ((item :: items).reverse, ← dropLead [last] rest)

def scanEntries : (limit nesting : Nat) → (last : Char) → List Char → List (String × Json) →
    Option (List (String × Json) × List Char)
  | 0, _, _, _, _ => none
  | limit + 1, nesting, last, cs, entries => do
    let cs ← skip .outside cs
    if cs.head? = some last then return (entries.reverse, cs.drop 1)
    else if nesting = 0 then none
    else
      let (key, rest) ← if last = ')' then (scanName cs).map fun (name, rest) =>
          (Json.str (String.ofList name), rest)
        else scanValue limit (nesting - 1) cs
      let rest ← dropLead [':'] (← skip .outside rest)
      let (value, rest) ← scanValue limit (nesting - 1) (← skip .outside rest)
      let (comma, rest) ← skipComma rest
      match key with
      | .str key =>
        if comma then scanEntries limit nesting last rest ((key, value) :: entries)
        else return (((key, value) :: entries).reverse, ← dropLead [last] rest)
      | _ => none

end

def extensions : List String :=
  ["unwrap_newtypes", "implicit_some", "unwrap_variant_newtypes", "explicit_struct_names"]

def dropWords : List String → List Char → Option (List Char)
  | [], cs => some cs
  | word :: words, cs => do dropWords words (← dropLead word.toList (← skip .outside cs))

def dropExtensions : (limit : Nat) → List Char → Option (List Char)
  | 0, _ => none
  | limit + 1, cs => do
    let (name, rest) ← scanName cs
    if !extensions.contains (String.ofList name) then none
    else
      let (comma, rest) ← skipComma rest
      if comma && rest.head?.any isNamePart then dropExtensions limit rest else return rest

def dropMarks : (limit : Nat) → List Char → Option (List Char)
  | 0, _ => none
  | limit + 1, cs => do
    let cs ← skip .outside cs
    if cs.head? = some '#' then
      let rest ← skip .outside (← dropWords ["#", "!", "[", "enable", "("] cs)
      let rest ← dropExtensions (rest.length + 1) rest
      dropMarks limit (← dropWords [")", "]"] rest)
    else return cs

def maxNesting : Nat := 128

def parse? (text : String) : Option Json := do
  let cs ← dropMarks (text.toList.length + 1) text.toList
  let (value, rest) ← scanValue (4 * cs.length + 1) maxNesting cs
  if (← skip .outside rest).isEmpty then return value else none

end DomainRegistry.Ron
