import DomainRegistry.Yaml.Node
import DomainRegistry.Yaml.Token

/-!
YAML documents, read as JSON. A text holds one document, or none, which is an empty object.
-/

namespace DomainRegistry.Yaml

/-- The anchors so far; a name may be given again, and a value has none before its end. -/
structure Anchors where
  count : Nat := 0
  names : List (List Char × Nat) := []
  values : List (Nat × Node) := []

namespace Anchors

def register (a : Anchors) (name : List Char) : Anchors :=
  { a with count := a.count + 1, names := (name, a.count) :: a.names }

def complete (a : Anchors) (anchor : Option Nat) (n : Node) : Anchors :=
  match anchor with
  | some id => { a with values := (id, n) :: a.values }
  | none => a

def value? (a : Anchors) (name : List Char) : Option Node :=
  (a.names.lookup name).map fun id => (a.values.lookup id).getD .bad

end Anchors

abbrev Handles := Option (List Char × List Char)

def resolve? (h : Handles) (t : Tag) : Option Tag :=
  match h.filter fun d => d.1 = t.handle with
  | some (_, lead) => some { t with handle := lead }
  | none =>
    if t.handle = "!!".toList then some { t with handle := Node.coreHandle.toList }
    else if isFullHandle t.handle then none
    else some t

structure Properties where
  anchor : Option Nat := none
  tag : Option Tag := none

def scanProperties (h : Handles) (a : Anchors) :
    List Token → Option (Properties × Anchors × List Token)
  | .anchor name :: .tag t :: rest =>
    (resolve? h t).map fun t => (⟨some a.count, some t⟩, a.register name, rest)
  | .tag t :: .anchor name :: rest =>
    (resolve? h t).map fun t => (⟨some a.count, some t⟩, a.register name, rest)
  | .anchor name :: rest => some (⟨some a.count, none⟩, a.register name, rest)
  | .tag t :: rest => (resolve? h t).map fun t => (⟨none, some t⟩, a, rest)
  | rest => some ({}, a, rest)

abbrev Parsed := Option (Node × Anchors × List Token)

structure Pairs where
  key : Option Node := none
  /-- The last entry first. -/
  entries : List (Node × Node) := []

/-- Adds a key or a value; no key may stand twice, and a bad one does not count. -/
def Pairs.add (p : Pairs) (n : Node) : Option Pairs :=
  match p.key, n with
  | none, .bad => some p
  | none, n => some { p with key := some n }
  | some key, n =>
    if p.entries.any fun e => e.1.isSame key then none
    else some { entries := (key, n) :: p.entries }

def Pairs.close (p : Pairs) : Node := .map p.entries.reverse

def endsBlockValue : List Token → Bool
  | .key :: _ => true
  | .value :: _ => true
  | .blockEnd :: _ => true
  | _ => false

def endsFlowValue : List Token → Bool
  | .flowEntry :: _ => true
  | .flowMappingEnd :: _ => true
  | _ => false

def isFlowKeyMissing : List Token → Bool
  | .value :: _ => true
  | ts => endsFlowValue ts

mutual

/-- A value; `limit` is reached by none. -/
def parseNode : (limit : Nat) → Handles → (block indentless : Bool) → Anchors → List Token → Parsed
  | 0, _, _, _, _, _ => none
  | limit + 1, h, block, indentless, a, ts =>
    match ts with
    | .alias name :: rest => (a.value? name).map fun n => (n, a, rest)
    | ts => do
      let (p, a, ts) ← scanProperties h a ts
      let (n, a, rest) ← parseContent limit h block indentless p a ts
      return (n, a.complete p.anchor n, rest)

def parseContent : (limit : Nat) → Handles → (block indentless : Bool) → Properties → Anchors →
    List Token → Parsed
  | 0, _, _, _, _, _, _ => none
  | limit + 1, h, block, indentless, p, a, ts =>
    let missing := if p.tag.isSome || p.anchor.isSome then
        some (Node.ofScalar true p.tag [], a, ts) else none
    match ts with
    | .blockEntry :: _ => if indentless then parseIndentless limit h [] a ts else missing
    | .scalar plain text :: rest => some (.ofScalar plain p.tag text, a, rest)
    | .flowSequence :: rest => parseFlowSequence limit h true [] a rest
    | .flowMapping :: rest => parseFlowMapping limit h true {} a rest
    | .blockSequence :: rest => if block then parseBlockSequence limit h [] a rest else missing
    | .blockMapping :: rest => if block then parseBlockMapping limit h {} a rest else missing
    | _ => missing

/-- A list whose entries stand no deeper than its key. -/
def parseIndentless : (limit : Nat) → Handles → List Node → Anchors → List Token → Parsed
  | 0, _, _, _, _ => none
  | limit + 1, h, items, a, .blockEntry :: rest =>
    let isMissing := endsBlockValue rest || rest.head? = some .blockEntry
    if isMissing then parseIndentless limit h (.null :: items) a rest
    else do
      let (n, a, rest) ← parseNode limit h true false a rest
      parseIndentless limit h (n :: items) a rest
  | _, _, items, a, ts => some (.seq items.reverse, a, ts)

def parseBlockSequence : (limit : Nat) → Handles → List Node → Anchors → List Token → Parsed
  | 0, _, _, _, _ => none
  | _ + 1, _, items, a, .blockEnd :: rest => some (.seq items.reverse, a, rest)
  | limit + 1, h, items, a, .blockEntry :: rest =>
    if rest.head? = some .blockEntry || rest.head? = some .blockEnd then
      parseBlockSequence limit h (.null :: items) a rest
    else do
      let (n, a, rest) ← parseNode limit h true false a rest
      parseBlockSequence limit h (n :: items) a rest
  | _, _, _, _, _ => none

def parseBlockValue : (limit : Nat) → Handles → Anchors → List Token → Parsed
  | 0, _, _, _ => none
  | limit + 1, h, a, .value :: rest =>
    if endsBlockValue rest then some (.null, a, rest) else parseNode limit h true true a rest
  | _, _, a, ts => some (.null, a, ts)

def parseBlockMapping : (limit : Nat) → Handles → Pairs → Anchors → List Token → Parsed
  | 0, _, _, _, _ => none
  | _ + 1, _, p, a, .blockEnd :: rest => some (p.close, a, rest)
  | limit + 1, h, p, a, .key :: rest => do
    let (key, a, rest) ← if endsBlockValue rest then some (.null, a, rest)
      else parseNode limit h true true a rest
    let p ← p.add key
    let (value, a, rest) ← parseBlockValue limit h a rest
    parseBlockMapping limit h (← p.add value) a rest
  | limit + 1, h, p, a, .value :: rest => do
    let p ← p.add .null
    let (value, a, rest) ← parseBlockValue limit h a (.value :: rest)
    parseBlockMapping limit h (← p.add value) a rest
  | _, _, _, _, _ => none

/-- A mapping of one entry in a list in brackets. -/
def parsePair : (limit : Nat) → Handles → Anchors → List Token → Parsed
  | 0, _, _, _ => none
  | limit + 1, h, a, ts => do
    let (key, a, rest) ← match ts with
      | .value :: rest => some (.null, a, rest)
      | .flowEntry :: rest => some (.null, a, rest)
      | .flowSequenceEnd :: rest => some (.null, a, rest)
      | ts => parseNode limit h false false a ts
    let p ← Pairs.add {} key
    let (value, a, rest) ← match rest with
      | .value :: rest =>
        if rest.head? = some .flowEntry || rest.head? = some .flowSequenceEnd then
          some (.null, a, rest)
        else parseNode limit h false false a rest
      | rest => some (.null, a, rest)
    return ((← p.add value).close, a, rest)

def parseFlowSequence : (limit : Nat) → Handles → (first : Bool) → List Node → Anchors →
    List Token → Parsed
  | 0, _, _, _, _, _ => none
  | limit + 1, h, first, items, a, ts => do
    let ts ← match ts with
      | .flowEntry :: rest => some (if first then ts else rest)
      | .flowSequenceEnd :: _ => some ts
      | ts => if first then some ts else none
    match ts with
    | .flowSequenceEnd :: rest => return (.seq items.reverse, a, rest)
    | .key :: rest =>
      let (n, a, rest) ← parsePair limit h a rest
      parseFlowSequence limit h false (n :: items) a rest
    | ts =>
      let (n, a, rest) ← parseNode limit h false false a ts
      parseFlowSequence limit h false (n :: items) a rest

def parseFlowValue : (limit : Nat) → Handles → Anchors → List Token → Parsed
  | 0, _, _, _ => none
  | limit + 1, h, a, .value :: rest =>
    if endsFlowValue rest then some (.null, a, rest) else parseNode limit h false false a rest
  | _, _, a, ts => some (.null, a, ts)

def parseFlowMapping : (limit : Nat) → Handles → (first : Bool) → Pairs → Anchors → List Token →
    Parsed
  | 0, _, _, _, _, _ => none
  | limit + 1, h, first, p, a, ts => do
    let ts ← match ts with
      | .flowEntry :: rest => some (if first then ts else rest)
      | .flowMappingEnd :: _ => some ts
      | ts => if first then some ts else none
    match ts with
    | .flowMappingEnd :: rest => return (p.close, a, rest)
    | .key :: rest =>
      let (key, a, rest) ← if isFlowKeyMissing rest then some (.null, a, rest)
        else parseNode limit h false false a rest
      let p ← p.add key
      let (value, a, rest) ← parseFlowValue limit h a rest
      parseFlowMapping limit h false (← p.add value) a rest
    | .value :: rest =>
      let p ← p.add .null
      let (value, a, rest) ← parseFlowValue limit h a (.value :: rest)
      parseFlowMapping limit h false (← p.add value) a rest
    | ts =>
      let (key, a, rest) ← parseNode limit h false false a ts
      let p ← p.add key
      parseFlowMapping limit h false (← p.add .null) a rest

end

def dropEnds (ts : List Token) : List Token := ts.dropWhile (· == .documentEnd)

/-- Reads directives; of those about tags the last one counts. -/
def scanDirectives : (version : Bool) → Handles → List Token → Option (Handles × List Token)
  | version, _, .directive .version :: rest =>
    if version then none else scanDirectives true none rest
  | version, _, .directive (.tag handle lead) :: rest =>
    scanDirectives version (some (handle, lead)) rest
  | _, h, ts => some (h, ts)

def endsDocument : List Token → Bool
  | [] => true
  | .directive _ :: _ => true
  | .documentStart :: _ => true
  | .documentEnd :: _ => true
  | _ => false

def parseRoot (h : Handles) (ts : List Token) : Option (Node × List Token) :=
  (parseNode (8 * ts.length + 8) h true false {} ts).map fun (n, _, rest) => (n, rest)

def parseDocument (ts : List Token) : Option (Node × List Token) := do
  let (h, rest) ← scanDirectives false none ts
  match rest with
  | .documentStart :: rest => if endsDocument rest then return (.null, rest) else parseRoot h rest
  | rest => if rest.length < ts.length then none else parseRoot h rest

def ofTokens? (ts : List Token) : Option Node :=
  match dropEnds ts with
  | [] => some (.map [])
  | ts =>
    match parseDocument ts with
    | some (n, rest) => if (dropEnds rest).isEmpty then some n else none
    | none => none

def parse? (text : String) : Option Json :=
  ((tokens? text.toList).bind ofTokens?).bind Node.toJson?

end DomainRegistry.Yaml
