import DomainRegistry.Json.Basic
import DomainRegistry.Json.Token

/-!
Reading JSON: the tokens drive a machine whose stack holds the arrays and objects still open.
-/

namespace DomainRegistry.Json

/-- An open array or object with what it holds so far, last first. -/
inductive Frame where
  | array (items : List Json)
  | object (entries : List (String × Json)) (key : String)
  /-- An object with a key that is no text. -/
  | garbled

inductive Expect where
  | value
  | firstItem
  | firstKey
  | key
  | colon
  | separator
  | done (value : Json)

structure Machine where
  stack : List Frame
  expect : Expect

namespace Machine

def start : Machine := ⟨[], .value⟩

def complete (value : Json) : List Frame → Machine
  | [] => ⟨[], .done value⟩
  | .array items :: below => ⟨.array (value :: items) :: below, .separator⟩
  | .object entries key :: below => ⟨.object ((key, value) :: entries) key :: below, .separator⟩
  | .garbled :: below => ⟨.garbled :: below, .separator⟩

def take (stack : List Frame) : Token → Option Machine
  | .openArray => some ⟨.array [] :: stack, .firstItem⟩
  | .openObject => some ⟨.object [] "" :: stack, .firstKey⟩
  | .null => some (complete .null stack)
  | .bool b => some (complete (.bool b) stack)
  | .int n => some (complete (.int n) stack)
  | .fraction => some (complete .fraction stack)
  | .str s => some (complete (.str s) stack)
  | .garbled => some (complete .unreadable stack)
  | .outOfRange => some (complete .unreadable stack)
  | _ => none

def close : List Frame → Token → Option Machine
  | .array items :: below, .closeArray => some (complete (.arr items.reverse) below)
  | .object entries _ :: below, .closeObject => some (complete (.obj entries.reverse) below)
  | .garbled :: below, .closeObject => some (complete .unreadable below)
  | _, _ => none

def name (stack : List Frame) (key : Token) : Option Machine :=
  match stack, key with
  | .object entries _ :: below, .str key => some ⟨.object entries key :: below, .colon⟩
  | .object _ _ :: below, .garbled => some ⟨.garbled :: below, .colon⟩
  | .garbled :: below, .str _ => some ⟨.garbled :: below, .colon⟩
  | .garbled :: below, .garbled => some ⟨.garbled :: below, .colon⟩
  | _, _ => none

def step (m : Machine) (token : Token) : Option Machine :=
  match m.expect, token with
  | .value, t => take m.stack t
  | .firstItem, .closeArray => close m.stack .closeArray
  | .firstItem, t => take m.stack t
  | .firstKey, .closeObject => close m.stack .closeObject
  | .firstKey, key => name m.stack key
  | .key, key => name m.stack key
  | .colon, .colon => some ⟨m.stack, .value⟩
  | .separator, .comma =>
    match m.stack with
    | .array _ :: _ => some ⟨m.stack, .value⟩
    | .object _ _ :: _ => some ⟨m.stack, .key⟩
    | .garbled :: _ => some ⟨m.stack, .key⟩
    | [] => none
  | .separator, t => close m.stack t
  | _, _ => none

def result? (m : Machine) : Option Json :=
  match m.expect with
  | .done value => some value
  | _ => none

end Machine

def ofTokens? (tokens : List Token) : Option Json :=
  (tokens.foldlM Machine.step Machine.start).bind Machine.result?

def parse? (text : String) : Option Json := (tokens? .ofText text.toList).bind ofTokens?

/-- The document that bytes are. Where nothing is read, they need not be UTF-8. -/
def ofBytes? (bytes : Bytes) : Option Json :=
  (tokens? .ofBytes (bytes.map fun b => Char.ofNat b.toNat)).bind ofTokens?

def parseWhole? (text : String) : Option Json := (parse? text).filter (isReadable maxDepth)

end DomainRegistry.Json
