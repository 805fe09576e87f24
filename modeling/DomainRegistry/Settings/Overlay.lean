import DomainRegistry.Json.Basic
import DomainRegistry.Settings.KeyPath

/-!
Settings from several sources laid over each other: objects merge key by key, and any other value
takes the place of what was there.
-/

namespace DomainRegistry.Settings

open Text

abbrev Entries := List (String × Json)

def put (key : String) (value : Json) (entries : Entries) : Entries :=
  if entries.any fun e => e.1 == key then
    entries.map fun e => if e.1 == key then (key, value) else e
  else entries ++ [(key, value)]

def entriesOf : Json → Entries
  | .obj entries => entries
  | _ => []

def itemsOf : Json → List Json
  | .arr items => items
  | _ => []

def valueAt (key : String) (entries : Entries) : Json := (entries.lookup key).getD .null

mutual

def merge (base : Json) : Json → Json
  | .obj entries => .obj (mergeEntries (entriesOf base) entries)
  | value => value

def mergeEntries (base : Entries) : Entries → Entries
  | [] => base
  | (key, value) :: rest =>
    mergeEntries (put key (merge (valueAt key base) value) base) rest

end

/-- Items with enough nulls at one end that they have a place, and that place from the start. -/
def makeRoom (place : Int) (items : List Json) : List Json × Nat :=
  let missing (n : Int) := List.replicate n.toNat Json.null
  if 0 ≤ place then (items ++ missing (place + 1 - items.length), place.toNat)
  else (missing (-place - items.length) ++ items, (items.length + place).toNat)

/-- Lays a value over the one at a path; what stands in the way becomes an object or an array. -/
def mergeAt (value : Json) : KeyPath → Json → Json
  | [], base => merge base value
  | .key name :: path, base =>
    .obj (put name (mergeAt value path (valueAt name (entriesOf base))) (entriesOf base))
  | .place n :: path, base =>
    let (items, index) := makeRoom n (itemsOf base)
    .arr (items.set index (mergeAt value path (items.getD index .null)))

def overlay (base : Json) (source : Entries) : Json :=
  source.foldl (fun base e => mergeAt e.2 (.ofKey e.1) base) base

mutual

/-- A document in which of several entries with one key only the last is left. -/
def lastOfEach : Json → Json
  | .arr items => .arr (lastOfEachItem items)
  | .obj entries => .obj ((lastOfEachEntry entries).foldl (fun kept e => put e.1 e.2 kept) [])
  | j => j

def lastOfEachItem : List Json → List Json
  | [] => []
  | item :: items => lastOfEach item :: lastOfEachItem items

def lastOfEachEntry : Entries → Entries
  | [] => []
  | (key, value) :: entries => (key, lastOfEach value) :: lastOfEachEntry entries

end

end DomainRegistry.Settings
