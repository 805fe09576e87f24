import DomainRegistry.Json.Basic

/-!
The tables of a TOML document while it is read. A table remembers how it came about, because that
decides what may be added to it later.
-/

namespace DomainRegistry.Toml

inductive TableOrigin where
  /-- Named only on the way to a table below it. -/
  | implicit
  | header
  /-- Made by a key with points. -/
  | dotted
  deriving DecidableEq

inductive Node where
  | leaf (value : Json)
  | table (origin : TableOrigin) (entries : List (String × Node))
  | tables (items : List (List (String × Node)))

abbrev Table := List (String × Node)

mutual

def Node.toJson : Node → Json
  | .leaf value => value
  | .table _ entries => .obj (entriesToJson entries)
  | .tables items => .arr (tablesToJson items)

def entriesToJson : List (String × Node) → List (String × Json)
  | [] => []
  | (key, node) :: rest => (key, node.toJson) :: entriesToJson rest

def tablesToJson : List (List (String × Node)) → List Json
  | [] => []
  | entries :: rest => .obj (entriesToJson entries) :: tablesToJson rest

end

namespace Table

def replace (t : Table) (key : String) (node : Node) : Table :=
  t.map fun e => if e.1 == key then (key, node) else e

abbrev Change := TableOrigin → Table → Option Table

/-- Changes the table below a path of headers; of an array of tables that is the last one. -/
def under (change : Change) : (path : List String) → Change
  | [], origin, t => change origin t
  | key :: path, _, t =>
    match t.lookup key with
    | none => (under change path .implicit []).map fun below =>
        t ++ [(key, .table .implicit below)]
    | some (.table origin entries) =>
      (under change path origin entries).map fun below => t.replace key (.table origin below)
    | some (.tables items) =>
      match items.getLast? with
      | some last => (under change path .header last).map fun below =>
          t.replace key (.tables (items.dropLast ++ [below]))
      | none => none
    | some (.leaf _) => none

/-- Changes the table below the parts of a key, which may not lead into a table with a header. -/
def underKey (change : Change) : (path : List String) → Change
  | [], origin, t => change origin t
  | key :: path, _, t =>
    match t.lookup key with
    | none => (underKey change path .dotted []).map fun below =>
        t ++ [(key, .table .dotted below)]
    | some (.table .header _) => none
    | some (.table origin entries) =>
      (underKey change path origin entries).map fun below => t.replace key (.table origin below)
    | some (.tables _) => none
    | some (.leaf _) => none

def insertNew (key : String) (value : Json) : Change := fun _ t =>
  match t.lookup key with
  | none => some (t ++ [(key, .leaf value)])
  | some _ => none

def insertBelow (key : String) (value : Json) : Change := fun origin t =>
  if origin = .header then none else insertNew key value origin t

/-- Gives a value to a key, which none of its kind may have. -/
def assign (key : List String) (value : Json) : Change := fun origin t =>
  match key.getLast? with
  | none => none
  | some last =>
    if key.length = 1 then insertNew last value origin t
    else underKey (insertBelow last value) key.dropLast origin t

def openTable (key : String) : Change := fun _ t =>
  match t.lookup key with
  | none => some (t ++ [(key, .table .header [])])
  | some (.table .implicit entries) => some (t.replace key (.table .header entries))
  | some _ => none

def openItem (key : String) : Change := fun _ t =>
  match t.lookup key with
  | none => some (t ++ [(key, .tables [[]])])
  | some (.tables items) => some (t.replace key (.tables (items ++ [[]])))
  | some _ => none

end Table

end DomainRegistry.Toml
