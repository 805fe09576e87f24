import DomainRegistry.Json.Basic
import DomainRegistry.Collection.SortedMap
import DomainRegistry.Collection.SortedSet
import DomainRegistry.Time.Rfc3339

/-!
Records in JSON: an object with named fields, or an array with the fields in their order. A record
type states its fields once and then reads each by its rule for absence.
-/

namespace DomainRegistry.Json

structure Fields where
  entries : List (String × Json)
  /-- Whether the document is an array, which gives fields by place. -/
  byPlace : Bool

/-- No known field may be given twice. -/
def givenOnce (names : List String) (entries : List (String × Json)) : Bool :=
  names.all fun name => (entries.filter fun e => e.1 == name).length ≤ 1

/-- The fields of a record with these field names; other entries are ignored. -/
def fields? (names : List String) : Json → Option Fields
  | obj entries => if givenOnce names entries then some ⟨entries, false⟩ else none
  | arr items => if items.length ≤ names.length then some ⟨names.zip items, true⟩ else none
  | _ => none

/-- The same, but an entry with another name makes the document no such record. -/
def exactFields? (names : List String) (j : Json) : Option Fields :=
  (fields? names j).filter fun f => f.entries.all fun e => names.contains e.1

namespace Fields

variable {α : Type}

def required (f : Fields) (name : String) (read : Json → Option α) : Option α :=
  (f.entries.lookup name).bind read

def orElse (f : Fields) (name : String) (read : Json → Option α) (absent : α) : Option α :=
  match f.entries.lookup name with
  | some j => read j
  | none => some absent

end Fields

def optional? {α : Type} (read : Json → Option α) : Json → Option (Option α)
  | null => some none
  | j => (read j).map some

/-- A field that may be null or missing, though an array has to have a place for it. -/
def Fields.optional {α : Type} (f : Fields) (name : String) (read : Json → Option α) :
    Option (Option α) :=
  if f.byPlace then f.required name (optional? read) else f.orElse name (optional? read) none

def string? : Json → Option String
  | str s => some s
  | _ => none

def bool? : Json → Option Bool
  | bool b => some b
  | _ => none

def natBelow? (limit : Nat) : Json → Option Nat
  | int n => if 0 ≤ n ∧ n < limit then some n.toNat else none
  | _ => none

def byte? (j : Json) : Option UInt8 := (natBelow? 256 j).map UInt8.ofNat

def word16? (j : Json) : Option UInt16 := (natBelow? UInt16.size j).map UInt16.ofNat

def word32? (j : Json) : Option UInt32 := (natBelow? UInt32.size j).map UInt32.ofNat

def word64? (j : Json) : Option UInt64 := (natBelow? UInt64.size j).map UInt64.ofNat

def list? {α : Type} (read : Json → Option α) : Json → Option (List α)
  | arr items => items.mapM read
  | _ => none

def instant? (j : Json) : Option Instant := j.string?.bind Instant.parse?

/-- A set of strings; repeated ones count once. -/
def stringSet? (j : Json) : Option (SortedSet String) := (list? string? j).map SortedSet.ofList

/-- An object whose keys are data; of entries with equal keys the last one counts. -/
def map? {κ α : Type} [Ord κ] [Std.TransOrd κ] [Std.LawfulEqOrd κ]
    (readKey : String → Option κ) (read : Json → Option α) : Json → Option (SortedMap κ α)
  | obj entries =>
    (entries.mapM fun (k, j) => do return (← readKey k, ← read j)).map SortedMap.ofList
  | _ => none

/-- One of several words, or an object with that word as its only key and null as its value. -/
def word? {α : Type} (words : List (String × α)) : Json → Option α
  | str s => words.lookup s
  | obj [(s, null)] => words.lookup s
  | _ => none

/-- The same, but the value of the key may also be an object without entries. -/
def looseWord? {α : Type} (words : List (String × α)) : Json → Option α
  | obj [(s, obj [])] => words.lookup s
  | j => word? words j

def ofInstant (t : Instant) : Json := str t.render

def ofStrings (items : List String) : Json := ofList str items

def ofStringSet (s : SortedSet String) : Json := ofStrings s.toList

end DomainRegistry.Json
