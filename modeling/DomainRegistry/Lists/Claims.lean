import DomainRegistry.Collection.SortedMap
import DomainRegistry.Lists.Source
import DomainRegistry.Time.Rfc3339

/-!
The trademark claims list: labels and the keys under which their claims are filed.
-/

namespace DomainRegistry

open Text ListSource

structure ClaimsList where
  created : Instant := .epoch
  keys : SortedMap String String := .empty
  deriving DecidableEq

namespace ClaimsList

def listName : String := "claims"

def columnLine : String := "DNL,lookup-key,insertion-datetime"

def key? (l : ClaimsList) (label : String) : Option String := l.keys.get? label

def contains (l : ClaimsList) (label : String) : Bool := (l.key? label).isSome

def fault {α : Type} (line : Nat) (message : String) : Except ListError α :=
  .error (.malformed listName line message)

def time (line : Nat) (raw : List Char) : Except ListError Instant :=
  match Instant.parseStrict? (String.ofList raw) with
  | some t => .ok t
  | none => fault line (badTimestamp raw)

def header (line : List Char) : Except ListError Instant :=
  match columns line with
  | [['1'], created] => time 1 created
  | _ => fault 1 "expected header '1,<creation time>'"

/-- Adds a row of label, key and time. A later row for a label replaces an earlier one. -/
def addRow (keys : SortedMap String String) (row : Nat × List Char) :
    Except ListError (SortedMap String String) :=
  match columns row.2 with
  | [label, key, inserted] => do
    let _ ← time row.1 inserted
    if label.isEmpty || key.isEmpty then fault row.1 "empty label or key"
    else return keys.insert (lower (String.ofList label)) (String.ofList key)
  | _ => fault row.1 "expected 3 fields"

def parse (text : String) : Except ListError ClaimsList :=
  match filledLines text with
  | [] => fault 1 "empty claims list"
  | (_, first) :: rest => do
    let created ← header first
    match rest with
    | [] => fault 2 "missing column line"
    | (line, second) :: rows =>
      if String.ofList (trim second) ≠ columnLine then fault line "unexpected column line"
      else do
        let keys ← rows.foldlM addRow .empty
        return ⟨created, keys⟩

end ClaimsList

end DomainRegistry
