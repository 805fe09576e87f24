/-!
JSON documents. Numbers are kept only where a record can hold them: integers of 64 bits.
-/

namespace DomainRegistry

inductive Json where
  | null
  | bool (value : Bool)
  | int (value : Int)
  /-- A number that is no 64-bit integer. -/
  | fraction
  | str (text : String)
  /-- A value that only the structure of a document can skip: a string that is no text, a number out
  of range, or an object with a key that is no text. -/
  | unreadable
  | arr (items : List Json)
  | obj (entries : List (String × Json))
  deriving Inhabited

namespace Json

def ofOption {α : Type} (write : α → Json) : Option α → Json
  | none => null
  | some a => write a

def ofList {α : Type} (write : α → Json) (items : List α) : Json := arr (items.map write)

def ofNat (n : Nat) : Json := int n

mutual

/-- Whether all of a document can be read and nests at most to some depth. -/
def isReadable : (depth : Nat) → Json → Bool
  | _, unreadable => false
  | 0, arr _ => false
  | 0, obj _ => false
  | depth + 1, arr items => itemsReadable depth items
  | depth + 1, obj entries => entriesReadable depth entries
  | _, _ => true

def itemsReadable (depth : Nat) : List Json → Bool
  | [] => true
  | item :: items => isReadable depth item && itemsReadable depth items

def entriesReadable (depth : Nat) : List (String × Json) → Bool
  | [] => true
  | (_, value) :: entries => isReadable depth value && entriesReadable depth entries

end

def maxDepth : Nat := 127

def get? (key : String) : Json → Option Json
  | obj entries => entries.lookup key
  | _ => none

end Json

end DomainRegistry
