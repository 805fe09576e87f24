import DomainRegistry.Text.Basic

/-!
What the list files have in common: their faults, comments, and the header of files that start with
the time they were made.
-/

namespace DomainRegistry

inductive ListError where
  | malformed (list : String) (line : Nat) (message : String)
  /-- The file of the list cannot be read. -/
  | unreadable
  deriving DecidableEq

def ListError.message : ListError → String
  | malformed list line message =>
    "Malformed list '" ++ list ++ "' at line " ++ toString line ++ ": " ++ message
  | unreadable => "Unreadable list"

namespace ListSource

open Text

/-- A line without its comment, and the comment, which starts with a hash mark; both trimmed. -/
def splitComment (line : List Char) : List Char × Option (List Char) :=
  match splitOnce '#' line with
  | some (body, comment) => (trim body, some (trim comment) |>.filter fun c => !c.isEmpty)
  | none => (trim line, none)

def columns (line : List Char) : List (List Char) := (splitAll ',' line).map trim

/-- The lines of a text that hold anything but blanks, with their numbers. -/
def filledLines (text : String) : List (Nat × List Char) :=
  (numberedLines text.toList).filter fun (_, line) => !(trim line).isEmpty

def badTimestamp (raw : List Char) : String := "bad timestamp '" ++ String.ofList raw ++ "'"

end ListSource

end DomainRegistry
