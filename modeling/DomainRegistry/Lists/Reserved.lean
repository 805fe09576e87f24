import DomainRegistry.Collection.SortedMap
import DomainRegistry.Lists.Source
import DomainRegistry.Reservation

/-!
Reserved lists: one label to a line with its type, an authorization code where the type is that of
anchor tenants, and perhaps a comment.
-/

namespace DomainRegistry

open Text ListSource

structure ReservedEntry where
  label : String
  type : Reservation
  /-- Present for anchor tenants only. -/
  authCode : Option String
  comment : Option String
  deriving DecidableEq

structure ReservedList where
  name : String
  entries : SortedMap String ReservedEntry
  deriving DecidableEq

namespace ReservedList

def get? (l : ReservedList) (label : String) : Option ReservedEntry := l.entries.get? label

def lineEntry (body : List Char) (comment : Option (List Char)) : Except String ReservedEntry :=
  match columns body with
  | [] => .error "missing reservation type"
  | [_] => .error "missing reservation type"
  | label :: kind :: rest =>
    match Reservation.parse? (String.ofList kind) with
    | none => .error (Reservation.parseFailure (String.ofList kind))
    | some type =>
      let label := lower (String.ofList label)
      let authCode := (rest.head?.filter fun c => !c.isEmpty).map String.ofList
      if 1 < rest.length then .error "too many fields"
      else if label = "" then .error "empty label"
      else if type = .anchorTenant ∧ authCode.isNone then
        .error "anchor tenant entry needs an auth code"
      else if type ≠ .anchorTenant ∧ authCode.isSome then
        .error "only anchor tenant entries may carry an auth code"
      else .ok ⟨label, type, authCode, comment.map String.ofList⟩

/-- Adds the entry of a line, if it has one; no label may be listed twice. -/
def addLine (name : String) (entries : SortedMap String ReservedEntry) (line : Nat × List Char) :
    Except ListError (SortedMap String ReservedEntry) :=
  let (body, comment) := splitComment line.2
  if body.isEmpty then .ok entries
  else
    match lineEntry body comment with
    | .error message => .error (.malformed name line.1 message)
    | .ok e =>
      if entries.contains e.label then
        .error (.malformed name line.1 ("duplicate label '" ++ e.label ++ "'"))
      else .ok (entries.insert e.label e)

def parse (name text : String) : Except ListError ReservedList := do
  let entries ← (numberedLines text.toList).foldlM (addLine name) .empty
  return ⟨name, entries⟩

end ReservedList

end DomainRegistry
