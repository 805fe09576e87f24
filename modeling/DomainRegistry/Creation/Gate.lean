import DomainRegistry.Label.DomainName
import DomainRegistry.State

/-!
What is done before a creation is looked into: names that are plainly taken are turned away by a
look-up outside any transaction, and the new domain gets its repository id.
-/

namespace DomainRegistry.Gate

/-- A taken name is turned away, unless the domain is in its first days and may still be dropped. -/
def check (s : State) (name : String) (now : Instant) : Except Rejection Unit × State :=
  let (holder, s) := s.load name now
  match holder with
  | none => (.ok (), s)
  | some d =>
    if (d.graceAt now).contains .add then (.ok (), s)
    else (.error (.resourceAlreadyExists name), s)

def isBlankAscii (c : Char) : Bool :=
  c == ' ' || c == '\t' || c == '\n' || c == '\x0c' || c == '\r'

/-- Whether a name, not yet checked, may be looked up among the zones. -/
def isPlausible (name : String) : Bool :=
  name != "" && !name.toList.any fun c => Text.isUpperAscii c || isBlankAscii c

def repoId (config : Config) (s : State) (name : String) : Option String × State :=
  if isPlausible name then
    match DomainName.findZone? config name with
    | none => (none, s)
    | some zone =>
      let (id, s) := s.allocate zone.name
      (some id, s)
  else (none, s)

end DomainRegistry.Gate
