import DomainRegistry.Json.Parser
import DomainRegistry.Record.ResourceJson

/-!
Resources to start a store with.
-/

namespace DomainRegistry

structure Fixtures where
  domains : List Domain := []
  hosts : List Host := []
  contacts : List Contact := []
  deriving DecidableEq

namespace Fixtures

open Json in
def ofJson? (j : Json) : Option Fixtures := do
  let f ← j.fields? ["domains", "hosts", "contacts"]
  return ⟨← f.orElse "domains" (list? Domain.ofJson?) [],
    ← f.orElse "hosts" (list? Host.ofJson?) [],
    ← f.orElse "contacts" (list? Contact.ofJson?) []⟩

open Json in
def toJson (x : Fixtures) : Json :=
  obj [("domains", ofList Domain.toJson x.domains), ("hosts", ofList Host.toJson x.hosts),
    ("contacts", ofList Contact.toJson x.contacts)]

def parse? (text : String) : Option Fixtures := (Json.parse? text).bind ofJson?

def parseFailure : String := "Fixture decode error (decoding fixtures)"

end Fixtures

end DomainRegistry
