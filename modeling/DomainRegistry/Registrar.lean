import DomainRegistry.Json.Record

/-!
Registrars: who may register names, in which zones, and whether premium names are refused.
-/

namespace DomainRegistry

structure Registrar where
  clientId : String := ""
  allowedZones : SortedSet String := .empty
  blocksPremiumNames : Bool := false
  deriving DecidableEq, Inhabited

namespace Registrar

def withZone (r : Registrar) (zone : String) : Registrar :=
  { r with allowedZones := r.allowedZones.insert zone }

/-- The registrar under the id it is filed under, unless it has one of its own. -/
def identified (r : Registrar) (key : String) : Registrar :=
  if r.clientId = "" then { r with clientId := key } else r

open Json in
def ofJson? (j : Json) : Option Registrar := do
  let f ← j.fields? ["client_id", "allowed_tlds", "block_premium_names"]
  return {
    clientId := ← f.orElse "client_id" string? ""
    allowedZones := ← f.orElse "allowed_tlds" stringSet? .empty
    blocksPremiumNames := ← f.orElse "block_premium_names" bool? false }

open Json in
def toJson (r : Registrar) : Json :=
  obj [("client_id", str r.clientId), ("allowed_tlds", ofStringSet r.allowedZones),
    ("block_premium_names", bool r.blocksPremiumNames)]

end Registrar

end DomainRegistry
