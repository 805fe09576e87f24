import DomainRegistry.Config
import DomainRegistry.Lists.Claims
import DomainRegistry.Lists.Premium
import DomainRegistry.Lists.ReservationPolicy

/-!
All lists that a registration consults.
-/

namespace DomainRegistry

structure LabelCatalog where
  reservations : ReservationPolicy := {}
  claims : ClaimsList := {}
  pricing : Pricing := {}
  deriving DecidableEq

namespace LabelCatalog

def contents (read : String → Option String) (path : String) : Except ListError String :=
  match read path with
  | some text => .ok text
  | none => .error .unreadable

/-- Reads the reserved lists, the premium lists and the claims list, in this order. -/
def load (read : String → Option String) (lists : ListsConfig) : Except ListError LabelCatalog := do
  let reserved ← lists.reserved.toList.mapM fun (name, path) => do
    ReservedList.parse name (← contents read path)
  let premium ← lists.premium.toList.mapM fun (name, path) => do
    PremiumList.parse name (← contents read path)
  let claims ←
    match lists.claims with
    | some path => do ClaimsList.parse (← contents read path)
    | none => pure {}
  return ⟨.ofLists reserved, claims, .ofLists premium⟩

end LabelCatalog

end DomainRegistry
