import DomainRegistry.Record.Resource

/-!
What can be looked up in a store: committed state, or a transaction over it.
-/

namespace DomainRegistry

/-- Names are looked up among resources that exist at the given time. -/
structure Reader where
  domain? : (repoId : String) → Option Domain
  host? : (repoId : String) → Option Host
  domainNamed? : (name : String) → (now : Instant) → Option Domain
  hostNamed? : (name : String) → (now : Instant) → Option Host
  contactWithId? : (contactId : String) → (now : Instant) → Option Contact
  /-- All stored domains, deleted ones included. -/
  domains : List Domain

end DomainRegistry
