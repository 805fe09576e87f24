import DomainRegistry.Record.Command
import DomainRegistry.Registrar
import DomainRegistry.Reservation

/-!
What is asked of the registry when a domain is to be created, and what it plans to do.
-/

namespace DomainRegistry

structure CreateRequest where
  command : CreateCommand
  registrar : Registrar
  superuser : Bool
  now : Instant
  deriving DecidableEq

structure CreatePlan where
  name : String
  label : String
  zone : String
  years : UInt32
  cost : Money
  premium : Bool
  reservation : Reservation
  anchorTenant : Bool
  sunrise : Bool
  table : Option String
  notice : Option ClaimsNotice
  smdId : Option String
  dsData : List DsData
  registrant : String
  contacts : List ContactLink
  /-- Repository ids of the hosts. -/
  nameservers : SortedSet String
  addGraceDays : Nat
  deriving DecidableEq

end DomainRegistry
