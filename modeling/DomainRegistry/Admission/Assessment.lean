import DomainRegistry.Admission.Checks
import DomainRegistry.Admission.Dnssec
import DomainRegistry.Admission.Launch
import DomainRegistry.Admission.Traced

/-!
Whether a domain may be created. Twelve steps are taken in a fixed order, and the first that rejects
gives the answer.
-/

namespace DomainRegistry

structure Admission where
  config : Config
  catalog : LabelCatalog
  verifier : Verifier

namespace Admission

def launchContext (a : Admission) (q : CreateRequest) (name : DomainName) : Launch.Context where
  label := name.label
  state := name.zone.stateAt q.now
  superuser := q.superuser
  now := q.now
  acceptanceHours := a.config.limits.claimsAcceptanceHours
  verifier := a.verifier

def checkSecDns (a : Admission) (q : CreateRequest) : Except Rejection Unit :=
  match q.command.secDns with
  | some s => Dnssec.check a.config.limits.maxDsRecords s
  | none => .ok ()

def isAnchorTenant (a : Admission) (q : CreateRequest) (name : DomainName) : Bool :=
  a.catalog.reservations.unlocks name.label name.zone q.command.authPassword

def reservationOf (a : Admission) (name : DomainName) : Reservation :=
  a.catalog.reservations.typeOf name.label name.zone

def planOf (a : Admission) (q : CreateRequest) (name : DomainName) (years : UInt32)
    (cost : CreateCost) (nameservers : SortedSet String) (evidence : Launch.Evidence) :
    CreatePlan where
  name := name.fullName
  label := name.label
  zone := name.zone.name
  years
  cost := cost.amount
  premium := cost.premium
  reservation := a.reservationOf name
  anchorTenant := a.isAnchorTenant q name
  sunrise := q.command.isSunrise
  table := name.table
  notice := evidence.notice
  smdId := evidence.mark.map fun m => m.data.id
  dsData := (q.command.secDns.map SecDns.dsData).getD []
  registrant := q.command.registrant.getD ""
  contacts := q.command.contacts
  nameservers
  addGraceDays := name.zone.addGraceDays

open Traced

def assess (a : Admission) (reader : Reader) (q : CreateRequest) : Traced CreatePlan := do
  step .existence (checkExistence reader q)
  let name ← step .domainName (DomainName.check a.config q.command.name)
  stepUnless q.superuser .registrarAccess (checkRegistrarAccess q name.zone)
  stepUnless q.superuser .zoneState (checkZoneState q name.zone)
  let (years, cost) ← step .period (checkPeriod a.config.limits a.catalog.pricing q name)
  let nameservers ← step .linkedResources (checkLinkedResources reader q)
  step .contacts (checkContacts q.command name.zone)
  step .nameservers (checkNameservers a.config.limits reader q name.zone)
  let evidence ← step .launchEvidence (Launch.check (a.launchContext q name) q.command.launch)
  step .dnssec (a.checkSecDns q)
  stepUnless q.superuser .gating
    (checkGating a.catalog q name cost (a.reservationOf name) (a.isAnchorTenant q name))
  step .fee (checkFee q cost)
  return a.planOf q name years cost nameservers evidence

end Admission

end DomainRegistry
