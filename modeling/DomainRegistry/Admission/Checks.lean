import DomainRegistry.Admission.Request
import DomainRegistry.Label.DomainName
import DomainRegistry.Lists.Catalog
import DomainRegistry.Store.Reader

/-!
The checks of single steps of an admission.
-/

namespace DomainRegistry.Admission

def checkExistence (reader : Reader) (q : CreateRequest) : Except Rejection Unit :=
  match reader.domainNamed? q.command.name q.now with
  | some _ => .error (.resourceAlreadyExists q.command.name)
  | none => .ok ()

def checkRegistrarAccess (q : CreateRequest) (zone : ZonePolicy) : Except Rejection Unit :=
  if q.registrar.allowedZones.contains zone.name then .ok ()
  else .error (.notAuthorizedForZone zone.name)

/-- Before landrush, only commands with signed marks are let in. -/
def checkZoneState (q : CreateRequest) (zone : ZonePolicy) : Except Rejection Unit :=
  match zone.stateAt q.now with
  | .landrush => .ok ()
  | .generalAvailability => .ok ()
  | .sunrise =>
    if q.command.isSunrise then .ok () else .error .noGeneralRegistrationsInCurrentPhase
  | .sunrush =>
    if q.command.isSunrise then .ok () else .error .noGeneralRegistrationsInCurrentPhase
  | .predelegation => .error .noGeneralRegistrationsInCurrentPhase
  | .quietPeriod => .error .noGeneralRegistrationsInCurrentPhase

def checkPeriod (limits : LimitsConfig) (pricing : Pricing) (q : CreateRequest) (name : DomainName) :
    Except Rejection (UInt32 × CreateCost) :=
  let period := q.command.period
  if period.unit ≠ .years then .error .badPeriodUnit
  else if period.value.toNat < 1 ∨ limits.maxRegistrationYears < period.value.toNat then
    .error (.badPeriod limits.maxRegistrationYears)
  else
    match pricing.createCost name.label name.zone period.value with
    | .error e => .error (.pricingUnavailable e.message)
    | .ok cost => .ok (period.value, cost)

/-- What a link points to: nothing, something about to be deleted, or a resource. -/
inductive Link (α : Type) where
  | missing
  | pendingDelete
  | found (a : α)

/-- Follows links in order. One about to be deleted is reported at once, missing ones together. -/
def followLinks {α : Type} (kind : LinkKind) (follow : String → Link α) (missing : List String)
    (found : List α) : List String → Except Rejection (List α)
  | [] =>
    if missing.isEmpty then .ok found.reverse
    else .error (.linkedResourcesDoNotExist kind missing.reverse)
  | id :: ids =>
    match follow id with
    | .missing => followLinks kind follow (id :: missing) found ids
    | .pendingDelete => .error (.linkedResourceInPendingDelete id)
    | .found a => followLinks kind follow missing (a :: found) ids

def contactLink (reader : Reader) (now : Instant) (id : String) : Link Contact :=
  match reader.contactWithId? id now with
  | none => .missing
  | some c => if c.isPendingDelete then .pendingDelete else .found c

def hostLink (reader : Reader) (now : Instant) (name : String) : Link Host :=
  match reader.hostNamed? name now with
  | none => .missing
  | some h => if h.isPendingDelete then .pendingDelete else .found h

def contactIds (c : CreateCommand) : SortedSet String :=
  .ofList (c.registrant.toList ++ c.contacts.map ContactLink.contactId)

def hostNames (c : CreateCommand) : SortedSet String := .ofList c.nameservers

def checkLinkedResources (reader : Reader) (q : CreateRequest) :
    Except Rejection (SortedSet String) := do
  let _ ← followLinks .contacts (contactLink reader q.now) [] [] (contactIds q.command).toList
  let hosts ← followLinks .hosts (hostLink reader q.now) [] [] (hostNames q.command).toList
  return .ofList (hosts.map Host.repoId)

/-- The roles of contacts: each must have one, and no two the same. -/
def distinctRoles (seen : List ContactRole) : List ContactLink → Except Rejection (List ContactRole)
  | [] => .ok seen
  | c :: cs =>
    match c.role with
    | none => .error .missingContactType
    | some role =>
      if seen.contains role then .error .duplicateContactForRole
      else distinctRoles (role :: seen) cs

def checkContacts (c : CreateCommand) (zone : ZonePolicy) : Except Rejection Unit := do
  let roles ← distinctRoles [] c.contacts
  match c.registrant with
  | none => .error .missingRegistrant
  | some registrant =>
    if !roles.contains .admin then .error .missingAdminContact
    else if !roles.contains .tech then .error .missingTechnicalContact
    else if !zone.allowedRegistrants.isEmpty && !zone.allowedRegistrants.contains registrant then
      .error (.registrantNotAllowed registrant)
    else .ok ()

/-- Whether a host below a domain of the registry lacks the addresses it needs. -/
def lacksGlue (reader : Reader) (now : Instant) (name : String) : Bool :=
  match reader.hostNamed? name now with
  | some h => h.superordinate.isSome && h.addresses.isEmpty
  | none => false

def checkNameservers (limits : LimitsConfig) (reader : Reader) (q : CreateRequest)
    (zone : ZonePolicy) : Except Rejection Unit :=
  let names := (hostNames q.command).toList
  let rejected := names.filter fun h => !zone.allowedHosts.contains h
  if limits.maxNameservers < names.length then .error (.tooManyNameservers limits.maxNameservers)
  else if names.length < zone.minNameservers then .error (.tooFewNameservers zone.minNameservers)
  else if !zone.allowedHosts.isEmpty && !rejected.isEmpty then
    .error (.nameserversNotAllowed rejected)
  else
    match names.find? (lacksGlue reader q.now) with
    | some host => .error (.nameserverMissingGlue host)
    | none => .ok ()

/-- Whether a command with a signed mark may have a label of this type. -/
def openInSunrise : Reservation → Bool
  | .allowedInSunrise => true
  | .nameCollision => true
  | _ => false

def checkReservation (q : CreateRequest) (label : String) (type : Reservation) (anchor : Bool) :
    Except Rejection Unit :=
  if !anchor && type != .unreserved && !(q.command.isSunrise && openInSunrise type) then
    .error (.domainReserved label (type.reason.getD "Reserved"))
  else .ok ()

/-- While claims run, a notice must be there exactly for the labels of the claims list. -/
def checkClaims (claims : ClaimsList) (q : CreateRequest) (label : String) (zone : ZonePolicy) :
    Except Rejection Unit :=
  let notice := q.command.claimsNotice
  if zone.inClaimsPeriod q.now then
    let listed := claims.contains label
    if listed && !q.command.isSunrise && notice.isNone then .error (.missingClaimsNotice label)
    else if !listed && notice.isSome then .error (.unexpectedClaimsNotice label)
    else .ok ()
  else if notice.isSome then .error (.claimsPeriodEnded zone.name)
  else .ok ()

def checkGating (catalog : LabelCatalog) (q : CreateRequest) (name : DomainName)
    (cost : CreateCost) (type : Reservation) (anchor : Bool) : Except Rejection Unit := do
  checkReservation q name.label type anchor
  checkClaims catalog.claims q name.label name.zone
  if cost.premium && q.registrar.blocksPremiumNames then .error .premiumNameBlocked

/-- A stated fee must be the cost; for a premium name it has to be stated. -/
def checkFee (q : CreateRequest) (cost : CreateCost) : Except Rejection Unit :=
  match q.command.fee with
  | some fee =>
    if fee.currency ≠ cost.amount.currency then .error (.currencyMismatch cost.amount.currency)
    else if fee ≠ cost.amount then .error (.feesMismatch cost.amount.render)
    else .ok ()
  | none =>
    if cost.premium && !q.superuser then .error .feesRequiredForPremiumName else .ok ()

end DomainRegistry.Admission
