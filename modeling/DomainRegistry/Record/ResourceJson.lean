import DomainRegistry.Record.Resource

/-!
The JSON form of stored resources.
-/

namespace DomainRegistry

open Json

def GraceKinds.ofJson? (j : Json) : Option GraceKinds := j.string?.bind GraceKinds.parse?

def Status.ofJson? (j : Json) : Option Status := j.string?.bind Status.parse?

def Status.toJson (s : Status) : Json := str s.render

def IpAddress.ofJson? (j : Json) : Option IpAddress := j.string?.bind IpAddress.parse?

def IpAddress.toJson (a : IpAddress) : Json := str a.render

def GracePeriod.ofJson? (j : Json) : Option GracePeriod := do
  let f ← j.fields? ["kind", "expiration_time", "client_id"]
  return ⟨← f.required "kind" GraceKinds.ofJson?, ← f.required "expiration_time" instant?,
    ← f.required "client_id" string?⟩

def GracePeriod.toJson (g : GracePeriod) : Json :=
  obj [("kind", str g.kind.render), ("expiration_time", ofInstant g.expirationTime),
    ("client_id", str g.clientId)]

namespace Domain

def fieldNames : List String :=
  ["repoId", "fullyQualifiedDomainName", "tld", "currentSponsor", "creationTime", "deletionTime",
    "registrationExpirationTime", "registrant", "contacts", "nameservers", "subordinateHosts",
    "dsData", "launchNotice", "smdId", "idnTable", "gracePeriods", "status"]

def ofJson? (j : Json) : Option Domain := do
  let f ← j.fields? fieldNames
  return {
    repoId := ← f.required "repoId" string?
    name := ← f.required "fullyQualifiedDomainName" string?
    zone := ← f.required "tld" string?
    sponsor := ← f.required "currentSponsor" string?
    creationTime := ← f.required "creationTime" instant?
    deletionTime := ← f.optional "deletionTime" instant?
    expirationTime := ← f.required "registrationExpirationTime" instant?
    registrant := ← f.optional "registrant" string?
    contacts := ← f.required "contacts" (list? ContactLink.ofJson?)
    nameservers := ← f.required "nameservers" stringSet?
    subordinateHosts := ← f.required "subordinateHosts" stringSet?
    dsData := ← f.required "dsData" (list? DsData.ofJson?)
    claimsNotice := ← f.optional "launchNotice" ClaimsNotice.ofJson?
    smdId := ← f.optional "smdId" string?
    idnTable := ← f.optional "idnTable" string?
    gracePeriods := ← f.required "gracePeriods" (list? GracePeriod.ofJson?)
    status := ← f.required "status" Status.ofJson? }

def toJson (d : Domain) : Json :=
  obj [("repoId", str d.repoId), ("fullyQualifiedDomainName", str d.name), ("tld", str d.zone),
    ("currentSponsor", str d.sponsor), ("creationTime", ofInstant d.creationTime),
    ("deletionTime", ofOption ofInstant d.deletionTime),
    ("registrationExpirationTime", ofInstant d.expirationTime),
    ("registrant", ofOption str d.registrant), ("contacts", ofList ContactLink.toJson d.contacts),
    ("nameservers", ofStringSet d.nameservers),
    ("subordinateHosts", ofStringSet d.subordinateHosts),
    ("dsData", ofList DsData.toJson d.dsData),
    ("launchNotice", ofOption ClaimsNotice.toJson d.claimsNotice),
    ("smdId", ofOption str d.smdId), ("idnTable", ofOption str d.idnTable),
    ("gracePeriods", ofList GracePeriod.toJson d.gracePeriods), ("status", d.status.toJson)]

end Domain

namespace Host

def fieldNames : List String :=
  ["repoId", "fullyQualifiedHostName", "currentSponsor", "inetAddresses", "superordinateDomain",
    "deletionTime", "status"]

def ofJson? (j : Json) : Option Host := do
  let f ← j.fields? fieldNames
  return {
    repoId := ← f.required "repoId" string?
    name := ← f.required "fullyQualifiedHostName" string?
    sponsor := ← f.required "currentSponsor" string?
    addresses := ← f.orElse "inetAddresses" (list? IpAddress.ofJson?) []
    superordinate := ← f.orElse "superordinateDomain" (optional? string?) none
    deletionTime := ← f.orElse "deletionTime" (optional? instant?) none
    status := ← f.orElse "status" Status.ofJson? .none }

def toJson (h : Host) : Json :=
  obj [("repoId", str h.repoId), ("fullyQualifiedHostName", str h.name),
    ("currentSponsor", str h.sponsor), ("inetAddresses", ofList IpAddress.toJson h.addresses),
    ("superordinateDomain", ofOption str h.superordinate),
    ("deletionTime", ofOption ofInstant h.deletionTime), ("status", h.status.toJson)]

end Host

namespace Contact

def ofJson? (j : Json) : Option Contact := do
  let f ← j.fields? ["repoId", "contactId", "currentSponsor", "deletionTime", "status"]
  return {
    repoId := ← f.required "repoId" string?
    contactId := ← f.required "contactId" string?
    sponsor := ← f.required "currentSponsor" string?
    deletionTime := ← f.orElse "deletionTime" (optional? instant?) none
    status := ← f.orElse "status" Status.ofJson? .none }

def toJson (c : Contact) : Json :=
  obj [("repoId", str c.repoId), ("contactId", str c.contactId), ("currentSponsor", str c.sponsor),
    ("deletionTime", ofOption ofInstant c.deletionTime), ("status", c.status.toJson)]

end Contact

def HistoryEntry.ofJson? (j : Json) : Option HistoryEntry := do
  let f ← j.fields? ["parent", "kind", "clientId", "modificationTime", "bySuperuser"]
  return ⟨← f.required "parent" string?, ← f.required "kind" (word? HistoryKind.words),
    ← f.required "clientId" string?, ← f.required "modificationTime" instant?,
    ← f.required "bySuperuser" bool?⟩

def HistoryEntry.toJson (h : HistoryEntry) : Json :=
  obj [("parent", str h.parent), ("kind", str h.kind.word), ("clientId", str h.clientId),
    ("modificationTime", ofInstant h.time), ("bySuperuser", bool h.bySuperuser)]

def PollMessage.ofJson? (j : Json) : Option PollMessage := do
  let f ← j.fields? ["clientId", "parent", "eventTime", "message"]
  return ⟨← f.required "clientId" string?, ← f.required "parent" string?,
    ← f.required "eventTime" instant?, ← f.required "message" string?⟩

def PollMessage.toJson (p : PollMessage) : Json :=
  obj [("clientId", str p.clientId), ("parent", str p.parent), ("eventTime", ofInstant p.time),
    ("message", str p.message)]

end DomainRegistry
