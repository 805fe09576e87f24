import DomainRegistry.Record.ResourceJson
import DomainRegistry.Report.Failure

/-!
What the parts of a registry answer, in JSON.
-/

namespace DomainRegistry

open Json

def Json.ofTextOption (o : Option String) : Json := ofOption str o

def Json.ofTimeOption (o : Option Instant) : Json := ofOption ofInstant o

def Money.toJson (m : Money) : Json :=
  obj [("currency", str m.currency), ("minor", int m.minor.toInt), ("display", str m.render)]

def Reservation.toJson (r : Reservation) : Json := str r.render

def ReservedEntry.toJson (e : ReservedEntry) : Json :=
  obj [("label", str e.label), ("type", e.type.toJson), ("authCode", ofTextOption e.authCode),
    ("comment", ofTextOption e.comment)]

def Listing.toJson (l : Listing) : Json := arr [str l.list, l.type.toJson]

def ListCheck.toJson (c : ListCheck) : Json :=
  obj [("tld", str c.zone), ("matches", ofNat c.count), ("list", ofTextOption c.list),
    ("type", c.type.toJson)]

def CreateCost.toJson (c : CreateCost) : Json :=
  obj [("amount", c.amount.toJson), ("premium", bool c.premium)]

def DomainName.toJson (n : DomainName) : Json :=
  obj [("fqdn", str n.fullName), ("label", str n.label), ("unicode", str n.unicodeLabel),
    ("tld", str n.zone.name), ("table", ofTextOption n.table)]

def CreatePlan.toJson (p : CreatePlan) : Json :=
  obj [("fqdn", str p.name), ("label", str p.label), ("tld", str p.zone),
    ("years", ofNat p.years.toNat), ("cost", str p.cost.render), ("premium", bool p.premium),
    ("reservation", p.reservation.toJson), ("anchor", bool p.anchorTenant),
    ("sunrise", bool p.sunrise), ("idnTable", ofTextOption p.table),
    ("notice", ofOption ClaimsNotice.toJson p.notice), ("smdId", ofTextOption p.smdId),
    ("dsData", ofList DsData.toJson p.dsData), ("registrant", str p.registrant),
    ("contacts", ofList ContactLink.toJson p.contacts),
    ("nameservers", ofStringSet p.nameservers), ("addGraceDays", ofNat p.addGraceDays)]

def Created.toJson (c : Created) : Json :=
  obj [("repoId", str c.repoId), ("created", ofInstant c.creationTime),
    ("expires", ofInstant c.expirationTime), ("plan", c.plan.toJson)]

def Traced.toJson {α : Type} (write : α → Json) (answer : Traced α) : Json :=
  (match answer.result with
    | .ok a => write a
    | .error r => r.toJson).extended [("steps", ofStrings (answer.reports.map StepReport.render))]

/-- A request, without its id but for whether the id was generated. -/
def DeletionRequest.toJson (q : DeletionRequest) : Json :=
  obj [("target", str q.target), ("client", str q.clientId), ("superuser", bool q.bySuperuser),
    ("requested", ofInstant q.requestedTime), ("generatedId", bool (JobId.isSafe q.jobId))]

def JobOutcome.toJson (o : JobOutcome) : Json := str o.message

/-- Which partitions were scanned is told only if none refers to the host. -/
def JobProgress.toJson (p : JobProgress) : Json :=
  obj [("target", str p.target), ("partitions", ofNat p.partitions),
    ("referenced", bool p.referenced),
    ("completed", if p.referenced then null else ofList ofNat p.completed.toList),
    ("finished", bool p.isScanned), ("outcome", ofOption JobOutcome.toJson p.outcome)]

def DeletionWorker.resultsToJson (results : DeletionWorker.Results) : Json :=
  ofList (fun (q, o) => arr [q.toJson, o.toJson]) results

def Domain.summary (ds : List Domain) : Json :=
  ofList (fun (id, name) => arr [str id, str name])
    (SortedMap.ofList (ds.map fun d => (d.repoId, d.name))).toList

end DomainRegistry
