import DomainRegistry.Zone.Policy

/-!
The command to create a domain, with its extensions, and its JSON form.
-/

namespace DomainRegistry

inductive ContactRole where
  | admin
  | billing
  | tech
  deriving DecidableEq

def ContactRole.word : ContactRole → String
  | admin => "admin"
  | billing => "billing"
  | tech => "tech"

def ContactRole.words : List (String × ContactRole) :=
  [admin, billing, tech].map fun r => (r.word, r)

structure ContactLink where
  role : Option ContactRole
  contactId : String
  deriving DecidableEq

inductive PeriodUnit where
  | years
  | months
  deriving DecidableEq

def PeriodUnit.word : PeriodUnit → String
  | years => "y"
  | months => "m"

def PeriodUnit.words : List (String × PeriodUnit) := [years, months].map fun u => (u.word, u)

structure Period where
  unit : PeriodUnit := .years
  value : UInt32 := 1
  deriving DecidableEq

structure DsData where
  keyTag : UInt16
  algorithm : UInt8
  digestType : UInt8
  digest : String
  deriving DecidableEq

structure SecDns where
  dsData : List DsData := []
  maxSigLife : Option UInt64 := none
  deriving DecidableEq

inductive MarkEvidence where
  | encoded (encoding data : String)
  | unencoded (id : String)
  deriving DecidableEq

def MarkEvidence.isUnencoded : MarkEvidence → Bool
  | unencoded _ => true
  | encoded _ _ => false

structure ClaimsNotice where
  tcnId : String
  validatorId : String
  expirationTime : Instant
  acceptedTime : Instant
  deriving DecidableEq

structure Launch where
  phase : LaunchPhase
  signedMarks : List MarkEvidence := []
  codeMarks : List String := []
  notice : Option ClaimsNotice := none
  deriving DecidableEq

structure CreateCommand where
  name : String
  period : Period := {}
  registrant : Option String := none
  contacts : List ContactLink := []
  nameservers : List String := []
  authPassword : String := ""
  secDns : Option SecDns := none
  launch : Option Launch := none
  fee : Option Money := none
  deriving DecidableEq

namespace CreateCommand

/-- Whether the command carries at least one signed mark. -/
def isSunrise (c : CreateCommand) : Bool :=
  match c.launch with
  | some l => !l.signedMarks.isEmpty
  | none => false

def claimsNotice (c : CreateCommand) : Option ClaimsNotice := c.launch.bind Launch.notice

end CreateCommand

open Json

def ContactLink.ofJson? (j : Json) : Option ContactLink := do
  let f ← j.fields? ["type", "contactId"]
  return ⟨← f.optional "type" (word? ContactRole.words), ← f.required "contactId" string?⟩

def ContactLink.toJson (c : ContactLink) : Json :=
  obj [("type", ofOption (fun r => str r.word) c.role), ("contactId", str c.contactId)]

def Period.ofJson? (j : Json) : Option Period := do
  let f ← j.fields? ["unit", "value"]
  return ⟨← f.required "unit" (word? PeriodUnit.words), ← f.required "value" word32?⟩

def Period.toJson (p : Period) : Json :=
  obj [("unit", str p.unit.word), ("value", ofNat p.value.toNat)]

def DsData.ofJson? (j : Json) : Option DsData := do
  let f ← j.fields? ["keyTag", "algorithm", "digestType", "digest"]
  return ⟨← f.required "keyTag" word16?, ← f.required "algorithm" byte?,
    ← f.required "digestType" byte?, ← f.required "digest" string?⟩

def DsData.toJson (d : DsData) : Json :=
  obj [("keyTag", ofNat d.keyTag.toNat), ("algorithm", ofNat d.algorithm.toNat),
    ("digestType", ofNat d.digestType.toNat), ("digest", str d.digest)]

def SecDns.ofJson? (j : Json) : Option SecDns := do
  let f ← j.fields? ["dsData", "maxSigLife"]
  return ⟨← f.orElse "dsData" (list? DsData.ofJson?) [],
    ← f.orElse "maxSigLife" (optional? word64?) none⟩

def SecDns.toJson (s : SecDns) : Json :=
  obj [("dsData", ofList DsData.toJson s.dsData),
    ("maxSigLife", ofOption (fun n => ofNat n.toNat) s.maxSigLife)]

def MarkEvidence.formOf? : Json → Option (String × Json)
  | obj entries => do
    if givenOnce ["form"] entries then
      let form ← (← entries.lookup "form").string?
      some (form, obj (entries.filter fun e => e.1 != "form"))
    else none
  | arr (form :: rest) => form.string?.map fun form => (form, arr rest)
  | _ => none

/-- How deep a mark may nest, as a launch extension stands at the third level of a command. -/
def MarkEvidence.maxDepth : Nat := Json.maxDepth - 3

/-- A mark is read whole before its form is known. -/
def MarkEvidence.ofJson? (j : Json) : Option MarkEvidence := do
  let (form, rest) ← (some j).filter (isReadable maxDepth) |>.bind formOf?
  if form = "encoded" then
    let f ← rest.fields? ["encoding", "data"]
    return .encoded (← f.required "encoding" string?) (← f.required "data" string?)
  else if form = "unencoded" then
    let f ← rest.fields? ["id"]
    return .unencoded (← f.required "id" string?)
  else none

def MarkEvidence.toJson : MarkEvidence → Json
  | encoded encoding data =>
    obj [("form", str "encoded"), ("encoding", str encoding), ("data", str data)]
  | unencoded id => obj [("form", str "unencoded"), ("id", str id)]

def ClaimsNotice.ofJson? (j : Json) : Option ClaimsNotice := do
  let f ← j.fields? ["tcnId", "validatorId", "expirationTime", "acceptedTime"]
  return ⟨← f.required "tcnId" string?, ← f.required "validatorId" string?,
    ← f.required "expirationTime" instant?, ← f.required "acceptedTime" instant?⟩

def ClaimsNotice.toJson (n : ClaimsNotice) : Json :=
  obj [("tcnId", str n.tcnId), ("validatorId", str n.validatorId),
    ("expirationTime", ofInstant n.expirationTime), ("acceptedTime", ofInstant n.acceptedTime)]

def codeMark? (j : Json) : Option String := do (← j.fields? ["code"]).required "code" string?

def codeMarkToJson (code : String) : Json := obj [("code", str code)]

def Launch.ofJson? (j : Json) : Option Launch := do
  let f ← j.fields? ["phase", "signedMarks", "codeMarks", "notice"]
  return ⟨← f.required "phase" (word? LaunchPhase.words),
    ← f.orElse "signedMarks" (list? MarkEvidence.ofJson?) [],
    ← f.orElse "codeMarks" (list? codeMark?) [],
    ← f.orElse "notice" (optional? ClaimsNotice.ofJson?) none⟩

def Launch.toJson (l : Launch) : Json :=
  obj [("phase", str l.phase.word), ("signedMarks", ofList MarkEvidence.toJson l.signedMarks),
    ("codeMarks", ofList codeMarkToJson l.codeMarks),
    ("notice", ofOption ClaimsNotice.toJson l.notice)]

def fee? (j : Json) : Option Money := do
  (← j.fields? ["fee"]).required "fee" ZonePolicy.money?

def feeToJson (m : Money) : Json := obj [("fee", str m.render)]

namespace CreateCommand

def fieldNames : List String :=
  ["fullyQualifiedDomainName", "period", "registrant", "contacts", "nameservers", "authPassword",
    "secDns", "launch", "fee"]

def ofJson? (j : Json) : Option CreateCommand := do
  let f ← j.fields? fieldNames
  return {
    name := ← f.required "fullyQualifiedDomainName" string?
    period := ← f.orElse "period" Period.ofJson? {}
    registrant := ← f.optional "registrant" string?
    contacts := ← f.orElse "contacts" (list? ContactLink.ofJson?) []
    nameservers := ← f.orElse "nameservers" (list? string?) []
    authPassword := ← f.orElse "authPassword" string? ""
    secDns := ← f.orElse "secDns" (optional? SecDns.ofJson?) none
    launch := ← f.orElse "launch" (optional? Launch.ofJson?) none
    fee := ← f.orElse "fee" (optional? fee?) none }

def toJson (c : CreateCommand) : Json :=
  obj [("fullyQualifiedDomainName", str c.name), ("period", c.period.toJson),
    ("registrant", ofOption str c.registrant), ("contacts", ofList ContactLink.toJson c.contacts),
    ("nameservers", ofStrings c.nameservers), ("authPassword", str c.authPassword),
    ("secDns", ofOption SecDns.toJson c.secDns), ("launch", ofOption Launch.toJson c.launch),
    ("fee", ofOption feeToJson c.fee)]

end CreateCommand

end DomainRegistry
