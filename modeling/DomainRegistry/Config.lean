import DomainRegistry.Registrar
import DomainRegistry.Zone.Policy

/-!
The configuration of a registry: one section for each part, the zones and the registrars.
-/

namespace DomainRegistry

inductive TrustMode where
  | production
  | pilot
  deriving DecidableEq, Inhabited

def TrustMode.word : TrustMode → String
  | production => "production"
  | pilot => "pilot"

def TrustMode.words : List (String × TrustMode) := [production, pilot].map fun m => (m.word, m)

structure TrustConfig where
  mode : TrustMode := .production
  /-- Public keys in base64. -/
  productionRoot : String := ""
  pilotRoot : String := ""
  /-- Files of revoked certificates and revoked marks. -/
  crlPath : Option String := none
  smdrlPath : Option String := none
  deriving DecidableEq

structure CachingConfig where
  /-- Zero for either turns the cache off. -/
  domainTtlSeconds : Nat := 10
  domainCapacity : Nat := 10000
  deriving DecidableEq

def CachingConfig.isOn (c : CachingConfig) : Bool := c.domainTtlSeconds != 0 && c.domainCapacity != 0

structure LimitsConfig where
  maxRegistrationYears : Nat := 10
  maxNameservers : Nat := 13
  maxDsRecords : Nat := 8
  claimsAcceptanceHours : Nat := 48
  deriving DecidableEq

structure LoggingConfig where
  name : String := "registry"
  level : String := "info"
  filter : Option String := none
  path : Option String := none
  json : Bool := false
  deriving DecidableEq

structure ListsConfig where
  reserved : SortedMap String String := .empty
  premium : SortedMap String String := .empty
  claims : Option String := none
  deriving DecidableEq

structure Config where
  trust : TrustConfig := {}
  caching : CachingConfig := {}
  limits : LimitsConfig := {}
  scanPartitions : Nat := 8
  logging : LoggingConfig := {}
  lists : ListsConfig := {}
  zones : SortedMap String ZonePolicy := .empty
  registrars : SortedMap String Registrar := .empty
  deriving DecidableEq

open Json

def TrustConfig.read? (mode : Json → Option TrustMode) (j : Json) : Option TrustConfig := do
  let f ← j.fields? ["mode", "production_root", "pilot_root", "crl_path", "smdrl_path"]
  return ⟨← f.orElse "mode" mode .production,
    ← f.orElse "production_root" string? "", ← f.orElse "pilot_root" string? "",
    ← f.orElse "crl_path" (optional? string?) none,
    ← f.orElse "smdrl_path" (optional? string?) none⟩

def TrustConfig.ofJson? (j : Json) : Option TrustConfig := read? (word? TrustMode.words) j

def TrustConfig.toJson (c : TrustConfig) : Json :=
  obj [("mode", str c.mode.word), ("production_root", str c.productionRoot),
    ("pilot_root", str c.pilotRoot), ("crl_path", ofOption str c.crlPath),
    ("smdrl_path", ofOption str c.smdrlPath)]

def CachingConfig.ofJson? (j : Json) : Option CachingConfig := do
  let f ← j.fields? ["domain_ttl_seconds", "domain_capacity"]
  return ⟨← f.orElse "domain_ttl_seconds" (natBelow? UInt64.size) 10,
    ← f.orElse "domain_capacity" (natBelow? UInt64.size) 10000⟩

def CachingConfig.toJson (c : CachingConfig) : Json :=
  obj [("domain_ttl_seconds", ofNat c.domainTtlSeconds),
    ("domain_capacity", ofNat c.domainCapacity)]

def LimitsConfig.ofJson? (j : Json) : Option LimitsConfig := do
  let f ← j.fields? ["max_registration_years", "max_nameservers", "max_ds_records",
    "claims_acceptance_window_hours"]
  return ⟨← f.orElse "max_registration_years" (natBelow? UInt32.size) 10,
    ← f.orElse "max_nameservers" (natBelow? UInt64.size) 13,
    ← f.orElse "max_ds_records" (natBelow? UInt64.size) 8,
    ← f.orElse "claims_acceptance_window_hours" (natBelow? UInt32.size) 48⟩

def LimitsConfig.toJson (c : LimitsConfig) : Json :=
  obj [("max_registration_years", ofNat c.maxRegistrationYears),
    ("max_nameservers", ofNat c.maxNameservers), ("max_ds_records", ofNat c.maxDsRecords),
    ("claims_acceptance_window_hours", ofNat c.claimsAcceptanceHours)]

def scanPartitions? (j : Json) : Option Nat := do
  (← j.fields? ["scan_partitions"]).orElse "scan_partitions" (natBelow? UInt64.size) 8

def LoggingConfig.ofJson? (j : Json) : Option LoggingConfig := do
  let f ← j.fields? ["name", "level", "filter", "path", "json"]
  return ⟨← f.orElse "name" string? "registry", ← f.orElse "level" string? "info",
    ← f.orElse "filter" (optional? string?) none, ← f.orElse "path" (optional? string?) none,
    ← f.orElse "json" bool? false⟩

def LoggingConfig.toJson (c : LoggingConfig) : Json :=
  obj [("name", str c.name), ("level", str c.level), ("filter", ofOption str c.filter),
    ("path", ofOption str c.path), ("json", bool c.json)]

def textMap? (j : Json) : Option (SortedMap String String) := map? some string? j

def ofTextMap (m : SortedMap String String) : Json := obj (m.toList.map fun (k, v) => (k, str v))

def ListsConfig.ofJson? (j : Json) : Option ListsConfig := do
  let f ← j.fields? ["reserved", "premium", "claims"]
  return ⟨← f.orElse "reserved" textMap? .empty, ← f.orElse "premium" textMap? .empty,
    ← f.orElse "claims" (optional? string?) none⟩

def ListsConfig.toJson (c : ListsConfig) : Json :=
  obj [("reserved", ofTextMap c.reserved), ("premium", ofTextMap c.premium),
    ("claims", ofOption str c.claims)]

namespace Config

/-- The policy of a zone, under the name it is filed under unless it has one of its own. -/
def zone? (c : Config) (name : String) : Option ZonePolicy :=
  (c.zones.get? name).map fun z => z.named name

def registrar? (c : Config) (clientId : String) : Option Registrar :=
  (c.registrars.get? clientId).map fun r => r.identified clientId

def fieldNames : List String :=
  ["tmch", "caching", "flows", "async_delete", "logging", "lists", "tlds", "registrars"]

/-- Sections that are missing take their defaults; an array is no configuration. -/
def ofJson? (j : Json) : Option Config := do
  let f ← (j.fields? fieldNames).filter fun f => !f.byPlace
  return {
    trust := ← f.orElse "tmch" (TrustConfig.read? (looseWord? TrustMode.words)) {}
    caching := ← f.orElse "caching" CachingConfig.ofJson? {}
    limits := ← f.orElse "flows" LimitsConfig.ofJson? {}
    scanPartitions := ← f.orElse "async_delete" scanPartitions? 8
    logging := ← f.orElse "logging" LoggingConfig.ofJson? {}
    lists := ← f.orElse "lists" ListsConfig.ofJson? {}
    zones := ← f.orElse "tlds" (map? some (ZonePolicy.read? (looseWord? ZoneState.words))) .empty
    registrars := ← f.orElse "registrars" (map? some Registrar.ofJson?) .empty }

def toJson (c : Config) : Json :=
  obj [("tmch", c.trust.toJson), ("caching", c.caching.toJson), ("flows", c.limits.toJson),
    ("async_delete", obj [("scan_partitions", ofNat c.scanPartitions)]),
    ("logging", c.logging.toJson), ("lists", c.lists.toJson),
    ("tlds", obj (c.zones.toList.map fun (k, z) => (k, z.toJson))),
    ("registrars", obj (c.registrars.toList.map fun (k, r) => (k, r.toJson)))]

end Config

end DomainRegistry
