import DomainRegistry.Json.Record
import DomainRegistry.Money
import DomainRegistry.Zone.Phase

/-!
What a zone allows: its timetable, prices, lists and restrictions.
-/

namespace DomainRegistry

structure ZonePolicy where
  name : String := ""
  /-- The state that starts at each instant. -/
  stateTransitions : SortedMap Instant ZoneState := .ofList [(.epoch, .predelegation)]
  claimsPeriodEnd : Instant := .latest
  createCost : Money := ⟨"USD", 1300⟩
  reservedLists : List String := []
  premiumList : Option String := none
  idnTables : List String := []
  allowedRegistrants : SortedSet String := .empty
  allowedHosts : SortedSet String := .empty
  minNameservers : Nat := 0
  addGraceDays : Nat := 5
  deriving DecidableEq, Inhabited

namespace ZonePolicy

/-- A zone open to everyone since the epoch. -/
def generalAvailability (name : String) : ZonePolicy :=
  { name, stateTransitions := .ofList [(.epoch, .generalAvailability)] }

def latestUpTo (now : Instant) (current : ZoneState) : List (Instant × ZoneState) → ZoneState
  | [] => current
  | (start, state) :: rest => if start ≤ now then latestUpTo now state rest else current

/-- The state that started last; a zone starts out undelegated. -/
def stateAt (z : ZonePolicy) (now : Instant) : ZoneState :=
  latestUpTo now .predelegation z.stateTransitions.toList

def inClaimsPeriod (z : ZonePolicy) (now : Instant) : Bool := decide (now < z.claimsPeriodEnd)

def currency (z : ZonePolicy) : String := z.createCost.currency

/-- The policy under the name it is filed under, unless it has one of its own. -/
def named (z : ZonePolicy) (key : String) : ZonePolicy :=
  if z.name = "" then { z with name := key } else z

def fieldNames : List String :=
  ["name", "state_transitions", "claims_period_end", "create_cost", "reserved_lists",
    "premium_list", "idn_tables", "allowed_registrant_contact_ids",
    "allowed_fully_qualified_host_names", "min_nameservers", "add_grace_period_days"]

def money? (j : Json) : Option Money := j.string?.bind Money.parse?

open Json in
def read? (state : Json → Option ZoneState) (j : Json) : Option ZonePolicy := do
  let f ← j.fields? fieldNames
  let absent : ZonePolicy := {}
  return {
    name := ← f.orElse "name" string? absent.name
    stateTransitions := ← f.orElse "state_transitions"
      (map? Instant.parse? state) absent.stateTransitions
    claimsPeriodEnd := ← f.orElse "claims_period_end" instant? absent.claimsPeriodEnd
    createCost := ← f.orElse "create_cost" money? absent.createCost
    reservedLists := ← f.orElse "reserved_lists" (list? string?) absent.reservedLists
    premiumList := ← f.orElse "premium_list" (optional? string?) absent.premiumList
    idnTables := ← f.orElse "idn_tables" (list? string?) absent.idnTables
    allowedRegistrants := ← f.orElse "allowed_registrant_contact_ids" stringSet?
      absent.allowedRegistrants
    allowedHosts := ← f.orElse "allowed_fully_qualified_host_names" stringSet? absent.allowedHosts
    minNameservers := ← f.orElse "min_nameservers" (natBelow? UInt64.size) absent.minNameservers
    addGraceDays := ← f.orElse "add_grace_period_days" (natBelow? UInt32.size) absent.addGraceDays }

def ofJson? (j : Json) : Option ZonePolicy := read? (Json.word? ZoneState.words) j

open Json in
def toJson (z : ZonePolicy) : Json :=
  obj [("name", str z.name),
    ("state_transitions", obj (z.stateTransitions.toList.map fun (t, s) => (t.render, str s.word))),
    ("claims_period_end", ofInstant z.claimsPeriodEnd),
    ("create_cost", str z.createCost.render),
    ("reserved_lists", ofStrings z.reservedLists),
    ("premium_list", ofOption str z.premiumList),
    ("idn_tables", ofStrings z.idnTables),
    ("allowed_registrant_contact_ids", ofStringSet z.allowedRegistrants),
    ("allowed_fully_qualified_host_names", ofStringSet z.allowedHosts),
    ("min_nameservers", ofNat z.minNameservers),
    ("add_grace_period_days", ofNat z.addGraceDays)]

end ZonePolicy

end DomainRegistry
