import DomainRegistry.Collection.SortedMap
import DomainRegistry.Store.Partition
import DomainRegistry.Store.Reader

/-!
Committed state: resources by repository id, and for each name the resource that was stored with it
last.
-/

namespace DomainRegistry

structure Tables where
  domains : SortedMap String Domain := .empty
  hosts : SortedMap String Host := .empty
  contacts : SortedMap String Contact := .empty
  domainNames : SortedMap String String := .empty
  hostNames : SortedMap String String := .empty
  contactIds : SortedMap String String := .empty
  history : List HistoryEntry := []
  pollMessages : List PollMessage := []
  deriving DecidableEq

namespace Tables

instance : Inhabited Tables := ⟨{}⟩

def insertDomain (t : Tables) (d : Domain) : Tables :=
  { t with domains := t.domains.insert d.repoId d, domainNames := t.domainNames.insert d.name d.repoId }

def insertHost (t : Tables) (h : Host) : Tables :=
  { t with hosts := t.hosts.insert h.repoId h, hostNames := t.hostNames.insert h.name h.repoId }

def insertContact (t : Tables) (c : Contact) : Tables :=
  { t with
    contacts := t.contacts.insert c.repoId c
    contactIds := t.contactIds.insert c.contactId c.repoId }

/-- The domain stored last with a name, whether it still exists or not. -/
def holder? (t : Tables) (name : String) : Option Domain :=
  (t.domainNames.get? name).bind t.domains.get?

def domainNamed? (t : Tables) (name : String) (now : Instant) : Option Domain :=
  (t.holder? name).filter fun d => d.isActive now

def hostNamed? (t : Tables) (name : String) (now : Instant) : Option Host :=
  ((t.hostNames.get? name).bind t.hosts.get?).filter fun h => h.isActive now

def contactWithId? (t : Tables) (contactId : String) (now : Instant) : Option Contact :=
  ((t.contactIds.get? contactId).bind t.contacts.get?).filter fun c => c.isActive now

def reader (t : Tables) : Reader where
  domain? := t.domains.get?
  host? := t.hosts.get?
  domainNamed? := t.domainNamed?
  hostNamed? := t.hostNamed?
  contactWithId? := t.contactWithId?
  domains := t.domains.values

def domainsIn (t : Tables) (partition partitions : Nat) : List Domain :=
  t.domains.values.filter fun d => partitionOf d.repoId partitions == partition

def historyOf (t : Tables) (parent : String) : List HistoryEntry :=
  t.history.filter fun h => h.parent == parent

def pollMessagesOf (t : Tables) (clientId : String) : List PollMessage :=
  t.pollMessages.filter fun p => p.clientId == clientId

end Tables

end DomainRegistry
