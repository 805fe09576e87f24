import DomainRegistry.Queue
import DomainRegistry.RepoId
import DomainRegistry.Store.Tables

/-!
Transactions. Writes are kept back until the end, but reads inside see them; tasks wait until the
writes are stored. Numbers for repository ids are used up at once.
-/

namespace DomainRegistry

structure Writes where
  domains : SortedMap String Domain := .empty
  hosts : SortedMap String Host := .empty
  contacts : SortedMap String Contact := .empty
  history : List HistoryEntry := []
  pollMessages : List PollMessage := []
  deriving DecidableEq

namespace Writes

def isEmpty (w : Writes) : Bool :=
  w.domains.isEmpty && w.hosts.isEmpty && w.contacts.isEmpty && w.history.isEmpty
    && w.pollMessages.isEmpty

def apply (w : Writes) (t : Tables) : Tables :=
  let t := w.domains.values.foldl Tables.insertDomain t
  let t := w.hosts.values.foldl Tables.insertHost t
  let t := w.contacts.values.foldl Tables.insertContact t
  { t with history := t.history ++ w.history, pollMessages := t.pollMessages ++ w.pollMessages }

def touched (w : Writes) : List String := w.domains.values.map Domain.name

end Writes

inductive Task where
  | refresh (task : DnsRefresh)
  | delete (request : DeletionRequest)
  deriving DecidableEq

structure Transaction where
  base : Tables
  ids : RepoId.Allocator
  writes : Writes := {}
  /-- Tasks for after the commit, in order. -/
  tasks : List Task := []

namespace Transaction

def putDomain (x : Transaction) (d : Domain) : Transaction :=
  { x with writes := { x.writes with domains := x.writes.domains.insert d.repoId d } }

def putHost (x : Transaction) (h : Host) : Transaction :=
  { x with writes := { x.writes with hosts := x.writes.hosts.insert h.repoId h } }

def putContact (x : Transaction) (c : Contact) : Transaction :=
  { x with writes := { x.writes with contacts := x.writes.contacts.insert c.repoId c } }

def recordHistory (x : Transaction) (entry : HistoryEntry) : Transaction :=
  { x with writes := { x.writes with history := x.writes.history ++ [entry] } }

def sendPollMessage (x : Transaction) (message : PollMessage) : Transaction :=
  { x with writes := { x.writes with pollMessages := x.writes.pollMessages ++ [message] } }

def afterCommit (x : Transaction) (task : Task) : Transaction :=
  { x with tasks := x.tasks ++ [task] }

def allocate (x : Transaction) (zone : String) : String × Transaction :=
  let (id, ids) := x.ids.repoId zone
  (id, { x with ids })

/--
A look-up by name: a written resource with the name, or else the stored one, in its written form if
it has been written.
-/
def byName {α : Type} (written : SortedMap String α) (stored? : Option α) (repoId : α → String)
    (hasName isActive : α → Bool) : Option α :=
  match written.values.find? fun a => hasName a && isActive a with
  | some a => some a
  | none =>
    match stored? with
    | none => none
    | some a =>
      match written.get? (repoId a) with
      | some b => if isActive b then some b else none
      | none => some a

def domain? (x : Transaction) (repoId : String) : Option Domain :=
  (x.writes.domains.get? repoId).or (x.base.domains.get? repoId)

def host? (x : Transaction) (repoId : String) : Option Host :=
  (x.writes.hosts.get? repoId).or (x.base.hosts.get? repoId)

def domainNamed? (x : Transaction) (name : String) (now : Instant) : Option Domain :=
  byName x.writes.domains (x.base.domainNamed? name now) Domain.repoId
    (fun d => d.name == name) fun d => d.isActive now

def hostNamed? (x : Transaction) (name : String) (now : Instant) : Option Host :=
  byName x.writes.hosts (x.base.hostNamed? name now) Host.repoId
    (fun h => h.name == name) fun h => h.isActive now

def contactWithId? (x : Transaction) (contactId : String) (now : Instant) : Option Contact :=
  byName x.writes.contacts (x.base.contactWithId? contactId now) Contact.repoId
    (fun c => c.contactId == contactId) fun c => c.isActive now

def domains (x : Transaction) : List Domain :=
  x.writes.domains.values
    ++ x.base.domains.values.filter fun d => !x.writes.domains.contains d.repoId

def reader (x : Transaction) : Reader where
  domain? := x.domain?
  host? := x.host?
  domainNamed? := x.domainNamed?
  hostNamed? := x.hostNamed?
  contactWithId? := x.contactWithId?
  domains := x.domains

end Transaction

end DomainRegistry
