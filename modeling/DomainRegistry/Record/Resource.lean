import DomainRegistry.Record.Command
import DomainRegistry.Record.Flags
import DomainRegistry.Record.IpAddress

/-!
What the registry stores: domains, hosts and contacts, the history of each, and the messages that
wait for registrars.
-/

namespace DomainRegistry

structure GraceKinds where
  bits : UInt8
  deriving DecidableEq

namespace GraceKinds

def names : List String := ["ADD", "RENEW", "TRANSFER", "AUTO_RENEW", "REDEMPTION"]

def none : GraceKinds := ⟨0⟩

/-- The only kind in which a deletion frees the name at once. -/
def add : GraceKinds := ⟨1⟩

def union (a b : GraceKinds) : GraceKinds := ⟨a.bits ||| b.bits⟩

def contains (a b : GraceKinds) : Bool := a.bits &&& b.bits == b.bits

def render (k : GraceKinds) : String := Flags.render names k.bits.toNat

def parse? (s : String) : Option GraceKinds :=
  (Flags.parse? names 256 s).map fun n => ⟨UInt8.ofNat n⟩

end GraceKinds

structure Status where
  bits : UInt16
  deriving DecidableEq, Inhabited

namespace Status

def names : List String :=
  ["PENDING_DELETE", "PENDING_TRANSFER", "CLIENT_HOLD", "SERVER_HOLD", "CLIENT_DELETE_PROHIBITED",
    "SERVER_DELETE_PROHIBITED", "INACTIVE"]

def none : Status := ⟨0⟩

def pendingDelete : Status := ⟨1⟩

def clientDeleteProhibited : Status := ⟨16⟩

def serverDeleteProhibited : Status := ⟨32⟩

def union (a b : Status) : Status := ⟨a.bits ||| b.bits⟩

def without (a b : Status) : Status := ⟨a.bits &&& ~~~b.bits⟩

def contains (a b : Status) : Bool := a.bits &&& b.bits == b.bits

def intersects (a b : Status) : Bool := a.bits &&& b.bits != 0

def render (s : Status) : String := Flags.render names s.bits.toNat

def parse? (text : String) : Option Status :=
  (Flags.parse? names UInt16.size text).map fun n => ⟨UInt16.ofNat n⟩

end Status

structure GracePeriod where
  kind : GraceKinds
  expirationTime : Instant
  clientId : String
  deriving DecidableEq

structure Domain where
  repoId : String
  name : String
  zone : String
  sponsor : String
  creationTime : Instant
  deletionTime : Option Instant
  expirationTime : Instant
  registrant : Option String
  contacts : List ContactLink
  /-- Repository ids of the hosts that serve the domain. -/
  nameservers : SortedSet String
  /-- Names of the hosts below the domain. -/
  subordinateHosts : SortedSet String
  dsData : List DsData
  claimsNotice : Option ClaimsNotice
  smdId : Option String
  idnTable : Option String
  gracePeriods : List GracePeriod
  status : Status
  deriving DecidableEq

structure Host where
  repoId : String
  name : String
  sponsor : String
  addresses : List IpAddress := []
  /-- Repository id of the domain the host is below. -/
  superordinate : Option String := none
  deletionTime : Option Instant := none
  status : Status := .none
  deriving DecidableEq

structure Contact where
  repoId : String
  contactId : String
  sponsor : String
  deletionTime : Option Instant := none
  status : Status := .none
  deriving DecidableEq

/-- Whether a resource with this deletion time still exists at `now`. -/
def activeAt (deletionTime : Option Instant) (now : Instant) : Bool :=
  match deletionTime with
  | some t => decide (now < t)
  | none => true

namespace Domain

def isActive (d : Domain) (now : Instant) : Bool := activeAt d.deletionTime now

def isPendingDelete (d : Domain) : Bool := d.status.contains .pendingDelete

/-- Kinds of the grace periods still running at `now`. -/
def graceAt (d : Domain) (now : Instant) : GraceKinds :=
  (d.gracePeriods.filter fun g => decide (now < g.expirationTime)).foldl
    (fun kinds g => kinds.union g.kind) .none

end Domain

def Host.isActive (h : Host) (now : Instant) : Bool := activeAt h.deletionTime now

def Host.isPendingDelete (h : Host) : Bool := h.status.contains .pendingDelete

def Contact.isActive (c : Contact) (now : Instant) : Bool := activeAt c.deletionTime now

def Contact.isPendingDelete (c : Contact) : Bool := c.status.contains .pendingDelete

inductive HistoryKind where
  | domainCreate
  | hostPendingDelete
  | hostDelete
  | hostDeleteFailure
  deriving DecidableEq

def HistoryKind.word : HistoryKind → String
  | domainCreate => "DOMAIN_CREATE"
  | hostPendingDelete => "HOST_PENDING_DELETE"
  | hostDelete => "HOST_DELETE"
  | hostDeleteFailure => "HOST_DELETE_FAILURE"

def HistoryKind.words : List (String × HistoryKind) :=
  [domainCreate, hostPendingDelete, hostDelete, hostDeleteFailure].map fun k => (k.word, k)

structure HistoryEntry where
  parent : String
  kind : HistoryKind
  clientId : String
  time : Instant
  bySuperuser : Bool
  deriving DecidableEq

structure PollMessage where
  clientId : String
  parent : String
  time : Instant
  message : String
  deriving DecidableEq

end DomainRegistry
