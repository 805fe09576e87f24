import DomainRegistry.Proofs.Store.Shelves
import DomainRegistry.Proofs.Store.Transactions

/-!
What a transaction reads. Main statement: whatever a transaction has done, its look-ups find what the
same look-ups find once it is committed, as long as its writes let every name lead where it should.
-/

namespace DomainRegistry

namespace ResourceKind

def domain : ResourceKind Domain := ⟨Domain.repoId, Domain.name, Domain.isActive⟩

def host : ResourceKind Host := ⟨Host.repoId, Host.name, Host.isActive⟩

def contact : ResourceKind Contact := ⟨Contact.repoId, Contact.contactId, Contact.isActive⟩

end ResourceKind

namespace Tables

def domainShelf (t : Tables) : Shelf Domain := ⟨t.domains, t.domainNames⟩

def hostShelf (t : Tables) : Shelf Host := ⟨t.hosts, t.hostNames⟩

def contactShelf (t : Tables) : Shelf Contact := ⟨t.contacts, t.contactIds⟩

structure Sound (t : Tables) : Prop where
  domains : t.domainShelf.Sound .domain
  hosts : t.hostShelf.Sound .host
  contacts : t.contactShelf.Sound .contact

theorem sound_empty : ({} : Tables).Sound :=
  ⟨Shelf.sound_empty, Shelf.sound_empty, Shelf.sound_empty⟩

theorem Sound.insertDomain {t : Tables} (sound : t.Sound) {d : Domain}
    (unrenamed : ∀ e ∈ t.domains.get? d.repoId, d.name = e.name) : (t.insertDomain d).Sound :=
  ⟨sound.domains.put unrenamed, sound.hosts, sound.contacts⟩

theorem Sound.insertHost {t : Tables} (sound : t.Sound) {h : Host}
    (unrenamed : ∀ g ∈ t.hosts.get? h.repoId, h.name = g.name) : (t.insertHost h).Sound :=
  ⟨sound.domains, sound.hosts.put unrenamed, sound.contacts⟩

theorem Sound.insertContact {t : Tables} (sound : t.Sound) {c : Contact}
    (unrenamed : ∀ b ∈ t.contacts.get? c.repoId, c.contactId = b.contactId) :
    (t.insertContact c).Sound :=
  ⟨sound.domains, sound.hosts, sound.contacts.put unrenamed⟩

theorem foldl_same {α β : Type} (view : Tables → β) (put : Tables → α → Tables)
    (same : ∀ t a, view (put t a) = view t) (t : Tables) (as : List α) :
    view (as.foldl put t) = view t :=
  foldl_keeps (fun u a before => (same u a).trans before) rfl as

variable (t : Tables)

theorem insertDomains_others (ds : List Domain) :
    (ds.foldl insertDomain t).hostShelf = t.hostShelf
      ∧ (ds.foldl insertDomain t).contactShelf = t.contactShelf :=
  ⟨foldl_same hostShelf insertDomain (fun _ _ => rfl) t ds,
    foldl_same contactShelf insertDomain (fun _ _ => rfl) t ds⟩

theorem insertHosts_others (hs : List Host) :
    (hs.foldl insertHost t).domainShelf = t.domainShelf
      ∧ (hs.foldl insertHost t).contactShelf = t.contactShelf :=
  ⟨foldl_same domainShelf insertHost (fun _ _ => rfl) t hs,
    foldl_same contactShelf insertHost (fun _ _ => rfl) t hs⟩

theorem insertContacts_others (cs : List Contact) :
    (cs.foldl insertContact t).domainShelf = t.domainShelf
      ∧ (cs.foldl insertContact t).hostShelf = t.hostShelf :=
  ⟨foldl_same domainShelf insertContact (fun _ _ => rfl) t cs,
    foldl_same hostShelf insertContact (fun _ _ => rfl) t cs⟩

end Tables

namespace Writes

variable (w : Writes) (t : Tables)

theorem apply_domainShelf :
    (w.apply t).domainShelf = w.domains.values.foldl (Shelf.put .domain) t.domainShelf := by
  let domains := w.domains.values.foldl Tables.insertDomain t
  let hosts := w.hosts.values.foldl Tables.insertHost domains
  calc (w.apply t).domainShelf
    _ = hosts.domainShelf := (hosts.insertContacts_others w.contacts.values).1
    _ = domains.domainShelf := (domains.insertHosts_others w.hosts.values).1
    _ = w.domains.values.foldl (Shelf.put .domain) t.domainShelf :=
      (List.foldl_hom Tables.domainShelf fun _ _ => rfl).symm

theorem apply_hostShelf :
    (w.apply t).hostShelf = w.hosts.values.foldl (Shelf.put .host) t.hostShelf := by
  let domains := w.domains.values.foldl Tables.insertDomain t
  let hosts := w.hosts.values.foldl Tables.insertHost domains
  calc (w.apply t).hostShelf
    _ = hosts.hostShelf := (hosts.insertContacts_others w.contacts.values).2
    _ = w.hosts.values.foldl (Shelf.put .host) domains.hostShelf :=
      (List.foldl_hom Tables.hostShelf fun _ _ => rfl).symm
    _ = w.hosts.values.foldl (Shelf.put .host) t.hostShelf := by
      rw [(t.insertDomains_others w.domains.values).1]

theorem apply_contactShelf :
    (w.apply t).contactShelf = w.contacts.values.foldl (Shelf.put .contact) t.contactShelf := by
  let domains := w.domains.values.foldl Tables.insertDomain t
  let hosts := w.hosts.values.foldl Tables.insertHost domains
  calc (w.apply t).contactShelf
    _ = w.contacts.values.foldl (Shelf.put .contact) hosts.contactShelf :=
      (List.foldl_hom Tables.contactShelf fun _ _ => rfl).symm
    _ = w.contacts.values.foldl (Shelf.put .contact) domains.contactShelf := by
      rw [(domains.insertHosts_others w.hosts.values).2]
    _ = w.contacts.values.foldl (Shelf.put .contact) t.contactShelf := by
      rw [(t.insertDomains_others w.domains.values).2]

structure Keyed (w : Writes) : Prop where
  domains : w.domains.KeyedBy ResourceKind.domain.repoId
  hosts : w.hosts.KeyedBy ResourceKind.host.repoId
  contacts : w.contacts.KeyedBy ResourceKind.contact.repoId

/-- That writes over a table give no resource another name, carry no name twice, and take no name
from a resource that is active while theirs is not. -/
structure Settled (w : Writes) (t : Tables) (now : Instant) : Prop where
  domains : t.domainShelf.Settled .domain w.domains now
  hosts : t.hostShelf.Settled .host w.hosts now
  contacts : t.contactShelf.Settled .contact w.contacts now

end Writes

structure Reader.AgreeAt (now : Instant) (r r' : Reader) : Prop where
  domain : ∀ id, r.domain? id = r'.domain? id
  host : ∀ id, r.host? id = r'.host? id
  domainNamed : ∀ name, r.domainNamed? name now = r'.domainNamed? name now
  hostNamed : ∀ name, r.hostNamed? name now = r'.hostNamed? name now
  contactWithId : ∀ id, r.contactWithId? id now = r'.contactWithId? id now
  domains : r.domains.Perm r'.domains
  once : (r.domains.map Domain.repoId).Nodup

namespace Transaction

inductive Action where
  | putDomain (d : Domain)
  | putHost (h : Host)
  | putContact (c : Contact)
  | recordHistory (entry : HistoryEntry)
  | sendPollMessage (message : PollMessage)
  | afterCommit (task : Task)
  | allocate (zone : String)

def act (x : Transaction) : Action → Transaction
  | .putDomain d => x.putDomain d
  | .putHost h => x.putHost h
  | .putContact c => x.putContact c
  | .recordHistory entry => x.recordHistory entry
  | .sendPollMessage message => x.sendPollMessage message
  | .afterCommit task => x.afterCommit task
  | .allocate zone => (x.allocate zone).2

variable {x : Transaction} {now : Instant}

theorem act_base (x : Transaction) (a : Action) : (x.act a).base = x.base := by
  cases a <;> rfl

theorem act_keyed (keyed : x.writes.Keyed) (a : Action) : (x.act a).writes.Keyed := by
  obtain ⟨domains, hosts, contacts⟩ := keyed
  cases a with
  | putDomain d => exact ⟨domains.insert d, hosts, contacts⟩
  | putHost h => exact ⟨domains, hosts.insert h, contacts⟩
  | putContact c => exact ⟨domains, hosts, contacts.insert c⟩
  | recordHistory _ => exact ⟨domains, hosts, contacts⟩
  | sendPollMessage _ => exact ⟨domains, hosts, contacts⟩
  | afterCommit _ => exact ⟨domains, hosts, contacts⟩
  | allocate _ => exact ⟨domains, hosts, contacts⟩

theorem acts_base (x : Transaction) (actions : List Action) :
    (actions.foldl act x).base = x.base := by
  induction actions generalizing x with
  | nil => rfl
  | cons a actions ih => exact (ih (x.act a)).trans (x.act_base a)

theorem acts_keyed (keyed : x.writes.Keyed) (actions : List Action) :
    (actions.foldl act x).writes.Keyed := by
  induction actions generalizing x with
  | nil => exact keyed
  | cons a actions ih => exact ih (act_keyed keyed a)

theorem reader_agreeAt (sound : x.base.Sound) (keyed : x.writes.Keyed)
    (settled : x.writes.Settled x.base now) :
    Reader.AgreeAt now x.reader (x.writes.apply x.base).reader := by
  have domains := x.writes.apply_domainShelf x.base
  have hosts := x.writes.apply_hostShelf x.base
  have contacts := x.writes.apply_contactShelf x.base
  have perm : x.domains.Perm (x.writes.apply x.base).domainShelf.resources.values := by
    rw [domains]
    exact Shelf.overlay_perm sound.domains.keyed keyed.domains
  refine ⟨?_, ?_, ?_, ?_, ?_, perm, ?_⟩
  · intro id
    change _ = (x.writes.apply x.base).domainShelf.resources.get? id
    rw [domains, Shelf.puts_get? keyed.domains]
    rfl
  · intro id
    change _ = (x.writes.apply x.base).hostShelf.resources.get? id
    rw [hosts, Shelf.puts_get? keyed.hosts]
    rfl
  · intro name
    change _ = (x.writes.apply x.base).domainShelf.named? .domain name now
    rw [domains]
    exact Shelf.byName_eq_named? sound.domains keyed.domains settled.domains name
  · intro name
    change _ = (x.writes.apply x.base).hostShelf.named? .host name now
    rw [hosts]
    exact Shelf.byName_eq_named? sound.hosts keyed.hosts settled.hosts name
  · intro id
    change _ = (x.writes.apply x.base).contactShelf.named? .contact id now
    rw [contacts]
    exact Shelf.byName_eq_named? sound.contacts keyed.contacts settled.contacts id
  · refine (perm.map Domain.repoId).nodup_iff.mpr ?_
    rw [domains]
    exact (Shelf.puts_keyed sound.domains.keyed _).nodup_values

end Transaction

def Store.working (s : Store) (actions : List Transaction.Action) : Transaction :=
  actions.foldl Transaction.act s.begin

theorem Store.working_base (s : Store) (actions : List Transaction.Action) :
    (s.working actions).base = s.committed :=
  Transaction.acts_base s.begin actions

theorem Store.working_keyed (s : Store) (actions : List Transaction.Action) :
    (s.working actions).writes.Keyed :=
  Transaction.acts_keyed
    ⟨SortedMap.keyedBy_empty, SortedMap.keyedBy_empty, SortedMap.keyedBy_empty⟩ actions

/-- What is read inside a transaction is what is read after its commit. -/
theorem Store.reads_as_committed {s : Store} (sound : s.committed.Sound)
    (actions : List Transaction.Action) {now : Instant}
    (settled : (s.working actions).writes.Settled s.committed now) :
    (s.commit (s.working actions)).committed = (s.working actions).writes.apply s.committed
      ∧ Reader.AgreeAt now (s.working actions).reader
        ((s.working actions).writes.apply s.committed).reader := by
  refine ⟨s.commit_committed _, ?_⟩
  have base := s.working_base actions
  rw [← base] at sound settled ⊢
  exact Transaction.reader_agreeAt sound (s.working_keyed actions) settled

def bareDomain (repoId name : String) (deletionTime : Option Instant) : Domain where
  repoId
  name
  zone := "tld"
  sponsor := "r"
  creationTime := .epoch
  deletionTime
  expirationTime := .latest
  registrant := none
  contacts := []
  nameservers := .empty
  subordinateHosts := .empty
  dsData := []
  claimsNotice := none
  smdId := none
  idnTable := none
  gracePeriods := []
  status := .none

def lowerHost : Host :=
  { repoId := "H-1", name := "ns.b.tld", sponsor := "r", superordinate := some "2-TLD" }

def releasedName : Store where
  committed := Tables.insertDomain {} (bareDomain "1-TLD" "a.tld" (some .epoch))
    |>.insertDomain (bareDomain "2-TLD" "b.tld" none)
    |>.insertHost lowerHost
    |>.insertContact { repoId := "C-1", contactId := "c", sponsor := "r" }

/-- The released name is registered and its domain changed once more; the host is deleted. -/
def rework : List Transaction.Action :=
  [.allocate "tld",
    .putDomain (bareDomain "3-TLD" "a.tld" none),
    .putDomain { bareDomain "2-TLD" "b.tld" none with registrant := some "c" },
    .putHost { lowerHost with deletionTime := some .epoch },
    .putContact { repoId := "C-2", contactId := "d", sponsor := "r" },
    .putDomain { bareDomain "3-TLD" "a.tld" none with registrant := some "d" },
    .recordHistory ⟨"3-TLD", .domainCreate, "r", .epoch, false⟩]

theorem releasedName_sound : releasedName.committed.Sound :=
  Tables.sound_empty.insertDomain (by decide) |>.insertDomain (by decide) |>.insertHost (by decide)
    |>.insertContact (by decide)

theorem rework_settled :
    (releasedName.working rework).writes.Settled releasedName.committed .epoch where
  domains := ⟨by decide +kernel, by decide +kernel, by decide +kernel⟩
  hosts := ⟨by decide +kernel, by decide +kernel, by decide +kernel⟩
  contacts := ⟨by decide +kernel, by decide +kernel, by decide +kernel⟩

theorem rework_reads_as_committed :
    releasedName.committed.Sound
      ∧ (releasedName.working rework).writes.Settled releasedName.committed .epoch
      ∧ Reader.AgreeAt .epoch (releasedName.working rework).reader
        ((releasedName.working rework).writes.apply releasedName.committed).reader
      ∧ ((releasedName.working rework).reader.domainNamed? "a.tld" .epoch).map Domain.repoId
        = some "3-TLD" :=
  ⟨releasedName_sound, rework_settled,
    (releasedName.reads_as_committed releasedName_sound rework rework_settled).2, by decide +kernel⟩

end DomainRegistry
