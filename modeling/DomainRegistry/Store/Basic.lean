import DomainRegistry.Store.Fixtures
import DomainRegistry.Store.Transaction

/-!
The store: committed state, the numbers for new ids, and a cache of which domain holds a name. The
cache also remembers that no domain does, and forgets the names of domains that are written.
-/

namespace DomainRegistry

structure Store where
  committed : Tables := {}
  /-- Absent if look-ups are not cached. -/
  cache : Option (SortedMap String (Option Domain)) := some .empty
  ids : RepoId.Allocator := {}
  deriving DecidableEq

namespace Store

def empty (cached : Bool) (ids : RepoId.Allocator) : Store :=
  { cache := if cached then some .empty else none, ids }

def forget (s : Store) (names : List String) : Store :=
  { s with cache := s.cache.map fun cache => names.foldl SortedMap.erase cache }

def begin (s : Store) : Transaction := { base := s.committed, ids := s.ids }

def commit (s : Store) (x : Transaction) : Store :=
  let s := { s with ids := x.ids }
  if x.writes.isEmpty then s
  else { s with committed := x.writes.apply s.committed }.forget x.writes.touched

/-- Drops the writes of a transaction; the numbers it took stay used. -/
def rollback (s : Store) (x : Transaction) : Store := { s with ids := x.ids }

/-- Puts resources into committed state: contacts, then hosts, then domains. -/
def seed (s : Store) (x : Fixtures) : Store :=
  let t := x.contacts.foldl Tables.insertContact s.committed
  let t := x.hosts.foldl Tables.insertHost t
  let t := x.domains.foldl Tables.insertDomain t
  { s with committed := t }.forget (x.domains.map Domain.name)

/-- The domain that holds a name, from the cache if it is there, and the cache after that. -/
def cachedHolder (s : Store) (name : String) : Option Domain × Store :=
  match s.cache with
  | none => (s.committed.holder? name, s)
  | some cache =>
    match cache.get? name with
    | some holder => (holder, s)
    | none =>
      let holder := s.committed.holder? name
      (holder, { s with cache := some (cache.insert name holder) })

/-- The domain that holds a name outside any transaction, if it exists at `now`. -/
def load (s : Store) (name : String) (now : Instant) : Option Domain × Store :=
  let (holder, s) := s.cachedHolder name
  (holder.filter fun d => d.isActive now, s)

def allocate (s : Store) (zone : String) : String × Store :=
  let (id, ids) := s.ids.repoId zone
  (id, { s with ids })

end Store

end DomainRegistry
