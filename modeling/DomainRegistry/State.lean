import DomainRegistry.Store.Basic

/-!
The state of a registry: its store and its queues. Work in a transaction that succeeds has its
writes stored and then its tasks queued; work that fails leaves both as they were.
-/

namespace DomainRegistry

structure State where
  store : Store := {}
  queues : TaskQueues := {}
  deriving DecidableEq

namespace State

/-- Queues one task; a closed queue drops it. -/
def dispatch (q : TaskQueues) : Task → TaskQueues
  | .refresh task => { q with dns := q.dns.offer task }
  | .delete request => { q with asyncDelete := q.asyncDelete.offer request }

def commit (s : State) (x : Transaction) : State :=
  ⟨s.store.commit x, x.tasks.foldl dispatch s.queues⟩

def rollback (s : State) (x : Transaction) : State := { s with store := s.store.rollback x }

def transact {ε α : Type} (s : State) (work : Transaction → Except ε α × Transaction) :
    Except ε α × State :=
  match work s.store.begin with
  | (.ok a, x) => (.ok a, s.commit x)
  | (.error e, x) => (.error e, s.rollback x)

def snapshot (s : State) : Tables := s.store.committed

def load (s : State) (name : String) (now : Instant) : Option Domain × State :=
  let (d, store) := s.store.load name now
  (d, { s with store })

def allocate (s : State) (zone : String) : String × State :=
  let (id, store) := s.store.allocate zone
  (id, { s with store })

def seed (s : State) (x : Fixtures) : State := { s with store := s.store.seed x }

def shutdown (s : State) : State := { s with queues := s.queues.close }

end State

end DomainRegistry
