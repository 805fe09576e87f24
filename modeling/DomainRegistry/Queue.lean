import DomainRegistry.Json.Record

/-!
Queues of tasks, first in, first out. A closed queue takes no more tasks but still gives out those
it holds.
-/

namespace DomainRegistry

structure Queue (α : Type) where
  tasks : List α := []
  closed : Bool := false
  deriving DecidableEq

namespace Queue

variable {α : Type}

def add? (q : Queue α) (task : α) : Option (Queue α) :=
  if q.closed then none else some { q with tasks := q.tasks ++ [task] }

/-- A closed queue drops the task. -/
def offer (q : Queue α) (task : α) : Queue α := (q.add? task).getD q

def lease (q : Queue α) (max : Nat) : List α × Queue α :=
  (q.tasks.take max, { q with tasks := q.tasks.drop max })

def close (q : Queue α) : Queue α := { q with closed := true }

def isEmpty (q : Queue α) : Bool := q.tasks.isEmpty

def size (q : Queue α) : Nat := q.tasks.length

def closedMessage (name : String) : String := "Queue '" ++ name ++ "' is closed"

end Queue

inductive DnsRefresh where
  | domain (name : String)
  | host (name : String)
  deriving DecidableEq

structure DeletionRequest where
  jobId : String
  /-- Repository id of the host. -/
  target : String
  clientId : String
  bySuperuser : Bool
  requestedTime : Instant
  deriving DecidableEq

structure TaskQueues where
  dns : Queue DnsRefresh := {}
  asyncDelete : Queue DeletionRequest := {}
  deriving DecidableEq

namespace TaskQueues

def dnsName : String := "dns-pull"

def asyncDeleteName : String := "async-delete"

def close (q : TaskQueues) : TaskQueues := ⟨q.dns.close, q.asyncDelete.close⟩

end TaskQueues

open Json

def DnsRefresh.ofJson? (j : Json) : Option DnsRefresh := do
  let f ← j.fields? ["kind", "name"]
  let make ← f.required "kind" (word? [("domain", DnsRefresh.domain), ("host", DnsRefresh.host)])
  return make (← f.required "name" string?)

def DnsRefresh.toJson : DnsRefresh → Json
  | domain name => obj [("kind", str "domain"), ("name", str name)]
  | host name => obj [("kind", str "host"), ("name", str name)]

end DomainRegistry
