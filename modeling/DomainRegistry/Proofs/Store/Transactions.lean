import DomainRegistry.Proofs.Store.Tables
import DomainRegistry.State

/-!
Transactions at their two ends. Main statements: a transaction starts out reading committed state,
and its end leaves the tables that its writes make.
-/

namespace DomainRegistry

def Tables.log (t : Tables) (entries : List HistoryEntry) (messages : List PollMessage) : Tables :=
  { t with history := t.history ++ entries, pollMessages := t.pollMessages ++ messages }

namespace Tables

variable {t : Tables} {entries : List HistoryEntry} {messages : List PollMessage}

theorem Keyed.log (keyed : t.Keyed) : (t.log entries messages).Keyed :=
  ⟨keyed.domain, keyed.host⟩

end Tables

theorem Writes.apply_of_isEmpty {w : Writes} (empty : w.isEmpty = true) (t : Tables) :
    w.apply t = t := by
  simp only [isEmpty, SortedMap.isEmpty, Bool.and_eq_true, List.isEmpty_iff] at empty
  obtain ⟨⟨⟨⟨domains, hosts⟩, contacts⟩, history⟩, messages⟩ := empty
  simp [apply, SortedMap.values, domains, hosts, contacts, history, messages]

theorem Writes.apply_keyed {t : Tables} (w : Writes) (keyed : t.Keyed) : (w.apply t).Keyed := by
  have domains := Tables.foldl_keeps (fun _ d keyed => keyed.insertDomain d) keyed w.domains.values
  have hosts := Tables.foldl_keeps (fun _ h keyed => keyed.insertHost h) domains w.hosts.values
  have contacts := Tables.foldl_keeps (fun _ c keyed => keyed.insertContact c) hosts
    w.contacts.values
  exact contacts.log

namespace Store

variable (s : Store)

theorem commit_committed (x : Transaction) :
    (s.commit x).committed = x.writes.apply s.committed := by
  unfold commit
  split
  · next empty => exact (Writes.apply_of_isEmpty empty _).symm
  · rfl

theorem commit_ids (x : Transaction) : (s.commit x).ids = x.ids := by
  unfold commit
  split <;> rfl

theorem begin_byName {α : Type} (stored? : Option α) (repoId : α → String)
    (hasName isActive : α → Bool) :
    Transaction.byName .empty stored? repoId hasName isActive = stored? := by
  cases stored? <;> rfl

theorem begin_reader : s.begin.reader = s.committed.reader := by
  have domains : s.begin.domains = s.committed.domains.values := by
    change [] ++ s.committed.domains.values.filter (fun _ => true) = _
    simp
  rw [Transaction.reader, Tables.reader, domains]
  congr 1
  · funext name now; exact begin_byName ..
  · funext name now; exact begin_byName ..
  · funext id now; exact begin_byName ..

end Store

theorem State.load_state (s : State) (name : String) (now : Instant) :
    ∃ cache, (s.load name now).2 = { s with store := { s.store with cache } } := by
  change ∃ cache, { s with store := (s.store.cachedHolder name).2 } = _
  unfold Store.cachedHolder
  split
  · exact ⟨s.store.cache, rfl⟩
  · split
    · exact ⟨s.store.cache, rfl⟩
    · exact ⟨_, rfl⟩

theorem State.load_committed (s : State) (name : String) (now : Instant) :
    (s.load name now).2.store.committed = s.store.committed := by
  obtain ⟨cache, filled⟩ := s.load_state name now
  rw [filled]

def Store.Forgets (s : Store) (name : String) : Prop :=
  ∀ cache, s.cache = some cache → cache.get? name = none

theorem SortedMap.get?_foldl_erase {κ α : Type} [Ord κ] [DecidableEq κ] (ks : List κ)
    (m : SortedMap κ α) (k : κ) :
    (ks.foldl SortedMap.erase m).get? k = if k ∈ ks then none else m.get? k := by
  induction ks generalizing m with
  | nil => simp
  | cons l ks ih =>
    rw [List.foldl_cons, ih, get?_erase]
    by_cases later : k ∈ ks
    · rw [if_pos later, if_pos (List.mem_cons_of_mem l later)]
    · by_cases same : k = l
      · simp [same]
      · simp [later, same]

theorem Store.commit_forgets {s : Store} {x : Transaction} {name : String}
    (touched : name ∈ x.writes.touched) : (s.commit x).Forgets name := by
  unfold commit
  split
  · next empty =>
    simp only [Writes.isEmpty, SortedMap.isEmpty, Bool.and_eq_true, List.isEmpty_iff] at empty
    rw [Writes.touched, SortedMap.values, empty.1.1.1.1] at touched
    cases touched
  · intro cache cached
    obtain ⟨before, _, rfl⟩ := Option.map_eq_some_iff.mp cached
    rw [SortedMap.get?_foldl_erase]
    exact if_pos touched

theorem State.load_forgotten {s : State} {name : String} (forgotten : s.store.Forgets name)
    (now : Instant) : (s.load name now).1 = s.store.committed.domainNamed? name now := by
  change (s.store.cachedHolder name).1.filter _ = _
  unfold Store.cachedHolder
  cases cached : s.store.cache with
  | none => rfl
  | some cache =>
    dsimp only
    rw [forgotten cache cached]
    rfl

end DomainRegistry
