import DomainRegistry.Proofs.Store.Cache

/-!
Names and what they lead to. Main statement: in whatever is done to a store, every name leads to a
repository id under which a domain is stored, and what the cache remembers is stored under its own.
-/

namespace DomainRegistry

namespace Tables

variable {t u v : Tables}

def Holds (t : Tables) (id : String) : Prop := t.domains.get? id ≠ none

/-- Names lead to stored domains, which need not carry them any more. -/
structure Rooted (t : Tables) : Prop where
  keyed : t.Keyed
  leads : ∀ name id, t.domainNames.get? name = some id → t.Holds id

def Grows (t u : Tables) : Prop := ∀ id, t.Holds id → u.Holds id

theorem Grows.refl (t : Tables) : t.Grows t := by
  intro id stored
  exact stored

theorem Grows.trans (first : t.Grows u) (second : u.Grows v) : t.Grows v := by
  intro id stored
  exact second id (first id stored)

theorem SameDomains.grows (same : SameDomains t u) : t.Grows u := by
  intro id stored
  rw [Holds, same.domains]
  exact stored

theorem grows_insertDomain (t : Tables) (d : Domain) : t.Grows (t.insertDomain d) := by
  intro id stored
  rw [Holds, insertDomain_get?]
  by_cases own : id = d.repoId
  · rw [if_pos own]
    exact Option.some_ne_none d
  · rw [if_neg own]
    exact stored

theorem grows_insertDomains (t : Tables) (ds : List Domain) :
    t.Grows (ds.foldl Tables.insertDomain t) :=
  foldl_keeps (fun u d grows => grows.trans (u.grows_insertDomain d)) (Grows.refl t) ds

theorem rooted_empty : Rooted {} := by
  refine ⟨keyed_empty, ?_⟩
  intro name id leads
  cases leads

theorem Rooted.insertDomain (rooted : t.Rooted) (d : Domain) : (t.insertDomain d).Rooted := by
  refine ⟨rooted.keyed.insertDomain d, ?_⟩
  intro name id leads
  rw [insertDomain_names] at leads
  by_cases own : name = d.name
  · rw [if_pos own] at leads
    cases leads
    rw [Holds, insertDomain_get?, if_pos rfl]
    exact Option.some_ne_none d
  · rw [if_neg own] at leads
    exact t.grows_insertDomain d id (rooted.leads name id leads)

theorem Rooted.insertDomains (rooted : t.Rooted) (ds : List Domain) :
    (ds.foldl Tables.insertDomain t).Rooted :=
  foldl_keeps (fun _ d rooted => rooted.insertDomain d) rooted ds

theorem Rooted.of_same (rooted : t.Rooted) (same : SameDomains t u) (keyed : u.Keyed) :
    u.Rooted := by
  refine ⟨keyed, ?_⟩
  intro name id leads
  rw [same.names] at leads
  exact same.grows id (rooted.leads name id leads)

theorem Rooted.holds_holder (rooted : t.Rooted) {name : String} {d : Domain}
    (found : t.holder? name = some d) : t.Holds d.repoId := by
  obtain ⟨id, leads, stored⟩ := Option.bind_eq_some_iff.mp found
  rw [rooted.keyed.domain id d stored]
  exact rooted.leads name id leads

end Tables

namespace Store

variable {s : Store}

structure Rooted (s : Store) : Prop where
  tables : s.committed.Rooted
  remembered : ∀ name d, s.remembered? name = some (some d) → s.committed.Holds d.repoId

theorem rooted_empty (cached : Bool) (ids : RepoId.Allocator) : (empty cached ids).Rooted := by
  refine ⟨Tables.rooted_empty, ?_⟩
  intro name d known
  cases cached with
  | true => cases known
  | false => cases known

theorem Rooted.withIds (rooted : s.Rooted) (ids : RepoId.Allocator) : Rooted { s with ids } :=
  ⟨rooted.tables, rooted.remembered⟩

theorem Rooted.replace (rooted : s.Rooted) {t : Tables} (names : List String)
    (tables : t.Rooted) (grows : s.committed.Grows t) :
    (Store.forget { s with committed := t } names).Rooted := by
  refine ⟨tables, ?_⟩
  intro name d known
  rw [remembered?_forget] at known
  by_cases member : name ∈ names
  · rw [if_pos member] at known
    cases known
  · rw [if_neg member] at known
    exact grows d.repoId (rooted.remembered name d known)

theorem Rooted.forget (rooted : s.Rooted) (names : List String) : (s.forget names).Rooted :=
  rooted.replace names rooted.tables (Tables.Grows.refl _)

theorem Rooted.seed (rooted : s.Rooted) (x : Fixtures) : (s.seed x).Rooted := by
  have same := s.seed_sameDomains x
  have contacts := Tables.foldl_keeps (fun _ c keyed => keyed.insertContact c)
    rooted.tables.keyed x.contacts
  have hosts := Tables.foldl_keeps (fun _ h keyed => keyed.insertHost h) contacts x.hosts
  have domains := Tables.foldl_keeps (fun _ d keyed => keyed.insertDomain d) hosts x.domains
  exact rooted.replace (x.domains.map Domain.name)
    ((rooted.tables.insertDomains x.domains).of_same same domains)
    ((s.committed.grows_insertDomains x.domains).trans same.grows)

theorem Rooted.commit (rooted : s.Rooted) (x : Transaction) : (s.commit x).Rooted := by
  have same := x.writes.apply_sameDomains s.committed
  have keyed := x.writes.apply_keyed rooted.tables.keyed
  unfold Store.commit
  dsimp only
  split
  · exact rooted.withIds x.ids
  · exact (rooted.withIds x.ids).replace x.writes.touched
      ((rooted.tables.insertDomains x.writes.domains.values).of_same same keyed)
      ((s.committed.grows_insertDomains x.writes.domains.values).trans same.grows)

theorem Rooted.load (rooted : s.Rooted) (name : String) (now : Instant) :
    (s.load name now).2.Rooted := by
  change (s.cachedHolder name).2.Rooted
  have committed : (s.cachedHolder name).2.committed = s.committed :=
    State.load_committed ⟨s, {}⟩ name now
  refine ⟨?_, ?_⟩
  · rw [committed]
    exact rooted.tables
  · intro other d known
    rw [committed]
    rcases remembered?_cachedHolder with before | ⟨_, found⟩
    · exact rooted.remembered other d (before.symm.trans known)
    · exact rooted.tables.holds_holder (Option.some.inj (found.symm.trans known))

end Store

end DomainRegistry
