import DomainRegistry.Proofs.Store.Transactions

/-!
The stored domains and the names that lead to them. Main statements: a domain that is stored at its
name changes what is said of no other name, and of all that is written only the domains matter here.
-/

namespace DomainRegistry

namespace Tables

variable {t : Tables}

/-- That domains, stored one after the other, leave every stored domain at its name. -/
def KeepsNames (t : Tables) : List Domain → Prop
  | [] => True
  | d :: ds =>
    (∀ e ∈ t.domains.get? d.repoId, e.name = d.name) ∧ (t.insertDomain d).KeepsNames ds

/-- That a name leads to nothing but stored domains that carry it. -/
def Named (t : Tables) : Prop :=
  ∀ name id, t.domainNames.get? name = some id →
    ∃ d, t.domains.get? id = some d ∧ d.name = name

theorem Named.insertDomain (named : t.Named) {d : Domain}
    (stays : ∀ e ∈ t.domains.get? d.repoId, e.name = d.name) : (t.insertDomain d).Named := by
  intro name id leads
  rw [insertDomain_names] at leads
  rw [insertDomain_get?]
  by_cases own : name = d.name
  · rw [if_pos own] at leads
    obtain rfl : d.repoId = id := Option.some.inj leads
    exact ⟨d, if_pos rfl, own.symm⟩
  · rw [if_neg own] at leads
    obtain ⟨e, found, carries⟩ := named name id leads
    have other : id ≠ d.repoId := by
      intro same
      rw [same] at found
      exact own (carries ▸ stays e found)
    exact ⟨e, by rw [if_neg other]; exact found, carries⟩

theorem Named.insertDomain_holder? (named : t.Named) {d : Domain}
    (stays : ∀ e ∈ t.domains.get? d.repoId, e.name = d.name) {name : String}
    (other : name ≠ d.name) : (t.insertDomain d).holder? name = t.holder? name := by
  simp only [holder?, insertDomain_names, if_neg other]
  cases leads : t.domainNames.get? name with
  | none => rfl
  | some id =>
    obtain ⟨e, found, carries⟩ := named name id leads
    have apart : id ≠ d.repoId := by
      intro same
      rw [same] at found
      exact other (carries ▸ stays e found)
    rw [Option.bind_some, Option.bind_some, insertDomain_get?, if_neg apart]

theorem Named.insertDomains (named : t.Named) {ds : List Domain} (keeps : t.KeepsNames ds) :
    (ds.foldl Tables.insertDomain t).Named := by
  induction ds generalizing t with
  | nil => exact named
  | cons d ds ih => exact ih (named.insertDomain keeps.1) keeps.2

theorem Named.insertDomains_holder? (named : t.Named) {ds : List Domain}
    (keeps : t.KeepsNames ds) {name : String} (other : name ∉ ds.map Domain.name) :
    (ds.foldl Tables.insertDomain t).holder? name = t.holder? name := by
  induction ds generalizing t with
  | nil => rfl
  | cons d ds ih =>
    rw [List.map_cons, List.mem_cons, not_or] at other
    calc (ds.foldl Tables.insertDomain (t.insertDomain d)).holder? name
      _ = (t.insertDomain d).holder? name := ih (named.insertDomain keeps.1) keeps.2 other.2
      _ = t.holder? name := named.insertDomain_holder? keeps.1 other.1

theorem insertDomains_get?_of_not_mem {ds : List Domain} {id : String}
    (absent : id ∉ ds.map Domain.repoId) :
    (ds.foldl Tables.insertDomain t).domains.get? id = t.domains.get? id := by
  induction ds generalizing t with
  | nil => rfl
  | cons d ds ih =>
    rw [List.map_cons, List.mem_cons, not_or] at absent
    calc (ds.foldl Tables.insertDomain (t.insertDomain d)).domains.get? id
      _ = (t.insertDomain d).domains.get? id := ih absent.2
      _ = t.domains.get? id := by rw [insertDomain_get?, if_neg absent.1]

theorem insertDomains_get?_of_mem {ds : List Domain} (distinct : (ds.map Domain.repoId).Nodup)
    {d : Domain} (member : d ∈ ds) :
    (ds.foldl Tables.insertDomain t).domains.get? d.repoId = some d := by
  induction ds generalizing t with
  | nil => cases member
  | cons e ds ih =>
    obtain ⟨apart, distinct⟩ := List.nodup_cons.mp distinct
    rcases List.mem_cons.mp member with rfl | later
    · calc (ds.foldl Tables.insertDomain (t.insertDomain d)).domains.get? d.repoId
        _ = (t.insertDomain d).domains.get? d.repoId := insertDomains_get?_of_not_mem apart
        _ = some d := by rw [insertDomain_get?, if_pos rfl]
    · exact ih distinct later

structure SameDomains (t u : Tables) : Prop where
  domains : u.domains = t.domains
  names : u.domainNames = t.domainNames

namespace SameDomains

variable {u v : Tables}

theorem refl (t : Tables) : SameDomains t t := ⟨rfl, rfl⟩

theorem trans (first : SameDomains t u) (second : SameDomains u v) : SameDomains t v :=
  ⟨second.domains.trans first.domains, second.names.trans first.names⟩

theorem named (same : SameDomains t u) (named : t.Named) : u.Named := by
  intro name id leads
  rw [same.names] at leads
  rw [same.domains]
  exact named name id leads

theorem holder? (same : SameDomains t u) (name : String) : u.holder? name = t.holder? name := by
  simp only [Tables.holder?, same.domains, same.names]

theorem insertDomain (same : SameDomains t u) (d : Domain) :
    SameDomains (t.insertDomain d) (u.insertDomain d) where
  domains := congrArg (fun m => m.insert d.repoId d) same.domains
  names := congrArg (fun m => m.insert d.name d.repoId) same.names

theorem insertDomains (same : SameDomains t u) (ds : List Domain) :
    SameDomains (ds.foldl Tables.insertDomain t) (ds.foldl Tables.insertDomain u) := by
  induction ds generalizing t u with
  | nil => exact same
  | cons d ds ih => exact ih (same.insertDomain d)

theorem insertHosts (t : Tables) (hs : List Host) : SameDomains t (hs.foldl Tables.insertHost t) :=
  foldl_keeps (fun _ _ same => same.trans ⟨rfl, rfl⟩) (refl t) hs

theorem insertContacts (t : Tables) (cs : List Contact) :
    SameDomains t (cs.foldl Tables.insertContact t) :=
  foldl_keeps (fun _ _ same => same.trans ⟨rfl, rfl⟩) (refl t) cs

end SameDomains

end Tables

theorem Writes.apply_sameDomains (w : Writes) (t : Tables) :
    (w.domains.values.foldl Tables.insertDomain t).SameDomains (w.apply t) := by
  have hosts := Tables.SameDomains.insertHosts (w.domains.values.foldl Tables.insertDomain t)
    w.hosts.values
  exact (hosts.trans (.insertContacts _ w.contacts.values)).trans ⟨rfl, rfl⟩

theorem Store.seed_sameDomains (s : Store) (x : Fixtures) :
    (x.domains.foldl Tables.insertDomain s.committed).SameDomains (s.seed x).committed := by
  have rest := (Tables.SameDomains.insertContacts s.committed x.contacts).trans
    (.insertHosts _ x.hosts)
  exact rest.insertDomains x.domains

theorem Store.seeds_sameDomains (s : Store) (seeds : List Fixtures) :
    ((seeds.flatMap Fixtures.domains).foldl Tables.insertDomain s.committed).SameDomains
      (seeds.foldl Store.seed s).committed := by
  induction seeds generalizing s with
  | nil => exact .refl _
  | cons x seeds ih =>
    rw [List.flatMap_cons, List.foldl_append]
    exact ((s.seed_sameDomains x).insertDomains _).trans (ih (s.seed x))

end DomainRegistry
