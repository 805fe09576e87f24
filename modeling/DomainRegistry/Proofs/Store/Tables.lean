import DomainRegistry.Store.Basic

/-!
Committed tables. Main statements: resources stay stored under their own repository ids, and what
is found by its name is stored.
-/

namespace DomainRegistry

theorem activeAt_of_le {deletionTime : Option Instant} {s t : Instant} (le : s ≤ t)
    (active : activeAt deletionTime t = true) : activeAt deletionTime s = true := by
  cases deletionTime with
  | none => rfl
  | some end' =>
    simp only [activeAt, decide_eq_true_eq] at active ⊢
    exact Instant.lt_of_le_of_lt le active

theorem Domain.isActive_of_le {d : Domain} {s t : Instant} (le : s ≤ t)
    (active : d.isActive t = true) : d.isActive s = true :=
  activeAt_of_le le active

namespace Tables

variable {t : Tables}

structure Keyed (t : Tables) : Prop where
  domain : ∀ id d, t.domains.get? id = some d → d.repoId = id
  host : ∀ id h, t.hosts.get? id = some h → h.repoId = id

theorem foldl_keeps {α : Type} {P : Tables → Prop} {put : Tables → α → Tables}
    (kept : ∀ t x, P t → P (put t x)) (start : P t) (xs : List α) : P (xs.foldl put t) := by
  induction xs generalizing t with
  | nil => exact start
  | cons x xs ih => exact ih (kept t x start)

theorem keyed_empty : Keyed {} := by
  constructor <;> simp

@[simp] theorem insertDomain_get? (d : Domain) (id : String) :
    (t.insertDomain d).domains.get? id = if id = d.repoId then some d else t.domains.get? id :=
  SortedMap.get?_insert _ _ _ _

@[simp] theorem insertDomain_names (d : Domain) (name : String) :
    (t.insertDomain d).domainNames.get? name =
      if name = d.name then some d.repoId else t.domainNames.get? name :=
  SortedMap.get?_insert _ _ _ _

@[simp] theorem insertHost_get? (h : Host) (id : String) :
    (t.insertHost h).hosts.get? id = if id = h.repoId then some h else t.hosts.get? id :=
  SortedMap.get?_insert _ _ _ _

theorem Keyed.insertDomain (keyed : t.Keyed) (d : Domain) : (t.insertDomain d).Keyed where
  domain id e found := by
    rw [insertDomain_get?] at found
    split at found
    · next same => cases found; exact same.symm
    · exact keyed.domain id e found
  host := keyed.host

theorem Keyed.insertHost (keyed : t.Keyed) (h : Host) : (t.insertHost h).Keyed where
  domain := keyed.domain
  host id g found := by
    rw [insertHost_get?] at found
    split at found
    · next same => cases found; exact same.symm
    · exact keyed.host id g found

theorem Keyed.insertContact (keyed : t.Keyed) (c : Contact) : (t.insertContact c).Keyed :=
  ⟨keyed.domain, keyed.host⟩

theorem domainNamed?_eq_some_iff {name : String} {now : Instant} {d : Domain} :
    t.domainNamed? name now = some d ↔
      ∃ id, t.domainNames.get? name = some id ∧ t.domains.get? id = some d
        ∧ d.isActive now = true := by
  simp only [domainNamed?, holder?, Option.filter_eq_some_iff, Option.bind_eq_some_iff]
  constructor
  · rintro ⟨⟨id, named, found⟩, active⟩; exact ⟨id, named, found, active⟩
  · rintro ⟨id, named, found, active⟩; exact ⟨⟨id, named, found⟩, active⟩

theorem hostNamed?_eq_some_iff {name : String} {now : Instant} {h : Host} :
    t.hostNamed? name now = some h ↔
      ∃ id, t.hostNames.get? name = some id ∧ t.hosts.get? id = some h
        ∧ h.isActive now = true := by
  simp only [hostNamed?, Option.filter_eq_some_iff, Option.bind_eq_some_iff]
  constructor
  · rintro ⟨⟨id, named, found⟩, active⟩; exact ⟨id, named, found, active⟩
  · rintro ⟨id, named, found, active⟩; exact ⟨⟨id, named, found⟩, active⟩

theorem Keyed.hostNamed? (keyed : t.Keyed) {name : String} {now : Instant} {h : Host}
    (named : t.hostNamed? name now = some h) :
    t.hosts.get? h.repoId = some h ∧ h.isActive now = true := by
  obtain ⟨id, _, found, active⟩ := hostNamed?_eq_some_iff.mp named
  rw [keyed.host id h found]
  exact ⟨found, active⟩

end Tables

end DomainRegistry
