import DomainRegistry.Proofs.Store.Domains

/-!
The cache of a store. Main statement: as long as no stored domain moves to another name, what the
cache remembers of a name is what committed state says of it, so that a look-up through the cache
finds what a look-up in the tables finds.
-/

namespace DomainRegistry

namespace Store

variable {s : Store}

/-- What the cache remembers of a name; of a name that no domain carries, it may remember that. -/
def remembered? (s : Store) (name : String) : Option (Option Domain) :=
  s.cache.bind fun cache => cache.get? name

theorem remembered?_forget {name : String} {names : List String} :
    (s.forget names).remembered? name =
      if name ∈ names then none else s.remembered? name := by
  unfold remembered? forget
  cases s.cache with
  | none => exact (ite_self none).symm
  | some cache => exact SortedMap.get?_foldl_erase names cache name

theorem cachedHolder_fst (s : Store) (name : String) :
    (s.cachedHolder name).1 = (s.remembered? name).getD (s.committed.holder? name) := by
  unfold cachedHolder remembered?
  cases s.cache with
  | none => rfl
  | some cache =>
    dsimp only [Option.bind_some]
    cases cache.get? name <;> rfl

theorem remembered?_cachedHolder {name other : String} :
    (s.cachedHolder name).2.remembered? other = s.remembered? other
      ∨ other = name
        ∧ (s.cachedHolder name).2.remembered? other = some (s.committed.holder? name) := by
  unfold cachedHolder
  cases cached : s.cache with
  | none => exact Or.inl rfl
  | some cache =>
    dsimp only
    cases known : cache.get? name with
    | some holder => exact Or.inl rfl
    | none =>
      have filled : ((cache.insert name (s.committed.holder? name)).get? other)
          = if other = name then some (s.committed.holder? name) else cache.get? other :=
        SortedMap.get?_insert _ _ _ _
      by_cases same : other = name
      · exact Or.inr ⟨same, filled.trans (if_pos same)⟩
      · left
        rw [remembered?, remembered?, cached]
        exact filled.trans (if_neg same)

/-- That the cache remembers of a name what committed state says of it, if it does at all. -/
structure Coherent (s : Store) : Prop where
  named : s.committed.Named
  agrees : ∀ name holder, s.remembered? name = some holder → holder = s.committed.holder? name

theorem Coherent.load (coherent : s.Coherent) (name : String) (now : Instant) :
    (s.load name now).1 = s.committed.domainNamed? name now := by
  change (s.cachedHolder name).1.filter _ = (s.committed.holder? name).filter _
  rw [cachedHolder_fst]
  cases known : s.remembered? name with
  | none => rfl
  | some holder => rw [coherent.agrees name holder known, Option.getD_some]

theorem Coherent.load_kept (coherent : s.Coherent) (name : String) (now : Instant) :
    (s.load name now).2.Coherent := by
  change (s.cachedHolder name).2.Coherent
  have committed : (s.cachedHolder name).2.committed = s.committed :=
    State.load_committed ⟨s, {}⟩ name now
  refine ⟨?_, ?_⟩
  · rw [committed]
    exact coherent.named
  · intro other holder known
    rw [committed]
    rcases remembered?_cachedHolder with before | ⟨same, found⟩
    · exact coherent.agrees other holder (before.symm.trans known)
    · rw [same]
      exact (Option.some.inj (found.symm.trans known)).symm

/-- Tables may change if the cache forgets the names that other domains hold after that. -/
theorem Coherent.replace (coherent : s.Coherent) {t : Tables} {names : List String}
    (named : t.Named)
    (others : ∀ name, name ∉ names → t.holder? name = s.committed.holder? name) :
    (Store.forget { s with committed := t } names).Coherent := by
  refine ⟨named, ?_⟩
  intro name holder known
  -- What the cache still remembers is a name that the same domain holds as before.
  rw [remembered?_forget] at known
  by_cases member : name ∈ names
  · rw [if_pos member] at known
    cases known
  · rw [if_neg member] at known
    change holder = t.holder? name
    rw [others name member]
    exact coherent.agrees name holder known

theorem Coherent.forget (coherent : s.Coherent) (names : List String) : (s.forget names).Coherent :=
  coherent.replace coherent.named fun _ _ => rfl

theorem Coherent.withIds (coherent : s.Coherent) (ids : RepoId.Allocator) :
    Coherent { s with ids } :=
  ⟨coherent.named, coherent.agrees⟩

theorem Coherent.seed (coherent : s.Coherent) {x : Fixtures}
    (keeps : s.committed.KeepsNames x.domains) : (s.seed x).Coherent := by
  have same := s.seed_sameDomains x
  refine coherent.replace (same.named (coherent.named.insertDomains keeps)) ?_
  intro name untouched
  calc (s.seed x).committed.holder? name
    _ = (x.domains.foldl Tables.insertDomain s.committed).holder? name := same.holder? name
    _ = s.committed.holder? name := coherent.named.insertDomains_holder? keeps untouched

theorem Coherent.commit (coherent : s.Coherent) {x : Transaction}
    (keeps : s.committed.KeepsNames x.writes.domains.values) : (s.commit x).Coherent := by
  have same := x.writes.apply_sameDomains s.committed
  unfold Store.commit
  dsimp only
  split
  · exact coherent.withIds x.ids
  · refine (coherent.withIds x.ids).replace (same.named (coherent.named.insertDomains keeps)) ?_
    intro name untouched
    calc (x.writes.apply s.committed).holder? name
      _ = (x.writes.domains.values.foldl Tables.insertDomain s.committed).holder? name :=
        same.holder? name
      _ = s.committed.holder? name := coherent.named.insertDomains_holder? keeps untouched

theorem coherent_empty (cached : Bool) (ids : RepoId.Allocator) : (empty cached ids).Coherent := by
  refine ⟨?_, ?_⟩
  · intro name id leads
    cases leads
  · intro name holder known
    cases cached <;> cases known

end Store

end DomainRegistry
