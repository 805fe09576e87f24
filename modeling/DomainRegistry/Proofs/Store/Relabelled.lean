import DomainRegistry.Proofs.Store.Rooted
import Mathlib.Logic.Equiv.Basic

/-!
Tables up to the repository ids of their domains. Main statements: tables that agree so still do
when a domain is stored in both, two domains with nothing in common can be stored in either order,
and ids that differ can be exchanged for others that do.
-/

namespace DomainRegistry

def Domain.relabel (ρ : Equiv.Perm String) (d : Domain) : Domain :=
  { d with repoId := ρ d.repoId }

theorem Domain.relabel_of_fixed {ρ : Equiv.Perm String} {d : Domain}
    (fixed : ρ d.repoId = d.repoId) : d.relabel ρ = d := by
  rw [relabel, fixed]

/-- Two pairs of different ids extend to a permutation that moves no other id. -/
theorem exists_relabelling {x x' y y' : String} (apart : x ≠ x') (apart' : y ≠ y') :
    ∃ ρ : Equiv.Perm String, ρ x = y ∧ ρ x' = y' ∧ ∀ z, ρ z ≠ z → z ∈ [x, x', y, y'] := by
  -- The first swap sends the one id to its place, the second corrects where the other has gone.
  refine ⟨(Equiv.swap x y).trans (Equiv.swap (Equiv.swap x y x') y'), ?_, ?_, ?_⟩
  · have moved : y ≠ Equiv.swap x y x' := by
      intro same
      exact apart ((Equiv.swap x y).injective ((Equiv.swap_apply_left x y).trans same))
    rw [Equiv.trans_apply, Equiv.swap_apply_left, Equiv.swap_apply_of_ne_of_ne moved apart']
  · rw [Equiv.trans_apply, Equiv.swap_apply_left]
  · intro z moves
    by_contra absent
    simp only [List.mem_cons, List.not_mem_nil, or_false, not_or] at absent
    obtain ⟨first, second, third, fourth⟩ := absent
    have stays : Equiv.swap x y z = z := Equiv.swap_apply_of_ne_of_ne first third
    have moved : z ≠ Equiv.swap x y x' := by
      intro same
      exact second ((Equiv.swap x y).injective (stays.trans same))
    rw [Equiv.trans_apply, stays, Equiv.swap_apply_of_ne_of_ne moved fourth] at moves
    exact moves rfl

theorem exists_relabelling? {x x' y y' : Option String} (both : x.isSome = y.isSome)
    (both' : x'.isSome = y'.isSome) (apart : ∀ u ∈ x, ∀ v ∈ x', u ≠ v)
    (apart' : ∀ u ∈ y, ∀ v ∈ y', u ≠ v) :
    ∃ ρ : Equiv.Perm String, x.map ρ = y ∧ x'.map ρ = y'
      ∧ ∀ z, ρ z ≠ z → some z ∈ [x, x', y, y'] := by
  match x, y, x', y', both, both' with
  | none, none, none, none, _, _ =>
    refine ⟨Equiv.refl _, rfl, rfl, ?_⟩
    intro z moves
    exact absurd rfl moves
  | some u, some v, none, none, _, _ =>
    refine ⟨Equiv.swap u v, congrArg some (Equiv.swap_apply_left u v), rfl, ?_⟩
    intro z moves
    rcases (Equiv.swap_apply_ne_self_iff.mp moves).2 with rfl | rfl
    · simp
    · simp
  | none, none, some u, some v, _, _ =>
    refine ⟨Equiv.swap u v, rfl, congrArg some (Equiv.swap_apply_left u v), ?_⟩
    intro z moves
    rcases (Equiv.swap_apply_ne_self_iff.mp moves).2 with rfl | rfl
    · simp
    · simp
  | some u, some v, some u', some v', _, _ =>
    obtain ⟨ρ, first, second, rest⟩ :=
      exists_relabelling (apart u rfl u' rfl) (apart' v rfl v' rfl)
    refine ⟨ρ, congrArg some first, congrArg some second, ?_⟩
    intro z moves
    exact List.mem_map_of_mem (rest z moves)

namespace Tables

def adding (t : Tables) (d : Option Domain) : Tables := d.elim t t.insertDomain

variable {ρ : Equiv.Perm String} {t u v w : Tables} {d e : Domain}

/-- The same domains under the same names, up to their repository ids. -/
structure Relabelled (ρ : Equiv.Perm String) (t u : Tables) : Prop where
  domains : ∀ id, u.domains.get? (ρ id) = (t.domains.get? id).map (Domain.relabel ρ)
  names : ∀ name, u.domainNames.get? name = (t.domainNames.get? name).map ρ

namespace Relabelled

theorem holder? (relabelled : Relabelled ρ t u) (name : String) :
    u.holder? name = (t.holder? name).map (Domain.relabel ρ) := by
  rw [Tables.holder?, Tables.holder?, relabelled.names]
  cases t.domainNames.get? name with
  | none => rfl
  | some id => exact relabelled.domains id

theorem domainNamed? (relabelled : Relabelled ρ t u) (name : String) (now : Instant) :
    u.domainNamed? name now = (t.domainNamed? name now).map (Domain.relabel ρ) := by
  rw [Tables.domainNamed?, Tables.domainNamed?, relabelled.holder?, Option.filter_map]
  rfl

theorem of_same (relabelled : Relabelled ρ t u) (left : SameDomains t v) (right : SameDomains u w) :
    Relabelled ρ v w := by
  refine ⟨?_, ?_⟩
  · intro id
    rw [left.domains, right.domains]
    exact relabelled.domains id
  · intro name
    rw [left.names, right.names]
    exact relabelled.names name

theorem insertDomain (relabelled : Relabelled ρ t u) (d : Domain) :
    Relabelled ρ (t.insertDomain d) (u.insertDomain (d.relabel ρ)) := by
  refine ⟨?_, ?_⟩
  · intro id
    rw [insertDomain_get?, insertDomain_get?]
    by_cases own : id = d.repoId
    · rw [if_pos own, own]
      exact if_pos rfl
    · have other : ρ id ≠ (d.relabel ρ).repoId := by
        intro same
        exact own (ρ.injective same)
      rw [if_neg own, if_neg other]
      exact relabelled.domains id
  · intro name
    rw [insertDomain_names, insertDomain_names]
    by_cases own : name = d.name
    · rw [if_pos own]
      exact if_pos own
    · rw [if_neg own]
      exact (if_neg own).trans (relabelled.names name)

theorem adding (relabelled : Relabelled ρ t u) (d : Option Domain) :
    Relabelled ρ (t.adding d) (u.adding (d.map (Domain.relabel ρ))) := by
  cases d with
  | none => exact relabelled
  | some d => exact relabelled.insertDomain d

theorem of_fixed (rooted : t.Rooted) (fixed : ∀ id, t.Holds id → ρ id = id) :
    Relabelled ρ t t := by
  refine ⟨?_, ?_⟩
  · intro id
    cases stored : t.domains.get? id with
    | some d =>
      have same : ρ id = id := fixed id (by rw [Holds, stored]; exact Option.some_ne_none d)
      have own : d.relabel ρ = d := Domain.relabel_of_fixed (rooted.keyed.domain id d stored ▸ same)
      rw [same, stored, Option.map_some, own]
    | none =>
      rw [Option.map_none]
      by_contra held
      have back : ρ id = id := ρ.injective (fixed (ρ id) held)
      rw [back] at held
      exact held stored
  · intro name
    cases leads : t.domainNames.get? name with
    | none => rfl
    | some id => rw [Option.map_some, fixed id (rooted.leads name id leads)]

end Relabelled

theorem insertDomain_comm (ids : d.repoId ≠ e.repoId) (names : d.name ≠ e.name) :
    SameDomains ((t.insertDomain d).insertDomain e) ((t.insertDomain e).insertDomain d) := by
  refine ⟨SortedMap.ext fun id => ?_, SortedMap.ext fun name => ?_⟩
  · rw [insertDomain_get?, insertDomain_get?, insertDomain_get?, insertDomain_get?]
    by_cases own : id = d.repoId
    · rw [if_pos own, if_neg (own ▸ ids), if_pos own]
    · rw [if_neg own, if_neg own]
  · rw [insertDomain_names, insertDomain_names, insertDomain_names, insertDomain_names]
    by_cases own : name = d.name
    · rw [if_pos own, if_neg (own ▸ names), if_pos own]
    · rw [if_neg own, if_neg own]

theorem adding_comm {d e : Option Domain} (ids : ∀ x ∈ d, ∀ y ∈ e, x.repoId ≠ y.repoId)
    (names : ∀ x ∈ d, ∀ y ∈ e, x.name ≠ y.name) :
    SameDomains ((t.adding d).adding e) ((t.adding e).adding d) := by
  cases d with
  | none => exact .refl _
  | some x =>
    cases e with
    | none => exact .refl _
    | some y => exact insertDomain_comm (ids x rfl y rfl) (names x rfl y rfl)

theorem SameDomains.adding (same : SameDomains t u) (d : Option Domain) :
    SameDomains (t.adding d) (u.adding d) := by
  cases d with
  | none => exact same
  | some d => exact same.insertDomain d

end Tables

end DomainRegistry
