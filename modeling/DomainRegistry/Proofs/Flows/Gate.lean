import DomainRegistry.Creation.Gate
import DomainRegistry.Proofs.Label.DomainNames
import DomainRegistry.Proofs.Store.Cache

/-!
The gate before a creation. Main statements: it takes an identifier for exactly the names that lie
in a zone, changes nothing else but the cache, and turns away only names that are taken.
-/

namespace DomainRegistry

namespace Gate

variable {config : Config} {s : State} {text : String} {now : Instant} {name : DomainName}

/-- Whether a name uses up an identifier, for which it need not be in order. -/
def draws (config : Config) (text : String) : Bool :=
  isPlausible text && (DomainName.findZone? config text).isSome

theorem repoId_state (config : Config) (s : State) (text : String) :
    (repoId config s text).2 = { s with store := { s.store with
      ids := if draws config text then ⟨s.store.ids.next + 1⟩ else s.store.ids } } := by
  unfold repoId draws
  cases isPlausible text with
  | false => rfl
  | true => cases DomainName.findZone? config text <;> rfl

theorem isBlankAscii_of_isNameChar {c : Char} (formed : DomainName.isNameChar c = true) :
    isBlankAscii c = false := by
  rw [← Bool.not_eq_true]
  intro blank
  simp only [isBlankAscii, Bool.or_eq_true, beq_iff_eq] at blank
  rcases blank with (((rfl | rfl) | rfl) | rfl) | rfl <;> exact absurd formed (by decide)

theorem isPlausible_of_check (checked : DomainName.check config text = .ok name) :
    isPlausible text = true := by
  obtain ⟨shaped, _⟩ := DomainName.check_eq_ok_iff.mp checked
  obtain ⟨filled, formed⟩ := DomainName.checkShape_eq_ok shaped
  have plain : ∀ c ∈ text.toList, (Text.isUpperAscii c || isBlankAscii c) = false := by
    intro c member
    obtain ⟨small, allowed⟩ := formed c member
    rw [small, isBlankAscii_of_isNameChar allowed, Bool.or_self]
  simp only [isPlausible, Bool.and_eq_true, bne_iff_ne, ne_eq, Bool.not_eq_true',
    List.any_eq_false, Bool.not_eq_true]
  exact ⟨filled, plain⟩

theorem repoId_of_check (checked : DomainName.check config text = .ok name) :
    repoId config s text =
      (some (s.store.ids.repoId name.zone.name).1, (s.allocate name.zone.name).2) := by
  rw [repoId, if_pos (isPlausible_of_check checked), DomainName.findZone?_of_check checked]
  rfl

theorem draws_of_check (checked : DomainName.check config text = .ok name) :
    draws config text = true := by
  rw [draws, isPlausible_of_check checked, DomainName.findZone?_of_check checked]
  rfl

theorem check_state (s : State) (text : String) (now : Instant) :
    (check s text now).2 = (s.load text now).2 := by
  unfold check
  dsimp only
  split
  · rfl
  · split <;> rfl

theorem check_committed (s : State) (text : String) (now : Instant) :
    (check s text now).2.store.committed = s.store.committed := by
  rw [check_state, State.load_committed]

theorem check_coherent (coherent : s.store.Coherent) (text : String) (now : Instant) :
    (check s text now).2.store.Coherent := by
  rw [check_state]
  exact coherent.load_kept text now

theorem check_unseen (unseen : (s.load text now).1 = none) : (check s text now).1 = .ok () := by
  unfold check
  dsimp only
  rw [unseen]

theorem check_error {r : Rejection} (rejected : (check s text now).1 = .error r) :
    r = .resourceAlreadyExists text := by
  unfold check at rejected
  dsimp only at rejected
  split at rejected
  · cases rejected
  · split at rejected
    · cases rejected
    · cases rejected; rfl

theorem taken_of_check (coherent : s.store.Coherent) {r : Rejection}
    (rejected : (check s text now).1 = .error r) :
    ∃ d, s.store.committed.domainNamed? text now = some d := by
  have loaded : (s.load text now).1 = s.store.committed.domainNamed? text now :=
    coherent.load text now
  cases found : s.store.committed.domainNamed? text now with
  | some d => exact ⟨d, rfl⟩
  | none =>
    rw [found] at loaded
    rw [check_unseen loaded] at rejected
    cases rejected

end Gate

end DomainRegistry
