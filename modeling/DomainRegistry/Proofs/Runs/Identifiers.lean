import DomainRegistry.Proofs.Runs.Creations

/-!
The identifiers that creations give out. Main statement: in a run that uses up less numbers than
there are, no two accepted creations get the same identifier, and each gets the number that is next
and the suffix of the zone in which both the gate and the admission find its name.
-/

namespace DomainRegistry.Creation

open RepoId

variable {a : Admission} {s : State} {q : CreateRequest} {qs before : List CreateRequest}
  {c : Created} {id : String}

def issued (a : Admission) (s : State) : List CreateRequest → List String
  | [] => []
  | q :: qs =>
    match (run a s q).1.result with
    | .ok c => c.repoId :: issued a (run a s q).2 qs
    | .error _ => issued a (run a s q).2 qs

section Distinct

/-- The numbers that are left to the rest of a run count on from those of its first request. -/
theorem exists_nth_of_later {n : Nat} {zone : String} (small : n < drawn a qs)
    (number : id = (run a s q).2.store.ids.nth n zone) :
    ∃ m, drawn a [q] ≤ m ∧ m < drawn a (q :: qs) ∧ id = s.store.ids.nth m zone := by
  have total := drawn_cons a q qs
  exact ⟨drawn a [q] + n, by omega, by omega, number.trans (nth_after n zone [q])⟩

theorem issued_numbered (member : id ∈ issued a s qs) :
    ∃ n < drawn a qs, ∃ zone, id = s.store.ids.nth n zone := by
  induction qs generalizing s with
  | nil => cases member
  | cons q qs ih =>
    have later (rest : id ∈ issued a (run a s q).2 qs) :
        ∃ n < drawn a (q :: qs), ∃ zone, id = s.store.ids.nth n zone := by
      obtain ⟨n, small, zone, number⟩ := ih rest
      obtain ⟨m, _, within, same⟩ := exists_nth_of_later small number
      exact ⟨m, within, zone, same⟩
    rw [issued] at member
    split at member
    · next c accepted =>
      rcases List.mem_cons.mp member with rfl | rest
      · obtain ⟨draws, own, _⟩ := run_accepted accepted
        have total := drawn_cons a q qs
        exact ⟨0, by omega, c.plan.zone, own⟩
      · exact later rest
    · exact later member

theorem issued_nodup (few : drawn a qs < UInt64.size) : (issued a s qs).Nodup := by
  induction qs generalizing s with
  | nil => exact List.nodup_nil
  | cons q qs ih =>
    have total := drawn_cons a q qs
    have rest : (issued a (run a s q).2 qs).Nodup := ih (by omega)
    rw [issued]
    split
    · next c accepted =>
      refine List.nodup_cons.mpr ⟨?_, rest⟩
      intro again
      obtain ⟨draws, own, _⟩ := run_accepted accepted
      obtain ⟨n, small, zone, number⟩ := issued_numbered again
      obtain ⟨m, beyond, within, same⟩ := exists_nth_of_later small number
      -- The first identifier has the number 0, and a later one a greater number.
      have equal : 0 = m :=
        Allocator.nth_injective (by omega) (by omega) (own.symm.trans same)
      omega
    · exact rest

end Distinct

/-- What an accepted creation has got as its identifier: what the gate derived from the name before
it was checked, the next number, in the zone that admission found. -/
structure Identified (a : Admission) (s : State) (q : CreateRequest) (c : Created) : Prop where
  derived : (Gate.repoId a.config s q.command.name).1 = some c.repoId
  sameZone : ∃ name policy, DomainName.check a.config q.command.name = .ok name
    ∧ DomainName.findZone? a.config q.command.name = some policy
    ∧ name.zone = policy ∧ c.plan.zone = policy.name
  spelled : ∃ digits, Text.SpelledHex s.store.ids.next.toNat digits
    ∧ c.repoId.toList = digits ++ '-' :: (RepoId.suffix c.plan.zone).toList

theorem run_identified (accepted : (run a s q).1.result = .ok c) : Identified a s q c := by
  have outcome := run_outcome a s q
  rw [accepted] at outcome
  generalize (run a s q).2 = after at outcome
  cases outcome with
  | stored plan d passed admitted made =>
    have own : d.repoId = (s.store.ids.repoId plan.zone).1 := (newDomain_eq_ok made).1
    refine ⟨?_, ?_, ?_⟩
    · rw [given_of_accepted admitted, own]
    · obtain ⟨p, rfl⟩ := Admission.accepted_iff.mp admitted
      exact ⟨p.name, p.name.zone, p.named, DomainName.findZone?_of_check p.named, rfl, rfl⟩
    · refine ⟨_, Text.hexUpper_spelled _, ?_⟩
      rw [own]
      exact String.toList_ofList

/-- A name for which the gate derives no identifier is not admitted, so that no other identifier is
ever made up for it. -/
theorem rejected_of_underived (underived : (Gate.repoId a.config s q.command.name).1 = none)
    (reader : Reader) (plan : CreatePlan) : (a.assess reader q).result ≠ .ok plan := by
  intro admitted
  rw [given_of_accepted admitted] at underived
  cases underived

theorem issued_ids_unique (few : drawn a qs < UInt64.size) :
    (issued a s qs).Nodup
      ∧ (∀ before q c, Accepts a s qs before q c → Identified a (runAll a s before) q c)
      ∧ (∀ s q, (Gate.repoId a.config s q.command.name).1 = none →
          ∀ reader plan, (a.assess reader q).result ≠ .ok plan)
      ∧ ∀ n suffix, suffix ≠ "" → RepoId.parse? (RepoId.render n suffix) = some (n, suffix) := by
  refine ⟨issued_nodup few, ?_, ?_, ?_⟩
  · intro before q c accepts
    exact run_identified accepts.result
  · intro s q underived
    exact rejected_of_underived underived
  · intro n suffix filled
    exact parse?_render n filled

def interruptedRun : List CreateRequest :=
  [plainRequest "a.tld" [], plainRequest "-.tld" [], plainRequest "b.tld" []]

theorem interruptedRun_ids_unique :
    drawn openRegistry interruptedRun < UInt64.size
      ∧ issued openRegistry contactState interruptedRun = ["1-TLD", "3-TLD"]
      ∧ (issued openRegistry contactState interruptedRun).Nodup
      ∧ (∃ c, Accepts openRegistry contactState interruptedRun (interruptedRun.take 2)
          (plainRequest "b.tld" []) c
        ∧ Identified openRegistry (runAll openRegistry contactState (interruptedRun.take 2))
          (plainRequest "b.tld" []) c)
      ∧ (Gate.repoId openRegistry.config contactState "b.TLD").1 = none
      ∧ (∀ reader plan,
          (openRegistry.assess reader (plainRequest "b.TLD" [])).result ≠ .ok plan)
      ∧ RepoId.parse? (RepoId.render 3 "A-B") = some (3, "A-B") := by
  have few : drawn openRegistry interruptedRun < UInt64.size := by decide
  obtain ⟨distinct, identified, underived, read⟩ :=
    issued_ids_unique (s := contactState) few
  have third : ((run openRegistry (runAll openRegistry contactState (interruptedRun.take 2))
      (plainRequest "b.tld" [])).1.result.toOption).isSome = true := by decide +kernel
  obtain ⟨c, third⟩ := Option.isSome_iff_exists.mp third
  have accepts : Accepts openRegistry contactState interruptedRun (interruptedRun.take 2)
      (plainRequest "b.tld" []) c := ⟨List.prefix_rfl, eq_ok_of_toOption third⟩
  have capital : (Gate.repoId openRegistry.config contactState "b.TLD").1 = none := by
    decide +kernel
  refine ⟨few, by decide +kernel, distinct, ⟨c, accepts, identified _ _ _ accepts⟩, capital, ?_, ?_⟩
  · exact underived contactState (plainRequest "b.TLD" []) capital
  · exact read 3 "A-B" (by decide)

end DomainRegistry.Creation
