import DomainRegistry.Proofs.Admission.Evidence
import DomainRegistry.Proofs.Flows.Creation

/-!
What the privilege of superusers does to a request. Main statement: a request that is accepted
without it is accepted with it, by the same plan, and what is stored differs in nothing but the mark
of the history entry.
-/

namespace DomainRegistry

def CreateRequest.withPrivilege (q : CreateRequest) (superuser : Bool) : CreateRequest :=
  { q with superuser }

namespace Launch

variable {c : Context} {launch : Option Launch} {evidence : Evidence}

theorem checkNotice_eq_ok_iff {n : ClaimsNotice} :
    checkNotice c n = .ok () ↔
      n.validatorId = validator ∧ (c.superuser = true ∨ checkNoticeTimes c n = .ok ())
        ∧ checkNoticeId c n = .ok () := by
  unfold checkNotice
  by_cases known : n.validatorId = validator
  · cases c.superuser with
    | true => simp [known]
    | false =>
      have timely : (∃ u, checkNoticeTimes c n = .ok u) ↔ checkNoticeTimes c n = .ok () :=
        ⟨fun ⟨_, passed⟩ => passed, fun passed => ⟨(), passed⟩⟩
      simp [known, bind_eq_ok, timely]
  · simp [known, bind, Except.bind]

theorem check_privileged (accepted : check c launch = .ok evidence) :
    check { c with superuser := true } launch = .ok evidence := by
  cases launch with
  | none => exact accepted
  | some l =>
    obtain ⟨formed, noticed, mark, marked, rfl⟩ := check_some_eq_ok_iff.mp accepted
    obtain ⟨_, encoded, _⟩ := checkForm_eq_ok_iff.mp formed
    refine check_some_eq_ok_iff.mpr ⟨?_, ?_, mark, marked, rfl⟩
    · exact checkForm_eq_ok_iff.mpr ⟨Or.inl rfl, encoded, Or.inr (Or.inl rfl)⟩
    · intro n given
      obtain ⟨known, _, identified⟩ := checkNotice_eq_ok_iff.mp (noticed n given)
      exact checkNotice_eq_ok_iff.mpr ⟨known, Or.inl rfl, identified⟩

end Launch

namespace Admission

variable {a : Admission} {reader : Reader} {q : CreateRequest} {plan : CreatePlan}

theorem checkFee_privileged {cost : CreateCost} (paid : checkFee q cost = .ok ()) :
    checkFee (q.withPrivilege true) cost = .ok () := by
  have same : (q.withPrivilege true).command.fee = q.command.fee := rfl
  unfold checkFee at paid ⊢
  rw [same]
  cases given : q.command.fee with
  | none => simp [CreateRequest.withPrivilege]
  | some fee =>
    rw [given] at paid
    exact paid

def Passage.privileged (p : Passage a reader q) : Passage a reader (q.withPrivilege true) where
  name := p.name
  years := p.years
  cost := p.cost
  nameservers := p.nameservers
  evidence := p.evidence
  free := p.free
  named := p.named
  authorized := Or.inl rfl
  opened := Or.inl rfl
  priced := p.priced
  linked := p.linked
  contacted := p.contacted
  served := p.served
  evidenced := Launch.check_privileged p.evidenced
  delegated := p.delegated
  gated := Or.inl rfl
  paid := checkFee_privileged p.paid

theorem assess_privileged (accepted : (a.assess reader q).result = .ok plan) :
    (a.assess reader (q.withPrivilege true)).result = .ok plan := by
  obtain ⟨p, rfl⟩ := accepted_iff.mp accepted
  exact accepted_iff.mpr ⟨p.privileged, rfl⟩

end Admission

namespace Creation

variable {a : Admission} {s : State} {q : CreateRequest}

/-- That two states store the same new domain, and differ only in the mark of who asked for it. -/
structure SameButMark (before : State) (c : Created) (ordinary privileged : State) : Prop where
  tables : ∃ d entry, d.repoId = c.repoId ∧ d.name = c.plan.name ∧ entry.bySuperuser = false
    ∧ ordinary.store.committed = (before.store.committed.insertDomain d).log [entry] []
    ∧ privileged.store.committed =
        (before.store.committed.insertDomain d).log [{ entry with bySuperuser := true }] []
  cache : privileged.store.cache = ordinary.store.cache
  ids : privileged.store.ids = ordinary.store.ids
  queues : privileged.queues = ordinary.queues

theorem commit_sameButMark (a : Admission) (s : State) (q : CreateRequest) (c : Created)
    {d : Domain} (own : d.repoId = c.repoId) (named : d.name = c.plan.name) :
    SameButMark s c
      ((atStart a s q).commit (store d (q.withPrivilege false) (atStart a s q).store.begin))
      ((atStart a s q).commit (store d (q.withPrivilege true) (atStart a s q).store.begin)) where
  tables := by
    refine ⟨d, historyEntry d (q.withPrivilege false), own, named, rfl, ?_, ?_⟩
    · rw [← atStart_committed a s q]
      exact store_committed _ d _
    · rw [← atStart_committed a s q]
      exact store_committed _ d _
  cache := rfl
  ids := rfl
  queues := rfl

theorem superuser_only_relaxes (a : Admission) (q : CreateRequest) :
    (∀ reader plan, (a.assess reader (q.withPrivilege false)).result = .ok plan →
        (a.assess reader (q.withPrivilege true)).result = .ok plan)
      ∧ ∀ s c, (run a s (q.withPrivilege false)).1.result = .ok c →
          (run a s (q.withPrivilege true)).1.result = .ok c
            ∧ SameButMark s c (run a s (q.withPrivilege false)).2
                (run a s (q.withPrivilege true)).2 := by
  constructor
  · intro reader plan accepted
    exact Admission.assess_privileged (q := q.withPrivilege false) accepted
  · intro s c accepted
    have outcome := run_outcome a s (q.withPrivilege false)
    rw [accepted] at outcome
    generalize (run a s (q.withPrivilege false)).2 = after at outcome ⊢
    cases outcome with
    | stored plan d passed admitted made =>
      -- The gate and the making of the domain do not look at the privilege.
      obtain ⟨result, state⟩ := run_of_made (q := q.withPrivilege true) passed
        (Admission.assess_privileged (q := q.withPrivilege false) admitted) made
      obtain ⟨_, named, _⟩ := newDomain_eq_ok made
      rw [state]
      exact ⟨result, commit_sameButMark a s q _ rfl named⟩

theorem plainRequest_privileged :
    ∃ c, (run openRegistry contactState ((plainRequest "a.tld" []).withPrivilege true)).1.result
        = .ok c
      ∧ SameButMark contactState c
        (run openRegistry contactState ((plainRequest "a.tld" []).withPrivilege false)).2
        (run openRegistry contactState ((plainRequest "a.tld" []).withPrivilege true)).2 := by
  have accepted : ((run openRegistry contactState
      ((plainRequest "a.tld" []).withPrivilege false)).1.result.toOption).isSome = true := by
    decide +kernel
  obtain ⟨c, accepted⟩ := Option.isSome_iff_exists.mp accepted
  have accepted := eq_ok_of_toOption accepted
  exact ⟨c, (superuser_only_relaxes openRegistry (plainRequest "a.tld" [])).2 contactState c accepted⟩

end Creation

end DomainRegistry
