import DomainRegistry.Proofs.Admission.Structure
import Mathlib.Data.List.Perm.Basic

/-!
What the order of links tells. Main statements: of the nameservers only their set is looked at, and
other orders of the contacts lead to the same answer, but for which of two faults is told.
-/

namespace DomainRegistry

def CreateRequest.withNameservers (q : CreateRequest) (names : List String) : CreateRequest :=
  { q with command.nameservers := names }

def CreateRequest.withContacts (q : CreateRequest) (contacts : List ContactLink) : CreateRequest :=
  { q with command.contacts := contacts }

structure CreatePlan.SameButOrder (p p' : CreatePlan) : Prop where
  contacts : p'.contacts.Perm p.contacts
  others : p' = { p with contacts := p'.contacts }

def Rejection.IsRoleFault (r : Rejection) : Prop :=
  r = .missingContactType ∨ r = .duplicateContactForRole

namespace Admission

variable {a : Admission} {reader : Reader} {q : CreateRequest}

/-- Answers that are alike, where the fault found in the roles need not be the same. -/
inductive AgreeButFault {α : Type} (Alike : α → α → Prop) :
    Except Rejection α → Except Rejection α → Prop
  | accepted {x y : α} (alike : Alike x y) : AgreeButFault Alike (.ok x) (.ok y)
  | rejected (r : Rejection) : AgreeButFault Alike (.error r) (.error r)
  | faulty {r r' : Rejection} (told : r.IsRoleFault) (other : r'.IsRoleFault) :
    AgreeButFault Alike (.error r) (.error r')

namespace AgreeButFault

variable {α β : Type} {Alike : α → α → Prop} {AlikeAfter : β → β → Prop}

theorem refl (answer : Except Rejection α) : AgreeButFault Eq answer answer := by
  cases answer with
  | error r => exact .rejected r
  | ok x => exact .accepted rfl

theorem bind {x y : Traced α} {f g : α → Traced β} (first : AgreeButFault Alike x.result y.result)
    (rest : ∀ b c, Alike b c → AgreeButFault AlikeAfter (f b).result (g c).result) :
    AgreeButFault AlikeAfter (x >>= f).result (y >>= g).result := by
  change AgreeButFault AlikeAfter (Traced.bind x f).result (Traced.bind y g).result
  unfold Traced.bind
  generalize x.result = before at first
  generalize y.result = after at first
  cases first with
  | accepted alike => exact rest _ _ alike
  | rejected r => exact .rejected r
  | faulty told other => exact .faulty told other

theorem after {x : Traced α} {f g : α → Traced β}
    (rest : ∀ b, AgreeButFault AlikeAfter (f b).result (g b).result) :
    AgreeButFault AlikeAfter (x >>= f).result (x >>= g).result := by
  refine (refl x.result).bind ?_
  rintro b _ rfl
  exact rest b

end AgreeButFault

section Nameservers

variable {names : List String} (same : ∀ n, n ∈ names ↔ n ∈ q.command.nameservers)
include same

theorem hostNames_withNameservers :
    hostNames (q.withNameservers names).command = hostNames q.command := by
  refine SortedSet.ext fun n => ?_
  rw [hostNames, hostNames, SortedSet.mem_ofList, SortedSet.mem_ofList]
  exact same n

theorem assess_withNameservers : a.assess reader (q.withNameservers names) = a.assess reader q := by
  have hosts := hostNames_withNameservers same
  have linked : checkLinkedResources reader (q.withNameservers names)
      = checkLinkedResources reader q := by
    unfold checkLinkedResources
    rw [hosts]
    rfl
  have served (zone : ZonePolicy) :
      checkNameservers a.config.limits reader (q.withNameservers names) zone
        = checkNameservers a.config.limits reader q zone := by
    unfold checkNameservers
    rw [hosts]
    rfl
  unfold assess
  simp only [linked, served]
  rfl

end Nameservers

section Contacts

variable {contacts others : List ContactLink}

theorem distinctRoles_error {seen : List ContactRole} {r : Rejection}
    (rejected : distinctRoles seen contacts = .error r) : r.IsRoleFault := by
  induction contacts generalizing seen with
  | nil => cases rejected
  | cons c contacts ih =>
    rw [distinctRoles] at rejected
    split at rejected
    · cases rejected
      exact Or.inl rfl
    · split at rejected
      · cases rejected
        exact Or.inr rfl
      · exact ih rejected

/-- The fault that comes first is told. -/
example : distinctRoles [] [⟨none, "a"⟩, ⟨some .tech, "b"⟩, ⟨some .tech, "c"⟩]
      = .error .missingContactType
    ∧ distinctRoles [] [⟨some .tech, "c"⟩, ⟨some .tech, "b"⟩, ⟨none, "a"⟩]
      = .error .duplicateContactForRole :=
  ⟨rfl, rfl⟩

theorem distinctRoles_perm {roles : List ContactRole} (same : others.Perm contacts)
    (passed : distinctRoles [] contacts = .ok roles) :
    ∃ roles', distinctRoles [] others = .ok roles' ∧ roles'.Perm roles := by
  have pairs_iff (cs : List ContactLink) (rs : List ContactRole) :
      cs.map ContactLink.role = rs.map some ↔
        List.Forall₂ (fun c role => ContactLink.role c = some role) cs rs := by
    rw [← List.forall₂_eq_eq_eq, List.forall₂_map_left_iff, List.forall₂_map_right_iff]
  obtain ⟨given, assigned, rfl, distinct, _⟩ := distinctRoles_eq_ok_iff.mp passed
  obtain ⟨given', pairs, moved⟩ := List.perm_comp_forall₂ same ((pairs_iff _ _).mp assigned)
  refine ⟨given'.reverse ++ [], ?_, ?_⟩
  · exact distinctRoles_eq_ok_iff.mpr
      ⟨given', (pairs_iff _ _).mpr pairs, rfl, moved.nodup_iff.mpr distinct, by simp⟩
  · rw [List.append_nil, List.append_nil]
    exact (given'.reverse_perm.trans moved).trans given.reverse_perm.symm

theorem checkContacts_perm {c : CreateCommand} {zone : ZonePolicy} (same : others.Perm c.contacts) :
    AgreeButFault Eq (checkContacts c zone) (checkContacts { c with contacts := others } zone) := by
  unfold checkContacts
  cases first : distinctRoles [] c.contacts with
  | error r =>
    cases second : distinctRoles [] others with
    | error r' => exact .faulty (distinctRoles_error first) (distinctRoles_error second)
    | ok roles' =>
      obtain ⟨roles, passed, _⟩ := distinctRoles_perm same.symm second
      rw [first] at passed
      cases passed
  | ok roles =>
    obtain ⟨roles', second, moved⟩ := distinctRoles_perm same first
    have contains (role : ContactRole) : roles'.contains role = roles.contains role := by
      rw [Bool.eq_iff_iff, List.contains_iff_mem, List.contains_iff_mem]
      exact moved.mem_iff
    simp only [second, bind, Except.bind, contains]
    exact .refl _

theorem contactIds_perm {c : CreateCommand} (same : others.Perm c.contacts) :
    contactIds { c with contacts := others } = contactIds c := by
  refine SortedSet.ext fun id => ?_
  rw [mem_contactIds, mem_contactIds]
  simp only [same.mem_iff]

/-- Only the step that looks at the roles may tell the contacts of two orders apart. -/
theorem assess_withContacts (same : others.Perm q.command.contacts) :
    AgreeButFault CreatePlan.SameButOrder (a.assess reader q).result
      (a.assess reader (q.withContacts others)).result := by
  have linked : checkLinkedResources reader (q.withContacts others)
      = checkLinkedResources reader q := by
    unfold checkLinkedResources
    rw [show contactIds (q.withContacts others).command = contactIds q.command from
      contactIds_perm same]
    rfl
  unfold assess
  refine .after fun _ => .after fun name => .after fun _ => .after fun _ => .after ?_
  rintro ⟨years, cost⟩
  rw [linked]
  refine .after fun nameservers => ?_
  have roles : AgreeButFault Eq (Traced.step .contacts (checkContacts q.command name.zone)).result
      (Traced.step .contacts (checkContacts (q.withContacts others).command name.zone)).result := by
    rw [Traced.result_step, Traced.result_step]
    exact checkContacts_perm same
  refine roles.bind fun _ _ _ => ?_
  refine .after fun _ => .after fun evidence => .after fun _ => .after fun _ => .after fun _ => ?_
  exact .accepted ⟨same, rfl⟩

end Contacts

/-- Nameservers count as a set. The order of contacts is kept in the plan, and otherwise decides only
between two faults of their roles. -/
theorem links_in_any_order (a : Admission) (reader : Reader) (q : CreateRequest) :
    (∀ names : List String, (∀ n, n ∈ names ↔ n ∈ q.command.nameservers) →
      a.assess reader (q.withNameservers names) = a.assess reader q)
      ∧ ∀ contacts : List ContactLink, contacts.Perm q.command.contacts →
        AgreeButFault CreatePlan.SameButOrder (a.assess reader q).result
          (a.assess reader (q.withContacts contacts)).result :=
  ⟨fun _ => assess_withNameservers, fun _ => assess_withContacts⟩

/-- A request that names its host twice is accepted as if it named it once, and with its contacts in
the other order. -/
theorem servedRequest_relinked :
    ∃ plan, (closedRegistry.assess servedStore.reader servedRequest).result = .ok plan
      ∧ (closedRegistry.assess servedStore.reader (servedRequest.withNameservers ["ns.tld"])).result
        = .ok plan
      ∧ ∃ plan', (closedRegistry.assess servedStore.reader
          (servedRequest.withContacts servedRequest.command.contacts.reverse)).result = .ok plan'
        ∧ plan.SameButOrder plan' := by
  have accepted : ((closedRegistry.assess servedStore.reader servedRequest).result.toOption).isSome
      = true := by
    decide +kernel
  obtain ⟨plan, accepted⟩ := Option.isSome_iff_exists.mp accepted
  have accepted := eq_ok_of_toOption accepted
  obtain ⟨named, ordered⟩ := links_in_any_order closedRegistry servedStore.reader servedRequest
  have once : ∀ n, n ∈ ["ns.tld"] ↔ n ∈ servedRequest.command.nameservers := by
    intro n
    simp [servedRequest]
  refine ⟨plan, accepted, by rw [named ["ns.tld"] once, accepted], ?_⟩
  have agree := ordered servedRequest.command.contacts.reverse (List.reverse_perm _)
  rw [accepted] at agree
  generalize (closedRegistry.assess servedStore.reader
    (servedRequest.withContacts servedRequest.command.contacts.reverse)).result = answer at agree ⊢
  cases agree with
  | accepted alike => exact ⟨_, rfl, alike⟩

end Admission

end DomainRegistry
