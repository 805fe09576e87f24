import DomainRegistry.Proofs.Admission.Accepted
import DomainRegistry.Proofs.Trademark.Marks
import DomainRegistry.Proofs.Bytes.Hex
import DomainRegistry.Store.Transaction
import Mathlib.Data.Finset.Card

/-!
What accepted requests link to and delegate. Main statement: everyone, superusers included, names a
contact for each of their distinct roles, as many hosts as the zone wants and signer records that are
well-formed, and contacts and hosts all exist.
-/

namespace DomainRegistry

structure Reader.FindsActive (r : Reader) : Prop where
  domain : ∀ {name now d}, r.domainNamed? name now = some d → d.isActive now = true
  host : ∀ {name now h}, r.hostNamed? name now = some h → h.isActive now = true
  contact : ∀ {id now c}, r.contactWithId? id now = some c → c.isActive now = true

theorem Tables.findsActive (t : Tables) : t.reader.FindsActive where
  domain found := (Option.filter_eq_some_iff.mp found).2
  host found := (Option.filter_eq_some_iff.mp found).2
  contact found := (Option.filter_eq_some_iff.mp found).2

namespace Transaction

theorem byName_active {α : Type} {written : SortedMap String α} {stored? : Option α}
    {repoId : α → String} {hasName isActive : α → Bool} {a : α}
    (stored : ∀ a, stored? = some a → isActive a = true)
    (found : byName written stored? repoId hasName isActive = some a) : isActive a = true := by
  unfold byName at found
  split at found
  · next b search =>
    obtain rfl := Option.some.inj found
    have passed := List.find?_some search
    exact (Bool.and_eq_true_iff.mp passed).2
  · split at found
    · cases found
    · next b present =>
      split at found
      · split at found
        · next active =>
          obtain rfl := Option.some.inj found
          exact active
        · cases found
      · obtain rfl := Option.some.inj found
        exact stored _ rfl

theorem findsActive (x : Transaction) : x.reader.FindsActive where
  domain := byName_active fun _ => x.base.findsActive.domain
  host := byName_active fun _ => x.base.findsActive.host
  contact := byName_active fun _ => x.base.findsActive.contact

end Transaction

namespace SortedSet

variable {α : Type} [Ord α] {s : SortedSet α}

theorem isEmpty_iff : s.isEmpty = true ↔ s = .empty := by
  cases s
  simp [isEmpty, empty]

theorem listed_of_limited {listed : Bool} (passed : ¬(!s.isEmpty && !listed) = true)
    (limited : s ≠ .empty) : listed = true := by
  simpa [mt isEmpty_iff.mp limited] using passed

theorem nodup [Std.LawfulEqOrd α] (s : SortedSet α) : s.toList.Nodup := by
  refine s.increasing.imp fun less => ?_
  rintro rfl
  exact not_lt_self _ less

theorem length_ofList [DecidableEq α] [Std.TransOrd α] [Std.LawfulEqOrd α] (as : List α) :
    (ofList as).toList.length = as.toFinset.card := by
  rw [← List.toFinset_card_of_nodup (ofList as).nodup]
  congr 1
  ext a
  rw [List.mem_toFinset, List.mem_toFinset]
  exact mem_ofList

end SortedSet

namespace Dnssec

/-- That a record has an accepted algorithm, and a digest of the length that its type has. -/
structure WellFormed (ds : DsData) : Prop where
  algorithm : ds.algorithm ∈ algorithms
  digest : ∃ bytes, digestLength? ds.digestType = some bytes ∧ ds.digest.length = 2 * bytes
    ∧ ∀ c ∈ ds.digest.toList, Text.isHexDigit c = true

theorem checkRecord_eq_ok_iff {ds : DsData} : checkRecord ds = .ok () ↔ WellFormed ds := by
  have faultless : checkRecord ds = .ok () ↔ fault? ds = none := by
    unfold checkRecord
    cases fault? ds <;> simp
  rw [faultless, fault?]
  split
  · next unknown =>
    simp only [reduceCtorEq, false_iff]
    rintro ⟨known, _⟩
    simp [known] at unknown
  · next known =>
    have known : ds.algorithm ∈ algorithms := by simpa using known
    cases type : digestLength? ds.digestType with
    | none =>
      simp only [reduceCtorEq, false_iff]
      rintro ⟨_, _, typed, _⟩
      rw [type] at typed
      cases typed
    | some length =>
      have form : WellFormed ds ↔ ∃ bytes, Hex.decodeText ds.digest = .ok bytes
          ∧ bytes.length = length := by
        rw [Hex.exists_decodeText_iff]
        constructor
        · rintro ⟨_, _, typed, form⟩
          rw [type] at typed
          obtain rfl := Option.some.inj typed
          exact form
        · intro form
          exact ⟨known, length, type, form⟩
      rw [form]
      cases Hex.decodeText ds.digest with
      | error e => simp
      | ok digest => simp

/-- That the records of a command are there, not too many and well-formed, without a lifetime. -/
structure InOrder (maxRecords : Nat) (s : SecDns) : Prop where
  some : 1 ≤ s.dsData.length
  few : s.dsData.length ≤ maxRecords
  unlimited : s.maxSigLife = none
  records : ∀ ds ∈ s.dsData, WellFormed ds

theorem check_eq_ok_iff {maxRecords : Nat} {s : SecDns} :
    check maxRecords s = .ok () ↔ InOrder maxRecords s := by
  simp only [check, ite_error_eq_ok, forM_eq_ok, checkRecord_eq_ok_iff, List.isEmpty_iff,
    Option.isSome_iff_ne_none, ne_eq, Classical.not_not, Nat.not_lt]
  constructor
  · rintro ⟨filled, unlimited, few, records⟩
    exact ⟨List.length_pos_iff.mpr filled, few, unlimited, records⟩
  · rintro ⟨some, few, unlimited, records⟩
    exact ⟨List.length_pos_iff.mp some, unlimited, few, records⟩

end Dnssec

namespace Admission

variable {a : Admission} {reader : Reader} {q : CreateRequest} {plan : CreatePlan}

/-- Contacts are let through if each has a role, no two the same and none that was seen before. -/
theorem distinctRoles_eq_ok_iff {seen roles : List ContactRole} {contacts : List ContactLink} :
    distinctRoles seen contacts = .ok roles ↔
      ∃ given : List ContactRole, contacts.map ContactLink.role = given.map some
        ∧ roles = given.reverse ++ seen ∧ given.Nodup ∧ ∀ role ∈ given, role ∉ seen := by
  induction contacts generalizing seen with
  | nil =>
    constructor
    · intro passed
      obtain rfl := Except.ok.inj passed
      exact ⟨[], rfl, rfl, .nil, by simp⟩
    · rintro ⟨given, assigned, rfl, _⟩
      obtain rfl := List.map_eq_nil_iff.mp assigned.symm
      rfl
  | cons c contacts ih =>
    constructor
    · intro passed
      rw [distinctRoles] at passed
      split at passed
      · cases passed
      · next role own =>
        split at passed
        · cases passed
        · next unseen =>
          obtain ⟨rest, assigned, rfl, distinct, new⟩ := ih.mp passed
          have apart : role ∉ rest := fun later => new role later (by simp)
          have fresh : ∀ r ∈ role :: rest, r ∉ seen := by
            rw [List.forall_mem_cons]
            refine ⟨by simpa using unseen, ?_⟩
            exact fun r later old => new r later (List.mem_cons_of_mem _ old)
          exact ⟨role :: rest, by simp [own, assigned], by simp,
            List.nodup_cons.mpr ⟨apart, distinct⟩, fresh⟩
    · rintro ⟨given, assigned, rfl, distinct, new⟩
      cases given with
      | nil => cases assigned
      | cons role rest =>
        obtain ⟨own, others⟩ : c.role = some role ∧ contacts.map ContactLink.role = rest.map some :=
          List.cons.inj assigned
        obtain ⟨apart, distinct⟩ := List.nodup_cons.mp distinct
        obtain ⟨unseen, new⟩ := List.forall_mem_cons.mp new
        have fresh : ∀ r ∈ rest, r ∉ role :: seen := by
          intro r later
          rw [List.mem_cons, not_or]
          exact ⟨fun same => apart (same ▸ later), new r later⟩
        rw [distinctRoles, own]
        simp only [List.contains_iff_mem, unseen, if_false]
        exact ih.mpr ⟨rest, others, by simp, distinct, fresh⟩

structure Manned (c : CreateCommand) (zone : ZonePolicy) : Prop where
  roles : ∃ roles : List ContactRole, c.contacts.map ContactLink.role = roles.map some ∧ roles.Nodup
    ∧ ContactRole.admin ∈ roles ∧ ContactRole.tech ∈ roles
  registrant : ∃ id, c.registrant = some id
    ∧ (zone.allowedRegistrants ≠ .empty → id ∈ zone.allowedRegistrants)

theorem manned_of_checkContacts {c : CreateCommand} {zone : ZonePolicy}
    (passed : checkContacts c zone = .ok ()) : Manned c zone := by
  obtain ⟨_, taken, passed⟩ := bind_eq_ok.mp passed
  obtain ⟨roles, given, rfl, distinct, _⟩ := distinctRoles_eq_ok_iff.mp taken
  rw [List.append_nil] at passed
  split at passed
  · cases passed
  · next id registrant =>
    simp only [ite_error_eq_ok, Bool.not_eq_true', Bool.not_eq_false, List.contains_iff_mem,
      List.mem_reverse] at passed
    obtain ⟨admin, tech, allowed, _⟩ := passed
    refine ⟨⟨roles, given, distinct, admin, tech⟩, id, registrant, ?_⟩
    intro limited
    exact SortedSet.contains_iff.mp (SortedSet.listed_of_limited allowed limited)

structure LinksContact (reader : Reader) (now : Instant) (id : String) (c : Contact) : Prop where
  found : reader.contactWithId? id now = some c
  active : reader.FindsActive → c.isActive now = true
  kept : c.isPendingDelete = false

structure LinksHost (reader : Reader) (now : Instant) (name : String) (h : Host) : Prop where
  found : reader.hostNamed? name now = some h
  active : reader.FindsActive → h.isActive now = true
  kept : h.isPendingDelete = false

theorem linksContact_iff {now : Instant} {id : String} {c : Contact} :
    LinksContact reader now id c ↔ contactLink reader now id = .found c := by
  rw [contactLink_eq_found]
  constructor
  · rintro ⟨found, _, kept⟩
    exact ⟨found, kept⟩
  · rintro ⟨found, kept⟩
    exact ⟨found, fun contract => contract.contact found, kept⟩

theorem linksHost_iff {now : Instant} {name : String} {h : Host} :
    LinksHost reader now name h ↔ hostLink reader now name = .found h := by
  rw [hostLink_eq_found]
  constructor
  · rintro ⟨found, _, kept⟩
    exact ⟨found, kept⟩
  · rintro ⟨found, kept⟩
    exact ⟨found, fun contract => contract.host found, kept⟩

theorem mem_contactIds {c : CreateCommand} {id : String} :
    id ∈ contactIds c ↔ c.registrant = some id ∨ ∃ link ∈ c.contacts, link.contactId = id := by
  simp [contactIds]

theorem linked_of_checkLinkedResources {nameservers : SortedSet String}
    (linked : checkLinkedResources reader q = .ok nameservers) :
    (∀ id ∈ contactIds q.command, ∃ c, LinksContact reader q.now id c)
      ∧ (∀ n ∈ q.command.nameservers, ∃ h, LinksHost reader q.now n h)
      ∧ ∀ id, id ∈ nameservers ↔
        ∃ n ∈ q.command.nameservers, ∃ h, LinksHost reader q.now n h ∧ h.repoId = id := by
  obtain ⟨_, contacts, linked⟩ := bind_eq_ok.mp linked
  obtain ⟨hosts, followed, made⟩ := bind_eq_ok.mp linked
  obtain rfl : SortedSet.ofList (hosts.map Host.repoId) = nameservers := Except.ok.inj made
  obtain ⟨all, exactly⟩ := followLinks_found followed
  simp only [← SortedSet.mem_def, hostNames, SortedSet.mem_ofList] at all exactly
  simp only [linksContact_iff, linksHost_iff]
  refine ⟨(followLinks_found contacts).1, all, fun id => ?_⟩
  simp only [SortedSet.mem_ofList, List.mem_map, exactly]
  constructor
  · rintro ⟨h, ⟨n, named, leads⟩, rfl⟩
    exact ⟨n, named, h, leads, rfl⟩
  · rintro ⟨n, named, h, leads, rfl⟩
    exact ⟨h, ⟨n, named, leads⟩, rfl⟩

theorem checkNameservers_eq_ok {limits : LimitsConfig} {zone : ZonePolicy}
    (passed : checkNameservers limits reader q zone = .ok ()) :
    zone.minNameservers ≤ q.command.nameservers.toFinset.card
      ∧ q.command.nameservers.toFinset.card ≤ limits.maxNameservers
      ∧ (zone.allowedHosts ≠ .empty → ∀ n ∈ q.command.nameservers, n ∈ zone.allowedHosts)
      ∧ ∀ n ∈ q.command.nameservers, lacksGlue reader q.now n = false := by
  have member {n : String} : n ∈ (hostNames q.command).toList ↔ n ∈ q.command.nameservers :=
    SortedSet.mem_ofList
  simp only [checkNameservers, ite_error_eq_ok] at passed
  obtain ⟨many, few, listed, passed⟩ := passed
  rw [hostNames, SortedSet.length_ofList] at many few
  refine ⟨Nat.not_lt.mp few, Nat.not_lt.mp many, ?_, ?_⟩
  · intro limited n named
    have outside := SortedSet.listed_of_limited listed limited
    rw [List.isEmpty_iff, List.filter_eq_nil_iff] at outside
    exact SortedSet.contains_iff.mp (by simpa using outside n (member.mpr named))
  · intro n named
    split at passed
    · cases passed
    · next complete =>
      have glued := List.find?_eq_none.mp complete n (member.mpr named)
      simpa using glued

structure Contacted (reader : Reader) (q : CreateRequest) (name : DomainName) : Prop where
  manned : Manned q.command name.zone
  linked : ∀ id, (q.command.registrant = some id
    ∨ ∃ link ∈ q.command.contacts, link.contactId = id) → ∃ c, LinksContact reader q.now id c

/-- That the hosts of a command exist, may serve its zone, and are those of a plan. -/
structure Served (a : Admission) (reader : Reader) (q : CreateRequest) (name : DomainName)
    (plan : CreatePlan) : Prop where
  atLeast : name.zone.minNameservers ≤ q.command.nameservers.toFinset.card
  atMost : q.command.nameservers.toFinset.card ≤ a.config.limits.maxNameservers
  allowed : name.zone.allowedHosts ≠ .empty → ∀ n ∈ q.command.nameservers, n ∈ name.zone.allowedHosts
  linked : ∀ n ∈ q.command.nameservers, ∃ h, LinksHost reader q.now n h
    ∧ (h.superordinate ≠ none → h.addresses ≠ [])
  exact : ∀ id, id ∈ plan.nameservers ↔
    ∃ n ∈ q.command.nameservers, ∃ h, reader.hostNamed? n q.now = some h ∧ h.repoId = id

theorem Passage.contacts_inOrder (p : Passage a reader q) : Contacted reader q p.name where
  manned := manned_of_checkContacts p.contacted
  linked id given := (linked_of_checkLinkedResources p.linked).1 id (mem_contactIds.mpr given)

theorem Passage.hosts_inOrder (p : Passage a reader q) : Served a reader q p.name p.plan := by
  obtain ⟨atLeast, atMost, allowed, glued⟩ := checkNameservers_eq_ok p.served
  obtain ⟨_, linked, exactly⟩ := linked_of_checkLinkedResources p.linked
  refine ⟨atLeast, atMost, allowed, ?_, ?_⟩
  · intro n named
    obtain ⟨h, links⟩ := linked n named
    refine ⟨h, links, fun below => ?_⟩
    have enough := glued n named
    rw [lacksGlue, links.found] at enough
    simpa [Option.isSome_iff_ne_none.mpr below] using enough
  · intro id
    rw [show p.plan.nameservers = p.nameservers from rfl, exactly]
    constructor
    · rintro ⟨n, named, h, links, same⟩
      exact ⟨n, named, h, links.found, same⟩
    · rintro ⟨n, named, h, found, same⟩
      obtain ⟨g, links⟩ := linked n named
      obtain rfl : g = h := Option.some.inj (links.found.symm.trans found)
      exact ⟨n, named, g, links, same⟩

theorem Passage.signers_inOrder (p : Passage a reader q) {s : SecDns}
    (given : q.command.secDns = some s) :
    Dnssec.InOrder a.config.limits.maxDsRecords s ∧ p.plan.dsData = s.dsData := by
  have passed := p.delegated
  rw [checkSecDns, given] at passed
  refine ⟨Dnssec.check_eq_ok_iff.mp passed, ?_⟩
  simp [plan, planOf, given]

/-- Nobody registers what lacks contacts, hosts or signers, not even a superuser; and the readers of a
store find only what is active. -/
theorem accepted_structured (a : Admission) (reader : Reader) (q : CreateRequest) :
    (∀ plan, (a.assess reader q).result = .ok plan →
      ∃ name, DomainName.check a.config q.command.name = .ok name ∧ plan.label = name.label
        ∧ Contacted reader q name ∧ Served a reader q name plan
        ∧ ∀ s, q.command.secDns = some s →
          Dnssec.InOrder a.config.limits.maxDsRecords s ∧ plan.dsData = s.dsData)
      ∧ (∀ t : Tables, t.reader.FindsActive) ∧ ∀ x : Transaction, x.reader.FindsActive := by
  refine ⟨?_, Tables.findsActive, Transaction.findsActive⟩
  intro plan accepted
  obtain ⟨p, rfl⟩ := accepted_iff.mp accepted
  exact ⟨p.name, p.named, rfl, p.contacts_inOrder, p.hosts_inOrder, fun _ => p.signers_inOrder⟩

def closedZone : ZonePolicy := { ZonePolicy.generalAvailability "tld" with
  allowedRegistrants := .ofList ["c"]
  allowedHosts := .ofList ["ns.tld"]
  minNameservers := 1 }

def closedRegistry : Admission where
  config := { zones := .ofList [("tld", closedZone)] }
  catalog := {}
  verifier := markVerifier

def servedStore : Tables :=
  (({} : Tables).insertContact { repoId := "C-1", contactId := "c", sponsor := "r" }).insertHost
    { repoId := "H-1", name := "ns.tld", sponsor := "r", addresses := [.v4 10 0 0 1],
      superordinate := some "D-1" }

def signedDelegation : SecDns where
  dsData := [⟨1, 8, 1, "0123456789abcdef0123456789ABCDEF01234567"⟩]

def servedRequest : CreateRequest where
  command := {
    name := "a.tld"
    registrant := some "c"
    contacts := [⟨some .admin, "c"⟩, ⟨some .tech, "c"⟩]
    nameservers := ["ns.tld", "ns.tld"]
    secDns := some signedDelegation }
  registrar := { clientId := "r" }
  superuser := true
  now := .epoch

theorem servedRequest_structured :
    ∃ plan name, (closedRegistry.assess servedStore.reader servedRequest).result = .ok plan
      ∧ Contacted servedStore.reader servedRequest name
      ∧ Served closedRegistry servedStore.reader servedRequest name plan
      ∧ Dnssec.InOrder 8 signedDelegation := by
  have accepted : ((closedRegistry.assess servedStore.reader servedRequest).result.toOption).isSome
      = true := by
    decide +kernel
  obtain ⟨plan, accepted⟩ := Option.isSome_iff_exists.mp accepted
  have accepted := eq_ok_of_toOption accepted
  obtain ⟨name, _, _, contacted, served, signed⟩ := (accepted_structured _ _ _).1 plan accepted
  exact ⟨plan, name, accepted, contacted, served, (signed signedDelegation rfl).1⟩

end Admission

end DomainRegistry
