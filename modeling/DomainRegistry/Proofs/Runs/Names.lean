import DomainRegistry.Proofs.Runs.Basic

/-!
Names over whole runs. Main statement: a name has one domain at a time, and no second can be
registered, exactly as long as no deletion of a host brings a domain of the past back to its name.
-/

namespace DomainRegistry

structure Indexed (now : Instant) (t : Tables) : Prop where
  keyed : t.Keyed
  leads : ∀ id d, t.domains.get? id = some d → d.isActive now = true →
    t.domainNames.get? d.name = some id

/-- That the stored domain above a host is of the past, while another one carries its name. -/
def Tables.Shadows (t : Tables) (h : Host) (now : Instant) : Prop :=
  ∃ d id e, t.above? h = some d ∧ d.isActive now = false ∧ t.domains.get? id = some e
    ∧ e.isActive now = true ∧ e.name = d.name

namespace Indexed

variable {now : Instant} {t after : Tables}

theorem later {s : Instant} (indexed : Indexed s t) (le : s ≤ now) : Indexed now t where
  keyed := indexed.keyed
  leads id d found active := indexed.leads id d found (Domain.isActive_of_le le active)

theorem unique (indexed : Indexed now t) {id id' : String} {d e : Domain}
    (found : t.domains.get? id = some d) (active : d.isActive now = true)
    (found' : t.domains.get? id' = some e) (active' : e.isActive now = true)
    (same : d.name = e.name) : id = id' := by
  have leads := indexed.leads id d found active
  rw [same, indexed.leads id' e found' active'] at leads
  exact (Option.some.inj leads).symm

theorem domainNamed? (indexed : Indexed now t) {id : String} {d : Domain}
    (found : t.domains.get? id = some d) (active : d.isActive now = true) :
    t.domainNamed? d.name now = some d :=
  Tables.domainNamed?_eq_some_iff.mpr ⟨id, indexed.leads id d found active, found, active⟩

theorem insertDomain (indexed : Indexed now t) {d : Domain}
    (alone : ∀ id e, t.domains.get? id = some e → e.isActive now = true → e.name = d.name →
      id = d.repoId) : Indexed now (t.insertDomain d) where
  keyed := indexed.keyed.insertDomain d
  leads id e found active := by
    rw [Tables.insertDomain_get?] at found
    rw [Tables.insertDomain_names]
    split at found
    · next same =>
      cases found
      rw [if_pos rfl, same]
    · next other =>
      rw [if_neg fun named => other (alone id e found active named)]
      exact indexed.leads id e found active

theorem insertHost (indexed : Indexed now t) (h : Host) : Indexed now (t.insertHost h) :=
  ⟨indexed.keyed.insertHost h, indexed.leads⟩

theorem log (indexed : Indexed now t) (entries : List HistoryEntry) (messages : List PollMessage) :
    Indexed now (t.log entries messages) :=
  ⟨indexed.keyed.log, indexed.leads⟩

theorem detach (indexed : Indexed now t) {h : Host} (clear : ¬t.Shadows h now) :
    Indexed now (t.detach h) := by
  unfold Tables.detach
  split
  · next d above =>
    refine indexed.insertDomain fun id e found active same => ?_
    have stored := indexed.keyed.above? above
    cases exists' : d.isActive now with
    | true => exact indexed.unique found active stored exists' same
    | false => exact absurd ⟨d, id, e, above, exists', found, active, same⟩ clear
  · exact indexed

theorem created {a : Admission} {q : CreateRequest} {answer : Except Rejection Created}
    (indexed : Indexed q.now t) (effect : Creation.Effect a t q answer after) :
    Indexed q.now after := by
  cases effect with
  | rejected r => exact indexed
  | created id plan d accepted made =>
    refine (indexed.insertDomain fun id e found active same => ?_).log _ _
    obtain ⟨p, rfl⟩ := Admission.accepted_iff.mp accepted
    have free : t.domainNamed? q.command.name q.now = none :=
      Admission.checkExistence_eq_ok_iff.mp p.free
    obtain ⟨_, named, _⟩ := Creation.newDomain_eq_ok made
    rw [named, p.plan_name] at same
    rw [← same, indexed.domainNamed? found active] at free
    cases free

theorem requested {jobId : String} {q : HostDeletion.Request}
    {answer : Except Rejection DeletionRequest} (indexed : Indexed now t)
    (effect : HostDeletion.Effect t jobId q answer after) : Indexed now after := by
  cases effect with
  | rejected r => exact indexed
  | marked h named allowed => exact (indexed.insertHost (HostDeletion.marked h)).log _ _

theorem committed {q : DeletionRequest} {referenced : Bool} {outcome : JobOutcome}
    (indexed : Indexed now t) (effect : DeletionJob.Effect t q referenced now outcome after)
    (clear : ∀ h, t.hosts.get? q.target = some h → outcome = .deleted → ¬t.Shadows h now) :
    Indexed now after := by
  cases effect with
  | abandoned reason => exact indexed
  | settled h found waits =>
    refine (Indexed.insertHost ?_ (DeletionJob.decided _ h now)).log _ _
    split
    · next deleted => exact indexed.detach (clear h found deleted)
    · exact indexed

end Indexed

section Seeds

variable {t : Tables}

/-- That names lead to the domains that carry them at all times, and to none of the names to come. -/
structure Linked (toCome : List String) (t : Tables) : Prop where
  leads : ∀ id d, t.domains.get? id = some d → t.domainNames.get? d.name = some id
  fresh : ∀ id d, t.domains.get? id = some d → d.name ∉ toCome

theorem Linked.insertDomain {d : Domain} {names : List String}
    (linked : Linked (d.name :: names) t) (distinct : d.name ∉ names) :
    Linked names (t.insertDomain d) where
  leads id e found := by
    rw [Tables.insertDomain_get?] at found
    rw [Tables.insertDomain_names]
    split at found
    · next same =>
      cases found
      rw [if_pos rfl, same]
    · have other := linked.fresh id e found
      rw [if_neg fun same : e.name = d.name => other (same ▸ List.mem_cons_self)]
      exact linked.leads id e found
  fresh id e found := by
    rw [Tables.insertDomain_get?] at found
    split at found
    · cases found; exact distinct
    · exact fun later => linked.fresh id e found (List.mem_cons_of_mem _ later)

theorem Linked.insertDomains {names : List String} (ds : List Domain)
    (linked : Linked (ds.map Domain.name ++ names) t)
    (distinct : (ds.map Domain.name ++ names).Nodup) :
    Linked names (ds.foldl Tables.insertDomain t) := by
  induction ds generalizing t with
  | nil => exact linked
  | cons d ds ih =>
    obtain ⟨apart, distinct⟩ := List.nodup_cons.mp distinct
    exact ih (linked.insertDomain apart) distinct

def seedNames (seeds : List Fixtures) : List String :=
  seeds.flatMap fun x => x.domains.map Domain.name

theorem linked_seed {s : Store} {x : Fixtures} {names : List String}
    (linked : Linked (x.domains.map Domain.name ++ names) s.committed)
    (distinct : (x.domains.map Domain.name ++ names).Nodup) :
    Linked names (s.seed x).committed := by
  refine Linked.insertDomains x.domains ?_ distinct
  refine Tables.foldl_keeps (fun t h kept => ?_) (Tables.foldl_keeps (fun t c kept => ?_) linked _) _
  · exact ⟨kept.leads, kept.fresh⟩
  · exact ⟨kept.leads, kept.fresh⟩

theorem linked_seeds (seeds : List Fixtures) {s : Store}
    (linked : Linked (seedNames seeds) s.committed) (distinct : (seedNames seeds).Nodup) :
    Linked [] (seeds.foldl Store.seed s).committed := by
  induction seeds generalizing s with
  | nil => exact linked
  | cons x seeds ih =>
    exact ih (linked_seed linked distinct) (List.nodup_append.mp distinct).2.1

theorem indexed_seeded {cached : Bool} {ids : RepoId.Allocator} {queues : TaskQueues}
    {seeds : List Fixtures} (distinct : (seedNames seeds).Nodup) (now : Instant) :
    Indexed now (World.seeded cached ids queues seeds).tables := by
  have linked : Linked [] (World.seeded cached ids queues seeds).tables := by
    refine linked_seeds seeds ?_ distinct
    constructor <;> simp [Store.empty]
  exact ⟨World.seeded_keyed cached ids queues seeds, fun id d found _ => linked.leads id d found⟩

end Seeds

variable {a : Admission} {w : World} {op : Operation} {ops : List Operation} {t now : Instant}

/-- That an operation deletes a host and with that brings a domain of the past back to its name. -/
def World.Resurrects (w : World) (op : Operation) : Prop :=
  ∃ c h, w.commit? op = some c ∧ w.tables.hosts.get? c.request.target = some h
    ∧ (DeletionJob.commit w.state c.request c.referenced c.now).1 = .deleted
    ∧ w.tables.Shadows h c.now

theorem World.step_indexed (indexed : Indexed t w.tables) (le : t ≤ op.timeAfter t)
    (clear : ¬w.Resurrects op) : Indexed (op.timeAfter t) (step a w op).tables := by
  have indexed := indexed.later le
  have effect := step_effect a w op
  generalize (step a w op).tables = after at effect
  cases effect with
  | none op idle => exact indexed
  | create q after effect => exact indexed.created effect
  | request jobId q after effect => exact indexed.requested effect
  | commit op c after commits effect =>
    rw [commit?_timeAfter commits] at indexed ⊢
    exact indexed.committed effect fun h found deleted shadows =>
      clear ⟨c, h, commits, found, deleted, shadows⟩

/-- That from now on a name has one domain at a time, and no second can be registered. -/
structure Exclusive (a : Admission) (s : State) (now : Instant) : Prop where
  unique : ∀ t, now ≤ t → ∀ id d id' e, s.store.committed.domains.get? id = some d →
    d.isActive t = true → s.store.committed.domains.get? id' = some e → e.isActive t = true →
    d.name = e.name → id = id'
  taken : ∀ q : CreateRequest, now ≤ q.now → ∀ id d, s.store.committed.domains.get? id = some d →
    d.isActive q.now = true → d.name = q.command.name →
    (Creation.run a s q).1.result = .error (.resourceAlreadyExists q.command.name)

def World.NamesExclusive (a : Admission) (w : World) (t : Instant) (ops : List Operation) : Prop :=
  ∀ before after, ops = before ++ after → Exclusive a (w.run a before).state (lastTime t before)

def World.ResurrectsIn (a : Admission) (w : World) (ops : List Operation) : Prop :=
  ∃ before op after, ops = before ++ op :: after ∧ (w.run a before).Resurrects op

theorem World.run_indexed (indexed : Indexed t w.tables) (ordered : Chronological t ops)
    (clear : ¬w.ResurrectsIn a ops) :
    Indexed (lastTime t ops) (run a w ops).tables := by
  induction ops generalizing t w with
  | nil => exact indexed
  | cons op ops ih =>
    have first := step_indexed (a := a) indexed ordered.1 fun resurrects =>
      clear ⟨[], op, ops, rfl, resurrects⟩
    refine ih first ordered.2 ?_
    rintro ⟨before, op', after, rfl, resurrects⟩
    exact clear ⟨op :: before, op', after, rfl, resurrects⟩

theorem Indexed.exclusive {s : State} (indexed : Indexed now s.store.committed) :
    Exclusive a s now where
  unique _ le _ _ _ _ found active found' active' same :=
    (indexed.later le).unique found active found' active' same
  taken q le id d found active same := by
    refine Creation.run_taken (d := d) ?_
    rw [← same]
    exact (indexed.later le).domainNamed? found active

/-- The name of the domain above a deleted host leads to that domain, of the past or not. -/
theorem settled_free {q : DeletionRequest} {h : Host} {d : Domain} {t : Tables}
    (above : t.above? h = some d) (past : d.isActive now = false) :
    (DeletionJob.settled t q h now .deleted).domainNamed? d.name now = none := by
  cases named : (DeletionJob.settled t q h now .deleted).domainNamed? d.name now with
  | none => rfl
  | some g =>
    obtain ⟨id, leads, found, active⟩ := Tables.domainNamed?_eq_some_iff.mp named
    rw [DeletionJob.settled_domainNames, if_pos rfl, Tables.detach_of_above above,
      Tables.insertDomain_names, if_pos (by rfl)] at leads
    rw [DeletionJob.settled_domains, if_pos rfl, Tables.detach_of_above above,
      Tables.insertDomain_get?, if_pos (Option.some.inj leads).symm] at found
    obtain rfl : d.without h.name = g := Option.some.inj found
    exact absurd active (by rw [Bool.not_eq_true]; exact past)

theorem settled_keeps {q : DeletionRequest} {h : Host} {d e : Domain} {t : Tables} {id : String}
    (above : t.above? h = some d) (stored : t.domains.get? id = some e) (other : id ≠ d.repoId) :
    (DeletionJob.settled t q h now .deleted).domains.get? id = some e := by
  rw [DeletionJob.settled_domains, if_pos rfl, Tables.detach_of_above above,
    Tables.insertDomain_get?, if_neg (by exact other), stored]

/-- A privileged request for a name that is turned away for its period at the latest. -/
def probe (name : String) (now : Instant) : CreateRequest where
  command := { name, period := ⟨.months, 1⟩ }
  registrar := {}
  superuser := true
  now

theorem probe_free {s : State} {name : String} (forgotten : s.store.Forgets name)
    (free : s.store.committed.domainNamed? name now = none) :
    (Creation.run a s (probe name now)).1.result ≠ .error (.resourceAlreadyExists name) := by
  have months : (probe name now).command.period.unit ≠ .years := nofun
  obtain ⟨r, rejected, untaken⟩ : ∃ r,
      (a.assess s.store.committed.reader (probe name now)).result = .error r
        ∧ r ≠ .resourceAlreadyExists name :=
    Admission.assess_free free rfl months
  rw [Creation.run_free (q := probe name now) forgotten free rejected]
  exact fun taken => untaken (Except.error.inj taken)

theorem World.resurrected_not_exclusive (keyed : w.tables.Keyed) (resurrects : w.Resurrects op) :
    ¬Exclusive a (step a w op).state (op.timeAfter t) := by
  intro exclusive
  obtain ⟨c, h, commits, found, deleted, d, id, e, above, past, stored, active, same⟩ := resurrects
  rw [step_of_commit? commits, commit?_timeAfter commits,
    DeletionJob.commit_of_deleted found deleted] at exclusive
  have after : (w.state.commit (DeletionJob.record c.request h c.now .deleted
      w.state.store.begin)).store.committed
        = DeletionJob.settled w.tables c.request h c.now .deleted := by
    rw [State.commit, Store.commit_committed, DeletionJob.record_begin]
    rfl
  have other : id ≠ d.repoId := by
    rintro rfl
    obtain rfl : d = e := Option.some.inj ((keyed.above? above).symm.trans stored)
    rw [past] at active
    cases active
  have taken := exclusive.taken (probe d.name c.now) (Instant.le_refl _) id e
    (by rw [after]; exact settled_keeps above stored other) active same
  refine probe_free (Store.commit_forgets ?_) ?_ taken
  · rw [DeletionJob.record_touched above]
    exact List.mem_cons_self
  · rw [after]
    exact settled_free above past

/-- Nothing but a deletion that resurrects a domain can put two domains under one name. -/
theorem names_exclusive_iff {cached : Bool} {ids : RepoId.Allocator} {queues : TaskQueues}
    {seeds : List Fixtures} (filled : w = .seeded cached ids queues seeds)
    (distinct : (seedNames seeds).Nodup) (ordered : Chronological t ops) :
    w.NamesExclusive a t ops ↔ ¬w.ResurrectsIn a ops := by
  subst filled
  constructor
  · rintro exclusive ⟨before, op, after, rfl, resurrects⟩
    have next := exclusive (before ++ [op]) after (by simp)
    rw [World.run_append, lastTime_append] at next
    exact World.resurrected_not_exclusive (World.run_keyed before
      (World.seeded_keyed cached ids queues seeds)) resurrects next
  · rintro clear before after rfl
    refine (World.run_indexed (indexed_seeded distinct t) (chronological_append.mp ordered).1
      ?_).exclusive
    rintro ⟨first, op, rest, rfl, resurrects⟩
    exact clear ⟨first, op, rest ++ after, by simp, resurrects⟩

def lapsed : Fixtures where
  domains := [{
    repoId := "X-OLD"
    name := "a.tld"
    zone := "tld"
    sponsor := "r"
    creationTime := .epoch
    deletionTime := some .epoch
    expirationTime := .epoch
    registrant := none
    contacts := []
    nameservers := .empty
    subordinateHosts := .ofList ["ns.a.tld"]
    dsData := []
    claimsNotice := none
    smdId := none
    idnTable := none
    gracePeriods := []
    status := .none }]
  hosts := [{ repoId := "H-1", name := "ns.a.tld", sponsor := "r", superordinate := some "X-OLD" }]
  contacts := [{ repoId := "C-1", contactId := "c", sponsor := "r" }]

theorem registrations_exclusive :
    (World.seeded true {} {} [lapsed]).NamesExclusive openRegistry .epoch
      [.create (plainRequest "a.tld" []), .create (plainRequest "a.tld" [])] := by
  refine (names_exclusive_iff rfl (by decide) (by decide)).mpr ?_
  rintro ⟨before, op, after, same, c, h, commits, _⟩
  have member : op ∈ before ++ op :: after := by simp
  rw [← same] at member
  simp only [List.mem_cons, List.not_mem_nil, or_false, or_self] at member
  subst member
  cases commits

/-- The name is registered anew, the host deleted, and the name registered once more. -/
def reregistration : List Operation :=
  [.create (plainRequest "a.tld" []),
    .requestDeletion "j" ⟨"ns.a.tld", "r", false, .epoch⟩,
    .start ⟨⟨"j", "H-1", "r", false, .epoch⟩, .start "H-1" 2⟩,
    .resume 0 [0, 1] [] .epoch,
    .create (plainRequest "a.tld" [])]

def reregistered : World := .run openRegistry (.seeded true {} {} [lapsed]) reregistration

theorem reregistered_not_exclusive :
    (seedNames [lapsed]).Nodup ∧ Chronological .epoch reregistration
      ∧ ¬Exclusive openRegistry reregistered.state (lastTime .epoch reregistration) := by
  refine ⟨by decide, by decide, fun exclusive => ?_⟩
  have stored : ∀ id ∈ ["1-TLD", "2-TLD"],
      (reregistered.tables.domains.get? id).map (fun d => (d.name, d.isActive .epoch))
        = some ("a.tld", true) := by decide +kernel
  obtain ⟨d, found, same⟩ := Option.map_eq_some_iff.mp (stored "1-TLD" (by simp))
  obtain ⟨e, found', same'⟩ := Option.map_eq_some_iff.mp (stored "2-TLD" (by simp))
  obtain ⟨named, active⟩ := Prod.mk.inj same
  obtain ⟨named', active'⟩ := Prod.mk.inj same'
  have one := exclusive.unique .epoch (Instant.le_refl _) "1-TLD" d "2-TLD" e found active found'
    active' (named.trans named'.symm)
  exact absurd one (by decide)

end DomainRegistry
