import Mathlib.Data.List.Nodup
import DomainRegistry.Store.Transaction

/-!
Resources of one kind: those that are stored, by repository id, and the ids that their names lead
to. Main statements: what is found on a shelf after resources have been put there one after the
other, and that a transaction with these resources written finds the same before they are put there.
-/

namespace DomainRegistry

namespace SortedMap

variable {κ α β : Type} [Ord κ] [Std.TransOrd κ] [Std.LawfulEqOrd κ] [DecidableEq κ]
variable {key : α → κ} {value : α → β} {as : List α} {m : SortedMap κ β}

theorem get?_inserts_of_not_mem {k : κ} (absent : ∀ a ∈ as, key a ≠ k) :
    (as.foldl (fun m a => m.insert (key a) (value a)) m).get? k = m.get? k := by
  induction as generalizing m with
  | nil => rfl
  | cons a as ih =>
    have other : k ≠ key a := (absent a List.mem_cons_self).symm
    rw [List.foldl_cons, ih fun b member => absent b (List.mem_cons_of_mem a member), get?_insert,
      if_neg other]

/-- The order of the insertions does not matter where equal keys come with equal values. -/
theorem get?_inserts_of_mem
    (single : ∀ a ∈ as, ∀ b ∈ as, key a = key b → value a = value b) {a : α} (member : a ∈ as) :
    (as.foldl (fun m a => m.insert (key a) (value a)) m).get? (key a) = some (value a) := by
  induction as generalizing m a with
  | nil => cases member
  | cons b as ih =>
    have later : ∀ c ∈ as, ∀ d ∈ as, key c = key d → value c = value d := fun c hc d hd =>
      single c (List.mem_cons_of_mem b hc) d (List.mem_cons_of_mem b hd)
    rw [List.foldl_cons]
    by_cases again : ∃ c ∈ as, key c = key a
    · obtain ⟨c, there, same⟩ := again
      have equal : value c = value a := single c (List.mem_cons_of_mem b there) a member same
      rw [← same, ← equal]
      exact ih later there
    · have first : a = b := (List.mem_cons.mp member).resolve_right fun h => again ⟨a, h, rfl⟩
      subst first
      rw [get?_inserts_of_not_mem fun c there same => again ⟨c, there, same⟩, get?_insert,
        if_pos rfl]

def KeyedBy (m : SortedMap κ α) (key : α → κ) : Prop :=
  ∀ k a, m.get? k = some a → key a = k

omit [Std.TransOrd κ] [Std.LawfulEqOrd κ] in
theorem keyedBy_empty : (empty : SortedMap κ α).KeyedBy key := by
  intro k a found
  cases found

theorem KeyedBy.insert {m : SortedMap κ α} (keyed : m.KeyedBy key) (a : α) :
    (m.insert (key a) a).KeyedBy key := by
  intro k b found
  rw [get?_insert] at found
  split at found
  · next same => cases found; exact same.symm
  · exact keyed k b found

theorem KeyedBy.inserts {m : SortedMap κ α} (keyed : m.KeyedBy key) (as : List α) :
    (as.foldl (fun m a => m.insert (key a) a) m).KeyedBy key := by
  induction as generalizing m with
  | nil => exact keyed
  | cons a as ih => exact ih (keyed.insert a)

omit [Std.TransOrd κ] in
theorem KeyedBy.mem_values_iff {m : SortedMap κ α} (keyed : m.KeyedBy key) {a : α} :
    a ∈ m.values ↔ m.get? (key a) = some a := by
  rw [mem_values]
  constructor
  · rintro ⟨k, found⟩
    rwa [keyed k a found]
  · intro found
    exact ⟨key a, found⟩

omit [Std.TransOrd κ] in
theorem KeyedBy.eq_of_mem_values {m : SortedMap κ α} (keyed : m.KeyedBy key) {a b : α}
    (left : a ∈ m.values) (right : b ∈ m.values) (same : key a = key b) : a = b := by
  have found := keyed.mem_values_iff.mp left
  rw [same, keyed.mem_values_iff.mp right] at found
  exact (Option.some.inj found).symm

omit [Std.TransOrd κ] in
theorem KeyedBy.nodup_values {m : SortedMap κ α} (keyed : m.KeyedBy key) :
    (m.values.map key).Nodup := by
  have keys : m.values.map key = m.toList.map Prod.fst := by
    rw [values, List.map_map]
    refine List.map_congr_left fun e member => ?_
    exact keyed e.1 e.2 (find_of_mem m.increasing member)
  rw [keys]
  refine List.Pairwise.map Prod.fst (fun e f below => ?_) m.increasing
  intro same
  rw [same, Std.ReflOrd.compare_self] at below
  cases below

end SortedMap

structure ResourceKind (α : Type) where
  repoId : α → String
  name : α → String
  isActive : α → Instant → Bool

structure Shelf (α : Type) where
  resources : SortedMap String α
  names : SortedMap String String

namespace Shelf

variable {α : Type} {kind : ResourceKind α} {s : Shelf α} {written : SortedMap String α}
  {now : Instant}

def put (kind : ResourceKind α) (s : Shelf α) (a : α) : Shelf α :=
  ⟨s.resources.insert (kind.repoId a) a, s.names.insert (kind.name a) (kind.repoId a)⟩

def named? (kind : ResourceKind α) (s : Shelf α) (name : String) (now : Instant) : Option α :=
  ((s.names.get? name).bind s.resources.get?).filter fun a => kind.isActive a now

/-- That resources are stored under their own ids, and names lead to resources that carry them. -/
structure Sound (kind : ResourceKind α) (s : Shelf α) : Prop where
  keyed : s.resources.KeyedBy kind.repoId
  named : ∀ name id, s.names.get? name = some id →
    ∃ a, s.resources.get? id = some a ∧ kind.name a = name

/-- That no stored resource gets another name, no two writes carry the same name, and none that is
inactive carries the name of another stored resource that is active. -/
structure Settled (kind : ResourceKind α) (s : Shelf α) (written : SortedMap String α)
    (now : Instant) : Prop where
  unrenamed : ∀ a ∈ written.values, ∀ b ∈ s.resources.get? (kind.repoId a),
    kind.name a = kind.name b
  single : ∀ a ∈ written.values, ∀ b ∈ written.values, kind.name a = kind.name b → a = b
  unclaimed : ∀ a ∈ written.values, kind.isActive a now = false → ∀ b ∈ s.resources.values,
    kind.repoId b ≠ kind.repoId a → kind.name b = kind.name a → kind.isActive b now = false

theorem sound_empty : Sound kind ⟨.empty, .empty⟩ := by
  refine ⟨SortedMap.keyedBy_empty, ?_⟩
  intro name id leads
  cases leads

theorem Sound.put (sound : s.Sound kind) {a : α}
    (unrenamed : ∀ b ∈ s.resources.get? (kind.repoId a), kind.name a = kind.name b) :
    (s.put kind a).Sound kind := by
  refine ⟨sound.keyed.insert a, ?_⟩
  intro name id leads
  simp only [Shelf.put, SortedMap.get?_insert] at leads ⊢
  by_cases own : name = kind.name a
  · rw [if_pos own] at leads
    obtain rfl : kind.repoId a = id := Option.some.inj leads
    exact ⟨a, if_pos rfl, own.symm⟩
  · rw [if_neg own] at leads
    obtain ⟨b, found, carries⟩ := sound.named name id leads
    have other : id ≠ kind.repoId a := by
      rintro rfl
      exact own (carries.symm.trans (unrenamed b found).symm)
    exact ⟨b, by rw [if_neg other]; exact found, carries⟩

theorem puts_resources (s : Shelf α) (as : List α) :
    (as.foldl (put kind) s).resources
      = as.foldl (fun m a => m.insert (kind.repoId a) a) s.resources :=
  (List.foldl_hom Shelf.resources fun _ _ => rfl).symm

theorem puts_names (s : Shelf α) (as : List α) :
    (as.foldl (put kind) s).names
      = as.foldl (fun m a => m.insert (kind.name a) (kind.repoId a)) s.names :=
  (List.foldl_hom Shelf.names fun _ _ => rfl).symm

theorem puts_keyed (stored : s.resources.KeyedBy kind.repoId) (as : List α) :
    (as.foldl (put kind) s).resources.KeyedBy kind.repoId := by
  rw [puts_resources]
  exact stored.inserts as

theorem puts_get? (keyed : written.KeyedBy kind.repoId) (id : String) :
    (written.values.foldl (put kind) s).resources.get? id
      = (written.get? id).or (s.resources.get? id) := by
  rw [puts_resources]
  cases found : written.get? id with
  | some a =>
    obtain rfl := keyed id a found
    exact SortedMap.get?_inserts_of_mem (fun _ left _ right => keyed.eq_of_mem_values left right)
      (keyed.mem_values_iff.mpr found)
  | none =>
    refine SortedMap.get?_inserts_of_not_mem fun a member same => ?_
    rw [← same, keyed.mem_values_iff.mp member] at found
    cases found

theorem puts_named?_of_written (keyed : written.KeyedBy kind.repoId)
    (settled : s.Settled kind written now) {a : α} (member : a ∈ written.values) :
    (written.values.foldl (put kind) s).named? kind (kind.name a) now
      = (some a).filter fun a => kind.isActive a now := by
  have leads : (written.values.foldl (put kind) s).names.get? (kind.name a)
      = some (kind.repoId a) := by
    rw [puts_names]
    exact SortedMap.get?_inserts_of_mem
      (fun b left c right same => congrArg kind.repoId (settled.single b left c right same)) member
  rw [named?, leads, Option.bind_some, puts_get? keyed, keyed.mem_values_iff.mp member]
  rfl

theorem Settled.unwritten (settled : s.Settled kind written now)
    (keyed : written.KeyedBy kind.repoId) {name : String}
    (uncarried : ∀ a ∈ written.values, kind.name a ≠ name) {id : String} {b : α}
    (found : s.resources.get? id = some b) (carries : kind.name b = name) :
    written.get? id = none := by
  cases again : written.get? id with
  | none => rfl
  | some a =>
    obtain rfl := keyed id a again
    have member := keyed.mem_values_iff.mpr again
    exact absurd ((settled.unrenamed a member b found).trans carries) (uncarried a member)

theorem puts_named?_of_unwritten (sound : s.Sound kind) (keyed : written.KeyedBy kind.repoId)
    (settled : s.Settled kind written now) {name : String}
    (uncarried : ∀ a ∈ written.values, kind.name a ≠ name) :
    (written.values.foldl (put kind) s).named? kind name now = s.named? kind name now := by
  have leads : (written.values.foldl (put kind) s).names.get? name = s.names.get? name := by
    rw [puts_names]
    exact SortedMap.get?_inserts_of_not_mem uncarried
  rw [named?, named?, leads]
  cases led : s.names.get? name with
  | none => rfl
  | some id =>
    obtain ⟨b, found, carries⟩ := sound.named name id led
    have untouched := settled.unwritten keyed uncarried found carries
    rw [Option.bind_some, Option.bind_some, puts_get? keyed, untouched, Option.none_or]

theorem named?_eq_some_iff (sound : s.Sound kind) {name : String} {a : α} :
    s.named? kind name now = some a ↔
      s.names.get? name = some (kind.repoId a) ∧ s.resources.get? (kind.repoId a) = some a
        ∧ kind.isActive a now = true := by
  simp only [named?, Option.filter_eq_some_iff, Option.bind_eq_some_iff]
  constructor
  · rintro ⟨⟨id, leads, found⟩, active⟩
    obtain rfl := sound.keyed id a found
    exact ⟨leads, found, active⟩
  · rintro ⟨leads, found, active⟩
    exact ⟨⟨_, leads, found⟩, active⟩

theorem Sound.name_of_named? (sound : s.Sound kind) {name : String} {a : α}
    (found : s.named? kind name now = some a) : kind.name a = name := by
  obtain ⟨leads, stored, _⟩ := (named?_eq_some_iff sound).mp found
  obtain ⟨b, there, carries⟩ := sound.named name _ leads
  rw [stored] at there
  cases there
  exact carries

/-- The look-up by name that a transaction makes finds what will be found after its writes. -/
theorem byName_eq_named? (sound : s.Sound kind) (keyed : written.KeyedBy kind.repoId)
    (settled : s.Settled kind written now) (name : String) :
    Transaction.byName written (s.named? kind name now) kind.repoId
        (fun a => kind.name a == name) (fun a => kind.isActive a now)
      = (written.values.foldl (put kind) s).named? kind name now := by
  unfold Transaction.byName
  by_cases carried : ∃ a ∈ written.values, kind.name a = name
  · -- The write that carries the name decides, and a stored holder of it does not come up.
    obtain ⟨a, member, rfl⟩ := carried
    rw [puts_named?_of_written keyed settled member]
    cases search : written.values.find? _ with
    | some b =>
      have holds := List.find?_some search
      simp only [Bool.and_eq_true, beq_iff_eq] at holds
      obtain rfl := settled.single b (List.mem_of_find?_eq_some search) a member holds.1
      have present : (some b).filter (fun a => kind.isActive a now) = some b :=
        Option.filter_eq_some_iff.mpr ⟨rfl, holds.2⟩
      exact present.symm
    | none =>
      have ended : kind.isActive a now = false := by
        simpa using List.find?_eq_none.mp search a member
      have gone : (some a).filter (fun a => kind.isActive a now) = none := by
        rw [Option.filter_some, if_neg (by simp [ended])]
      rw [gone]
      cases stored : s.named? kind (kind.name a) now with
      | none => rfl
      | some b =>
        obtain ⟨_, found, active⟩ := (named?_eq_some_iff sound).mp stored
        have same : kind.repoId b = kind.repoId a := by
          by_contra other
          have inactive := settled.unclaimed a member ended b
            (sound.keyed.mem_values_iff.mpr found) other (sound.name_of_named? stored)
          rw [inactive] at active
          cases active
        dsimp only
        rw [same, keyed.mem_values_iff.mp member]
        exact if_neg (by simp [ended])
  · -- No write carries the name, so its stored holder has not been written either.
    have uncarried : ∀ a ∈ written.values, kind.name a ≠ name := fun a member same =>
      carried ⟨a, member, same⟩
    rw [puts_named?_of_unwritten sound keyed settled uncarried]
    have search : written.values.find? (fun a => kind.name a == name && kind.isActive a now)
        = none := by
      refine List.find?_eq_none.mpr fun a member holds => ?_
      simp only [Bool.and_eq_true, beq_iff_eq] at holds
      exact uncarried a member holds.1
    rw [search]
    cases stored : s.named? kind name now with
    | none => rfl
    | some b =>
      obtain ⟨_, found, _⟩ := (named?_eq_some_iff sound).mp stored
      have untouched := settled.unwritten keyed uncarried found (sound.name_of_named? stored)
      dsimp only
      rw [untouched]

/-- The written resources and the stored ones that are not written are those stored afterwards. -/
theorem overlay_perm (stored : s.resources.KeyedBy kind.repoId)
    (keyed : written.KeyedBy kind.repoId) :
    (written.values ++ s.resources.values.filter fun a => !written.contains (kind.repoId a)).Perm
      (written.values.foldl (put kind) s).resources.values := by
  have after := puts_keyed stored written.values
  have apart : written.values.Disjoint
      (s.resources.values.filter fun a => !written.contains (kind.repoId a)) := by
    intro a left right
    have absent := (List.mem_filter.mp right).2
    rw [SortedMap.contains, keyed.mem_values_iff.mp left] at absent
    cases absent
  have once := (keyed.nodup_values.of_map _).append
    ((stored.nodup_values.of_map _).filter fun a => !written.contains (kind.repoId a)) apart
  refine (List.perm_ext_iff_of_nodup once (after.nodup_values.of_map _)).mpr fun a => ?_
  rw [List.mem_append, List.mem_filter, keyed.mem_values_iff, stored.mem_values_iff,
    after.mem_values_iff, puts_get? keyed]
  cases found : written.get? (kind.repoId a) <;> simp [SortedMap.contains, found]

end Shelf

end DomainRegistry
