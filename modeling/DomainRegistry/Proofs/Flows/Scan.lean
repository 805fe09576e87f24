import Mathlib.Data.List.Perm.Subperm
import DomainRegistry.Deletion.Progress

/-!
The scan of the domains in partitions. Main statements: every stored domain is in one partition, and
a job that is taken up again knows at its end what one look at all domains would have told.
-/

namespace DomainRegistry

def Tables.RefersTo (t : Tables) (target : String) (now : Instant) : Prop :=
  ∃ id d, t.domains.get? id = some d ∧ d.isActive now = true ∧ target ∈ d.nameservers

theorem DeletionJob.isReferenced_iff {t : Tables} {target : String} {now : Instant} :
    isReferenced t.domains.values target now = true ↔ t.RefersTo target now := by
  simp only [isReferenced, List.any_eq_true, refersTo, Bool.and_eq_true, SortedSet.contains_iff,
    SortedMap.mem_values]
  constructor
  · rintro ⟨d, ⟨id, found⟩, refers⟩
    exact ⟨id, d, found, refers⟩
  · rintro ⟨id, d, found, refers⟩
    exact ⟨d, ⟨id, found⟩, refers⟩

namespace Tables

variable {t : Tables} {d : Domain}

theorem mem_domainsIn {n partitions : Nat} :
    d ∈ t.domainsIn n partitions ↔
      (∃ id, t.domains.get? id = some d) ∧ partitionOf d.repoId partitions = n := by
  rw [domainsIn, List.mem_filter, SortedMap.mem_values, beq_iff_eq]

theorem one_partition {id : String} (found : t.domains.get? id = some d) (partitions : Nat) :
    ∃ n, n < max partitions 1 ∧ ∀ m, d ∈ t.domainsIn m partitions ↔ m = n := by
  refine ⟨partitionOf d.repoId partitions, partitionOf_lt _ _, ?_⟩
  intro m
  rw [mem_domainsIn]
  constructor
  · intro listed
    exact listed.2.symm
  · rintro rfl
    exact ⟨⟨id, found⟩, rfl⟩

end Tables

namespace JobProgress

variable {t : Tables} {target : String} {now : Instant} {partitions : Nat} {p : JobProgress}

/-- The partitions together find a reference exactly when one look at all domains does. -/
theorem any_scanPartition (t : Tables) (target : String) (partitions : Nat) (now : Instant) :
    ((List.range (max partitions 1)).any fun n => scanPartition t target n partitions now)
      = DeletionJob.isReferenced t.domains.values target now := by
  rw [Bool.eq_iff_iff, List.any_eq_true]
  simp only [scanPartition, DeletionJob.isReferenced, List.any_eq_true]
  constructor
  · rintro ⟨n, _, d, listed, refers⟩
    exact ⟨d, (List.mem_filter.mp listed).1, refers⟩
  · rintro ⟨d, stored, refers⟩
    obtain ⟨id, found⟩ := SortedMap.mem_values.mp stored
    obtain ⟨n, within, listed⟩ := Tables.one_partition found partitions
    exact ⟨n, List.mem_range.mpr within, d, (listed n).mpr rfl, refers⟩

theorem refersTo_of_scanPartition {n : Nat}
    (scanned : scanPartition t target n partitions now = true) : t.RefersTo target now := by
  obtain ⟨d, listed, refers⟩ := List.any_eq_true.mp scanned
  refine DeletionJob.isReferenced_iff.mp (List.any_eq_true.mpr ⟨d, ?_, refers⟩)
  exact (List.mem_filter.mp listed).1

def answered (p : JobProgress) (n : Nat) (found : Bool) : JobProgress :=
  { p with completed := p.completed.insert n, referenced := p.referenced || found }

section Note

variable {answer : Nat → Option Bool} {order : List Nat}

theorem note_induction {P : JobProgress → Prop} (answer : Nat → Option Bool) (order : List Nat)
    (start : P p)
    (kept : ∀ r n found, n ∈ order → answer n = some found → P r → P (r.answered n found)) :
    P (note answer order p).1 := by
  induction order generalizing p with
  | nil => exact start
  | cons n order ih =>
    have later : ∀ r m found, m ∈ order → answer m = some found → P r →
        P (r.answered m found) := by
      intro r m found member
      exact kept r m found (List.mem_cons_of_mem n member)
    rw [note]
    cases told : answer n with
    | none => exact start
    | some found =>
      have next := kept p n found List.mem_cons_self told start
      cases found with
      | true =>
        rw [answered, Bool.or_true] at next
        exact next
      | false =>
        rw [answered, Bool.or_false] at next
        exact ih next later

theorem note_outcome (answer : Nat → Option Bool) (order : List Nat) (p : JobProgress) :
    (note answer order p).1.outcome = p.outcome :=
  note_induction (P := fun r => r.outcome = p.outcome) answer order rfl
    fun _ _ _ _ _ same => same

theorem answered_of_note (noted : (note answer order p).1.referenced = true) :
    p.referenced = true ∨ ∃ n, n ∈ order ∧ answer n = some true := by
  revert noted
  refine note_induction (P := fun r => r.referenced = true →
    p.referenced = true ∨ ∃ n, n ∈ order ∧ answer n = some true) answer order Or.inl ?_
  intro r n found member told before noted
  rcases (Bool.or_eq_true _ _).mp noted with known | new
  · exact before known
  · subst new
    exact Or.inr ⟨n, member, told⟩

/-- If every partition answers, the scan goes well and stops at the first reference, if any. -/
theorem note_some (answer : Nat → Bool) (order : List Nat) (p : JobProgress) :
    (note (fun n => some (answer n)) order p).2 = true
      ∧ (note (fun n => some (answer n)) order p).1.referenced
        = (p.referenced || order.any answer) := by
  induction order generalizing p with
  | nil => simp [note]
  | cons n order ih =>
    rw [note]
    cases found : answer n with
    | true => simp [found]
    | false =>
      dsimp only
      rw [(ih _).1, (ih _).2]
      simp [found]

end Note

theorem scanIn_of_isScanned (finished : p.isScanned = true) (order : List Nat) :
    p.scanIn t target now order = p := by
  simp [scanIn, scanWith, finished]

theorem scanIn_of_not_isScanned (going : p.isScanned = false) (order : List Nat) :
    p.scanIn t target now order
      = (note (fun n => some (scanPartition t target n p.partitions now)) order p).1 := by
  simp [scanIn, scanWith, going]

theorem scanWith_outcome (answer : Nat → Option Bool) (order : List Nat) (p : JobProgress) :
    (p.scanWith answer order).1.outcome = p.outcome := by
  unfold scanWith
  split
  · rfl
  · exact note_outcome answer order p

theorem scanIn_outcome (order : List Nat) :
    (p.scanIn t target now order).outcome = p.outcome :=
  scanWith_outcome _ order p

theorem scanWith_some (answer : Nat → Bool) (order : List Nat) (p : JobProgress) :
    (p.scanWith (fun n => some (answer n)) order).2 = true := by
  unfold scanWith
  split
  · rfl
  · exact (note_some answer order p).1

theorem resumeIn_eq {s : State} {q : DeletionRequest} (fresh : p.outcome = none)
    (order : List Nat) :
    p.resumeIn order s q now =
      let scanned := p.scanIn s.snapshot q.target now order
      let c := DeletionJob.commit s q scanned.referenced now
      (c.1, { scanned with outcome := some c.1 }, c.2) := by
  have scanned : p.scanWith (fun n => some (scanPartition s.snapshot q.target n p.partitions now))
      order = (p.scanIn s.snapshot q.target now order, true) :=
    Prod.ext rfl (scanWith_some _ order p)
  unfold resumeIn resumeWith
  rw [fresh]
  dsimp only
  rw [scanned]
  rfl

/--
What is known of a job that has been started and interrupted, while neither the domains nor the time
have changed.
-/
structure Consistent (t : Tables) (target : String) (now : Instant) (p : JobProgress) : Prop where
  positive : 0 < p.partitions
  fresh : p.outcome = none
  within : ∀ n ∈ p.completed, n < p.partitions
  found : p.referenced = true → t.RefersTo target now
  clear : p.referenced = false →
    ∀ n ∈ p.completed, scanPartition t target n p.partitions now = false

namespace Consistent

theorem start (t : Tables) (target : String) (now : Instant) (partitions : Nat) :
    Consistent t target now (.start target partitions) where
  positive := Nat.lt_of_lt_of_le Nat.zero_lt_one (Nat.le_max_right partitions 1)
  fresh := rfl
  within := by
    rintro n ⟨⟩
  found := by
    rintro ⟨⟩
  clear := by
    rintro _ n ⟨⟩

theorem answered (known : Consistent t target now p) {n : Nat} {found : Bool}
    (within : n < p.partitions)
    (scanned : scanPartition t target n p.partitions now = found) :
    Consistent t target now (p.answered n found) where
  positive := known.positive
  fresh := known.fresh
  within m completed := by
    rcases SortedSet.mem_insert.mp completed with rfl | before
    · exact within
    · exact known.within m before
  found told := by
    rcases (Bool.or_eq_true _ _).mp told with before | new
    · exact known.found before
    · subst new
      exact refersTo_of_scanPartition scanned
  clear silent m completed := by
    obtain ⟨before, new⟩ := Bool.or_eq_false_iff.mp silent
    rcases SortedSet.mem_insert.mp completed with rfl | earlier
    · exact scanned.trans new
    · exact known.clear before m earlier

theorem scanIn (known : Consistent t target now p) {order : List Nat}
    (within : ∀ n ∈ order, n < p.partitions) :
    Consistent t target now (p.scanIn t target now order) := by
  cases finished : p.isScanned with
  | true =>
    rw [scanIn_of_isScanned finished]
    exact known
  | false =>
    rw [scanIn_of_not_isScanned finished]
    refine (note_induction (P := fun r => r.partitions = p.partitions ∧ Consistent t target now r)
      _ order ⟨rfl, known⟩ ?_).2
    rintro r n found member told ⟨same, known⟩
    refine ⟨same, known.answered ?_ ?_⟩
    · rw [same]
      exact within n member
    · rw [same]
      exact Option.some.inj told

/-- As many numbers below a bound as there are leave none out. -/
theorem mem_of_full (known : Consistent t target now p)
    (full : p.partitions ≤ p.completed.size) {n : Nat} (within : n < p.partitions) :
    n ∈ p.completed := by
  have distinct : p.completed.toList.Nodup := by
    refine p.completed.increasing.imp ?_
    intro a b less same
    subst same
    exact SortedSet.not_lt_self a less
  have among : p.completed.toList ⊆ List.range p.partitions := by
    intro m completed
    exact List.mem_range.mpr (known.within m completed)
  have enough : (List.range p.partitions).length ≤ p.completed.toList.length := by
    rw [List.length_range]
    exact full
  have same := (distinct.subperm among).perm_of_length_le enough
  exact same.mem_iff.mpr (List.mem_range.mpr within)

theorem isReferenced_eq (known : Consistent t target now p) :
    DeletionJob.isReferenced t.domains.values target now
      = (List.range p.partitions).any fun n => scanPartition t target n p.partitions now := by
  have bound : max p.partitions 1 = p.partitions := Nat.max_eq_left known.positive
  rw [← any_scanPartition t target p.partitions now, bound]

/-- The end of the scan knows what one look at all domains would have told. -/
theorem referenced_eq (known : Consistent t target now p) {order : List Nat}
    (all : order.Perm p.pending) :
    (p.scanIn t target now order).referenced
      = DeletionJob.isReferenced t.domains.values target now := by
  cases told : p.referenced with
  | true =>
    have finished : p.isScanned = true := by simp [isScanned, told]
    rw [scanIn_of_isScanned finished, told]
    exact (DeletionJob.isReferenced_iff.mpr (known.found told)).symm
  | false =>
    have clear := known.clear told
    cases finished : p.isScanned with
    | true =>
      have full : p.partitions ≤ p.completed.size := by
        simpa [isScanned, told] using finished
      rw [scanIn_of_isScanned finished, told, known.isReferenced_eq]
      symm
      rw [List.any_eq_false]
      intro n listed
      have completed := known.mem_of_full full (List.mem_range.mp listed)
      exact Bool.eq_false_iff.mp (clear n completed)
    | false =>
      rw [scanIn_of_not_isScanned finished, (note_some _ order p).2, told, known.isReferenced_eq,
        Bool.false_or, all.any_eq, Bool.eq_iff_iff, List.any_eq_true, List.any_eq_true]
      constructor
      · rintro ⟨n, listed, scanned⟩
        exact ⟨n, (List.mem_filter.mp listed).1, scanned⟩
      · rintro ⟨n, listed, scanned⟩
        refine ⟨n, List.mem_filter.mpr ⟨listed, ?_⟩, scanned⟩
        -- A partition that has been scanned has not told of a reference.
        cases completed : p.completed.contains n with
        | false => rfl
        | true =>
          rw [clear n (SortedSet.contains_iff.mp completed)] at scanned
          cases scanned

end Consistent

end JobProgress

end DomainRegistry
