/-!
Finite sets kept as strictly increasing lists, so that sets with the same members are equal.
-/

namespace DomainRegistry

/-- A finite set whose members are listed in increasing order, each once. -/
structure SortedSet (α : Type) [Ord α] where
  toList : List α
  increasing : toList.Pairwise (fun a b => compare a b = .lt)

namespace SortedSet

variable {α : Type} [Ord α]

instance [DecidableEq α] : DecidableEq (SortedSet α) := fun s t =>
  decidable_of_iff (s.toList = t.toList) (by cases s; cases t; simp)

def empty : SortedSet α := ⟨[], .nil⟩

instance : Inhabited (SortedSet α) := ⟨empty⟩

def size (s : SortedSet α) : Nat := s.toList.length

def isEmpty (s : SortedSet α) : Bool := s.toList.isEmpty

instance : Membership α (SortedSet α) := ⟨fun s a => a ∈ s.toList⟩

theorem mem_def {a : α} {s : SortedSet α} : a ∈ s ↔ a ∈ s.toList := Iff.rfl

def contains [DecidableEq α] (s : SortedSet α) (a : α) : Bool := decide (a ∈ s.toList)

theorem contains_iff [DecidableEq α] {s : SortedSet α} {a : α} : s.contains a = true ↔ a ∈ s := by
  simp [contains, mem_def]

instance [DecidableEq α] (a : α) (s : SortedSet α) : Decidable (a ∈ s) :=
  inferInstanceAs (Decidable (a ∈ s.toList))

def place (a : α) : List α → List α
  | [] => [a]
  | b :: bs =>
    match compare a b with
    | .lt => a :: b :: bs
    | .eq => b :: bs
    | .gt => b :: place a bs

section Ordered

variable [Std.TransOrd α] [Std.LawfulEqOrd α]

omit [Std.TransOrd α] in
theorem mem_place {a x : α} {bs : List α} : x ∈ place a bs ↔ x = a ∨ x ∈ bs := by
  induction bs with
  | nil => simp [place]
  | cons b bs ih =>
    rw [place]
    split
    · simp
    · next same =>
      have : a = b := Std.LawfulEqOrd.eq_of_compare same
      subst this
      simp
    · simp only [List.mem_cons, ih]
      constructor
      · rintro (h | h | h) <;> simp [h]
      · rintro (h | h | h) <;> simp [h]

theorem place_increasing (a : α) {bs : List α}
    (sorted : bs.Pairwise (fun x y => compare x y = .lt)) :
    (place a bs).Pairwise (fun x y => compare x y = .lt) := by
  induction bs with
  | nil => simp [place]
  | cons b bs ih =>
    have head : ∀ x ∈ bs, compare b x = .lt := (List.pairwise_cons.mp sorted).1
    have tail := (List.pairwise_cons.mp sorted).2
    rw [place]
    split
    · next less =>
      refine List.pairwise_cons.mpr ⟨?_, sorted⟩
      intro x member
      rcases List.mem_cons.mp member with rfl | later
      · exact less
      · exact Std.TransCmp.lt_trans less (head x later)
    · exact sorted
    · next greater =>
      refine List.pairwise_cons.mpr ⟨?_, ih tail⟩
      intro x member
      rcases mem_place.mp member with rfl | later
      · exact Std.OrientedCmp.lt_of_gt greater
      · exact head x later

def insert (s : SortedSet α) (a : α) : SortedSet α :=
  ⟨place a s.toList, place_increasing a s.increasing⟩

@[simp] theorem mem_insert {s : SortedSet α} {a x : α} : x ∈ s.insert a ↔ x = a ∨ x ∈ s := mem_place

def ofList (xs : List α) : SortedSet α := xs.foldl insert empty

theorem mem_foldl_insert {x : α} {xs : List α} {s : SortedSet α} :
    x ∈ xs.foldl insert s ↔ x ∈ xs ∨ x ∈ s := by
  induction xs generalizing s with
  | nil => simp
  | cons a xs ih =>
    rw [List.foldl_cons, ih, mem_insert, List.mem_cons]
    constructor
    · rintro (h | h | h) <;> simp [h]
    · rintro ((h | h) | h) <;> simp [h]

@[simp] theorem mem_ofList {x : α} {xs : List α} : x ∈ ofList xs ↔ x ∈ xs := by
  rw [ofList, mem_foldl_insert]
  simp [mem_def, empty]

omit [Std.TransOrd α] in
theorem not_lt_self (a : α) : compare a a ≠ .lt := by
  rw [Std.ReflOrd.compare_self]; decide

theorem eq_of_same_members : ∀ {xs ys : List α},
    xs.Pairwise (fun a b => compare a b = .lt) → ys.Pairwise (fun a b => compare a b = .lt) →
    (∀ a, a ∈ xs ↔ a ∈ ys) → xs = ys
  | [], [], _, _, _ => rfl
  | [], y :: ys, _, _, same => absurd ((same y).mpr (by simp)) (by simp)
  | x :: xs, [], _, _, same => absurd ((same x).mp (by simp)) (by simp)
  | x :: xs, y :: ys, hx, hy, same => by
    have hx' := List.pairwise_cons.mp hx
    have hy' := List.pairwise_cons.mp hy
    have heads : x = y := by
      rcases List.mem_cons.mp ((same x).mp (by simp)) with h | inYs
      · exact h
      · rcases List.mem_cons.mp ((same y).mpr (by simp)) with h | inXs
        · exact h.symm
        · exact absurd (Std.TransCmp.lt_trans (hx'.1 y inXs) (hy'.1 x inYs)) (not_lt_self x)
    subst heads
    congr 1
    refine eq_of_same_members hx'.2 hy'.2 fun a => ?_
    constructor
    · intro member
      rcases List.mem_cons.mp ((same a).mp (by simp [member])) with h | h
      · subst h; exact absurd (hx'.1 a member) (not_lt_self a)
      · exact h
    · intro member
      rcases List.mem_cons.mp ((same a).mpr (by simp [member])) with h | h
      · subst h; exact absurd (hy'.1 a member) (not_lt_self a)
      · exact h

theorem ext {s t : SortedSet α} (same : ∀ a, a ∈ s ↔ a ∈ t) : s = t := by
  have lists := eq_of_same_members s.increasing t.increasing same
  cases s; cases t; simp_all

end Ordered

def filter (s : SortedSet α) (keep : α → Bool) : SortedSet α :=
  ⟨s.toList.filter keep, s.increasing.filter keep⟩

def erase [DecidableEq α] (s : SortedSet α) (a : α) : SortedSet α := s.filter (· ≠ a)

@[simp] theorem mem_erase [DecidableEq α] {s : SortedSet α} {a x : α} :
    x ∈ s.erase a ↔ x ≠ a ∧ x ∈ s := by
  simp [erase, filter, mem_def, and_comm]

end SortedSet

end DomainRegistry
