/-!
Finite maps kept as lists of entries with strictly increasing keys. Main statements: a look-up
after `insert` or `erase`, and that maps with the same look-ups are equal.
-/

namespace DomainRegistry

/-- A finite map whose entries are listed in increasing order of their keys. -/
structure SortedMap (κ : Type) [Ord κ] (α : Type) where
  toList : List (κ × α)
  increasing : toList.Pairwise (fun a b => compare a.1 b.1 = .lt)

namespace SortedMap

variable {κ : Type} [Ord κ] {α β : Type}

instance [DecidableEq κ] [DecidableEq α] : DecidableEq (SortedMap κ α) := fun s t =>
  decidable_of_iff (s.toList = t.toList) (by cases s; cases t; simp)

def empty : SortedMap κ α := ⟨[], .nil⟩

instance : Inhabited (SortedMap κ α) := ⟨empty⟩

def size (m : SortedMap κ α) : Nat := m.toList.length

def isEmpty (m : SortedMap κ α) : Bool := m.toList.isEmpty

def keys (m : SortedMap κ α) : List κ := m.toList.map Prod.fst

def values (m : SortedMap κ α) : List α := m.toList.map Prod.snd

def find [DecidableEq κ] (k : κ) : List (κ × α) → Option α
  | [] => none
  | (k', a) :: rest => if k = k' then some a else find k rest

def get? [DecidableEq κ] (m : SortedMap κ α) (k : κ) : Option α := find k m.toList

def contains [DecidableEq κ] (m : SortedMap κ α) (k : κ) : Bool := (m.get? k).isSome

/-- Puts the entry before the first one with a greater key, in place of one with the same key. -/
def place (k : κ) (a : α) : List (κ × α) → List (κ × α)
  | [] => [(k, a)]
  | (k', b) :: rest =>
    match compare k k' with
    | .lt => (k, a) :: (k', b) :: rest
    | .eq => (k, a) :: rest
    | .gt => (k', b) :: place k a rest

@[simp] theorem get?_empty [DecidableEq κ] (k : κ) : (empty : SortedMap κ α).get? k = none := rfl

omit [Ord κ] in
theorem find_eq_none_of_not_mem [DecidableEq κ] {k : κ} {entries : List (κ × α)}
    (absent : ∀ e ∈ entries, e.1 ≠ k) : find k entries = none := by
  induction entries with
  | nil => rfl
  | cons e rest ih =>
    obtain ⟨k', a⟩ := e
    have : k ≠ k' := fun h => absent (k', a) (by simp) h.symm
    rw [find, if_neg this]
    exact ih fun e member => absent e (by simp [member])

omit [Ord κ] in
theorem mem_of_find [DecidableEq κ] {k : κ} {a : α} {entries : List (κ × α)}
    (found : find k entries = some a) : (k, a) ∈ entries := by
  induction entries with
  | nil => simp [find] at found
  | cons e rest ih =>
    obtain ⟨k', b⟩ := e
    rw [find] at found
    split at found
    · next same => subst same; simp_all
    · exact List.mem_cons_of_mem _ (ih found)

section Ordered

variable [Std.TransOrd κ] [Std.LawfulEqOrd κ]

omit [Std.TransOrd κ] in
theorem mem_place_key {k x : κ} {a : α} {entries : List (κ × α)}
    (member : x ∈ (place k a entries).map Prod.fst) : x = k ∨ x ∈ entries.map Prod.fst := by
  induction entries with
  | nil => simpa [place] using member
  | cons e rest ih =>
    obtain ⟨k', b⟩ := e
    rw [place] at member
    split at member
    · simpa using member
    · next same =>
      have : k = k' := Std.LawfulEqOrd.eq_of_compare same
      subst this
      simp only [List.map_cons, List.mem_cons] at member ⊢
      exact member.imp_right Or.inr
    · simp only [List.map_cons, List.mem_cons] at member ⊢
      rcases member with h | h
      · exact Or.inr (Or.inl h)
      · exact (ih h).imp_right Or.inr

theorem place_increasing (k : κ) (a : α) {entries : List (κ × α)}
    (sorted : entries.Pairwise (fun x y => compare x.1 y.1 = .lt)) :
    (place k a entries).Pairwise (fun x y => compare x.1 y.1 = .lt) := by
  induction entries with
  | nil => simp [place]
  | cons e rest ih =>
    obtain ⟨k', b⟩ := e
    have head : ∀ x ∈ rest, compare k' x.1 = .lt := (List.pairwise_cons.mp sorted).1
    have tail := (List.pairwise_cons.mp sorted).2
    rw [place]
    split
    · next less =>
      refine List.pairwise_cons.mpr ⟨fun x member => ?_, sorted⟩
      rcases List.mem_cons.mp member with rfl | later
      · exact less
      · exact Std.TransCmp.lt_trans less (head x later)
    · next same =>
      have : k = k' := Std.LawfulEqOrd.eq_of_compare same
      subst this
      exact List.pairwise_cons.mpr ⟨head, tail⟩
    · next greater =>
      refine List.pairwise_cons.mpr ⟨fun x member => ?_, ih tail⟩
      rcases mem_place_key (List.mem_map_of_mem member) with same | later
      · simp only [same]; exact Std.OrientedCmp.lt_of_gt greater
      · obtain ⟨y, inRest, sameKey⟩ := List.mem_map.mp later
        rw [← sameKey]; exact head y inRest

def insert (m : SortedMap κ α) (k : κ) (a : α) : SortedMap κ α :=
  ⟨place k a m.toList, place_increasing k a m.increasing⟩

/-- Later entries replace earlier ones with the same key. -/
def ofList (entries : List (κ × α)) : SortedMap κ α :=
  entries.foldl (fun m e => m.insert e.1 e.2) empty

variable [DecidableEq κ]

omit [Std.LawfulEqOrd κ] in
theorem find_eq_none_of_below {k : κ} {entries : List (κ × α)}
    (below : ∀ e ∈ entries, compare k e.1 = .lt) : find k entries = none :=
  find_eq_none_of_not_mem fun e member same => by
    have less := below e member
    rw [same, Std.ReflOrd.compare_self] at less
    exact absurd less (by decide)

omit [Std.TransOrd κ] in
theorem find_place (k x : κ) (a : α) {entries : List (κ × α)}
    (sorted : entries.Pairwise (fun p q => compare p.1 q.1 = .lt)) :
    find x (place k a entries) = if x = k then some a else find x entries := by
  induction entries with
  | nil => simp [place, find]
  | cons e rest ih =>
    obtain ⟨k', b⟩ := e
    have tail := (List.pairwise_cons.mp sorted).2
    rw [place]
    split
    · simp [find]
    · next same =>
      have : k = k' := Std.LawfulEqOrd.eq_of_compare same
      subst this
      by_cases h : x = k <;> simp [find, h]
    · next greater =>
      have differ : k ≠ k' := fun h => by
        subst h
        rw [Std.ReflOrd.compare_self] at greater
        exact absurd greater (by decide)
      simp only [find, ih tail]
      by_cases h : x = k'
      · subst h; simp [Ne.symm differ]
      · simp [h]

@[simp] theorem get?_insert (m : SortedMap κ α) (k x : κ) (a : α) :
    (m.insert k a).get? x = if x = k then some a else m.get? x := find_place k x a m.increasing

omit [Ord κ] [Std.TransOrd κ] [Std.LawfulEqOrd κ] in
theorem find_isSome_iff {k : κ} {entries : List (κ × α)} :
    (find k entries).isSome ↔ k ∈ entries.map Prod.fst := by
  induction entries with
  | nil => simp [find]
  | cons e rest ih =>
    obtain ⟨k', b⟩ := e
    rw [find]
    by_cases h : k = k' <;> simp [h, ← ih]

theorem eq_of_same_finds : ∀ {xs ys : List (κ × α)},
    xs.Pairwise (fun a b => compare a.1 b.1 = .lt) →
    ys.Pairwise (fun a b => compare a.1 b.1 = .lt) → (∀ k, find k xs = find k ys) → xs = ys
  | [], [], _, _, _ => rfl
  | [], (k, a) :: ys, _, _, same => by have := same k; simp [find] at this
  | (k, a) :: xs, [], _, _, same => by have := same k; simp [find] at this
  | (k, a) :: xs, (k', b) :: ys, hx, hy, same => by
    have hx' := List.pairwise_cons.mp hx
    have hy' := List.pairwise_cons.mp hy
    have keys : k = k' := by
      apply Classical.byContradiction
      intro differ
      have atK := same k
      have atK' := same k'
      rw [find, if_pos rfl, find, if_neg differ] at atK
      rw [find, if_neg (Ne.symm differ), find, if_pos rfl] at atK'
      have less := hy'.1 _ (mem_of_find atK.symm)
      have greater := hx'.1 _ (mem_of_find atK')
      have loop := Std.TransCmp.lt_trans less greater
      rw [Std.ReflOrd.compare_self] at loop
      exact absurd loop (by decide)
    subst keys
    have values : a = b := by simpa [find] using same k
    subst values
    congr 1
    refine eq_of_same_finds hx'.2 hy'.2 fun x => ?_
    by_cases h : x = k
    · subst h
      rw [find_eq_none_of_below hx'.1, find_eq_none_of_below hy'.1]
    · have := same x
      rwa [find, if_neg h, find, if_neg h] at this

omit [Std.TransOrd κ] in
theorem find_of_mem {k : κ} {a : α} {entries : List (κ × α)}
    (sorted : entries.Pairwise (fun p q => compare p.1 q.1 = .lt)) (member : (k, a) ∈ entries) :
    find k entries = some a := by
  induction entries with
  | nil => cases member
  | cons e rest ih =>
    obtain ⟨k', b⟩ := e
    obtain ⟨below, tail⟩ := List.pairwise_cons.mp sorted
    rw [find]
    cases member with
    | head => rw [if_pos rfl]
    | tail _ later =>
      have differ : k ≠ k' := fun same => by
        have less := below (k, a) later
        rw [same, Std.ReflOrd.compare_self] at less
        cases less
      rw [if_neg differ]
      exact ih tail later

omit [Ord κ] [Std.TransOrd κ] [Std.LawfulEqOrd κ] in
theorem find_append (k : κ) (entries more : List (κ × α)) :
    find k (entries ++ more) = (find k entries).or (find k more) := by
  induction entries with
  | nil => rfl
  | cons e rest ih =>
    obtain ⟨k', a⟩ := e
    rw [List.cons_append, find, find]
    by_cases same : k = k'
    · rw [if_pos same, if_pos same]; rfl
    · rw [if_neg same, if_neg same, ih]

omit [Ord κ] [Std.TransOrd κ] [Std.LawfulEqOrd κ] in
theorem find_reverse_eq_some_iff {k : κ} {a : α} {entries : List (κ × α)} :
    find k entries.reverse = some a ↔
      ∃ before after, entries = before ++ (k, a) :: after ∧ ∀ e ∈ after, e.1 ≠ k := by
  -- A first entry decides only if its key does not come again.
  induction entries with
  | nil => simp [find]
  | cons e rest ih =>
    obtain ⟨x, b⟩ := e
    rw [List.reverse_cons, find_append, Option.or_eq_some_iff, ih, find, find]
    constructor
    · rintro (⟨before, after, rfl, apart⟩ | ⟨absent, first⟩)
      · exact ⟨(x, b) :: before, after, rfl, apart⟩
      · split at first
        · next same =>
          cases first
          subst same
          refine ⟨[], rest, rfl, fun e member same => ?_⟩
          have found : (find k rest.reverse).isSome = true :=
            find_isSome_iff.mpr (List.mem_map.mpr ⟨e, List.mem_reverse.mpr member, same⟩)
          rw [absent] at found
          cases found
        · cases first
    · rintro ⟨before, after, split, apart⟩
      cases before with
      | nil =>
        obtain ⟨⟨rfl, rfl⟩, rfl⟩ : (x = k ∧ b = a) ∧ rest = after := by simpa using split
        refine Or.inr ⟨?_, if_pos rfl⟩
        exact find_eq_none_of_not_mem fun e member => apart e (List.mem_reverse.mp member)
      | cons e before =>
        obtain ⟨rfl, rfl⟩ : (x, b) = e ∧ rest = before ++ (k, a) :: after := by
          simpa using split
        exact Or.inl ⟨before, after, rfl, apart⟩

theorem get?_foldl_insert (entries : List (κ × α)) (m : SortedMap κ α) (k : κ) :
    (entries.foldl (fun m e => m.insert e.1 e.2) m).get? k
      = (find k entries.reverse).or (m.get? k) := by
  induction entries generalizing m with
  | nil => rfl
  | cons e rest ih =>
    obtain ⟨k', a⟩ := e
    rw [List.foldl_cons, ih, get?_insert, List.reverse_cons, find_append, Option.or_assoc]
    congr 1
    rw [find]
    by_cases same : k = k'
    · rw [if_pos same, if_pos same]; rfl
    · rw [if_neg same, if_neg same]; rfl

/-- Of entries with one key, the last counts. -/
theorem get?_ofList (entries : List (κ × α)) (k : κ) :
    (ofList entries).get? k = find k entries.reverse := by
  rw [ofList, get?_foldl_insert, get?_empty, Option.or_none]

omit [Std.TransOrd κ] in
theorem mem_values {m : SortedMap κ α} {a : α} : a ∈ m.values ↔ ∃ k, m.get? k = some a := by
  rw [values, List.mem_map]
  constructor
  · rintro ⟨⟨k, _⟩, member, rfl⟩; exact ⟨k, find_of_mem m.increasing member⟩
  · rintro ⟨k, found⟩; exact ⟨(k, a), mem_of_find found, rfl⟩

theorem ext {m n : SortedMap κ α} (same : ∀ k, m.get? k = n.get? k) : m = n := by
  have lists := eq_of_same_finds m.increasing n.increasing same
  cases m; cases n; simp_all

end Ordered

def filter (m : SortedMap κ α) (keep : κ → α → Bool) : SortedMap κ α :=
  ⟨m.toList.filter fun e => keep e.1 e.2, m.increasing.filter _⟩

def erase [DecidableEq κ] (m : SortedMap κ α) (k : κ) : SortedMap κ α :=
  m.filter fun x _ => decide (x ≠ k)

theorem get?_erase [DecidableEq κ] (m : SortedMap κ α) (k x : κ) :
    (m.erase k).get? x = if x = k then none else m.get? x := by
  obtain ⟨entries, sorted⟩ := m
  simp only [erase, filter, get?]
  clear sorted
  induction entries with
  | nil => simp [find]
  | cons e rest ih =>
    obtain ⟨k', b⟩ := e
    by_cases same : k' = k
    · subst same
      by_cases h : x = k' <;> simp_all [find]
    · by_cases h : x = k
      · subst h
        have : x ≠ k' := Ne.symm same
        simp_all [find]
      · by_cases h' : x = k' <;> simp_all [find]

end SortedMap

end DomainRegistry
