import DomainRegistry.Proofs.Text.Markers

/-!
Text split at a separator. Main statement: a text splits once into the parts around the first
separator, and only into them.
-/

namespace DomainRegistry.Text

variable {sep : Char} {cs before after : List Char}

theorem splitOnce_append {rest : List Char} (absent : sep ∉ cs) :
    splitOnce sep (cs ++ sep :: rest) = some (cs, rest) := by
  induction cs with
  | nil => exact if_pos rfl
  | cons c cs ih =>
    rw [List.mem_cons, not_or] at absent
    rw [List.cons_append, splitOnce, if_neg (Ne.symm absent.1), ih absent.2]
    rfl

theorem splitOnce_eq_none_iff : splitOnce sep cs = none ↔ sep ∉ cs := by
  induction cs with
  | nil => simp [splitOnce]
  | cons c cs ih =>
    rw [splitOnce, List.mem_cons, not_or]
    by_cases same : c = sep
    · rw [if_pos same]
      simp [same]
    · rw [if_neg same, Option.map_eq_none_iff, ih]
      exact (and_iff_right (Ne.symm same)).symm

theorem splitOnce_eq_some_iff :
    splitOnce sep cs = some (before, after) ↔ cs = before ++ sep :: after ∧ sep ∉ before := by
  constructor
  · intro split
    induction cs generalizing before with
    | nil => cases split
    | cons c cs ih =>
      rw [splitOnce] at split
      by_cases same : c = sep
      · rw [if_pos same] at split
        cases split
        rw [same]
        exact ⟨rfl, List.not_mem_nil⟩
      · rw [if_neg same, Option.map_eq_some_iff] at split
        obtain ⟨⟨front, back⟩, found, parts⟩ := split
        cases parts
        obtain ⟨whole, absent⟩ := ih found
        rw [whole]
        exact ⟨rfl, List.not_mem_cons_of_ne_of_not_mem (Ne.symm same) absent⟩
  · intro parts
    obtain ⟨whole, absent⟩ := parts
    rw [whole]
    exact splitOnce_append absent

theorem dropTail_eq_some_iff {tail : List Char} :
    dropTail tail cs = some before ↔ cs = before ++ tail := by
  rw [dropTail, Option.map_eq_some_iff]
  constructor
  · intro found
    obtain ⟨turned, lead, back⟩ := found
    have whole := congrArg List.reverse (dropLead_eq_some_iff.mp lead)
    rwa [List.reverse_reverse, List.reverse_append, List.reverse_reverse, back] at whole
  · intro whole
    refine ⟨before.reverse, dropLead_eq_some_iff.mpr ?_, List.reverse_reverse _⟩
    rw [whole, List.reverse_append]

theorem splitAll_ne_nil : splitAll sep cs ≠ [] := by
  cases cs with
  | nil => exact List.cons_ne_nil _ _
  | cons c cs =>
    rw [splitAll]
    split
    · exact List.cons_ne_nil _ _
    · split <;> exact List.cons_ne_nil _ _

theorem two_le_length_splitAll (member : sep ∈ cs) : 2 ≤ (splitAll sep cs).length := by
  induction cs with
  | nil => cases member
  | cons c cs ih =>
    rw [splitAll]
    by_cases same : c = sep
    · rw [if_pos same, List.length_cons]
      have := List.length_pos_iff.mpr (splitAll_ne_nil : splitAll sep cs ≠ [])
      omega
    · rw [if_neg same]
      rcases List.mem_cons.mp member with first | later
      · exact absurd first.symm same
      · have longer := ih later
        split
        · next empty =>
          rw [empty] at longer
          exact absurd longer (by decide)
        · next part parts several =>
          rw [several] at longer
          exact longer

theorem splitAll_of_not_mem (absent : sep ∉ cs) : splitAll sep cs = [cs] := by
  induction cs with
  | nil => rfl
  | cons c cs ih =>
    rw [List.mem_cons, not_or] at absent
    rw [splitAll, if_neg (Ne.symm absent.1), ih absent.2]

theorem splitAll_append (absent : sep ∉ before) :
    splitAll sep (before ++ sep :: after) = before :: splitAll sep after := by
  induction before with
  | nil => rw [List.nil_append, splitAll, if_pos rfl]
  | cons c before ih =>
    rw [List.mem_cons, not_or] at absent
    rw [List.cons_append, splitAll, if_neg (Ne.symm absent.1), ih absent.2]

theorem intercalate_cons {mark part : List Char} {parts : List (List Char)} :
    mark.intercalate (part :: parts) = part ++ parts.flatMap (mark ++ ·) := by
  induction parts generalizing part with
  | nil => simp
  | cons next parts ih =>
    rw [List.intercalate_cons_cons, ih, List.flatMap_cons, List.append_assoc, List.append_assoc]

theorem head?_splitAll (absent : sep ∉ before) :
    (splitAll sep (before ++ sep :: after)).head? = some before := by
  rw [splitAll_append absent]
  rfl

end DomainRegistry.Text
