import DomainRegistry.Text.Basic

/-!
The search for a marker. Main statements: a marker is found where it occurs and else not, and one
that fits on a line is found on the first line that has it.
-/

namespace DomainRegistry.Text

variable {marker cs xs ys b a : List Char} {c p : Char}

theorem dropLead_eq_some_iff : dropLead marker cs = some a ↔ cs = marker ++ a := by
  induction marker generalizing cs with
  | nil => simp [dropLead]
  | cons p ps ih =>
    cases cs with
    | nil => simp [dropLead]
    | cons c cs =>
      by_cases same : p = c
      · simp [dropLead, same, ih]
      · simp [dropLead, same, Ne.symm same]

theorem dropLead_eq_none_iff : dropLead marker cs = none ↔ ¬marker <+: cs := by
  rw [Option.eq_none_iff_forall_ne_some]
  constructor
  · rintro missing ⟨a, same⟩
    exact missing a (dropLead_eq_some_iff.mpr same.symm)
  · intro missing a found
    exact missing ⟨a, (dropLead_eq_some_iff.mp found).symm⟩

theorem dropLead_append_cons (free : c ∉ marker) :
    dropLead marker (xs ++ c :: ys) = (dropLead marker xs).map (· ++ c :: ys) := by
  induction marker generalizing xs with
  | nil => rfl
  | cons p ps ih =>
    obtain ⟨other, free⟩ := not_or.mp fun h => free (List.mem_cons.mpr h)
    cases xs with
    | nil => simp [dropLead, Ne.symm other]
    | cons x xs =>
      rw [List.cons_append, dropLead, dropLead]
      split
      · exact ih free
      · rfl

theorem splitAtMarker_eq_some (found : splitAtMarker marker cs = some (b, a)) :
    cs = b ++ marker ++ a := by
  induction cs generalizing b with
  | nil =>
    rw [splitAtMarker] at found
    split at found
    · next empty =>
      cases found
      rw [List.isEmpty_iff.mp empty]
      rfl
    · cases found
  | cons c cs ih =>
    rw [splitAtMarker] at found
    split at found
    · next here =>
      cases found
      rw [List.nil_append]
      exact dropLead_eq_some_iff.mp here
    · obtain ⟨⟨d, e⟩, later, same⟩ := Option.map_eq_some_iff.mp found
      cases same
      rw [ih later]
      rfl

theorem splitAtMarker_eq_none_iff : splitAtMarker marker cs = none ↔ ¬marker <:+: cs := by
  induction cs with
  | nil =>
    rw [splitAtMarker, List.infix_nil]
    split
    · next empty => simp [List.isEmpty_iff.mp empty]
    · next filled => simpa using filled
  | cons c cs ih =>
    rw [splitAtMarker, List.infix_cons_iff, not_or, ← dropLead_eq_none_iff, ← ih]
    cases dropLead marker (c :: cs) with
    | none => simp
    | some a => simp

theorem splitAtMarker_append (marker a : List Char) :
    splitAtMarker marker (marker ++ a) = some ([], a) := by
  cases whole : marker ++ a with
  | nil =>
    obtain ⟨rfl, rfl⟩ := List.append_eq_nil_iff.mp whole
    rfl
  | cons c cs => rw [splitAtMarker, dropLead_eq_some_iff.mpr whole.symm]

theorem splitAtMarker_skip (starts : marker.head? = some p) (free : p ∉ cs) :
    splitAtMarker marker (cs ++ xs) = (splitAtMarker marker xs).map fun (b, a) => (cs ++ b, a) := by
  obtain ⟨ps, rfl⟩ := List.head?_eq_some_iff.mp starts
  induction cs with
  | nil => simp
  | cons c cs ih =>
    obtain ⟨other, free⟩ := not_or.mp fun h => free (List.mem_cons.mpr h)
    rw [List.cons_append, splitAtMarker, dropLead, if_neg other, ih free, Option.map_map]
    rfl

section Line

variable (free : c ∉ marker) (filled : marker ≠ [])

include free

theorem splitAtMarker_cons_append (x : Char) (xs ys : List Char) :
    splitAtMarker marker (x :: xs ++ c :: ys) =
      match dropLead marker (x :: xs) with
      | some a => some ([], a ++ c :: ys)
      | none => (splitAtMarker marker (xs ++ c :: ys)).map fun (b, a) => (x :: b, a) := by
  have lead : dropLead marker (x :: xs ++ c :: ys) = _ := dropLead_append_cons free
  rw [List.cons_append] at lead ⊢
  rw [splitAtMarker, lead]
  cases dropLead marker (x :: xs) <;> rfl

include filled

theorem splitAtMarker_line (found : splitAtMarker marker xs = some (b, a)) :
    splitAtMarker marker (xs ++ c :: ys) = some (b, a ++ c :: ys) := by
  induction xs generalizing b with
  | nil =>
    rw [splitAtMarker, if_neg (by simpa using filled)] at found
    cases found
  | cons x xs ih =>
    rw [splitAtMarker_cons_append free]
    rw [splitAtMarker] at found
    cases here : dropLead marker (x :: xs) with
    | some rest =>
      rw [here] at found
      cases found
      rfl
    | none =>
      rw [here] at found
      obtain ⟨⟨d, e⟩, later, same⟩ := Option.map_eq_some_iff.mp found
      cases same
      simp only [ih later, Option.map_some]

theorem splitAtMarker_next_line (missing : splitAtMarker marker xs = none) :
    splitAtMarker marker (xs ++ c :: ys)
      = (splitAtMarker marker ys).map fun (b, a) => (xs ++ c :: b, a) := by
  induction xs with
  | nil =>
    obtain ⟨p, ps, rfl⟩ := List.exists_cons_of_ne_nil filled
    have other : p ∉ [c] := by
      rintro same
      exact free (List.mem_singleton.mp same ▸ List.mem_cons_self)
    exact splitAtMarker_skip rfl other
  | cons x xs ih =>
    rw [splitAtMarker_cons_append free]
    rw [splitAtMarker] at missing
    cases here : dropLead marker (x :: xs) with
    | some rest =>
      rw [here] at missing
      cases missing
    | none =>
      rw [here] at missing
      simp only [ih (Option.map_eq_none_iff.mp missing), Option.map_map]
      rfl

end Line

end DomainRegistry.Text
