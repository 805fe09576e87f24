import DomainRegistry.Proofs.Text.Digits
import Mathlib.Data.List.Basic
import Mathlib.Data.List.TakeWhile

/-!
Blanks around text. Main statement: nothing is trimmed off a text that begins and ends with a
character other than a blank.
-/

namespace DomainRegistry.Text

variable {c : Char} {cs : List Char}

theorem not_isBlank_of_printed (low : 33 ≤ c.toNat) (high : c.toNat ≤ 126) : isBlank c = false := by
  simp only [isBlank, Bool.or_eq_false_iff, Bool.and_eq_false_iff, decide_eq_false_iff_not,
    beq_eq_false_iff_ne]
  omega

theorem not_isBlank_of_isDigitAscii (digit : isDigitAscii c = true) : isBlank c = false := by
  obtain ⟨low, high⟩ := toNat_of_isDigitAscii digit
  exact not_isBlank_of_printed (by omega) (by omega)

theorem trimLeft_cons (filled : isBlank c = false) : trimLeft (c :: cs) = c :: cs := by
  rw [trimLeft, List.dropWhile_cons, filled]
  rfl

theorem trim_eq_self (first : ∀ c ∈ cs.head?, isBlank c = false)
    (last : ∀ c ∈ cs.getLast?, isBlank c = false) : trim cs = cs := by
  have fromLeft : cs.dropWhile isBlank = cs :=
    dropWhile_append_stop (List.forall_mem_nil _) first
  have fromRight : cs.reverse.dropWhile isBlank = cs.reverse := by
    rw [← List.head?_reverse] at last
    exact dropWhile_append_stop (List.forall_mem_nil _) last
  rw [trim, trimLeft, fromLeft, trimRight, fromRight, List.reverse_reverse]

theorem trim_of_filled (filled : ∀ c ∈ cs, isBlank c = false) : trim cs = cs := by
  apply trim_eq_self
  · intro c first
    exact filled c (List.mem_of_mem_head? first)
  · intro c last
    exact filled c (List.mem_of_mem_getLast? last)

theorem trim_ne_nil (member : c ∈ cs) (filled : isBlank c = false) : trim cs ≠ [] := by
  intro empty
  rw [trim, trimRight, List.reverse_eq_nil_iff, List.dropWhile_eq_nil_iff] at empty
  have blank : isBlank c = true := by
    rw [← List.takeWhile_append_dropWhile (p := isBlank) (l := cs), List.mem_append] at member
    rcases member with early | late
    · exact List.mem_takeWhile_imp early
    · exact empty c (List.mem_reverse.mpr late)
  rw [filled] at blank
  cases blank

theorem trim_between {lead trail : List Char} (lead_blank : ∀ c ∈ lead, isBlank c = true)
    (trail_blank : ∀ c ∈ trail, isBlank c = true) (filled : ∀ c ∈ cs, isBlank c = false)
    (some : cs ≠ []) : trim (lead ++ (cs ++ trail)) = cs := by
  have fromLeft : (lead ++ (cs ++ trail)).dropWhile isBlank = cs ++ trail := by
    refine dropWhile_append_stop lead_blank fun c first => ?_
    rw [List.head?_append_of_ne_nil _ some] at first
    exact filled c (List.mem_of_mem_head? first)
  have fromRight : (trail.reverse ++ cs.reverse).dropWhile isBlank = cs.reverse := by
    refine dropWhile_append_stop (fun c member => trail_blank c (List.mem_reverse.mp member))
      fun c last => ?_
    exact filled c (List.mem_reverse.mp (List.mem_of_mem_head? last))
  rw [trim, trimLeft, fromLeft, trimRight, List.reverse_append, fromRight, List.reverse_reverse]

theorem trim_words {front between back : List Char} (starts : front ≠ []) (ends : back ≠ [])
    (front_filled : ∀ c ∈ front, isBlank c = false)
    (back_filled : ∀ c ∈ back, isBlank c = false) :
    trim (front ++ (between ++ back)) = front ++ (between ++ back) := by
  apply trim_eq_self
  · intro c first
    rw [List.head?_append_of_ne_nil _ starts] at first
    exact front_filled c (List.mem_of_mem_head? first)
  · intro c last
    rw [← List.append_assoc, List.getLast?_append_of_ne_nil _ ends] at last
    exact back_filled c (List.mem_of_mem_getLast? last)

end DomainRegistry.Text
