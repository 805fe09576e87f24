import DomainRegistry.Text.Basic

/-!
Numbers in decimal digits. Main statement: written digits, with zeros put before them or not, are
digits and stand for the number that they were written for.
-/

namespace DomainRegistry.Text

variable {c : Char} {cs : List Char} {n width : Nat}

theorem toNat_of_isDigitAscii (digit : isDigitAscii c = true) : 48 ≤ c.toNat ∧ c.toNat ≤ 57 := by
  simp only [isDigitAscii, Bool.and_eq_true, decide_eq_true_eq] at digit
  exact digit

theorem ne_of_isDigitAscii {d : Char} (digit : isDigitAscii c = true)
    (other : isDigitAscii d = false) : c ≠ d := by
  rintro rfl
  rw [digit] at other
  cases other

theorem decimalValue_toDigits (n : Nat) : decimalValue (Nat.toDigits 10 n) = n :=
  Nat.ofDigitChars_toDigits (by decide) (by decide)

theorem isDigitAscii_of_mem_toDigits {c : Char} (member : c ∈ Nat.toDigits 10 n) :
    isDigitAscii c = true :=
  Nat.isDigit_of_mem_toDigits (by decide) (by decide) member

theorem length_toDigits_le (small : n < Nat.pow 10 width) (wide : 0 < width) :
    (Nat.toDigits 10 n).length ≤ width :=
  (Nat.length_toDigits_le_iff (by decide) wide).mpr small

theorem length_padZeros (fits : cs.length ≤ width) : (padZeros width cs).length = width := by
  rw [padZeros, List.length_append, List.length_replicate]
  omega

theorem isDigitAscii_of_mem_padZeros {c : Char} (digits : ∀ d ∈ cs, isDigitAscii d = true)
    (member : c ∈ padZeros width cs) : isDigitAscii c = true := by
  rcases List.mem_append.mp member with zero | given
  · rw [(List.mem_replicate.mp zero).2]; rfl
  · exact digits c given

theorem decimalValue_padZeros (cs : List Char) (width : Nat) :
    decimalValue (padZeros width cs) = decimalValue cs := by
  have zeros (count : Nat) :
      (List.replicate count '0').foldl (fun n c => 10 * n + digitValue c) 0 = 0 := by
    induction count with
    | zero => rfl
    | succ count ih => exact ih
  rw [decimalValue, padZeros, List.foldl_append, zeros, decimalValue]

structure Padded (width n : Nat) (cs : List Char) : Prop where
  digits : ∀ c ∈ cs, isDigitAscii c = true
  length : cs.length = width
  value : decimalValue cs = n

theorem padded (small : n < Nat.pow 10 width) (wide : 0 < width) :
    Padded width n (padZeros width (Nat.toDigits 10 n)) where
  digits _ member := isDigitAscii_of_mem_padZeros (fun _ => isDigitAscii_of_mem_toDigits) member
  length := length_padZeros (length_toDigits_le small wide)
  value := by rw [decimalValue_padZeros, decimalValue_toDigits]

theorem mem_toDigits {base : Nat} (several : 1 < base) (member : c ∈ Nat.toDigits base n) :
    ∃ d < base, c = d.digitChar := by
  induction n using Nat.strongRecOn with
  | ind n ih =>
    by_cases small : n < base
    · rw [Nat.toDigits_of_lt_base small, List.mem_singleton] at member
      exact ⟨n, small, member⟩
    · have large : base ≤ n := by omega
      rw [Nat.toDigits_of_base_le several large, List.mem_append, List.mem_singleton] at member
      rcases member with before | last
      · exact ih (n / base) (Nat.div_lt_self (by omega) several) before
      · exact ⟨n % base, Nat.mod_lt n (by omega), last⟩

theorem head?_toDigits_ne_zero {base : Nat} (several : 1 < base) (few : base ≤ 16)
    (positive : 0 < n) :
    ∀ c ∈ (Nat.toDigits base n).head?, c ≠ '0' := by
  induction n using Nat.strongRecOn with
  | ind n ih =>
    intro c first
    by_cases small : n < base
    · have each : ∀ i : Fin 16, 0 < i.val → i.val.digitChar ≠ '0' := by decide
      rw [Nat.toDigits_of_lt_base small, List.head?_cons, Option.mem_some_iff] at first
      exact first ▸ each ⟨n, by omega⟩ positive
    · -- The first digit stays when the last one is cut off.
      have large : base ≤ n := by omega
      rw [Nat.toDigits_of_base_le several large, List.head?_append] at first
      match more : (Nat.toDigits base (n / base)).head? with
      | none => exact absurd (List.head?_eq_none_iff.mp more) Nat.toDigits_ne_nil
      | some d =>
        rw [more, Option.some_or, Option.mem_some_iff] at first
        have shorter : n / base < n := Nat.div_lt_self positive several
        have rest : 0 < n / base := Nat.div_pos large (by omega)
        exact ih (n / base) shorter rest c (by rw [more, first]; rfl)

theorem isHexDigit_of_mem_hexLower (member : c ∈ hexLower n) : isHexDigit c = true := by
  have each : ∀ d : Fin 16, isHexDigit d.val.digitChar = true := by decide
  obtain ⟨d, small, rfl⟩ := mem_toDigits (by decide) member
  exact each ⟨d, small⟩

theorem takeWhile_append_stop {p : Char → Bool} {rest : List Char} (all : ∀ c ∈ cs, p c = true)
    (stop : ∀ c ∈ rest.head?, p c = false) : (cs ++ rest).takeWhile p = cs := by
  rw [List.takeWhile_append_of_pos all]
  cases rest with
  | nil => simp
  | cons c rest => rw [List.takeWhile_cons, stop c rfl]; simp

theorem dropWhile_append_stop {p : Char → Bool} {rest : List Char} (all : ∀ c ∈ cs, p c = true)
    (stop : ∀ c ∈ rest.head?, p c = false) : (cs ++ rest).dropWhile p = rest := by
  rw [List.dropWhile_append_of_pos all]
  cases rest with
  | nil => rfl
  | cons c rest => rw [List.dropWhile_cons, stop c rfl]; simp

end DomainRegistry.Text
