import DomainRegistry.Proofs.Label.Bias

/-!
Numbers of variable length. Main statements: what is written for a number reads back as that number,
whatever follows it, and lower-case text that can be read begins with what is written for a number.
-/

namespace DomainRegistry.Punycode

open Text

/-- A digit in the form in which it is written. -/
def isDigit (c : Char) : Bool := isLowerAscii c || isDigitAscii c

section Digits

variable {d : Nat} {c : Char}

theorem toNat_of_isDigit (digit : isDigit c = true) : c.toNat < 128 := by
  simp only [isDigit, isLowerAscii, isDigitAscii, Bool.or_eq_true, Bool.and_eq_true,
    decide_eq_true_eq, Char.le_def, UInt32.le_iff_toNat_le] at digit
  have z : ('z' : Char).val.toNat = 122 := rfl
  have nine : ('9' : Char).val.toNat = 57 := rfl
  change c.val.toNat < 128
  omega

theorem not_upper_of_isDigit (digit : isDigit c = true) : isUpperAscii c = false := by
  have all : ∀ n : Fin 128, isDigit (Char.ofNat n) = true →
      isUpperAscii (Char.ofNat n) = false := by decide
  have this := all ⟨c.toNat, toNat_of_isDigit digit⟩
  rw [Char.ofNat_toNat] at this
  exact this digit

theorem digitChar_of_lt (small : d < base) :
    ∃ c, digitChar d = .ok c ∧ isDigit c = true ∧ digitValue? c = some d := by
  have all : ∀ d : Fin base, ∃ c, (digitChar d).toOption = some c ∧ isDigit c = true
      ∧ digitValue? c = some d.val := by
    intro d
    have each : ∀ d : Fin base, (digitChar d).toOption.any fun c =>
        isDigit c && digitValue? c == some d.val := by decide
    simpa [Option.any_eq_true] using each d
  obtain ⟨c, written, digit, read⟩ := all ⟨d, small⟩
  exact ⟨c, eq_ok_of_toOption written, digit, read⟩

theorem lt_of_digitChar (written : digitChar d = .ok c) : d < base := by
  unfold digitChar digitChar? at written
  unfold base
  split at written
  · next found =>
    split at found
    · omega
    · split at found
      · assumption
      · cases found
  · cases written

theorem digitChar_of_value (digit : isDigit c = true) (read : digitValue? c = some d) :
    digitChar d = .ok c := by
  have all : ∀ n : Fin 128, isDigit (Char.ofNat n) = true →
      ((digitValue? (Char.ofNat n)).bind fun d => (digitChar d).toOption)
        = some (Char.ofNat n) := by
    decide
  have this := all ⟨c.toNat, toNat_of_isDigit digit⟩
  rw [Char.ofNat_toNat, read] at this
  exact eq_ok_of_toOption (this digit)

theorem isDigit_of_value (small : isUpperAscii c = false) (read : digitValue? c = some d) :
    isDigit c = true := by
  unfold digitValue? at read
  unfold isDigit
  split at read
  · next lower => rw [lower, Bool.true_or]
  · rw [small, if_neg Bool.false_ne_true] at read
    split at read
    · next digit => rw [digit, Bool.or_true]
    · cases read

theorem digitChar_eq_ok_iff :
    digitChar d = .ok c ↔ isDigit c = true ∧ digitValue? c = some d := by
  constructor
  · intro written
    obtain ⟨_, same, digit, read⟩ := digitChar_of_lt (lt_of_digitChar written)
    obtain rfl := Except.ok.inj (written.symm.trans same)
    exact ⟨digit, read⟩
  · rintro ⟨digit, read⟩
    exact digitChar_of_value digit read

end Digits

/-- The digits that are written for `q` from place `k` on. -/
inductive Numeral (bias : Nat) : (k q : Nat) → List Char → Prop
  | last {k q t : Nat} {c : Char} (read : threshold k bias = .ok t) (below : q < t)
      (digit : digitChar q = .ok c) : Numeral bias k q [c]
  | more {k q t : Nat} {c : Char} {rest : List Char} (read : threshold k bias = .ok t)
      (above : t ≤ q) (digit : digitChar (t + (q - t) % (base - t)) = .ok c)
      (fits : k + base < wordLimit)
      (later : Numeral bias (k + base) ((q - t) / (base - t)) rest) :
      Numeral bias k q (c :: rest)

variable {bias k q : Nat} {cs : List Char}

theorem threshold_proper {t : Nat} (read : threshold k bias = .ok t) : 0 < t ∧ t ≤ 26 :=
  threshold_bounds read

theorem encodeNumber_of_last {t : Nat} {c : Char} (read : threshold k bias = .ok t) (below : q < t)
    (digit : digitChar q = .ok c) : encodeNumber bias k q = .ok [c] := by
  have proper : 0 < t ∧ t < base := by
    have := threshold_proper read
    unfold base
    omega
  rw [encodeNumber, read]
  dsimp only
  rw [dif_pos proper, if_pos below, digit]
  rfl

theorem Numeral.encodeNumber (written : Numeral bias k q cs) : encodeNumber bias k q = .ok cs := by
  induction written with
  | last read below digit => exact encodeNumber_of_last read below digit
  | @more k q t c rest read above digit fits later ih =>
    have proper : 0 < t ∧ t < base := by
      have := threshold_proper read
      unfold base
      omega
    rw [Punycode.encodeNumber, read]
    dsimp only
    rw [dif_pos proper, if_neg (by omega), digit, trusted_of_lt fits]
    change (Punycode.encodeNumber bias (k + base) ((q - t) / (base - t)) >>= fun rest =>
      .ok (c :: rest)) = .ok (c :: rest)
    rw [ih]
    rfl

/-- A word has at most as many digits as decimal ones, and one more. -/
theorem exists_numeral (rounds : Nat) (small : bias ≤ greatestBias) (few : q < 10 ^ rounds)
    (fits : k + base * rounds < wordLimit) : ∃ cs, Numeral bias k q cs := by
  induction rounds generalizing k q with
  | zero =>
    obtain ⟨t, read⟩ := exists_threshold (k := k) small
    obtain ⟨least, _⟩ := threshold_proper read
    obtain ⟨c, digit, _⟩ := digitChar_of_lt (d := q) (by unfold base; omega)
    exact ⟨[c], .last read (by omega) digit⟩
  | succ rounds ih =>
    obtain ⟨t, read⟩ := exists_threshold (k := k) small
    obtain ⟨least, greatest⟩ := threshold_proper read
    by_cases below : q < t
    · obtain ⟨c, digit, _⟩ := digitChar_of_lt (d := q) (by unfold base; omega)
      exact ⟨[c], .last read below digit⟩
    · have part : (q - t) % (base - t) < base - t := Nat.mod_lt _ (by unfold base; omega)
      obtain ⟨c, digit, _⟩ :=
        digitChar_of_lt (d := t + (q - t) % (base - t)) (by unfold base at part ⊢; omega)
      have fewer : (q - t) / (base - t) < 10 ^ rounds := by
        rw [Nat.div_lt_iff_lt_mul (by unfold base; omega)]
        have step : 10 ^ rounds * 10 ≤ 10 ^ rounds * (base - t) :=
          Nat.mul_le_mul_left _ (by unfold base; omega)
        rw [Nat.pow_succ] at few
        omega
      rw [Nat.mul_succ] at fits
      obtain ⟨rest, later⟩ := ih fewer (k := k + base) (by omega)
      exact ⟨c :: rest, .more read (by omega) digit (by omega) later⟩

theorem Numeral.isDigit_of_mem (written : Numeral bias k q cs) :
    ∀ c ∈ cs, isDigit c = true := by
  induction written with
  | last read below digit =>
    intro c member
    rw [List.mem_singleton.mp member]
    exact (digitChar_eq_ok_iff.mp digit).1
  | more read above digit fits later ih =>
    intro c member
    rcases List.mem_cons.mp member with rfl | member
    · exact (digitChar_eq_ok_iff.mp digit).1
    · exact ih c member

theorem Numeral.unique {ds : List Char} (written : Numeral bias k q cs)
    (other : Numeral bias k q ds) : cs = ds :=
  Except.ok.inj (written.encodeNumber.symm.trans other.encodeNumber)

theorem decodeNumber_cons_eq_ok_iff {c : Char} {weight index : Nat} {result : Nat × List Char} :
    decodeNumber bias (c :: cs) k weight index = .ok result ↔
      ∃ digit t, digitValue? c = some digit ∧ threshold k bias = .ok t
        ∧ digit * weight < wordLimit ∧ index + digit * weight < wordLimit
        ∧ (digit < t ∧ result = (index + digit * weight, cs)
          ∨ t ≤ digit ∧ weight * (base - t) < wordLimit ∧ k + base < wordLimit
            ∧ decodeNumber bias cs (k + base) (weight * (base - t)) (index + digit * weight)
              = .ok result) := by
  rw [decodeNumber]
  cases digitValue? c with
  | none => simp
  | some digit =>
    simp only [bind_eq_ok, checked_eq_ok_iff]
    constructor
    · rintro ⟨_, ⟨term, rfl⟩, _, ⟨sum, rfl⟩, t, read, rest⟩
      refine ⟨digit, t, rfl, read, term, sum, ?_⟩
      split at rest
      · next last => exact Or.inl ⟨last, (Except.ok.inj rest).symm⟩
      · next more =>
        simp only [bind_eq_ok, checked_eq_ok_iff, trusted_eq_ok_iff, minus_eq_ok_iff] at rest
        obtain ⟨_, ⟨_, rfl⟩, _, ⟨wide, rfl⟩, _, ⟨near, rfl⟩, later⟩ := rest
        exact Or.inr ⟨by omega, wide, near, later⟩
    · rintro ⟨_, t, ⟨⟩, read, term, sum, rest⟩
      refine ⟨_, ⟨term, rfl⟩, _, ⟨sum, rfl⟩, t, read, ?_⟩
      rcases rest with ⟨last, rfl⟩ | ⟨more, wide, near, later⟩
      · rw [if_pos last]
        rfl
      · have proper : t ≤ base := Nat.le_trans (threshold_proper read).2 (by decide)
        rw [if_neg (by omega)]
        simp only [bind_eq_ok, checked_eq_ok_iff, trusted_eq_ok_iff, minus_eq_ok_iff]
        exact ⟨_, ⟨proper, rfl⟩, _, ⟨wide, rfl⟩, _, ⟨near, rfl⟩, later⟩

theorem numeral_value {t : Nat} (above : t ≤ q) :
    t + (q - t) % (base - t) + (q - t) / (base - t) * (base - t) = q := by
  have := Nat.mod_add_div' (q - t) (base - t)
  omega

/-- The weights stay words, as each is at most 35 times what is still to be read. -/
theorem Numeral.decodeNumber (written : Numeral bias k q cs) {weight index : Nat} (rest : List Char)
    (room : 35 * (q * weight) < wordLimit) (fits : index + q * weight < wordLimit) :
    decodeNumber bias (cs ++ rest) k weight index = .ok (index + q * weight, rest) := by
  induction written generalizing weight index with
  | last read below digit =>
    obtain ⟨_, value⟩ := digitChar_eq_ok_iff.mp digit
    exact decodeNumber_cons_eq_ok_iff.mpr
      ⟨_, _, value, read, by omega, fits, Or.inl ⟨below, rfl⟩⟩
  | @more k q t c tail read above digit near later ih =>
    obtain ⟨least, greatest⟩ := threshold_proper read
    obtain ⟨_, value⟩ := digitChar_eq_ok_iff.mp digit
    have whole := numeral_value above
    have more : t ≤ t + (q - t) % (base - t) := Nat.le_add_right _ _
    generalize (q - t) / (base - t) = high at whole ih later
    generalize t + (q - t) % (base - t) = low at whole more digit value
    have weighed : low * weight + high * (weight * (base - t)) = q * weight := by
      rw [← whole, Nat.add_mul, Nat.mul_assoc high, Nat.mul_comm weight]
    have heavy : weight * (base - t) ≤ 35 * (q * weight) := by
      have narrow : base - t ≤ 35 := by unfold base; omega
      have positive : weight ≤ q * weight := Nat.le_mul_of_pos_left _ (by omega)
      calc weight * (base - t)
        _ ≤ weight * 35 := Nat.mul_le_mul_left _ narrow
        _ ≤ 35 * (q * weight) := by omega
    refine decodeNumber_cons_eq_ok_iff.mpr
      ⟨low, t, value, read, by omega, by omega, Or.inr ⟨more, by omega, near, ?_⟩⟩
    rw [← weighed, ← Nat.add_assoc]
    exact ih (by omega) (by omega)

/-- Lower-case text from which a number can be read begins with what is written for it. -/
theorem numeral_of_decodeNumber {weight index value : Nat} {rest : List Char}
    (small : ∀ c ∈ cs, isUpperAscii c = false)
    (read : decodeNumber bias cs k weight index = .ok (value, rest)) :
    ∃ q written, Numeral bias k q written ∧ cs = written ++ rest
      ∧ value = index + q * weight := by
  induction cs generalizing k weight index with
  | nil => cases read
  | cons c cs ih =>
    obtain ⟨lower, others⟩ := List.forall_mem_cons.mp small
    obtain ⟨low, t, lowest, edge, _, _, ⟨last, same⟩ | ⟨more, _, near, later⟩⟩ :=
      decodeNumber_cons_eq_ok_iff.mp read
    all_goals have first : digitChar low = .ok c :=
      digitChar_eq_ok_iff.mpr ⟨isDigit_of_value lower lowest, lowest⟩
    · cases same
      exact ⟨low, [c], .last edge last first, rfl, rfl⟩
    · obtain ⟨high, written, numeral, rfl, rfl⟩ := ih others later
      have below : low < base := lt_of_digitChar first
      -- The digit is the remainder of the number that is read, and what follows is its quotient.
      have quotient : (low + high * (base - t) - t) / (base - t) = high := by
        rw [Nat.sub_add_comm more, Nat.add_mul_div_right _ _ (by omega),
          Nat.div_eq_of_lt (by omega), Nat.zero_add]
      have remainder : t + (low + high * (base - t) - t) % (base - t) = low := by
        rw [Nat.sub_add_comm more, Nat.add_mul_mod_self_right, Nat.mod_eq_of_lt (by omega)]
        omega
      refine ⟨low + high * (base - t), c :: written, .more edge (by omega) ?_ near ?_, rfl, ?_⟩
      · rw [remainder]
        exact first
      · rw [quotient]
        exact numeral
      · rw [Nat.add_mul, Nat.mul_assoc high, Nat.mul_comm weight, Nat.add_assoc]

end DomainRegistry.Punycode
