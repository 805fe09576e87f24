import DomainRegistry.Label.Punycode
import DomainRegistry.Proofs.Answers
import Mathlib.Algebra.Group.Nat.Defs

/-!
The words that Punycode reckons with. Main statements: a threshold lies between its bounds, and a
bias that follows a delta below the limit of words is small, so that neither leaves the words.
-/

namespace DomainRegistry.Punycode

section Words

variable {a b c m n : Nat}

theorem ite_eq_ok {p : Prop} [Decidable p] {e : Halt} :
    (if p then Except.ok n else .error e) = .ok m ↔ p ∧ n = m := by
  by_cases h : p <;> simp [h]

theorem checked_eq_ok_iff : checked n = .ok m ↔ n < wordLimit ∧ n = m := ite_eq_ok

theorem trusted_eq_ok_iff : trusted n = .ok m ↔ n < wordLimit ∧ n = m := ite_eq_ok

theorem minus_eq_ok_iff : minus a b = .ok c ↔ b ≤ a ∧ a - b = c := ite_eq_ok

theorem quotient_eq_ok_iff : quotient a b = .ok c ↔ b ≠ 0 ∧ a / b = c := by
  rw [quotient, ite_error_eq_ok, Except.ok.injEq]

theorem remainder_eq_ok_iff : remainder a b = .ok c ↔ b ≠ 0 ∧ a % b = c := by
  rw [remainder, ite_error_eq_ok, Except.ok.injEq]

theorem checked_of_lt (fits : n < wordLimit) : checked n = .ok n := if_pos fits

theorem trusted_of_lt (fits : n < wordLimit) : trusted n = .ok n := if_pos fits

theorem minus_of_le (fits : b ≤ a) : minus a b = .ok (a - b) := if_pos fits

theorem quotient_of_pos (fits : 0 < b) : quotient a b = .ok (a / b) := if_neg (by omega)

theorem wordLimit_eq : wordLimit = 4294967296 := rfl

end Words

variable {k bias delta placed count : Nat} {first : Bool}

def greatestBias : Nat := 213

theorem threshold_bounds {t : Nat} (read : threshold k bias = .ok t) :
    leastThreshold ≤ t ∧ t ≤ greatestThreshold := by
  unfold threshold at read
  split at read
  · obtain rfl := Except.ok.inj read
    decide
  · obtain ⟨upperEnd, summed, read⟩ := bind_eq_ok.mp read
    obtain ⟨_, rfl⟩ := trusted_eq_ok_iff.mp summed
    split at read
    · obtain rfl := Except.ok.inj read
      decide
    · obtain ⟨_, rfl⟩ := minus_eq_ok_iff.mp read
      simp only [leastThreshold, greatestThreshold] at *
      omega

theorem exists_threshold (small : bias ≤ greatestBias) : ∃ t, threshold k bias = .ok t := by
  have fits : bias + greatestThreshold < wordLimit := by
    simp only [greatestBias, greatestThreshold, wordLimit_eq] at *
    omega
  unfold threshold
  split
  · exact ⟨_, rfl⟩
  · next above =>
    rw [trusted_of_lt fits]
    change ∃ t, (if bias + greatestThreshold ≤ k then Except.ok greatestThreshold
      else minus k bias) = .ok t
    split
    · exact ⟨_, rfl⟩
    · exact ⟨_, minus_of_le (by omega)⟩

/-- Each round divides by 35 and counts 36. -/
theorem exists_shrink (rounds : Nat) (few : delta < 456 * 35 ^ rounds)
    (fits : count + base * rounds < wordLimit) :
    ∃ rest ≤ 455, ∃ total ≤ count + base * rounds, shrink delta count = .ok (rest, total) := by
  induction rounds generalizing delta count with
  | zero =>
    refine ⟨delta, by omega, count, by omega, ?_⟩
    rw [shrink, if_neg (by omega)]
  | succ rounds ih =>
    rw [shrink]
    split
    · have less : delta / 35 < 456 * 35 ^ rounds := by
        rw [Nat.div_lt_iff_lt_mul (by decide), Nat.mul_assoc, ← Nat.pow_succ]
        exact few
      rw [Nat.mul_succ] at fits
      have within : count + base + base * rounds < wordLimit := by omega
      obtain ⟨rest, small, total, bounded, shrunk⟩ := ih less within
      rw [trusted_of_lt (by omega)]
      exact ⟨rest, small, total, by rw [Nat.mul_succ]; omega, shrunk⟩
    · exact ⟨delta, by omega, count, by omega, rfl⟩

theorem exists_adapt (word : delta < wordLimit) (filled : 0 < placed) :
    ∃ next ≤ greatestBias, adapt delta placed first = .ok next := by
  obtain ⟨halved, made, half⟩ :
      ∃ halved, delta / (if first then damp else 2) = halved ∧ halved ≤ delta / 2 := by
    refine ⟨_, rfl, ?_⟩
    cases first with
    | true => exact Nat.div_le_div_left (by decide) (by decide)
    | false => exact Nat.le_refl _
  have share : halved / placed ≤ halved := Nat.div_le_self _ _
  have grown : halved + halved / placed < wordLimit := by omega
  have few : halved + halved / placed < 456 * 35 ^ 5 := by
    rw [wordLimit_eq] at grown
    omega
  have within : 0 + base * 5 < wordLimit := by decide
  obtain ⟨rest, small, total, bounded, shrunk⟩ := exists_shrink 5 few within
  have part : base * rest / (rest + skew) ≤ 33 := by
    rw [← Nat.lt_succ_iff, Nat.div_lt_iff_lt_mul (by unfold skew; omega)]
    unfold base skew
    omega
  have sum : total + base * rest / (rest + skew) ≤ greatestBias := by
    unfold greatestBias
    unfold base at bounded part ⊢
    omega
  refine ⟨total + base * rest / (rest + skew), sum, ?_⟩
  unfold adapt
  rw [made]
  refine bind_eq_ok.mpr ⟨_, quotient_of_pos filled, ?_⟩
  refine bind_eq_ok.mpr ⟨_, trusted_of_lt grown, ?_⟩
  refine bind_eq_ok.mpr ⟨_, shrunk, ?_⟩
  refine bind_eq_ok.mpr ⟨_, trusted_of_lt (by rw [wordLimit_eq]; unfold base; omega), ?_⟩
  refine bind_eq_ok.mpr ⟨_, trusted_of_lt (by rw [wordLimit_eq]; unfold skew; omega), ?_⟩
  refine bind_eq_ok.mpr ⟨_, quotient_of_pos (by unfold skew; omega), ?_⟩
  exact trusted_of_lt (by rw [wordLimit_eq]; unfold greatestBias at sum; omega)

end DomainRegistry.Punycode
