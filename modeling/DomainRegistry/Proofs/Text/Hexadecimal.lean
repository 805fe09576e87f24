import DomainRegistry.Proofs.Text.Digits

/-!
Numbers in hexadecimal digits. Main statements: a number that is written in either case is read
back, and so is one that is read in any radix by adding up its digits.
-/

namespace DomainRegistry.Text

variable {n limit : Nat} {cs : List Char} {form : Char → Char}

/-- A way of writing digits in which each is read as itself. -/
def ReadAlike (form : Char → Char) : Prop :=
  ∀ d < 16, hexDigitValue? (form d.digitChar) = some d

theorem readAlike_id : ReadAlike id := by
  have each : ∀ i : Fin 16, hexDigitValue? i.val.digitChar = some i.val := by decide
  intro d small
  exact each ⟨d, small⟩

theorem readAlike_toUpper : ReadAlike Char.toUpper := by
  have each : ∀ i : Fin 16, hexDigitValue? i.val.digitChar.toUpper = some i.val := by decide
  intro d small
  exact each ⟨d, small⟩

theorem hex?_append_digit {c : Char} {d : Nat} (read : hex? cs = some n)
    (digit : hexDigitValue? c = some d) : hex? (cs ++ [c]) = some (16 * n + d) := by
  have filled : cs.isEmpty = false := by
    cases cs with
    | nil => cases read
    | cons _ _ => rfl
  rw [hex?, filled] at read
  have more : (cs ++ [c]).isEmpty = false := by simp
  rw [hex?, more]
  simp only [Bool.false_eq_true, if_false] at read ⊢
  rw [List.foldl_append, read]
  simp [digit]

theorem hex?_toDigits (alike : ReadAlike form) (n : Nat) :
    hex? ((Nat.toDigits 16 n).map form) = some n := by
  induction n using Nat.strongRecOn with
  | ind n ih =>
    by_cases small : n < 16
    · rw [Nat.toDigits_of_lt_base small]
      simp [hex?, alike n small]
    · -- All digits but the last are those of `n / 16`.
      have large : 16 ≤ n := by omega
      have digit := alike (n % 16) (Nat.mod_lt n (by decide))
      rw [Nat.toDigits_of_base_le (by decide) large, List.map_append, List.map_singleton,
        hex?_append_digit (ih (n / 16) (by omega)) digit, Nat.div_add_mod]

theorem hex?_hexUpper (n : Nat) : hex? (hexUpper n) = some n := hex?_toDigits readAlike_toUpper n

theorem hex?_hexLower (n : Nat) : hex? (hexLower n) = some n := by
  have same := hex?_toDigits readAlike_id n
  rwa [List.map_id] at same

theorem isHexDigit_of_mem_hexUpper {c : Char} (member : c ∈ hexUpper n) : isHexDigit c = true := by
  obtain ⟨digit, listed, rfl⟩ := List.mem_map.mp member
  obtain ⟨d, small, rfl⟩ := mem_toDigits (by decide) listed
  rw [isHexDigit, readAlike_toUpper d small]
  rfl

theorem boundedHex?_of_digits (digits : ∀ c ∈ cs, isHexDigit c = true) (read : hex? cs = some n)
    (small : n < limit) : boundedHex? limit cs = some n := by
  have below : (hex? cs).filter (· < limit) = some n := by
    rw [read]
    simp [small]
  unfold boundedHex?
  split
  · next rest =>
    exact absurd (digits '+' List.mem_cons_self) (by decide)
  · exact below

theorem boundedHex?_hexUpper (small : n < limit) : boundedHex? limit (hexUpper n) = some n :=
  boundedHex?_of_digits (fun _ => isHexDigit_of_mem_hexUpper) (hex?_hexUpper n) small

theorem boundedHex?_hexLower (small : n < limit) : boundedHex? limit (hexLower n) = some n :=
  boundedHex?_of_digits (fun _ => isHexDigit_of_mem_hexLower) (hex?_hexLower n) small

def digitSum (digit? : Char → Option Nat) (radix : Nat) (cs : List Char) : Nat :=
  cs.foldl (fun n c => radix * n + (digit? c).getD 0) 0

theorem digitSum_toDigits {digit? : Char → Option Nat} {radix : Nat} (several : 1 < radix)
    (reads : ∀ d < radix, digit? d.digitChar = some d) (n : Nat) :
    digitSum digit? radix (Nat.toDigits radix n) = n := by
  induction n using Nat.strongRecOn with
  | ind n ih =>
    unfold digitSum at ih ⊢
    by_cases small : n < radix
    · rw [Nat.toDigits_of_lt_base small]
      simp [reads n small]
    · have large : radix ≤ n := by omega
      have digit := reads (n % radix) (Nat.mod_lt n (by omega))
      have less : n / radix < n := Nat.div_lt_self (by omega) several
      rw [Nat.toDigits_of_base_le several large, List.foldl_append, ih (n / radix) less]
      simp [digit, Nat.div_add_mod]

end DomainRegistry.Text
