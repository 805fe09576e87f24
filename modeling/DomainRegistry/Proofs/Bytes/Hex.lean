import DomainRegistry.Bytes.Hex
import DomainRegistry.Proofs.Answers
import DomainRegistry.Proofs.Bytes.Utf8

/-!
Hexadecimal byte strings. Main statement: the texts that can be read as a given number of bytes are
those of twice as many characters, all of them hexadecimal digits.
-/

namespace DomainRegistry

open Text in
theorem Text.lt_of_isHexDigit {c : Char} (hex : isHexDigit c = true) : c.toNat < 128 := by
  have below {d : Char} (le : c ≤ d) (small : d.toNat < 128) : c.toNat < 128 :=
    Nat.lt_of_le_of_lt le small
  unfold isHexDigit hexDigitValue? at hex
  split at hex
  · next digit =>
    simp only [isDigitAscii, Bool.and_eq_true, decide_eq_true_eq] at digit
    exact below digit.2 (by decide)
  · split at hex
    · next lower =>
      simp only [Bool.and_eq_true, decide_eq_true_eq] at lower
      exact below lower.2 (by decide)
    · split at hex
      · next upper =>
        simp only [Bool.and_eq_true, decide_eq_true_eq] at upper
        exact below upper.2 (by decide)
      · cases hex

namespace Bytes

theorem map_letter_of_lt {s : String} (ascii : ∀ c ∈ s.toList, c.toNat < 128) :
    (ofString s).map letter = s.toList := by
  have lettered := map_letter_ofString s.toList
  rw [String.ofList_toList] at lettered
  rw [lettered]
  generalize s.toList = cs at ascii
  induction cs with
  | nil => rfl
  | cons c cs ih =>
    rw [List.flatMap_cons, letters_of_lt (ascii c List.mem_cons_self),
      ih fun d member => ascii d (List.mem_cons_of_mem _ member)]
    rfl

theorem toList_of_lt {s : String} (ascii : ∀ b ∈ ofString s, b.toNat < 128) :
    s.toList = (ofString s).map letter := by
  have same := ofString_injective (ofString_map_letter ascii)
  conv => lhs; rw [← same]
  exact String.toList_ofList

end Bytes

namespace Hex

open Text Bytes

variable {index n : Nat} {input : Bytes} {b : UInt8}

theorem digit?_isSome : (digit? b).isSome = isHexDigit (letter b) := rfl

theorem exists_digitAt_iff :
    (∃ value, digitAt index b = .ok value) ↔ isHexDigit (letter b) = true := by
  rw [← digit?_isSome, digitAt]
  cases digit? b <;> simp

/-- Bytes are read in pairs, and each of a pair has to be a digit. -/
theorem exists_decodeFrom_iff : ∀ {index n : Nat} {input : Bytes},
    (∃ bytes, decodeFrom index input = .ok bytes ∧ bytes.length = n) ↔
      input.length = 2 * n ∧ ∀ b ∈ input, isHexDigit (letter b) = true
  | index, n, [] => by simp [decodeFrom]; omega
  | index, n, [b] => by simp [decodeFrom]; omega
  | index, n, high :: low :: rest => by
    constructor
    · rintro ⟨bytes, read, length⟩
      simp only [decodeFrom, bind_eq_ok] at read
      obtain ⟨h, first, l, second, tail, read, made⟩ := read
      obtain rfl := Except.ok.inj made
      obtain ⟨even, digits⟩ := exists_decodeFrom_iff.mp ⟨tail, read, rfl⟩
      simp only [List.length_cons] at length ⊢
      refine ⟨by omega, ?_⟩
      rw [List.forall_mem_cons, List.forall_mem_cons]
      exact ⟨exists_digitAt_iff.mp ⟨h, first⟩, exists_digitAt_iff.mp ⟨l, second⟩, digits⟩
    · rintro ⟨even, digits⟩
      simp only [List.length_cons] at even
      rw [List.forall_mem_cons, List.forall_mem_cons] at digits
      obtain ⟨h, first⟩ := exists_digitAt_iff.mpr digits.1
      obtain ⟨l, second⟩ := exists_digitAt_iff.mpr digits.2.1
      obtain ⟨tail, read, length⟩ :=
        exists_decodeFrom_iff.mpr ⟨(by omega : rest.length = 2 * (n - 1)), digits.2.2⟩
      refine ⟨UInt8.ofNat (16 * h + l) :: tail, ?_, by simp only [List.length_cons]; omega⟩
      simp only [decodeFrom, bind_eq_ok]
      exact ⟨h, first, l, second, tail, read, rfl⟩

theorem exists_decode_iff {n : Nat} {input : Bytes} :
    (∃ bytes, decode input = .ok bytes ∧ bytes.length = n) ↔
      input.length = 2 * n ∧ ∀ b ∈ input, isHexDigit (letter b) = true := by
  rw [decode]
  split
  · simp only [reduceCtorEq, false_and, exists_false, false_iff]
    omega
  · exact exists_decodeFrom_iff

theorem exists_decodeText_iff {n : Nat} {text : String} :
    (∃ bytes, decodeText text = .ok bytes ∧ bytes.length = n) ↔
      text.length = 2 * n ∧ ∀ c ∈ text.toList, isHexDigit c = true := by
  rw [decodeText, exists_decode_iff, ← String.length_toList]
  constructor
  · rintro ⟨even, digits⟩
    have ascii : ∀ b ∈ ofString text, b.toNat < 128 := by
      intro b member
      rw [← toNat_letter]
      exact lt_of_isHexDigit (digits b member)
    rw [toList_of_lt ascii, List.length_map, List.forall_mem_map]
    exact ⟨even, digits⟩
  · rintro ⟨even, digits⟩
    have same := map_letter_of_lt fun c member => lt_of_isHexDigit (digits c member)
    rw [← same, List.length_map] at even
    rw [← same, List.forall_mem_map] at digits
    exact ⟨even, digits⟩

end Hex

end DomainRegistry
