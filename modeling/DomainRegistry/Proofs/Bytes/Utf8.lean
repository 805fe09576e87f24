import DomainRegistry.Bytes.Basic

/-!
The UTF-8 form of text, byte by byte. Main statements: characters below 128 are their own bytes, and
all bytes of the others are 128 or more.
-/

namespace DomainRegistry.Bytes

variable {c : Char} {b : UInt8}

def letter (b : UInt8) : Char := Char.ofNat b.toNat

theorem toNat_letter (b : UInt8) : (letter b).toNat = b.toNat := by
  have valid : b.toNat.isValidChar := Or.inl (by have := b.toNat_lt; omega)
  rw [letter, Char.ofNat, dif_pos valid]
  rfl

theorem ofNat_toNat_letter (b : UInt8) : UInt8.ofNat (letter b).toNat = b := by
  rw [toNat_letter, UInt8.ofNat_toNat]

theorem utf8EncodeChar_of_lt (ascii : c.toNat < 128) :
    String.utf8EncodeChar c = [UInt8.ofNat c.toNat] := by
  have small : c.val.toNat ≤ 127 := by
    change c.toNat ≤ 127
    omega
  simp only [String.utf8EncodeChar, if_pos small]
  rfl

theorem le_of_mem_utf8EncodeChar (high : 128 ≤ c.toNat) (member : b ∈ String.utf8EncodeChar c) :
    128 ≤ b.toNat := by
  have large : ¬c.val.toNat ≤ 127 := by
    change ¬c.toNat ≤ 127
    omega
  simp only [String.utf8EncodeChar, if_neg large] at member
  split at member
  · simp only [List.mem_cons, List.not_mem_nil, or_false] at member
    rcases member with rfl | rfl <;> simp <;> omega
  · split at member
    · simp only [List.mem_cons, List.not_mem_nil, or_false] at member
      rcases member with rfl | rfl | rfl <;> simp <;> omega
    · simp only [List.mem_cons, List.not_mem_nil, or_false] at member
      rcases member with rfl | rfl | rfl | rfl <;> simp <;> omega

def letters (c : Char) : List Char := (String.utf8EncodeChar c).map letter

theorem letters_of_lt (ascii : c.toNat < 128) : letters c = [c] := by
  rw [letters, utf8EncodeChar_of_lt ascii, List.map_singleton, letter]
  have same : (UInt8.ofNat c.toNat).toNat = c.toNat := by simp; omega
  rw [same, Char.ofNat_toNat]

theorem le_of_mem_letters {d : Char} (high : 128 ≤ c.toNat) (member : d ∈ letters c) :
    128 ≤ d.toNat := by
  obtain ⟨b, inside, rfl⟩ := List.mem_map.mp member
  rw [toNat_letter]
  exact le_of_mem_utf8EncodeChar high inside

theorem map_letter_ofString (cs : List Char) :
    (ofString (String.ofList cs)).map letter = cs.flatMap letters := by
  rw [ofString_ofList, List.map_flatMap]
  rfl

theorem ofString_map_letter {bytes : Bytes} (ascii : ∀ b ∈ bytes, b.toNat < 128) :
    ofString (String.ofList (bytes.map letter)) = bytes := by
  rw [ofString_ofList, List.flatMap_map]
  induction bytes with
  | nil => rfl
  | cons b bytes ih =>
    have small : (letter b).toNat < 128 := by
      rw [toNat_letter]
      exact ascii b List.mem_cons_self
    rw [List.flatMap_cons, utf8EncodeChar_of_lt small, ofNat_toNat_letter,
      ih fun d member => ascii d (List.mem_cons_of_mem _ member)]
    rfl

theorem ofString_of_toString? {bytes : Bytes} {s : String} (read : toString? bytes = some s) :
    ofString s = bytes := by
  rw [toString?, String.fromUTF8?] at read
  split at read
  · cases read
    simp [ofString, String.fromUTF8]
  · cases read

end DomainRegistry.Bytes
