import DomainRegistry.Proofs.Json.Strings
import DomainRegistry.Proofs.Text.Digits

/-!
Tokens of JSON there and back. Main statement: a text that spells tokens is read as these, with any
blanks between them and in any medium.
-/

namespace DomainRegistry.Json

open Text

def marks : List (Char × Token) :=
  [('[', .openArray), (']', .closeArray), ('\x7b', .openObject), ('\x7d', .closeObject),
    (',', .comma), (':', .colon)]

def words : List (List Char × Token) :=
  [(['n', 'u', 'l', 'l'], .null), (['t', 'r', 'u', 'e'], .bool true),
    (['f', 'a', 'l', 's', 'e'], .bool false)]

def FitsWord (n : Int) : Prop := -0x8000000000000000 ≤ n ∧ n < 0x10000000000000000

def Stops (cs : List Char) : Prop := ∀ c ∈ cs.head?, c.toNat < 128 ∧ isNumberChar c = false

/-- Texts that are these tokens with blanks between them, written as the printer writes tokens. -/
inductive Spells : List Char → List Token → Prop where
  | nil : Spells [] []
  | blank {c cs ts} (empty : isJsonBlank c = true) (later : Spells cs ts) : Spells (c :: cs) ts
  | mark {c t cs ts} (listed : (c, t) ∈ marks) (later : Spells cs ts) : Spells (c :: cs) (t :: ts)
  | word {w t cs ts} (listed : (w, t) ∈ words) (later : Spells cs ts) : Spells (w ++ cs) (t :: ts)
  | text (s : String) {cs ts} (later : Spells cs ts) : Spells (writeString s ++ cs) (.str s :: ts)
  | garbled {cs ts} (later : Spells cs ts) :
      Spells (writeScalar .unreadable ++ cs) (.garbled :: ts)
  | int {n cs ts} (fits : FitsWord n) (stops : Stops cs) (later : Spells cs ts) :
      Spells ((toString n).toList ++ cs) (.int n :: ts)
  | fraction {cs ts} (stops : Stops cs) (later : Spells cs ts) :
      Spells (writeScalar .fraction ++ cs) (.fraction :: ts)

variable {c : Char} {cs rest after : List Char} {t : Token} {ts : List Token} {spell : Spelling}

theorem tokens?_scan (filled : isJsonBlank c = false)
    (scanned : scanToken spell (c :: cs) = some (t, after)) (shorter : after.length ≤ cs.length) :
    tokens? spell (c :: cs) = (tokens? spell after).map (t :: ·) := by
  rw [tokens?, filled, scanned]
  simp only [Bool.false_eq_true, if_false]
  rw [dif_pos (by rw [List.length_cons]; omega)]

theorem tokens?_blank (blank : isJsonBlank c = true) :
    tokens? spell (c :: cs) = tokens? spell cs := by
  rw [tokens?, if_pos blank]

theorem tokens?_mark (listed : (c, t) ∈ marks) :
    tokens? spell (c :: cs) = (tokens? spell cs).map (t :: ·) := by
  simp only [marks, List.mem_cons, List.not_mem_nil, or_false, Prod.mk.injEq] at listed
  rcases listed with ⟨rfl, rfl⟩ | ⟨rfl, rfl⟩ | ⟨rfl, rfl⟩ | ⟨rfl, rfl⟩ | ⟨rfl, rfl⟩ | ⟨rfl, rfl⟩
  · exact tokens?_scan rfl rfl (Nat.le_refl _)
  · exact tokens?_scan rfl rfl (Nat.le_refl _)
  · exact tokens?_scan rfl rfl (Nat.le_refl _)
  · exact tokens?_scan rfl rfl (Nat.le_refl _)
  · exact tokens?_scan rfl rfl (Nat.le_refl _)
  · exact tokens?_scan rfl rfl (Nat.le_refl _)

theorem tokens?_word {w : List Char} (listed : (w, t) ∈ words) :
    tokens? spell (w ++ cs) = (tokens? spell cs).map (t :: ·) := by
  simp only [words, List.mem_cons, List.not_mem_nil, or_false, Prod.mk.injEq] at listed
  rcases listed with ⟨rfl, rfl⟩ | ⟨rfl, rfl⟩ | ⟨rfl, rfl⟩
  · exact tokens?_scan rfl rfl (by simp; omega)
  · exact tokens?_scan rfl rfl (by simp; omega)
  · exact tokens?_scan rfl rfl (by simp; omega)

theorem tokens?_string {pieces : List Piece} (scanned : scanPieces cs = some (pieces, after))
    (shorter : after.length ≤ cs.length) :
    tokens? spell (quote :: cs) = (tokens? spell after).map (stringToken spell pieces :: ·) := by
  have found : scanToken spell (quote :: cs) = some (stringToken spell pieces, after) := by
    change (scanPieces cs).map _ = _
    rw [scanned]
    rfl
  exact tokens?_scan rfl found shorter

theorem isNumberChar_of_isDigitAscii (digit : isDigitAscii c = true) : isNumberChar c = true := by
  simp [isNumberChar, digit]

theorem scanToken_number (number : isNumberChar c = true) :
    scanToken spell (c :: cs) =
      (numberToken? ((c :: cs).takeWhile isNumberChar)).map fun token =>
        (token, (c :: cs).drop ((c :: cs).takeWhile isNumberChar).length) := by
  rw [scanToken.eq_def]
  split
  · next same => cases same
  · next same => cases same; exact absurd number (by decide)
  · next same => cases same; exact absurd number (by decide)
  · next same => cases same; exact absurd number (by decide)
  · next same => cases same; exact absurd number (by decide)
  · next same => cases same; exact absurd number (by decide)
  · next same => cases same; exact absurd number (by decide)
  · next same =>
    cases same
    have unquoted : c ≠ quote := by
      rintro rfl
      exact absurd number (by decide)
    rw [if_neg unquoted, if_pos number]

theorem tokens?_number {digits : List Char} (filled : digits ≠ [])
    (number : ∀ c ∈ digits, isNumberChar c = true) (read : numberToken? digits = some t)
    (stops : ∀ c ∈ rest.head?, isNumberChar c = false) :
    tokens? spell (digits ++ rest) = (tokens? spell rest).map (t :: ·) := by
  have taken : (digits ++ rest).takeWhile isNumberChar = digits :=
    takeWhile_append_stop number stops
  obtain ⟨c, cs, rfl⟩ := List.exists_cons_of_ne_nil filled
  have first : isNumberChar c = true := number c List.mem_cons_self
  have unblank : isJsonBlank c = false := by
    rw [Bool.eq_false_iff]
    intro blank
    simp only [isJsonBlank, Bool.or_eq_true, beq_iff_eq] at blank
    rcases blank with ((rfl | rfl) | rfl) | rfl <;> exact absurd first (by decide)
  rw [List.cons_append] at taken ⊢
  refine tokens?_scan unblank ?_ (by simp)
  rw [scanToken_number first, taken, read, ← List.cons_append, List.drop_left]
  rfl

theorem wholeFits_toDigits (n : Nat) : wholeFits (Nat.toDigits 10 n) = true := by
  by_cases zero : n = 0
  · subst zero
    rfl
  · have leading := head?_toDigits_ne_zero (n := n) (by decide : 1 < 10) (by decide) (by omega)
    match digits : Nat.toDigits 10 n with
    | [] => exact absurd digits Nat.toDigits_ne_nil
    | c :: cs =>
      have other : c ≠ '0' := leading c (by rw [digits]; rfl)
      rw [wholeFits.eq_def]
      split
      · next same => cases same
      · rfl
      · next same =>
        cases same
        simpa using other

theorem takeWhile_toDigits (n : Nat) :
    (Nat.toDigits 10 n).takeWhile isDigitAscii = Nat.toDigits 10 n := by
  have all : (Nat.toDigits 10 n ++ []).takeWhile isDigitAscii = Nat.toDigits 10 n :=
    takeWhile_append_stop (fun c member => isDigitAscii_of_mem_toDigits member) (by simp)
  rwa [List.append_nil] at all

theorem numberToken?_toDigits {n : Nat} (fits : n < UInt64.size) :
    numberToken? (Nat.toDigits 10 n) = some (.int n) := by
  unfold numberToken?
  split
  next negative body signed =>
  split at signed
  · next rest same =>
    have digit : isDigitAscii '-' = true :=
      isDigitAscii_of_mem_toDigits (n := n) (by rw [same]; exact List.mem_cons_self)
    exact absurd digit (by decide)
  · cases signed
    simp [takeWhile_toDigits, wholeFits_toDigits, decimalValue_toDigits, fractionFits, exponentFits,
      fits]

theorem numberToken?_minus {n : Nat} (positive : 0 < n) (fits : n ≤ Nat.pow 2 63) :
    numberToken? ('-' :: Nat.toDigits 10 n) = some (.int (-n)) := by
  have other : n ≠ 0 := by omega
  simp [numberToken?, takeWhile_toDigits, wholeFits_toDigits, decimalValue_toDigits, fractionFits,
    exponentFits, fits, other]

theorem isNumberChar_of_mem_toDigits {n : Nat} (member : c ∈ Nat.toDigits 10 n) :
    isNumberChar c = true :=
  isNumberChar_of_isDigitAscii (isDigitAscii_of_mem_toDigits member)

theorem toList_toString (n : Int) :
    (toString n).toList =
      if 0 ≤ n then Nat.toDigits 10 n.toNat else '-' :: Nat.toDigits 10 (-n).toNat := by
  rw [Int.toString_eq_repr, Int.repr_eq_if]
  split
  · rw [Nat.repr_eq_ofList_toDigits, String.toList_ofList]
  · rw [Nat.repr_eq_ofList_toDigits, String.toList_append, String.toList_ofList]
    simp

theorem isNumberChar_of_mem_toString {n : Int} (member : c ∈ (toString n).toList) :
    isNumberChar c = true := by
  rw [toList_toString] at member
  split at member
  · exact isNumberChar_of_mem_toDigits member
  · rcases List.mem_cons.mp member with rfl | digit
    · rfl
    · exact isNumberChar_of_mem_toDigits digit

theorem numberToken?_toString {n : Int} (fits : FitsWord n) :
    numberToken? (toString n).toList = some (.int n) := by
  obtain ⟨low, high⟩ := fits
  rw [toList_toString]
  split
  · next natural =>
    have same : (n.toNat : Int) = n := by omega
    have fits : n.toNat < 0x10000000000000000 := by omega
    rw [numberToken?_toDigits fits, same]
  · next negative =>
    have same : -((-n).toNat : Int) = n := by omega
    have fits : (-n).toNat ≤ 0x8000000000000000 := by omega
    rw [numberToken?_minus (by omega) fits, same]

theorem toString_ne_nil (n : Int) : (toString n).toList ≠ [] := by
  rw [toList_toString]
  split
  · exact Nat.toDigits_ne_nil
  · exact List.cons_ne_nil _ _

theorem lt_of_isNumberChar (number : isNumberChar c = true) : c.toNat < 128 := by
  simp only [isNumberChar, Bool.or_eq_true, beq_iff_eq] at number
  rcases number with ((((digit | rfl) | rfl) | rfl) | rfl) | rfl
  · simp only [isDigitAscii, Bool.and_eq_true, decide_eq_true_eq] at digit
    have bound : c.toNat ≤ '9'.toNat := digit.2
    exact Nat.lt_of_le_of_lt bound (by decide)
  · decide
  · decide
  · decide
  · decide
  · decide

namespace Medium

variable (m : Medium)

theorem flatMap_carry_append {cs : List Char} (ascii : ∀ c ∈ cs, c.toNat < 128) (rest : List Char) :
    (cs ++ rest).flatMap m.carry = cs ++ rest.flatMap m.carry := by
  rw [List.flatMap_append, m.flatMap_carry ascii]

theorem stops_flatMap (stops : Stops cs) :
    ∀ c ∈ (cs.flatMap m.carry).head?, isNumberChar c = false := by
  cases cs with
  | nil =>
    intro c first
    cases first
  | cons c cs =>
    obtain ⟨ascii, other⟩ := stops c rfl
    rw [List.flatMap_cons, m.carry_ascii c ascii]
    intro d first
    cases first
    exact other

theorem tokens?_text (s : String) (rest : List Char) :
    tokens? m.spell ((writeString s).flatMap m.carry ++ rest)
      = (tokens? m.spell rest).map (.str s :: ·) := by
  have written : (writeString s).flatMap m.carry ++ rest
      = quote :: ((s.toList.flatMap escape).flatMap m.carry ++ quote :: rest) := by
    have lone : m.carry quote = [quote] := m.carry_ascii quote (by decide)
    simp [writeString, List.flatMap_append, List.flatMap_cons, lone]
  have token : stringToken m.spell (s.toList.flatMap (piecesOf m.carry)) = .str s := by
    rw [stringToken, m.spells]
  rw [written, tokens?_string (m.scanPieces_text s.toList rest) (by simp; omega), token]

/-- A text that spells tokens is read as these. -/
theorem tokens?_of_spells (spelled : Spells cs ts) :
    tokens? m.spell (cs.flatMap m.carry) = some ts := by
  induction spelled with
  | nil => rw [List.flatMap_nil, tokens?]
  | @blank c cs ts empty later ih =>
    have ascii : c.toNat < 128 := by
      simp only [isJsonBlank, Bool.or_eq_true, beq_iff_eq] at empty
      rcases empty with ((rfl | rfl) | rfl) | rfl <;> decide
    rw [List.flatMap_cons, m.carry_ascii c ascii, List.singleton_append, tokens?_blank empty, ih]
  | @mark c t cs ts listed later ih =>
    have each : ∀ p ∈ marks, p.1.toNat < 128 := by decide
    rw [List.flatMap_cons, m.carry_ascii c (each (c, t) listed), List.singleton_append,
      tokens?_mark listed, ih]
    rfl
  | @word w t cs ts listed later ih =>
    have each : ∀ p ∈ words, p.1.all isAscii = true := by decide
    rw [m.flatMap_carry_append (ascii_of_all (each (w, t) listed)), tokens?_word listed, ih]
    rfl
  | @text s cs ts later ih =>
    rw [List.flatMap_append, m.tokens?_text, ih]
    rfl
  | @garbled cs ts later ih =>
    have half : hex? ['d', '8', '0', '0'] = some 0xD800 := by decide
    have scanned :
        scanPieces ('\\' :: 'u' :: 'd' :: '8' :: '0' :: '0' :: quote :: cs.flatMap m.carry)
          = some ([.unit 0xD800], cs.flatMap m.carry) :=
      scanPieces_numbered half
    rw [m.flatMap_carry_append (ascii_of_all (by decide))]
    refine (tokens?_string scanned (by simp; omega)).trans ?_
    rw [stringToken, m.garbles, ih]
    rfl
  | @int n cs ts fits stops later ih =>
    have number : ∀ c ∈ (toString n).toList, isNumberChar c = true :=
      fun c => isNumberChar_of_mem_toString
    rw [m.flatMap_carry_append fun c member => lt_of_isNumberChar (number c member),
      tokens?_number (toString_ne_nil n) number (numberToken?_toString fits)
        (m.stops_flatMap stops), ih]
    rfl
  | @fraction cs ts stops later ih =>
    have read : numberToken? (writeScalar .fraction) = some .fraction := by decide
    rw [m.flatMap_carry_append (ascii_of_all (by decide)),
      tokens?_number (by decide) (List.all_eq_true.mp (by decide)) read (m.stops_flatMap stops), ih]
    rfl

end Medium

end DomainRegistry.Json
