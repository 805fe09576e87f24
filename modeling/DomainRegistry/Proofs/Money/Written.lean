import DomainRegistry.Proofs.Money.Bounds
import DomainRegistry.Proofs.Text.Blanks
import DomainRegistry.Proofs.Text.Letters
import DomainRegistry.Proofs.Text.Splits

/-!
Written amounts. Main statement: an amount in a currency is read back from its written form unless it
is the least one of 64 bits, whose digits without the sign stand for more than 64 bits can hold.
-/

namespace DomainRegistry.Money

open Text

variable {code : String} {minor : Int64}

/-- What a currency can be called: three letters of either case. -/
structure IsCode (code : String) : Prop where
  three : code.toList.length = 3
  letters : ∀ c ∈ code.toList, isLetterAscii c = true

namespace IsCode

theorem upper (coded : IsCode code) : IsCode (upper code) where
  three := by
    rw [Text.upper, String.toList_ofList, List.length_map]
    exact coded.three
  letters := by
    intro c member
    rw [Text.upper, String.toList_ofList, List.mem_map] at member
    obtain ⟨d, listed, rfl⟩ := member
    exact isLetterAscii_of_upper (isUpperAscii_toUpper (coded.letters d listed))

theorem ne_nil (coded : IsCode code) : code.toList ≠ [] := by
  intro empty
  have three := coded.three
  rw [empty] at three
  cases three

theorem not_isBlank (coded : IsCode code) : ∀ c ∈ code.toList, isBlank c = false := by
  intro c member
  obtain ⟨low, high⟩ := toNat_of_isLetterAscii (coded.letters c member)
  exact not_isBlank_of_printed (by omega) (by omega)

theorem space_not_mem (coded : IsCode code) : ' ' ∉ code.toList := by
  intro member
  exact absurd (coded.not_isBlank ' ' member) (by decide)

end IsCode

def magnitude (scale n : Nat) : List Char :=
  if scale = 0 then digits n else digits (n / 100) ++ '.' :: padZeros 2 (digits (n % 100))

def signed (scale : Nat) (n : Int) : List Char :=
  (if n < 0 then ['-'] else []) ++ magnitude scale n.natAbs

theorem renderChars_eq (m : Money) :
    renderChars m = m.currency.toList ++ ([' '] ++ signed (scale m.currency) m.minor.toInt) := by
  unfold renderChars signed magnitude
  dsimp only
  split <;> simp

section Digits

variable {scale n : Nat} {cs whole fraction : List Char} {c : Char}

theorem unsigned?_of_parts (parts : (splitOnce '.' cs).getD (cs, []) = (whole, fraction))
    (filled : whole ≠ []) (whole_digits : ∀ c ∈ whole, isDigitAscii c = true)
    (fraction_digits : ∀ c ∈ fraction, isDigitAscii c = true) (fits : fraction.length ≤ scale) :
    unsigned? scale cs = some (decimalValue whole * Nat.pow 10 scale
      + decimalValue fraction * Nat.pow 10 (scale - fraction.length)) := by
  have nonempty : whole.isEmpty = false := List.isEmpty_eq_false_iff.mpr filled
  have whole_all : whole.all isDigitAscii = true := List.all_eq_true.mpr whole_digits
  have fraction_all : fraction.all isDigitAscii = true := List.all_eq_true.mpr fraction_digits
  have short : ¬scale < fraction.length := by omega
  unfold unsigned?
  rw [parts]
  simp [nonempty, whole_all, fraction_all, short]

theorem point_not_mem (n : Nat) : '.' ∉ digits n := by
  intro member
  exact absurd (isDigitAscii_of_mem_toDigits member) (by decide)

theorem unsigned?_whole (n : Nat) : unsigned? 0 (digits n) = some n := by
  have parts : (splitOnce '.' (digits n)).getD (digits n, []) = (digits n, []) := by
    rw [splitOnce_eq_none_iff.mpr (point_not_mem n)]
    rfl
  rw [unsigned?_of_parts parts Nat.toDigits_ne_nil (fun _ => isDigitAscii_of_mem_toDigits)
    (List.forall_mem_nil _) (Nat.le_refl 0), digits, decimalValue_toDigits]
  simp [decimalValue]

theorem unsigned?_hundredths (n : Nat) :
    unsigned? 2 (digits (n / 100) ++ '.' :: padZeros 2 (digits (n % 100))) = some n := by
  have rest : Padded 2 (n % 100) (padZeros 2 (digits (n % 100))) :=
    padded (Nat.mod_lt n (by decide)) (by decide)
  have parts : (splitOnce '.' (digits (n / 100) ++ '.' :: padZeros 2 (digits (n % 100)))).getD
      (digits (n / 100) ++ '.' :: padZeros 2 (digits (n % 100)), [])
        = (digits (n / 100), padZeros 2 (digits (n % 100))) := by
    rw [splitOnce_append (point_not_mem _)]
    rfl
  rw [unsigned?_of_parts parts Nat.toDigits_ne_nil (fun _ => isDigitAscii_of_mem_toDigits)
    rest.digits (Nat.le_of_eq rest.length), rest.value, rest.length, digits, decimalValue_toDigits]
  have whole : n / 100 * 100 + n % 100 = n := by omega
  simpa using whole

theorem unsigned?_magnitude (scaled : scale = 0 ∨ scale = 2) :
    unsigned? scale (magnitude scale n) = some n := by
  unfold magnitude
  rcases scaled with rfl | rfl
  · exact unsigned?_whole n
  · exact unsigned?_hundredths n

theorem magnitude_chars (member : c ∈ magnitude scale n) : isDigitAscii c = true ∨ c = '.' := by
  unfold magnitude at member
  split at member
  · exact Or.inl (isDigitAscii_of_mem_toDigits member)
  · rw [List.mem_append, List.mem_cons] at member
    rcases member with whole | rfl | rest
    · exact Or.inl (isDigitAscii_of_mem_toDigits whole)
    · exact Or.inr rfl
    · exact Or.inl (isDigitAscii_of_mem_padZeros (fun _ => isDigitAscii_of_mem_toDigits) rest)

theorem magnitude_ne_nil : magnitude scale n ≠ [] := by
  unfold magnitude
  split
  · exact Nat.toDigits_ne_nil
  · simp

end Digits

section Signs

variable {scale n : Nat} {body : List Char}

theorem amount?_minus (read : unsigned? scale body = some n) :
    amount? scale ('-' :: body) = if n < Nat.pow 2 63 then minor? (-(n : Int)) else none := by
  simp [amount?, read]

theorem amount?_plain (read : unsigned? scale body = some n) (first : '-' ∉ body) :
    amount? scale body = if n < Nat.pow 2 63 then minor? n else none := by
  cases body with
  | nil => simp [amount?, read]
  | cons c body =>
    have other : c ≠ '-' := by
      rintro rfl
      exact first List.mem_cons_self
    simp [amount?, read, other]

theorem minus_not_mem : '-' ∉ magnitude scale n := by
  intro member
  rcases magnitude_chars member with digit | point
  · exact absurd digit (by decide)
  · exact absurd point (by decide)

/-- Only the least amount is as far from zero as no positive amount of 64 bits. -/
theorem natAbs_lt_iff : minor.toInt.natAbs < Nat.pow 2 63 ↔ minor ≠ Int64.minValue := by
  have least : Int64.minValue.toInt = -0x8000000000000000 := by decide
  have power : Nat.pow 2 63 = 0x8000000000000000 := by decide
  have fits := fits_toInt minor
  unfold Fits at fits
  rw [ne_eq, ← Int64.toInt_inj, least, power]
  omega

theorem amount?_signed (scaled : scale = 0 ∨ scale = 2) :
    amount? scale (signed scale minor.toInt)
      = if minor = Int64.minValue then none else some minor := by
  have read : unsigned? scale (magnitude scale minor.toInt.natAbs) = some minor.toInt.natAbs :=
    unsigned?_magnitude scaled
  have settled : (if minor.toInt.natAbs < Nat.pow 2 63 then some minor else none)
      = if minor = Int64.minValue then none else some minor := by
    by_cases least : minor = Int64.minValue
    · rw [if_neg (natAbs_lt_iff.not.mpr (not_not.mpr least)), if_pos least]
    · rw [if_pos (natAbs_lt_iff.mpr least), if_neg least]
  unfold signed
  by_cases negative : minor.toInt < 0
  · have value : minor? (-(minor.toInt.natAbs : Int)) = some minor :=
      minor?_eq_some_iff.mpr (by omega)
    rw [if_pos negative, List.singleton_append, amount?_minus read, value, settled]
  · have value : minor? minor.toInt.natAbs = some minor := minor?_eq_some_iff.mpr (by omega)
    rw [if_neg negative, List.nil_append, amount?_plain read minus_not_mem, value, settled]

end Signs

theorem not_isBlank_of_mem_signed {scale : Nat} {n : Int} {c : Char} (member : c ∈ signed scale n) :
    isBlank c = false := by
  unfold signed at member
  rcases List.mem_append.mp member with sign | number
  · split at sign
    · rw [List.mem_singleton.mp sign]
      rfl
    · cases sign
  · rcases magnitude_chars number with digit | rfl
    · exact not_isBlank_of_isDigitAscii digit
    · rfl

theorem signed_ne_nil {scale : Nat} {n : Int} : signed scale n ≠ [] :=
  List.append_ne_nil_of_right_ne_nil _ magnitude_ne_nil

theorem scale_cases (currency : String) : scale currency = 0 ∨ scale currency = 2 := by
  unfold scale
  split
  · exact Or.inl rfl
  · exact Or.inr rfl

theorem parseChars?_append (coded : IsCode code) (capitals : upper code = code) :
    parseChars? (code.toList ++ ([' '] ++ signed (scale code) minor.toInt))
      = if minor = Int64.minValue then none else some ⟨code, minor⟩ := by
  have outer : trim (code.toList ++ ([' '] ++ signed (scale code) minor.toInt))
      = code.toList ++ ([' '] ++ signed (scale code) minor.toInt) :=
    trim_words coded.ne_nil signed_ne_nil coded.not_isBlank fun _ => not_isBlank_of_mem_signed
  have inner : trim (signed (scale code) minor.toInt) = signed (scale code) minor.toInt :=
    trim_of_filled fun _ => not_isBlank_of_mem_signed
  have formed : code.toList.length = 3 ∧ code.toList.all isLetterAscii = true :=
    ⟨coded.three, List.all_eq_true.mpr coded.letters⟩
  unfold parseChars?
  rw [outer, List.singleton_append, splitOnce_append coded.space_not_mem]
  dsimp only [Option.bind_eq_bind, Option.bind_some]
  rw [if_pos formed, String.ofList_toList, capitals, inner, amount?_signed (scale_cases code)]
  split
  · rfl
  · rfl

theorem parse?_render (coded : IsCode code) (minor : Int64) :
    parse? (of code minor).render
      = if minor = Int64.minValue then none else some (of code minor) := by
  rw [parse?, render, String.toList_ofList, renderChars_eq]
  exact parseChars?_append coded.upper (upper_upper coded.letters)

/-- The digits of an amount that is read have a place within 64 bits without their sign. -/
theorem amount?_ne_least {scale : Nat} {cs : List Char} (read : amount? scale cs = some minor) :
    minor ≠ Int64.minValue := by
  have least : Int64.minValue.toInt = -0x8000000000000000 := by decide
  have power : Nat.pow 2 63 = 0x8000000000000000 := by decide
  unfold amount? at read
  dsimp only at read
  split at read
  · next n _ =>
    split at read
    · next small =>
      have value := minor?_eq_some_iff.mp read
      rw [ne_eq, ← Int64.toInt_inj, value, least]
      rw [power] at small
      split <;> omega
    · cases read
  · cases read

theorem parse?_render_of_parse? {s : String} {m : Money} (read : parse? s = some m) :
    parse? m.render = some m := by
  unfold parse? parseChars? at read
  simp only [Option.bind_eq_bind, Option.bind_eq_some_iff] at read
  obtain ⟨⟨currency, amount⟩, _, read⟩ := read
  dsimp only at read
  split at read
  · next coded =>
    obtain ⟨minor, value, made⟩ := Option.bind_eq_some_iff.mp read
    have code : IsCode (String.ofList currency) :=
      ⟨by rw [String.toList_ofList]; exact coded.1,
        by rw [String.toList_ofList]; exact List.all_eq_true.mp coded.2⟩
    cases made
    have again := parse?_render code minor
    rwa [if_neg (amount?_ne_least value)] at again
  · cases read

theorem eq_of_times {count : UInt32} {product : Money}
    (made : (of code minor).times count = some product) :
    product = of code product.minor ∧ product.minor.toInt = count.toNat * minor.toInt := by
  obtain ⟨currency, value⟩ := times_eq_some_iff.mp made
  refine ⟨?_, value⟩
  cases product with
  | mk name amount =>
    dsimp only at currency ⊢
    rw [currency]
    rfl

theorem written_amount_read_back_iff (coded : IsCode code) (minor : Int64) :
    (parse? (of code minor).render = some (of code minor) ↔ minor ≠ Int64.minValue)
      ∧ (parse? (of code minor).render = none ↔ minor = Int64.minValue)
      ∧ ∀ count product, (of code minor).times count = some product →
          (parse? product.render = some product
            ↔ count.toNat * minor.toInt ≠ Int64.minValue.toInt) := by
  have read_iff (n : Int64) :
      parse? (of code n).render = some (of code n) ↔ n ≠ Int64.minValue := by
    simp [parse?_render coded]
  refine ⟨read_iff minor, ?_, ?_⟩
  · simp [parse?_render coded]
  · intro count product made
    obtain ⟨own, value⟩ := eq_of_times made
    rw [own, read_iff product.minor, ← value, ne_eq, ne_eq, Int64.toInt_inj]

theorem doubled_yen_read_back :
    IsCode "yen"
      ∧ (of "yen" (-0x3fffffffffffffff)).times 2 = some (of "yen" (-0x7ffffffffffffffe))
      ∧ parse? (of "yen" (-0x7ffffffffffffffe)).render = some (of "yen" (-0x7ffffffffffffffe)) := by
  have coded : IsCode "yen" := ⟨by decide, List.all_eq_true.mp (by decide)⟩
  have made : (of "yen" (-0x3fffffffffffffff)).times 2 = some (of "yen" (-0x7ffffffffffffffe)) := by
    decide +kernel
  exact ⟨coded, made, ((written_amount_read_back_iff coded _).2.2 2 _ made).mpr (by decide)⟩

theorem least_dollars_not_read_back :
    IsCode "USD"
      ∧ (of "USD" (-0x4000000000000000)).times 2 = some (of "USD" Int64.minValue)
      ∧ parse? (of "USD" Int64.minValue).render ≠ some (of "USD" Int64.minValue) :=
  ⟨⟨by decide, List.all_eq_true.mp (by decide)⟩, by decide +kernel, by decide +kernel⟩

end DomainRegistry.Money
