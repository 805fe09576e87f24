import DomainRegistry.Proofs.Answers
import DomainRegistry.Proofs.Bytes.Hex
import DomainRegistry.Proofs.Text.Letters
import DomainRegistry.Trademark.ClaimsNoticeId

/-!
The ids of claims notices. Main statements: an id is valid for a label and an expiration exactly if
it is a checksum and nineteen digits, and the checksum is that of the label, the second in which the
notice expires and these digits; and the valid ids are those that can be generated, in either case.
-/

namespace DomainRegistry.ClaimsNoticeId

open Text

variable {id label : String} {checksum digits : List Char} {expiration : Instant}

structure HasParts (id : String) (checksum digits : List Char) : Prop where
  whole : id.toList = checksum ++ digits
  short : checksum.length = 8
  long : digits.length = 19
  hex : ∀ c ∈ checksum, isHexDigit c = true
  decimal : ∀ c ∈ digits, isDigitAscii c = true

theorem isHexDigit_of_isDigitAscii {c : Char} (digit : isDigitAscii c = true) :
    isHexDigit c = true := by
  rw [isHexDigit, hexDigitValue?, if_pos digit]
  rfl

theorem HasParts.ascii (parts : HasParts id checksum digits) : id.toList.all isAscii = true := by
  refine List.all_eq_true.mpr fun c member => ?_
  rw [parts.whole] at member
  rcases List.mem_append.mp member with early | late
  · exact decide_eq_true (lt_of_isHexDigit (parts.hex c early))
  · exact decide_eq_true (lt_of_isHexDigit (isHexDigit_of_isDigitAscii (parts.decimal c late)))

theorem split_eq_ok_iff : split id = .ok (checksum, digits) ↔ HasParts id checksum digits := by
  simp only [split, ite_error_eq_ok, not_or, ne_eq, Decidable.not_not, Bool.not_eq_true',
    Bool.not_eq_false, Except.ok.injEq, Prod.mk.injEq]
  constructor
  · intro made
    obtain ⟨⟨length, _⟩, hex, decimal, rfl, rfl⟩ := made
    unfold checksumLength digitsLength at length
    refine ⟨(List.take_append_drop _ _).symm, ?_, ?_, ?_, ?_⟩
    · rw [List.length_take, length]
      rfl
    · rw [List.length_drop, length]
      rfl
    · exact List.all_eq_true.mp hex
    · exact List.all_eq_true.mp decimal
  · intro parts
    have length : id.toList.length = checksumLength + digitsLength := by
      rw [parts.whole, List.length_append, parts.short, parts.long]
      rfl
    have front : id.toList.take checksumLength = checksum := by
      rw [parts.whole]
      exact List.take_left' parts.short
    have back : id.toList.drop checksumLength = digits := by
      rw [parts.whole]
      exact List.drop_left' parts.short
    refine ⟨⟨length, parts.ascii⟩, ?_, ?_, front, back⟩
    · rw [front]
      exact List.all_eq_true.mpr parts.hex
    · rw [back]
      exact List.all_eq_true.mpr parts.decimal

theorem validate_eq_ok_iff :
    validate id label expiration = .ok ()
      ↔ ∃ checksum digits, HasParts id checksum digits
        ∧ sameIgnoringCase (String.ofList checksum) (checksumOf label expiration digits)
          = true := by
  unfold validate
  rw [bind_eq_ok]
  constructor
  · intro valid
    obtain ⟨⟨checksum, digits⟩, parts, compared⟩ := valid
    refine ⟨checksum, digits, split_eq_ok_iff.mp parts, ?_⟩
    dsimp only at compared
    split at compared
    · assumption
    · cases compared
  · intro valid
    obtain ⟨checksum, digits, parts, same⟩ := valid
    refine ⟨(checksum, digits), split_eq_ok_iff.mpr parts, ?_⟩
    dsimp only
    rw [if_pos same]
    rfl

section Generated

variable {number made : String} {other : List Char}

structure IsNumber (number : String) : Prop where
  long : number.toList.length = 19
  decimal : ∀ c ∈ number.toList, isDigitAscii c = true

theorem isDigits_iff : isDigits number.toList = true ↔ IsNumber number := by
  rw [isDigits, Bool.and_eq_true, beq_iff_eq, List.all_eq_true]
  constructor
  · intro both
    exact ⟨both.1, both.2⟩
  · intro formed
    exact ⟨formed.long, formed.decimal⟩

theorem generate_eq_ok_iff :
    generate label expiration number = .ok made ↔
      IsNumber number ∧ made = checksumOf label expiration number.toList ++ number := by
  unfold generate
  by_cases formed : isDigits number.toList = true
  · rw [if_pos formed, Except.ok.injEq, eq_comm]
    exact (and_iff_right (isDigits_iff.mp formed)).symm
  · rw [if_neg formed]
    simp [mt isDigits_iff.mpr formed]

theorem length_checksumOf (label : String) (expiration : Instant) (digits : List Char) :
    (checksumOf label expiration digits).toList.length = 8 := by
  rw [checksumOf, String.toList_ofList]
  apply length_padZeros
  apply (Nat.length_toDigits_le_iff (by decide) (by decide)).mpr
  exact UInt32.toNat_lt _

theorem isHexDigit_of_mem_checksumOf {c : Char}
    (member : c ∈ (checksumOf label expiration digits).toList) : isHexDigit c = true := by
  rw [checksumOf, String.toList_ofList] at member
  rcases List.mem_append.mp member with zero | written
  · rw [(List.mem_replicate.mp zero).2]
    rfl
  · exact isHexDigit_of_mem_hexLower written

theorem hasParts_append (formed : IsNumber number) :
    HasParts (checksumOf label expiration number.toList ++ number)
      (checksumOf label expiration number.toList).toList number.toList where
  whole := String.toList_append
  short := length_checksumOf label expiration number.toList
  long := formed.long
  hex _ := isHexDigit_of_mem_checksumOf
  decimal := formed.decimal

theorem HasParts.isNumber (parts : HasParts id checksum digits) :
    IsNumber (String.ofList digits) where
  long := by
    rw [String.toList_ofList]
    exact parts.long
  decimal := by
    rw [String.toList_ofList]
    exact parts.decimal

/-- Digits have no case, so that ids that are equal but for the case have the same ones. -/
theorem HasParts.of_same (parts : HasParts made checksum digits)
    (same : sameIgnoringCase made id = true) :
    ∃ other, HasParts id other digits
      ∧ sameIgnoringCase (String.ofList other) (String.ofList checksum) = true := by
  have lowered : id.toList.map Char.toLower
      = checksum.map Char.toLower ++ digits.map Char.toLower := by
    rw [← List.map_append, ← parts.whole]
    exact (beq_iff_eq.mp same).symm
  obtain ⟨front, back, whole, first, second⟩ := List.map_eq_append_iff.mp lowered
  have hex : ∀ c ∈ front, isHexDigit c = true :=
    all_of_same_lower isHexDigit_toLower first parts.hex
  have decimal : ∀ c ∈ back, isDigitAscii c = true :=
    all_of_same_lower isDigitAscii_toLower second parts.decimal
  have unchanged : back = digits := by
    rw [map_toLower_of_digits decimal, map_toLower_of_digits parts.decimal] at second
    exact second
  have short : front.length = 8 := by
    have lengths := congrArg List.length first
    rw [List.length_map, List.length_map, parts.short] at lengths
    exact lengths
  rw [unchanged] at whole
  refine ⟨front, ⟨whole, short, parts.long, hex, parts.decimal⟩, ?_⟩
  rw [sameIgnoringCase, String.toList_ofList, String.toList_ofList, first, beq_self_eq_true]

theorem validate_iff_generated :
    validate id label expiration = .ok () ↔
      ∃ number, IsNumber number
        ∧ sameIgnoringCase (checksumOf label expiration number.toList ++ number) id = true := by
  rw [validate_eq_ok_iff]
  constructor
  · intro valid
    obtain ⟨checksum, digits, parts, same⟩ := valid
    refine ⟨String.ofList digits, parts.isNumber, ?_⟩
    rw [sameIgnoringCase, String.toList_ofList, beq_iff_eq] at same
    rw [sameIgnoringCase, String.toList_append, String.toList_ofList, parts.whole, List.map_append,
      List.map_append, same, beq_self_eq_true]
  · intro generated
    obtain ⟨number, formed, same⟩ := generated
    obtain ⟨other, parts, equal⟩ := (hasParts_append formed).of_same same
    rw [String.ofList_toList] at equal
    exact ⟨other, number.toList, parts, equal⟩

theorem same_append_iff {text word other : String} (formed : IsNumber number)
    (also : IsNumber other) :
    sameIgnoringCase (text ++ number) (word ++ other) = true ↔
      sameIgnoringCase text word = true ∧ number = other := by
  have digits := map_toLower_of_digits formed.decimal
  have others := map_toLower_of_digits also.decimal
  simp only [sameIgnoringCase, beq_iff_eq, String.toList_append, List.map_append, digits, others]
  constructor
  · intro same
    obtain ⟨before, after⟩ := List.append_inj' same (by rw [formed.long, also.long])
    exact ⟨before, String.toList_inj.mp after⟩
  · intro both
    rw [both.1, both.2]

/-- What the checksum before a number has to be: the one that is generated there, and up to case the
only one that is valid there. -/
structure Expects (label : String) (expiration : Instant) (number expected : String) : Prop where
  generated : generate label expiration number = .ok (expected ++ number)
  valid_iff : ∀ text, validate (text ++ number) label expiration = .ok ()
    ↔ sameIgnoringCase text expected = true

theorem expects_iff {expected : String} (formed : IsNumber number) :
    Expects label expiration number expected
      ↔ expected = checksumOf label expiration number.toList := by
  constructor
  · intro expects
    have same := (generate_eq_ok_iff.mp expects.generated).2
    exact (String.append_left_inj number).mp same
  · rintro rfl
    refine ⟨generate_eq_ok_iff.mpr ⟨formed, rfl⟩, fun text => ?_⟩
    rw [validate_iff_generated]
    constructor
    · intro generated
      obtain ⟨other, also, same⟩ := generated
      obtain ⟨first, rfl⟩ := (same_append_iff also formed).mp same
      rw [sameIgnoringCase_comm]
      exact first
    · intro same
      rw [sameIgnoringCase_comm] at same
      exact ⟨number, formed, (same_append_iff formed formed).mpr ⟨same, rfl⟩⟩

end Generated

section Faults

variable {fault : Fault} {expected : String}

theorem split_eq_error (failed : split id = .error fault) :
    ∃ message, fault = .malformed message := by
  unfold split at failed
  dsimp only at failed
  repeat' split at failed
  all_goals cases failed
  all_goals exact ⟨_, rfl⟩

theorem validate_of_hasParts (parts : HasParts id checksum digits) :
    validate id label expiration =
      if sameIgnoringCase (String.ofList checksum) (checksumOf label expiration digits) then .ok ()
      else .error (.checksum (checksumOf label expiration digits)) := by
  unfold validate
  rw [split_eq_ok_iff.mpr parts]
  rfl

theorem validate_of_not_hasParts (formless : ¬∃ checksum digits, HasParts id checksum digits) :
    ∃ message, validate id label expiration = .error (.malformed message) := by
  cases found : split id with
  | ok parts => exact absurd ⟨parts.1, parts.2, split_eq_ok_iff.mp found⟩ formless
  | error fault =>
    obtain ⟨message, rfl⟩ := split_eq_error found
    refine ⟨message, ?_⟩
    rw [validate, found]
    rfl

theorem validate_malformed_iff :
    (∃ message, validate id label expiration = .error (.malformed message))
      ↔ ¬∃ checksum digits, HasParts id checksum digits := by
  constructor
  · intro malformed formed
    obtain ⟨message, failed⟩ := malformed
    obtain ⟨checksum, digits, parts⟩ := formed
    rw [validate_of_hasParts parts] at failed
    split at failed
    · cases failed
    · cases failed
  · exact validate_of_not_hasParts

theorem validate_checksum_iff :
    validate id label expiration = .error (.checksum expected) ↔
      ∃ checksum digits, HasParts id checksum digits
        ∧ sameIgnoringCase (String.ofList checksum) expected = false
        ∧ Expects label expiration (String.ofList digits) expected := by
  constructor
  · intro failed
    by_cases formed : ∃ checksum digits, HasParts id checksum digits
    · obtain ⟨checksum, digits, parts⟩ := formed
      rw [validate_of_hasParts parts] at failed
      split at failed
      · cases failed
      · next differs =>
        cases failed
        refine ⟨checksum, digits, parts, Bool.eq_false_iff.mpr differs, ?_⟩
        rw [expects_iff parts.isNumber, String.toList_ofList]
    · obtain ⟨message, malformed⟩ := validate_of_not_hasParts formed
      rw [malformed] at failed
      cases failed
  · intro mismatch
    obtain ⟨checksum, digits, parts, differs, expects⟩ := mismatch
    rw [expects_iff parts.isNumber, String.toList_ofList] at expects
    rw [validate_of_hasParts parts, ← expects, differs]
    rfl

end Faults

theorem checksumOf_congr {other : Instant} (sameSecond : other.second = expiration.second) :
    checksumOf label other = checksumOf label expiration := by
  funext digits
  rw [checksumOf, checksumOf, sameSecond]

theorem valid_exactly_generated (id label : String) (expiration : Instant) :
    (validate id label expiration = .ok () ↔
        ∃ number made, IsNumber number ∧ generate label expiration number = .ok made
          ∧ sameIgnoringCase made id = true)
      ∧ ((∃ message, validate id label expiration = .error (.malformed message))
          ↔ ¬∃ checksum digits, HasParts id checksum digits)
      ∧ (∀ expected, validate id label expiration = .error (.checksum expected) ↔
          ∃ checksum digits, HasParts id checksum digits
            ∧ sameIgnoringCase (String.ofList checksum) expected = false
            ∧ Expects label expiration (String.ofList digits) expected)
      ∧ ∀ other : Instant, other.second = expiration.second →
          validate id label other = validate id label expiration
            ∧ ∀ number, generate label other number = generate label expiration number := by
  refine ⟨?_, validate_malformed_iff, fun expected => validate_checksum_iff, ?_⟩
  · rw [validate_iff_generated]
    constructor
    · intro generated
      obtain ⟨number, formed, same⟩ := generated
      exact ⟨number, _, formed, generate_eq_ok_iff.mpr ⟨formed, rfl⟩, same⟩
    · intro generated
      obtain ⟨number, made, formed, written, same⟩ := generated
      rw [(generate_eq_ok_iff.mp written).2] at same
      exact ⟨number, formed, same⟩
  · intro other sameSecond
    have sums : checksumOf label other = checksumOf label expiration := checksumOf_congr sameSecond
    constructor
    · rw [validate, validate, sums]
    · intro number
      rw [generate, generate, sums]

/-- The last second before the epoch, and half a second into a leap second after it. -/
def beforeEpoch : Instant := ⟨-1, 0, by decide, by decide⟩

def intoLeapSecond : Instant := ⟨-1, 1500000000, by decide, by decide⟩

theorem valid_within_second :
    intoLeapSecond.second = beforeEpoch.second
      ∧ validate "8B938cdc1234567890123456789" "example" beforeEpoch = .ok ()
      ∧ validate "8B938cdc1234567890123456789" "example" intoLeapSecond = .ok () := by
  have sameSecond : intoLeapSecond.second = beforeEpoch.second := rfl
  have valid : validate "8B938cdc1234567890123456789" "example" beforeEpoch = .ok () :=
    eq_ok_of_toOption (by decide +kernel)
  refine ⟨sameSecond, valid, ?_⟩
  rw [((valid_exactly_generated _ "example" beforeEpoch).2.2.2 intoLeapSecond sameSecond).1]
  exact valid

end DomainRegistry.ClaimsNoticeId
