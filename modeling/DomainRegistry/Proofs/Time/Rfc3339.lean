import DomainRegistry.Proofs.Text.Blanks
import DomainRegistry.Proofs.Time.Calendar
import DomainRegistry.Time.Rfc3339

/-!
Written times. Main statement: an instant is read back from its written form, so that no two
instants are written alike.
-/

namespace DomainRegistry

namespace Text

variable {c : Char} {cs : List Char}

theorem trimLeft_append {ds : List Char} (digits : ∀ c ∈ ds, isDigitAscii c = true)
    (filled : ds ≠ []) : trimLeft (ds ++ cs) = ds ++ cs := by
  cases ds with
  | nil => exact absurd rfl filled
  | cons d ds => exact trimLeft_cons (not_isBlank_of_isDigitAscii (digits d List.mem_cons_self))

theorem append_ne_cons {ds more : List Char} (digits : ∀ c ∈ ds, isDigitAscii c = true)
    (filled : ds ≠ []) (other : isDigitAscii c = false) : ds ++ cs ≠ c :: more := by
  cases ds with
  | nil => exact absurd rfl filled
  | cons d ds =>
    intro same
    rw [List.cons_append, List.cons.injEq] at same
    exact ne_of_isDigitAscii (digits d List.mem_cons_self) other same.1

theorem Padded.ne_nil {width n : Nat} (p : Padded width n cs) (wide : 0 < width) : cs ≠ [] := by
  rintro rfl
  have length := p.length
  rw [List.length_nil] at length
  omega

end Text

namespace Instant

open Text

variable {ds rest : List Char} {n width max : Nat}

theorem scanNumber_append (digits : ∀ c ∈ ds, isDigitAscii c = true) (filled : ds ≠ [])
    (fits : ds.length ≤ max) (stop : ds.length < max → ∀ c ∈ rest.head?, isDigitAscii c = false) :
    scanNumber max (ds ++ rest) = some (decimalValue ds, rest) := by
  have scanned : ((ds ++ rest).take max).takeWhile isDigitAscii = ds := by
    rw [List.take_append, List.take_of_length_le fits]
    refine takeWhile_append_stop digits fun c first => ?_
    -- Either the next character ends the scan or there is no room for it.
    by_cases more : ds.length < max
    · refine stop more c ?_
      cases rest with
      | nil => simp at first
      | cons r rest =>
        obtain ⟨k, positive⟩ : ∃ k, max - ds.length = k + 1 := ⟨max - ds.length - 1, by omega⟩
        rw [positive] at first
        exact first
    · have none : max - ds.length = 0 := by omega
      rw [none] at first
      cases first
  simp only [scanNumber, scanned, List.isEmpty_iff, if_neg filled, List.drop_left]

theorem scanShort_padded (p : Padded 2 n ds) : scanShort (ds ++ rest) = some (n, rest) := by
  have filled : ds ≠ [] := p.ne_nil (by decide)
  have fits : ds.length ≤ 2 := Nat.le_of_eq p.length
  rw [scanShort, trimLeft_append p.digits filled,
    scanNumber_append p.digits filled fits (by rw [p.length]; omega), p.value]

theorem padded_digits (small : n < Nat.pow 10 width) (wide : 0 < width) :
    Padded width n (padZeros width (digits n)) := padded small wide

theorem padded_writeTwo (small : n < 100) : Padded 2 n (writeTwo n) :=
  padded_digits small (by decide)

theorem scanLoose_cons {c : Char} (filled : isBlank c = false) :
    scanLoose c (c :: rest) = some rest := by
  rw [scanLoose, trimLeft_cons filled, scanChar, dropLead, if_pos rfl, dropLead]

theorem stop_hyphen : ∀ c ∈ ('-' :: rest).head?, isDigitAscii c = false := by
  intro c first
  cases first
  rfl

theorem scanNumber_longYear (n : Nat) :
    scanNumber (padZeros 4 (digits n) ++ '-' :: rest).length (padZeros 4 (digits n) ++ '-' :: rest)
      = some (n, '-' :: rest) := by
  have all : ∀ c ∈ padZeros 4 (digits n), isDigitAscii c = true := fun _ =>
    isDigitAscii_of_mem_padZeros fun _ => isDigitAscii_of_mem_toDigits
  have filled : padZeros 4 (digits n) ≠ [] := by
    intro empty
    exact Nat.toDigits_ne_nil (List.append_eq_nil_iff.mp empty).2
  have fits : (padZeros 4 (digits n)).length ≤ (padZeros 4 (digits n) ++ '-' :: rest).length := by
    rw [List.length_append]
    omega
  rw [scanNumber_append all filled fits fun _ => stop_hyphen, decimalValue_padZeros, digits,
    decimalValue_toDigits]

theorem scanYear_writeYear {year : Int} :
    scanYear (writeYear year ++ '-' :: rest) = some (year, '-' :: rest) := by
  unfold writeYear
  split
  · next plain =>
    have below : year.toNat < 10000 := by omega
    have p : Padded 4 year.toNat (padZeros 4 (digits year.toNat)) :=
      padded below (by decide)
    generalize padZeros 4 (digits year.toNat) = ds at p
    have filled := p.ne_nil (by decide)
    have fits : ds.length ≤ 4 := Nat.le_of_eq p.length
    rw [scanYear, trimLeft_append p.digits filled]
    split
    · next same => exact absurd same (append_ne_cons p.digits filled rfl)
    · next same => exact absurd same (append_ne_cons p.digits filled rfl)
    · have back : (year.toNat : Int) = year := Int.toNat_of_nonneg plain.1
      rw [scanNumber_append p.digits filled fits fun _ => stop_hyphen, p.value]
      simp only [Option.map_some, back]
  · next long =>
    by_cases negative : year < 0
    · rw [if_pos negative, List.cons_append, scanYear, trimLeft_cons (by decide)]
      have back : -(year.natAbs : Int) = year := by omega
      simp only [scanNumber_longYear, Option.map_some, back]
    · rw [if_neg negative, List.cons_append, scanYear, trimLeft_cons (by decide)]
      have back : (year.natAbs : Int) = year := by omega
      simp only [scanNumber_longYear, Option.map_some, back]

theorem stop_zone : ∀ c ∈ ('Z' :: rest).head?, isDigitAscii c = false := by
  intro c first
  cases first
  rfl

theorem scanFraction_padded (p : Padded width n ds) (wide : 0 < width) (short : width ≤ 9) :
    scanFraction ('.' :: (ds ++ 'Z' :: rest)) = some (n * Nat.pow 10 (9 - width), 'Z' :: rest) := by
  have scanned : (ds ++ 'Z' :: rest).takeWhile isDigitAscii = ds :=
    takeWhile_append_stop p.digits stop_zone
  have kept : ds.take 9 = ds := List.take_of_length_le (by rw [p.length]; exact short)
  have left : (ds ++ 'Z' :: rest).dropWhile isDigitAscii = 'Z' :: rest :=
    dropWhile_append_stop p.digits stop_zone
  simp only [scanFraction, scanned, kept, left, List.isEmpty_iff, if_neg (p.ne_nil wide), p.value,
    p.length]

/-- Digits that are left off at the end of a fraction are zeros. -/
theorem scanFraction_writeFraction {nano : Nat} (small : nano < billion) :
    scanFraction (writeFraction nano ++ 'Z' :: rest) = some (nano, 'Z' :: rest) := by
  unfold billion at small
  unfold writeFraction
  split
  · next none => rw [none]; rfl
  · split
    · next millis =>
      have fits : nano / 1000000 < 1000 := by omega
      have p : Padded 3 (nano / 1000000) _ := padded_digits fits (by decide)
      have back : nano / 1000000 * Nat.pow 10 (9 - 3) = nano :=
        Nat.div_mul_cancel (Nat.dvd_of_mod_eq_zero millis)
      rw [List.cons_append, scanFraction_padded p (by decide) (by decide), back]
    · split
      · next micros =>
        have fits : nano / 1000 < 1000000 := by omega
        have p : Padded 6 (nano / 1000) _ := padded_digits fits (by decide)
        have back : nano / 1000 * Nat.pow 10 (9 - 6) = nano :=
          Nat.div_mul_cancel (Nat.dvd_of_mod_eq_zero micros)
        rw [List.cons_append, scanFraction_padded p (by decide) (by decide), back]
      · have p : Padded 9 nano _ := padded_digits small (by decide)
        have back : nano * Nat.pow 10 (9 - 9) = nano := Nat.mul_one nano
        rw [List.cons_append, scanFraction_padded p (by decide) (by decide), back]

/-- What a leap second adds to the second before it. -/
def leapOf (t : Instant) : Nat := if billion ≤ t.nano then 1 else 0

def nanoOf (t : Instant) : Nat := if billion ≤ t.nano then t.nano - billion else t.nano

theorem nanoOf_lt (t : Instant) : nanoOf t < billion := by
  have fits := t.nanoFits
  unfold NanoFits at fits
  unfold nanoOf
  split <;> omega

theorem toList_render (t : Instant) :
    t.render.toList = writeYear t.date.year ++ '-' :: (writeTwo t.date.month ++ '-'
      :: (writeTwo t.date.day ++ 'T' :: (writeTwo (t.secondOfDay / 3600) ++ ':'
      :: (writeTwo (t.secondOfDay / 60 % 60) ++ ':'
      :: (writeTwo (t.secondOfDay % 60 + leapOf t) ++ (writeFraction (nanoOf t) ++ ['Z'])))))) := by
  simp [render, writeDate, writeTimeOfDay, leapOf, nanoOf]

theorem secondOfDay_lt (t : Instant) : t.secondOfDay < 86400 := by
  unfold secondOfDay
  omega

theorem scanSeparator_cons : scanSeparator ('T' :: rest) = some rest := rfl

def fields (t : Instant) : Fields where
  date := t.date
  hour := t.secondOfDay / 3600
  minute := t.secondOfDay / 60 % 60
  second := t.secondOfDay % 60 + leapOf t
  nano := nanoOf t
  offset := 0

theorem relaxedFields?_render (t : Instant) : relaxedFields? t.render.toList = some t.fields := by
  obtain ⟨_, month, _, day⟩ := Date.monthFits_ofDays (t.second / 86400)
  have longest : Date.daysInMonth t.date.year t.date.month ≤ 31 := by
    unfold Date.daysInMonth
    split
    · split <;> decide
    · split <;> decide
  have early := secondOfDay_lt t
  have twoMonth := padded_writeTwo (n := t.date.month) (by unfold date; omega)
  have twoDay := padded_writeTwo (n := t.date.day) (by unfold date at *; omega)
  have twoHour := padded_writeTwo (n := t.secondOfDay / 3600) (by omega)
  have twoMinute := padded_writeTwo (n := t.secondOfDay / 60 % 60) (by omega)
  have twoSecond := padded_writeTwo (n := t.secondOfDay % 60 + leapOf t)
    (by unfold leapOf; split <;> omega)
  rw [toList_render, relaxedFields?]
  simp only [scanYear_writeYear, scanLoose_cons (c := '-') (by decide), scanShort_padded twoMonth,
    scanShort_padded twoDay, scanSeparator_cons, scanShort_padded twoHour,
    scanLoose_cons (c := ':') (by decide), scanShort_padded twoMinute, scanShort_padded twoSecond,
    scanFraction_writeFraction (nanoOf_lt t), bind, Option.bind]
  rfl

theorem leapOf_cases (t : Instant) :
    leapOf t = 0 ∧ nanoOf t = t.nano
      ∨ leapOf t = 1 ∧ t.nano = nanoOf t + billion ∧ t.secondOfDay % 60 = 59 := by
  have fits := t.nanoFits
  unfold NanoFits at fits
  unfold leapOf nanoOf
  by_cases leap : billion ≤ t.nano
  · rw [if_pos leap, if_pos leap]
    refine Or.inr ⟨rfl, by omega, ?_⟩
    unfold secondOfDay
    omega
  · rw [if_neg leap, if_neg leap]
    exact Or.inl ⟨rfl, rfl⟩

theorem valid_date (t : Instant) : t.date.valid = true := by
  have range := t.inRange
  unfold InRange minSecond maxSecond at range
  refine Date.valid_ofDays ?_ ?_
  · unfold Date.minDay
    omega
  · unfold Date.maxDay
    omega

theorem fields_fit (t : Instant) :
    t.fields.date.valid = true ∧ t.fields.hour ≤ 23 ∧ t.fields.minute ≤ 59
      ∧ t.fields.second ≤ 60 := by
  have early := secondOfDay_lt t
  have leap := leapOf_cases t
  refine ⟨valid_date t, ?_, ?_, ?_⟩ <;> simp only [fields] <;> omega

theorem ofFields?_fields (t : Instant) : ofFields? t.fields = some t := by
  have early := secondOfDay_lt t
  have days : t.date.toDays * 86400 + (t.secondOfDay : Int) = t.second := by
    rw [date, Date.toDays_ofDays, secondOfDay]
    omega
  rw [ofFields?, if_pos (fields_fit t)]
  -- A leap second is held by the second before it, with the nanoseconds of both.
  rcases leapOf_cases t with ⟨plain, nano⟩ | ⟨leap, nano, last⟩
  · have second : t.fields.second = t.secondOfDay % 60 := by simp only [fields, plain]; omega
    rw [if_neg (by omega), second, ← ofParts?_parts t, ← nano]
    simp only [fields]
    congr 1
    omega
  · have second : t.fields.second = 60 := by simp only [fields, leap]; omega
    rw [if_pos second, second, ← ofParts?_parts t, nano]
    simp only [fields]
    congr 1
    omega

theorem parse?_render (t : Instant) : parse? t.render = some t := by
  rw [parse?, relaxedFields?_render, Option.bind_some, ofFields?_fields]

theorem render_injective {t u : Instant} (same : t.render = u.render) : t = u := by
  have read := congrArg parse? same
  rw [parse?_render, parse?_render] at read
  exact Option.some.inj read

end Instant

end DomainRegistry
