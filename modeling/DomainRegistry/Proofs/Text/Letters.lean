import DomainRegistry.Proofs.Text.Digits

/-!
The case of ASCII letters. Main statements: texts are equal up to case if their lower-case forms
are, text without capitals is its own lower-case form, and text in upper case stays as it is when it
is put there again.
-/

namespace DomainRegistry.Text

variable {c : Char}

/-- What holds of each of the first 128 characters, which can be tried out, holds of all ASCII. -/
theorem of_ascii {P : Char → Prop} (all : ∀ n : Fin 128, P (Char.ofNat n)) (ascii : c.toNat < 128) :
    P c := by
  have this := all ⟨c.toNat, ascii⟩
  rwa [Char.ofNat_toNat] at this

theorem toNat_of_isLetterAscii (letter : isLetterAscii c = true) :
    65 ≤ c.toNat ∧ c.toNat ≤ 122 := by
  simp only [isLetterAscii, isUpperAscii, isLowerAscii, Bool.or_eq_true, Bool.and_eq_true,
    decide_eq_true_eq, Char.le_def, UInt32.le_iff_toNat_le] at letter
  have A : ('A' : Char).val.toNat = 65 := rfl
  have Z : ('Z' : Char).val.toNat = 90 := rfl
  have a : ('a' : Char).val.toNat = 97 := rfl
  have z : ('z' : Char).val.toNat = 122 := rfl
  change 65 ≤ c.val.toNat ∧ c.val.toNat ≤ 122
  omega

theorem isLetterAscii_of_upper (capital : isUpperAscii c = true) : isLetterAscii c = true := by
  rw [isLetterAscii, capital, Bool.true_or]

section Lower

variable {s t : String}

theorem sameIgnoringCase_iff : sameIgnoringCase s t = true ↔ lower s = lower t := by
  simp [sameIgnoringCase, lower, String.ofList_inj]

theorem sameIgnoringCase_comm (s t : String) : sameIgnoringCase s t = sameIgnoringCase t s :=
  BEq.comm

theorem toLower_of_not_upper (small : isUpperAscii c = false) : c.toLower = c := by
  unfold Char.toLower
  split
  · next upper =>
    have capital : isUpperAscii c = true := by
      simpa [isUpperAscii, Char.le_def] using upper
    rw [small] at capital
    cases capital
  · rfl

theorem lower_of_not_upper (small : ∀ c ∈ s.toList, isUpperAscii c = false) : lower s = s := by
  have each : s.toList.map Char.toLower = s.toList.map id :=
    List.map_congr_left fun c member => toLower_of_not_upper (small c member)
  rw [lower, each, List.map_id, String.ofList_toList]

theorem toLower_keeps {kind : Char → Bool}
    (all : ∀ n : Fin 128, kind (Char.ofNat n).toLower = kind (Char.ofNat n)) (c : Char) :
    kind c.toLower = kind c := by
  cases capital : isUpperAscii c with
  | false => rw [toLower_of_not_upper capital]
  | true =>
    have ascii := (toNat_of_isLetterAscii (isLetterAscii_of_upper capital)).2
    exact of_ascii (P := fun c => kind c.toLower = kind c) all (by omega)

theorem isHexDigit_toLower (c : Char) : isHexDigit c.toLower = isHexDigit c :=
  toLower_keeps (by decide) c

theorem isDigitAscii_toLower (c : Char) : isDigitAscii c.toLower = isDigitAscii c :=
  toLower_keeps (by decide) c

theorem all_of_same_lower {kind : Char → Bool} {cs ds : List Char}
    (keeps : ∀ c : Char, kind c.toLower = kind c)
    (same : cs.map Char.toLower = ds.map Char.toLower) (all : ∀ c ∈ ds, kind c = true) :
    ∀ c ∈ cs, kind c = true := by
  intro c member
  have listed : c.toLower ∈ ds.map Char.toLower := same ▸ List.mem_map_of_mem member
  obtain ⟨d, source, case⟩ := List.mem_map.mp listed
  rw [← keeps, ← case, keeps]
  exact all d source

theorem toLower_of_isDigitAscii (digit : isDigitAscii c = true) : c.toLower = c := by
  cases capital : isUpperAscii c with
  | false => exact toLower_of_not_upper capital
  | true =>
    have letter := (toNat_of_isLetterAscii (isLetterAscii_of_upper capital)).1
    have number := (toNat_of_isDigitAscii digit).2
    omega

theorem map_toLower_of_digits {cs : List Char} (digits : ∀ c ∈ cs, isDigitAscii c = true) :
    cs.map Char.toLower = cs := by
  have each : cs.map Char.toLower = cs.map id :=
    List.map_congr_left fun c member => toLower_of_isDigitAscii (digits c member)
  rw [each, List.map_id]

end Lower

section Upper

theorem isUpperAscii_toUpper (letter : isLetterAscii c = true) : isUpperAscii c.toUpper = true := by
  have all : ∀ n : Fin 128, isLetterAscii (Char.ofNat n) = true →
      isUpperAscii (Char.ofNat n).toUpper = true := by decide
  have ascii := (toNat_of_isLetterAscii letter).2
  exact of_ascii (P := fun c => isLetterAscii c = true → isUpperAscii c.toUpper = true) all
    (by omega) letter

theorem toUpper_of_upper (capital : isUpperAscii c = true) : c.toUpper = c := by
  have all : ∀ n : Fin 128, isUpperAscii (Char.ofNat n) = true →
      (Char.ofNat n).toUpper = Char.ofNat n := by decide
  have ascii := (toNat_of_isLetterAscii (isLetterAscii_of_upper capital)).2
  exact of_ascii (P := fun c => isUpperAscii c = true → c.toUpper = c) all (by omega) capital

theorem upper_upper {s : String} (letters : ∀ c ∈ s.toList, isLetterAscii c = true) :
    upper (upper s) = upper s := by
  have each : ∀ c ∈ s.toList, c.toUpper.toUpper = c.toUpper := by
    intro c member
    exact toUpper_of_upper (isUpperAscii_toUpper (letters c member))
  have again : (s.toList.map Char.toUpper).map Char.toUpper = s.toList.map Char.toUpper := by
    rw [List.map_map]
    exact List.map_congr_left each
  rw [upper, upper, String.toList_ofList, again]

end Upper

end DomainRegistry.Text
