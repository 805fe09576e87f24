import DomainRegistry.Money

/-!
Amounts of 64 bits. Main statement: so many times an amount is the exact product, and there is none
exactly if the product does not have a form of 64 bits.
-/

namespace DomainRegistry.Money

variable {m product : Money} {count : UInt32}

def Fits (n : Int) : Prop := -0x8000000000000000 ≤ n ∧ n < 0x8000000000000000

theorem fits_iff {n : Int} : Int64.minValue.toInt ≤ n ∧ n ≤ Int64.maxValue.toInt ↔ Fits n := by
  have least : Int64.minValue.toInt = -0x8000000000000000 := by decide
  have greatest : Int64.maxValue.toInt = 0x7fffffffffffffff := by decide
  unfold Fits
  omega

theorem fits_toInt (minor : Int64) : Fits minor.toInt := by
  have low := minor.le_toInt
  have high := minor.toInt_lt
  exact ⟨by omega, by omega⟩

theorem minor?_eq_some_iff {n : Int} {minor : Int64} : minor? n = some minor ↔ minor.toInt = n := by
  unfold minor?
  split
  · next inside =>
    obtain ⟨low, high⟩ := fits_iff.mp inside
    have same : (Int64.ofInt n).toInt = n := Int64.toInt_ofInt_of_le (by omega) (by omega)
    rw [Option.some.injEq, ← Int64.toInt_inj, same, eq_comm]
  · next outside =>
    simp only [reduceCtorEq, false_iff]
    rintro rfl
    exact outside (fits_iff.mpr (fits_toInt minor))

theorem minor?_eq_none_iff {n : Int} : minor? n = none ↔ ¬Fits n := by
  unfold minor?
  split
  · next inside =>
    simp only [reduceCtorEq, false_iff, Classical.not_not]
    exact fits_iff.mp inside
  · next outside =>
    simp only [true_iff]
    exact mt fits_iff.mpr outside

theorem times_eq_some_iff :
    m.times count = some product ↔
      product.currency = m.currency ∧ product.minor.toInt = count.toNat * m.minor.toInt := by
  obtain ⟨currency, minor⟩ := product
  simp only [times, Option.map_eq_some_iff, minor?_eq_some_iff, Money.mk.injEq,
    Int.mul_comm m.minor.toInt]
  constructor
  · rintro ⟨_, exact, rfl, rfl⟩
    exact ⟨rfl, exact⟩
  · rintro ⟨rfl, exact⟩
    exact ⟨minor, exact, rfl, rfl⟩

theorem times_eq_none_iff : m.times count = none ↔ ¬Fits (count.toNat * m.minor.toInt) := by
  rw [times, Option.map_eq_none_iff, minor?_eq_none_iff, Int.mul_comm]

end DomainRegistry.Money
