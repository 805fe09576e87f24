import DomainRegistry.Proofs.Text.Hexadecimal
import DomainRegistry.Proofs.Text.Splits
import DomainRegistry.RepoId

/-!
Repository identifiers as texts. Main statements: the number and the suffix of an identifier can be
read off its text, so that an allocator hands out no identifier twice before its numbers wrap.
-/

namespace DomainRegistry

namespace Text

/-- The digits of a number, capital letters among them, without a zero before another digit. -/
structure SpelledHex (n : Nat) (digits : List Char) : Prop where
  capital : ∀ c ∈ digits, isDigitAscii c = true ∨ 'A' ≤ c ∧ c ≤ 'F'
  value : hex? digits = some n
  shortest : digits.head? = some '0' → digits = ['0']

theorem hexUpper_spelled (n : Nat) : SpelledHex n (hexUpper n) where
  capital := by
    have each : ∀ d : Fin 16, isDigitAscii d.val.digitChar.toUpper = true
        ∨ 'A' ≤ d.val.digitChar.toUpper ∧ d.val.digitChar.toUpper ≤ 'F' := by decide
    intro c member
    obtain ⟨digit, listed, rfl⟩ := List.mem_map.mp member
    obtain ⟨d, small, rfl⟩ := mem_toDigits (by decide) listed
    exact each ⟨d, small⟩
  value := hex?_hexUpper n
  shortest := by
    intro leading
    by_cases zero : n = 0
    · rw [zero]
      rfl
    · rw [hexUpper, List.head?_map, Option.map_eq_some_iff] at leading
      obtain ⟨c, first, upper⟩ := leading
      have other : c ≠ '0' :=
        head?_toDigits_ne_zero (by decide) (by decide) (by omega) c first
      have each : ∀ d : Fin 16, d.val.digitChar.toUpper = '0' → d.val.digitChar = '0' := by decide
      obtain ⟨d, small, rfl⟩ := mem_toDigits (by decide) (List.mem_of_mem_head? first)
      exact absurd (each ⟨d, small⟩ upper) other

theorem hexUpper_injective {m n : Nat} (same : hexUpper m = hexUpper n) : m = n := by
  have read : hex? (hexUpper m) = hex? (hexUpper n) := congrArg hex? same
  rw [hex?_hexUpper, hex?_hexUpper] at read
  exact Option.some.inj read

end Text

namespace RepoId

open Text

variable {m n : UInt64} {suffix other : String}

theorem splitOnce_render (n : UInt64) (suffix : String) :
    splitOnce '-' (render n suffix).toList = some (hexUpper n.toNat, suffix.toList) := by
  have absent : '-' ∉ hexUpper n.toNat := by
    intro member
    exact absurd (isHexDigit_of_mem_hexUpper member) (by decide)
  rw [render, String.toList_ofList]
  exact splitOnce_append absent

theorem parse?_render (n : UInt64) (filled : suffix ≠ "") :
    parse? (render n suffix) = some (n, suffix) := by
  have named : suffix.toList.isEmpty = false :=
    List.isEmpty_eq_false_iff.mpr (mt String.toList_eq_nil_iff.mp filled)
  unfold parse?
  rw [splitOnce_render]
  dsimp only [Option.bind_eq_bind, Option.bind_some]
  rw [named, boundedHex?_hexUpper n.toNat_lt]
  simp

theorem render_injective (same : render m suffix = render n other) : m = n ∧ suffix = other := by
  have parts := congrArg (fun s : String => splitOnce '-' s.toList) same
  simp only [splitOnce_render, Option.some.injEq, Prod.mk.injEq] at parts
  exact ⟨UInt64.toNat_inj.mp (hexUpper_injective parts.1), String.toList_inj.mp parts.2⟩

/-- The identifier for a zone that an allocator hands out after a number of others. -/
def Allocator.nth (ids : Allocator) (n : Nat) (zone : String) : String :=
  render (ids.next + .ofNat n) (RepoId.suffix zone)

/-- Numbers come again only after all of them have been handed out. -/
theorem Allocator.nth_injective {ids : Allocator} {i j : Nat} {zone other : String}
    (small : i < UInt64.size) (small' : j < UInt64.size) (same : ids.nth i zone = ids.nth j other) :
    i = j := by
  have numbers : ids.next + .ofNat i = ids.next + .ofNat j := (render_injective same).1
  have taken : UInt64.ofNat i = UInt64.ofNat j := (UInt64.add_right_inj ids.next).mp numbers
  calc i
    _ = (UInt64.ofNat i).toNat := (UInt64.toNat_ofNat_of_lt small).symm
    _ = (UInt64.ofNat j).toNat := by rw [taken]
    _ = j := UInt64.toNat_ofNat_of_lt small'

end RepoId

end DomainRegistry
