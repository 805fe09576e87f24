/-!
The upper end of the floating-point numbers of 64 bits, in exact arithmetic.
-/

namespace DomainRegistry.Binary64

def precision : Nat := 53

/-- Numbers from here on have no place among them. -/
def limit : Nat := Nat.pow 2 1024

/-- The nearest number with 53 significant bits; of two as near, the one with an even last bit. -/
def nearest (n : Nat) : Nat :=
  let step := Nat.pow 2 (n.log2 + 1 - precision)
  let below := n / step
  let rest := n % step
  if step < 2 * rest || (2 * rest == step && below % 2 == 1) then (below + 1) * step
  else below * step

def maxTenPower : Nat := 308

/-- Whether a product with a power of ten is too large when both factors and it are rounded. -/
def productOverflows (n : Nat) (exponent : Int) : Bool :=
  if n = 0 ∨ exponent < 0 then false
  else if maxTenPower < exponent then true
  else limit ≤ nearest (nearest n * nearest (Nat.pow 10 exponent.toNat))

/-- Whether a product with a power of ten is too large when only it is rounded. -/
def decimalOverflows (n : Nat) (exponent : Int) : Bool :=
  if n = 0 then false
  else if exponent < 0 then
    let least := limit - Nat.pow 2 (1024 - precision - 1)
    exponent.natAbs ≤ n.log2 && least * Nat.pow 10 exponent.natAbs ≤ n
  else if maxTenPower < exponent then true
  else limit ≤ nearest (n * Nat.pow 10 exponent.toNat)

end DomainRegistry.Binary64
