import DomainRegistry.Crypto.Sha512
import DomainRegistry.Crypto.SignatureScheme

/-!
Signatures over the twisted Edwards curve -x² + y² = 1 + d x² y² modulo 2²⁵⁵ - 19. A signature holds
if the commitment recomputed from it has the very bytes that it gives.
-/

namespace DomainRegistry.Ed25519

def p : Nat := Nat.pow 2 255 - 19

def order : Nat := Nat.pow 2 252 + 27742317777372353535851937790883648493

def add (a b : Nat) : Nat := (a + b) % p

def sub (a b : Nat) : Nat := (a + (p - b % p)) % p

def mul (a b : Nat) : Nat := a * b % p

/-- `base` to the power whose binary digits are given, lowest first. -/
def powBits (base : Nat) : List Bool → Nat
  | [] => 1
  | bit :: bits =>
    let rest := powBits (mul base base) bits
    if bit then mul base rest else rest

def bits : (count n : Nat) → List Bool
  | 0, _ => []
  | count + 1, n => (n % 2 == 1) :: bits count (n / 2)

def pow (base exponent : Nat) : Nat := powBits base (bits 256 exponent)

def inverse (a : Nat) : Nat := pow a (p - 2)

def d : Nat := 37095705934669439343138083508754565189542113879843219016388785533085940283555

def rootOfMinusOne : Nat :=
  19681161376707505956807079304988542015446066515923890162744021073123829784752

/-- A point x / z, y / z with x y = z t. -/
structure Point where
  x : Nat
  y : Nat
  z : Nat
  t : Nat

namespace Point

def zero : Point := ⟨0, 1, 1, 0⟩

def ofAffine (x y : Nat) : Point := ⟨x, y, 1, mul x y⟩

def add (a b : Point) : Point :=
  let s := mul (sub a.y a.x) (sub b.y b.x)
  let u := mul (Ed25519.add a.y a.x) (Ed25519.add b.y b.x)
  let c := mul (mul 2 d) (mul a.t b.t)
  let e := mul 2 (mul a.z b.z)
  let f := sub u s
  let g := sub e c
  let h := Ed25519.add e c
  let i := Ed25519.add u s
  ⟨mul f g, mul h i, mul g h, mul f i⟩

def neg (a : Point) : Point := ⟨sub 0 a.x, a.y, a.z, sub 0 a.t⟩

def timesBits (a : Point) : List Bool → Point
  | [] => zero
  | bit :: bits =>
    let rest := timesBits (a.add a) bits
    if bit then a.add rest else rest

def times (n : Nat) (a : Point) : Point := a.timesBits (bits 256 n)

/-- The y coordinate in 255 bits, and the lowest bit of x above it. -/
def compress (a : Point) : Bytes :=
  let zi := inverse a.z
  let x := mul a.x zi
  let y := mul a.y zi
  Bytes.ofNatLittle 32 (y + x % 2 * Nat.pow 2 255)

/-- A root of u / v, if there is one; of two, the even one. -/
def ratioRoot? (u v : Nat) : Option Nat :=
  let v3 := mul (mul v v) v
  let v7 := mul (mul v3 v3) v
  let r := mul (mul u v3) (pow (mul u v7) ((p - 5) / 8))
  let check := mul v (mul r r)
  let even (a : Nat) : Nat := if a % 2 = 1 then p - a else a
  if check = u % p then some (even r)
  else if check = sub 0 u then some (even (mul r rootOfMinusOne))
  else none

/-- The point that 32 bytes stand for; y need not be reduced. -/
def decompress? (bytes : Bytes) : Option Point :=
  if bytes.length ≠ 32 then none
  else
    let n := Bytes.toNatLittle bytes
    let y := n % Nat.pow 2 255 % p
    let yy := mul y y
    (ratioRoot? (sub yy 1) (Ed25519.add (mul d yy) 1)).map fun x =>
      ofAffine (if n / Nat.pow 2 255 = 1 then sub 0 x else x) y

def base : Point :=
  ofAffine 15112221349535400772501151409588531511454012693041857206046113283949847762202
    46316835694926478169428394003475163141307993866256225615783033603165251855960

end Point

/-- A number of 32 bytes with the bits set and cleared that secret numbers have. -/
def clamp (bytes : Bytes) : Nat :=
  let n := Bytes.toNatLittle bytes % Nat.pow 2 255
  n / 8 * 8 % Nat.pow 2 254 + Nat.pow 2 254

def secret (seed : Bytes) : Nat := clamp ((Sha512.digest seed).take 32)

def publicKey (seed : Bytes) : Bytes := (Point.base.times (secret seed)).compress

def hashNumber (bytes : Bytes) : Nat := Bytes.toNatLittle (Sha512.digest bytes) % order

def sign (seed message : Bytes) : Bytes :=
  let r := hashNumber ((Sha512.digest seed).drop 32 ++ message)
  let commitment := (Point.base.times r).compress
  let k := hashNumber (commitment ++ publicKey seed ++ message)
  commitment ++ Bytes.ofNatLittle 32 ((r + k * secret seed) % order)

def isKey (key : Bytes) : Bool := (Point.decompress? key).isSome

def verifies (key message signature : Bytes) : Bool :=
  let commitment := signature.take 32
  let s := Bytes.toNatLittle (signature.drop 32)
  match Point.decompress? key with
  | none => false
  | some a =>
    let k := hashNumber (commitment ++ key ++ message)
    signature.length == SignatureScheme.signatureSize && decide (s < order)
      && (((Point.base.times s).add (a.neg.times k)).compress == commitment)

def scheme : SignatureScheme := { publicKey, sign, isKey, verifies }

end DomainRegistry.Ed25519
