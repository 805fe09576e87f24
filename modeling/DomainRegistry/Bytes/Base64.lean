import DomainRegistry.Bytes.Basic

/-!
Base64 over the standard alphabet. Reading names the first offending byte by its value and offset.
-/

namespace DomainRegistry.Base64

inductive Padding where
  | canonical
  | absent
  deriving DecidableEq

inductive DecodeError where
  | symbol (byte : UInt8) (offset : Nat)
  | length (count : Nat)
  | lastSymbol (byte : UInt8) (offset : Nat)
  | padding
  deriving DecidableEq

def DecodeError.message : DecodeError → String
  | .symbol byte offset =>
    "Invalid symbol " ++ toString byte.toNat ++ ", offset " ++ toString offset ++ "."
  | .length count => "Invalid input length: " ++ toString count
  | .lastSymbol byte offset =>
    "Invalid last symbol " ++ toString byte.toNat ++ ", offset " ++ toString offset ++ "."
  | .padding => "Invalid padding"

def symbol (value : Nat) : UInt8 :=
  if value < 26 then UInt8.ofNat (65 + value)
  else if value < 52 then UInt8.ofNat (97 + (value - 26))
  else if value < 62 then UInt8.ofNat (48 + (value - 52))
  else if value = 62 then 43
  else 47

def value? (byte : UInt8) : Option Nat :=
  let n := byte.toNat
  if 65 ≤ n ∧ n ≤ 90 then some (n - 65)
  else if 97 ≤ n ∧ n ≤ 122 then some (n - 97 + 26)
  else if 48 ≤ n ∧ n ≤ 57 then some (n - 48 + 52)
  else if n = 43 then some 62
  else if n = 47 then some 63
  else none

def pad : UInt8 := 61

def padding (p : Padding) (count : Nat) : Bytes :=
  match p with
  | .canonical => List.replicate count pad
  | .absent => []

def encode (p : Padding) : Bytes → Bytes
  | a :: b :: c :: rest =>
    symbol (a.toNat / 4)
      :: symbol (a.toNat % 4 * 16 + b.toNat / 16)
      :: symbol (b.toNat % 16 * 4 + c.toNat / 64)
      :: symbol (c.toNat % 64)
      :: encode p rest
  | [a, b] =>
    [symbol (a.toNat / 4), symbol (a.toNat % 4 * 16 + b.toNat / 16), symbol (b.toNat % 16 * 4)]
      ++ padding p 1
  | [a] => [symbol (a.toNat / 4), symbol (a.toNat % 4 * 16)] ++ padding p 2
  | [] => []

def valueAt (offset : Nat) (byte : UInt8) : Except DecodeError Nat :=
  match value? byte with
  | some value => .ok value
  | none => .error (.symbol byte offset)

def group (a b c d : Nat) : Bytes :=
  [UInt8.ofNat (a * 4 + b / 16), UInt8.ofNat (b % 16 * 16 + c / 4), UInt8.ofNat (c % 4 * 64 + d)]

structure LastGroup where
  values : List Nat := []
  pads : Nat := 0
  firstPad : Nat := 0
  lastByte : UInt8 := 0

/--
Reads the last group, at most four bytes from `base` on. An equals sign may only follow two
values, and no value may follow an equals sign.
-/
def LastGroup.read (base : Nat) : (index : Nat) → LastGroup → Bytes → Except DecodeError LastGroup
  | _, g, [] => .ok g
  | index, g, byte :: rest =>
    if byte = pad then
      if index < 2 then .error (.symbol byte (base + index))
      else
        LastGroup.read base (index + 1)
          { g with pads := g.pads + 1, firstPad := if g.pads = 0 then index else g.firstPad } rest
    else if 0 < g.pads then .error (.symbol pad (base + g.firstPad))
    else do
      let value ← valueAt (base + index) byte
      LastGroup.read base (index + 1) { g with values := g.values ++ [value], lastByte := byte } rest

def LastGroup.paddingFits (g : LastGroup) : Padding → Bool
  | .canonical => (g.pads + g.values.length) % 4 == 0
  | .absent => g.pads == 0

/-- The bytes of the last group; bits that belong to no byte must be zero. -/
def LastGroup.bytes (base : Nat) (p : Padding) (g : LastGroup) : Except DecodeError Bytes :=
  if g.values.length < 2 then .error (.length (base + g.values.length))
  else if !g.paddingFits p then .error .padding
  else
    match g.values with
    | [a, b] =>
      if b % 16 ≠ 0 then .error (.lastSymbol g.lastByte (base + 1))
      else .ok ((group a b 0 0).take 1)
    | [a, b, c] =>
      if c % 4 ≠ 0 then .error (.lastSymbol g.lastByte (base + 2))
      else .ok ((group a b c 0).take 2)
    | [a, b, c, d] => .ok (group a b c d)
    | _ => .ok []

/-- Groups of four from `base` on; the last group, even a full one, may hold equals signs. -/
def decodeFrom (p : Padding) : (base : Nat) → Bytes → Except DecodeError Bytes
  | base, a :: b :: c :: d :: e :: rest => do
    let w ← valueAt base a
    let x ← valueAt (base + 1) b
    let y ← valueAt (base + 2) c
    let z ← valueAt (base + 3) d
    let tail ← decodeFrom p (base + 4) (e :: rest)
    return group w x y z ++ tail
  | base, tail => do
    let g ← LastGroup.read base 0 {} tail
    g.bytes base p

/-- A last byte that cannot be a symbol is reported first if it makes the length impossible. -/
def strayLast? (input : Bytes) : Option DecodeError :=
  if input.length % 4 = 1 then
    match input.getLast? with
    | some byte =>
      if byte ≠ pad ∧ (value? byte).isNone then some (.symbol byte (input.length - 1)) else none
    | none => none
  else none

def decode (p : Padding) (input : Bytes) : Except DecodeError Bytes :=
  match strayLast? input with
  | some e => .error e
  | none => if input.isEmpty then .ok [] else decodeFrom p 0 input

def encodeText (p : Padding) (bytes : Bytes) : String :=
  String.ofList ((encode p bytes).map fun b => Char.ofNat b.toNat)

def decodeText (p : Padding) (text : String) : Except DecodeError Bytes :=
  decode p (Bytes.ofString text)

end DomainRegistry.Base64
