import DomainRegistry.Text.Basic

/-!
Internet addresses and their text; the longer kind is written with its longest run of zeros left
out.
-/

namespace DomainRegistry

open Text

inductive IpAddress where
  | v4 (a b c d : UInt8)
  | v6 (groups : List UInt16) (eight : groups.length = 8)
  deriving DecidableEq

namespace IpAddress

def scanNumber (digit? : Char → Option Nat) (radix width : Nat) (cs : List Char) :
    Option (Nat × List Char) :=
  let digits := cs.takeWhile fun c => (digit? c).isSome
  if digits.isEmpty || width < digits.length then none
  else
    some (digits.foldl (fun n c => radix * n + (digit? c).getD 0) 0, cs.drop digits.length)

def decimalDigit? (c : Char) : Option Nat :=
  if isDigitAscii c then some (digitValue c) else none

def scanByte (cs : List Char) : Option (UInt8 × List Char) :=
  match scanNumber decimalDigit? 10 3 cs with
  | some (n, rest) =>
    if 255 < n ∨ (cs.head? = some '0' ∧ cs.length ≠ rest.length + 1) then none
    else some (UInt8.ofNat n, rest)
  | none => none

def scanDot (cs : List Char) : Option (List Char) := dropLead ['.'] cs

def scanColon (cs : List Char) : Option (List Char) := dropLead [':'] cs

def scanV4 (cs : List Char) : Option ((UInt8 × UInt8 × UInt8 × UInt8) × List Char) := do
  let (a, cs) ← scanByte cs
  let (b, cs) ← scanByte (← scanDot cs)
  let (c, cs) ← scanByte (← scanDot cs)
  let (d, cs) ← scanByte (← scanDot cs)
  return ((a, b, c, d), cs)

def word (high low : UInt8) : UInt16 := UInt16.ofNat (256 * high.toNat + low.toNat)

structure Groups where
  groups : List UInt16
  dotted : Bool
  rest : List Char

/--
Up to `limit` groups with colons between them. An address of the shorter kind may stand for the
last two.
-/
def scanGroups : (limit : Nat) → (first : Bool) → List Char → Groups
  | 0, _, cs => ⟨[], false, cs⟩
  | limit + 1, first, cs =>
    let here := if first then some cs else scanColon cs
    let dotted := if limit = 0 then none else here.bind scanV4
    match dotted with
    | some ((a, b, c, d), rest) => ⟨[word a b, word c d], true, rest⟩
    | none =>
      match here.bind (scanNumber hexDigitValue? 16 4) with
      | some (n, rest) =>
        let more := scanGroups limit false rest
        ⟨UInt16.ofNat n :: more.groups, more.dotted, more.rest⟩
      | none => ⟨[], false, cs⟩

def ofGroups? (groups : List UInt16) : Option IpAddress :=
  if eight : groups.length = 8 then some (.v6 groups eight) else none

/-- Eight groups, or fewer with one double colon for the zeros between them. -/
def scanV6 (cs : List Char) : Option (IpAddress × List Char) :=
  let head := scanGroups 8 true cs
  if head.groups.length = 8 then (ofGroups? head.groups).map fun a => (a, head.rest)
  else if head.dotted then none
  else do
    let rest ← scanColon (← scanColon head.rest)
    let tail := scanGroups (7 - head.groups.length) true rest
    let zeros := List.replicate (8 - head.groups.length - tail.groups.length) (0 : UInt16)
    let address ← ofGroups? (head.groups ++ zeros ++ tail.groups)
    return (address, tail.rest)

def parse? (text : String) : Option IpAddress :=
  let scanned := match scanV4 text.toList with
    | some ((a, b, c, d), rest) => some (IpAddress.v4 a b c d, rest)
    | none => scanV6 text.toList
  match scanned with
  | some (address, []) => some address
  | _ => none

def renderV4 (a b c d : UInt8) : String :=
  join "." ([a, b, c, d].map fun x => toString x.toNat)

def renderGroups (groups : List UInt16) : String :=
  join ":" (groups.map fun g => String.ofList (hexLower g.toNat))

def zeroRun (groups : List UInt16) : Nat := (groups.takeWhile (· == 0)).length

def longestRun (groups : List UInt16) : Nat × Nat :=
  (List.range groups.length).foldl
    (fun best start =>
      let run := zeroRun (groups.drop start)
      if best.2 < run then (start, run) else best)
    (0, 0)

def mapped? : List UInt16 → Option (UInt16 × UInt16)
  | [0, 0, 0, 0, 0, 0xffff, high, low] => some (high, low)
  | _ => none

def renderV6 (groups : List UInt16) : String :=
  match mapped? groups with
  | some (high, low) =>
    "::ffff:" ++ renderV4 (UInt8.ofNat (high.toNat / 256)) (UInt8.ofNat high.toNat)
      (UInt8.ofNat (low.toNat / 256)) (UInt8.ofNat low.toNat)
  | none =>
    let (start, run) := longestRun groups
    if 1 < run then
      renderGroups (groups.take start) ++ "::" ++ renderGroups (groups.drop (start + run))
    else renderGroups groups

def render : IpAddress → String
  | v4 a b c d => renderV4 a b c d
  | v6 groups _ => renderV6 groups

end IpAddress

end DomainRegistry
