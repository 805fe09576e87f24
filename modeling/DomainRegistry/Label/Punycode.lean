import DomainRegistry.Text.Basic

/-!
Punycode, the ASCII form of labels with other characters, over machine words of 32 bits. Some
operations look at their result and refuse a text that leaves the words; the others are trusted to
stay inside, and one that did not would be a fault.
-/

namespace DomainRegistry.Punycode

open Text

inductive Halt where
  /-- The text has no such form. -/
  | refused
  /-- A trusted operation left its range. -/
  | fault
  deriving DecidableEq, Repr

abbrev Run := Except Halt

def wordLimit : Nat := UInt32.size

/-- A result that is looked at. -/
def checked (n : Nat) : Run Nat := if n < wordLimit then .ok n else .error .refused

/-- A result that is trusted to be a word. -/
def trusted (n : Nat) : Run Nat := if n < wordLimit then .ok n else .error .fault

def minus (a b : Nat) : Run Nat := if b ≤ a then .ok (a - b) else .error .fault

def quotient (a b : Nat) : Run Nat := if b = 0 then .error .fault else .ok (a / b)

def remainder (a b : Nat) : Run Nat := if b = 0 then .error .fault else .ok (a % b)

def base : Nat := 36

def leastThreshold : Nat := 1

def greatestThreshold : Nat := 26

def skew : Nat := 38

def damp : Nat := 700

def initialBias : Nat := 72

def initialPoint : Nat := 128

/-- Divides until at most 455 is left, and counts 36 for each division. -/
def shrink (delta count : Nat) : Run (Nat × Nat) :=
  if 455 < delta then do
    let count ← trusted (count + base)
    shrink (delta / 35) count
  else .ok (delta, count)
termination_by delta
decreasing_by omega

def adapt (delta placed : Nat) (first : Bool) : Run Nat := do
  let halved := delta / if first then damp else 2
  let share ← quotient halved placed
  let grown ← trusted (halved + share)
  let (rest, count) ← shrink grown 0
  let scaled ← trusted (base * rest)
  let divisor ← trusted (rest + skew)
  let part ← quotient scaled divisor
  trusted (count + part)

/-- The least digit at place `k` that another digit follows. -/
def threshold (k bias : Nat) : Run Nat :=
  if k ≤ bias then .ok leastThreshold
  else do
    let upperEnd ← trusted (bias + greatestThreshold)
    if upperEnd ≤ k then .ok greatestThreshold else minus k bias

def digitValue? (c : Char) : Option Nat :=
  if isLowerAscii c then some (c.toNat - 97)
  else if isUpperAscii c then some (c.toNat - 65)
  else if isDigitAscii c then some (c.toNat - 48 + 26)
  else none

def digitChar? (d : Nat) : Option Char :=
  if d < 26 then some (Char.ofNat (97 + d))
  else if d < 36 then some (Char.ofNat (48 + d - 26))
  else none

def digitChar (d : Nat) : Run Char :=
  match digitChar? d with
  | some c => .ok c
  | none => .error .fault

/-- The parts before and after the last hyphen; without one, everything is after it. -/
def splitLast (cs : List Char) : List Char × List Char :=
  match splitOnce '-' cs.reverse with
  | some (after, before) => (before.reverse, after.reverse)
  | none => ([], cs)

/-- One number of variable length, added to `index`, and the digits after it. -/
def decodeNumber (bias : Nat) : (digits : List Char) → (k weight index : Nat) → Run (Nat × List Char)
  | [], _, _, _ => .error .refused
  | c :: rest, k, weight, index =>
    match digitValue? c with
    | none => .error .refused
    | some digit => do
      let term ← checked (digit * weight)
      let index ← checked (index + term)
      let t ← threshold k bias
      if digit < t then return (index, rest)
      else do
        let factor ← minus base t
        let weight ← checked (weight * factor)
        let k ← trusted (k + base)
        decodeNumber bias rest k weight index

theorem decodeNumber_shorter {bias : Nat} :
    ∀ {digits : List Char} {k weight index : Nat} {result : Nat × List Char},
      decodeNumber bias digits k weight index = .ok result → result.2.length < digits.length
  | [], _, _, _, _, h => by simp [decodeNumber] at h
  | c :: rest, k, weight, index, result, h => by
    rw [decodeNumber] at h
    simp only [bind, Except.bind, pure, Except.pure] at h
    repeat' (split at h)
    all_goals first
      | contradiction
      | exact Nat.lt_succ_of_lt (decodeNumber_shorter h)
      | (cases h; simp)

structure DecodeState where
  placed : List Char
  point : Nat := initialPoint
  index : Nat := 0
  bias : Nat := initialBias

def charOf? (point : Nat) : Option Char :=
  if point.isValidChar then some (Char.ofNat point) else none

def DecodeState.place (s : DecodeState) (index : Nat) : Run DecodeState := do
  let size ← checked s.placed.length
  let size ← trusted (size + 1)
  let delta ← minus index s.index
  let bias ← adapt delta size (s.index == 0)
  let steps ← quotient index size
  let point ← checked (s.point + steps)
  let position ← remainder index size
  match charOf? point with
  | none => .error .refused
  | some c =>
    if position ≤ s.placed.length then do
      let next ← trusted (position + 1)
      return ⟨s.placed.insertIdx position c, point, next, bias⟩
    else .error .fault

def decodeFrom (s : DecodeState) (digits : List Char) : Run (List Char) :=
  if digits.isEmpty then .ok s.placed
  else
    match _read : decodeNumber s.bias digits base 1 s.index with
    | .error e => .error e
    | .ok (index, rest) =>
      match s.place index with
      | .error e => .error e
      | .ok next => decodeFrom next rest
termination_by digits.length
decreasing_by exact decodeNumber_shorter _read

def decodeChars (cs : List Char) : Run (List Char) :=
  if cs.all isAscii then
    let (basic, digits) := splitLast cs
    decodeFrom { placed := basic } digits
  else .error .refused

def encodeNumber (bias k q : Nat) : Run (List Char) :=
  match threshold k bias with
  | .error e => .error e
  | .ok t =>
    if _proper : 0 < t ∧ t < base then
      if q < t then do
        let last ← digitChar q
        return [last]
      else do
        let digit ← digitChar (t + (q - t) % (base - t))
        let k ← trusted (k + base)
        let rest ← encodeNumber bias k ((q - t) / (base - t))
        return digit :: rest
    else .error .fault
termination_by q
decreasing_by
  have : (q - t) / (base - t) ≤ q - t := Nat.div_le_self _ _
  omega

structure EncodeState where
  written : List Char := []
  delta : Nat := 0
  bias : Nat := initialBias
  handled : Nat

/-- Passes over one character while those with code point `point` are written. -/
def EncodeState.pass (basicCount point : Nat) (s : EncodeState) (c : Nat) : Run EncodeState :=
  if c < point then do
    let delta ← checked (s.delta + 1)
    return { s with delta }
  else if c = point then do
    let digits ← encodeNumber s.bias base s.delta
    let handled ← trusted (s.handled + 1)
    let bias ← adapt s.delta handled (s.handled == basicCount)
    return ⟨s.written ++ digits, 0, bias, handled⟩
  else .ok s

def nextPoint? (points : List Nat) (point : Nat) : Option Nat :=
  (points.filter fun c => decide (point ≤ c)).min?

theorem nextPoint?_mem {points : List Nat} {point next : Nat}
    (h : nextPoint? points point = some next) : next ∈ points ∧ point ≤ next := by
  have := List.min?_mem h
  simpa using this

theorem countP_lt_of_mem {points : List Nat} {point next : Nat} (mem : next ∈ points)
    (le : point ≤ next) :
    points.countP (fun c => decide (next + 1 ≤ c)) < points.countP (fun c => decide (point ≤ c)) := by
  have atMost (ps : List Nat) : ps.countP (fun c => decide (next + 1 ≤ c))
      ≤ ps.countP (fun c => decide (point ≤ c)) :=
    List.countP_mono_left fun c _ above => by simp only [decide_eq_true_eq] at above ⊢; omega
  induction points with
  | nil => simp at mem
  | cons p ps ih =>
    have below := atMost ps
    simp only [List.countP_cons, decide_eq_true_eq]
    rcases List.mem_cons.mp mem with rfl | later
    · rw [if_neg (by omega), if_pos le]; omega
    · have := ih later
      split <;> split <;> omega

/-- Writes the characters in the order of their code points, from `point` on. -/
def encodeFrom (points : List Nat) (basicCount point : Nat) (s : EncodeState) : Run (List Char) :=
  if points.length ≤ s.handled then .ok s.written
  else
    match _found : nextPoint? points point with
    | none => .error .fault
    | some next =>
      match roundFrom next with
      | .error e => .error e
      | .ok s => encodeFrom points basicCount (next + 1) s
termination_by points.countP fun c => decide (point ≤ c)
decreasing_by
  have := nextPoint?_mem _found
  exact countP_lt_of_mem this.1 this.2
where
  /-- One pass over all characters. -/
  roundFrom (next : Nat) : Run EncodeState := do
    let gap ← minus next point
    let size ← trusted (s.handled + 1)
    let jump ← checked (gap * size)
    let delta ← checked (s.delta + jump)
    let s ← points.foldlM (EncodeState.pass basicCount next) { s with delta }
    let delta ← trusted (s.delta + 1)
    let _ ← trusted (next + 1)
    return { s with delta }

def encodeChars (cs : List Char) : Run (List Char) := do
  let basic := cs.filter isAscii
  let basicCount ← checked basic.length
  let _ ← checked cs.length
  let digits ← encodeFrom (cs.map Char.toNat) basicCount initialPoint { handled := basicCount }
  return basic ++ (if basic.isEmpty then [] else ['-']) ++ digits

/-- The label that a text without its `xn--` mark stands for. -/
def decode? (text : String) : Option String :=
  (decodeChars text.toList).toOption.map String.ofList

def encode? (label : String) : Option String :=
  (encodeChars label.toList).toOption.map String.ofList

end DomainRegistry.Punycode
