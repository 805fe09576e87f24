import DomainRegistry.Proofs.Text.Hexadecimal
import DomainRegistry.Proofs.Text.Splits
import DomainRegistry.Record.IpAddress
import Mathlib.Data.List.Basic

/-!
Internet addresses as texts. Main statement: every address is read back from its text, wherever the
zeros that are left out stand and whether its end is written like an address of the shorter kind.
-/

namespace DomainRegistry.IpAddress

open Text

section Numbers

variable {digit? : Char → Option Nat} {radix width : Nat} {ds cs rest : List Char}

theorem scanNumber_append (digits : ∀ c ∈ ds, (digit? c).isSome = true) (filled : ds ≠ [])
    (fits : ds.length ≤ width) (stop : ∀ c ∈ rest.head?, (digit? c).isSome = false) :
    scanNumber digit? radix width (ds ++ rest) = some (digitSum digit? radix ds, rest) := by
  have scanned : (ds ++ rest).takeWhile (fun c => (digit? c).isSome) = ds :=
    takeWhile_append_stop digits stop
  have short : (ds.isEmpty || decide (width < ds.length)) = false := by simp [filled, fits]
  unfold scanNumber
  dsimp only
  rw [scanned, short, List.drop_left]
  rfl

theorem scanNumber_stop (stop : ∀ c ∈ cs.head?, (digit? c).isSome = false) :
    scanNumber digit? radix width cs = none := by
  have scanned : cs.takeWhile (fun c => (digit? c).isSome) = [] :=
    takeWhile_append_stop (List.forall_mem_nil _) stop
  unfold scanNumber
  dsimp only
  rw [scanned]
  rfl

theorem suffix_of_scanNumber {n : Nat}
    (scanned : scanNumber digit? radix width cs = some (n, rest)) : rest <:+ cs := by
  unfold scanNumber at scanned
  dsimp only at scanned
  split at scanned
  · cases scanned
  · cases scanned
    exact List.drop_suffix _ _

end Numbers

section Short

variable {a b c d : UInt8} {cs rest : List Char}

theorem decimalDigit?_isSome (x : Char) : (decimalDigit? x).isSome = isDigitAscii x := by
  unfold decimalDigit?
  cases isDigitAscii x with
  | true => rfl
  | false => rfl

theorem decimalDigit?_digitChar : ∀ d < 10, decimalDigit? d.digitChar = some d := by
  have each : ∀ i : Fin 10, decimalDigit? i.val.digitChar = some i.val := by decide
  intro d small
  exact each ⟨d, small⟩

def byteDigits (b : UInt8) : List Char := Nat.toDigits 10 b.toNat

theorem byteDigits_ne_nil : byteDigits b ≠ [] := Nat.toDigits_ne_nil

theorem isDigitAscii_of_mem_byteDigits {x : Char} (member : x ∈ byteDigits b) :
    isDigitAscii x = true := isDigitAscii_of_mem_toDigits member

theorem length_byteDigits_le : (byteDigits b).length ≤ 3 := by
  have fits : b.toNat < Nat.pow 10 3 := Nat.lt_of_lt_of_le b.toNat_lt (by decide)
  exact length_toDigits_le fits (by decide)

theorem length_byteDigits_of_zero (zero : (byteDigits b).head? = some '0') :
    (byteDigits b).length = 1 := by
  by_cases none : b.toNat = 0
  · rw [byteDigits, none]
    rfl
  · exact absurd rfl (head?_toDigits_ne_zero (by decide) (by decide) (by omega) '0' zero)

theorem scanByte_append (stop : ∀ x ∈ rest.head?, isDigitAscii x = false) :
    scanByte (byteDigits b ++ rest) = some (b, rest) := by
  have scanned : scanNumber decimalDigit? 10 3 (byteDigits b ++ rest) = some (b.toNat, rest) := by
    have value : digitSum decimalDigit? 10 (byteDigits b) = b.toNat :=
      digitSum_toDigits (by decide) decimalDigit?_digitChar b.toNat
    rw [scanNumber_append _ byteDigits_ne_nil length_byteDigits_le, value]
    · intro x first
      rw [decimalDigit?_isSome, stop x first]
    · intro x member
      rw [decimalDigit?_isSome, isDigitAscii_of_mem_byteDigits member]
  have plain : ¬(255 < b.toNat ∨ ((byteDigits b ++ rest).head? = some '0'
      ∧ (byteDigits b ++ rest).length ≠ rest.length + 1)) := by
    have small := b.toNat_lt
    rintro (large | ⟨zero, long⟩)
    · omega
    · rw [List.head?_append_of_ne_nil _ byteDigits_ne_nil] at zero
      rw [List.length_append, length_byteDigits_of_zero zero] at long
      omega
  rw [scanByte, scanned]
  dsimp only
  rw [if_neg plain, UInt8.ofNat_toNat]

theorem suffix_of_scanByte (scanned : scanByte cs = some (b, rest)) : rest <:+ cs := by
  unfold scanByte at scanned
  split at scanned
  · next n after found =>
    split at scanned
    · cases scanned
    · cases scanned
      exact suffix_of_scanNumber found
  · cases scanned

def dotted (a b c d : UInt8) : List Char :=
  byteDigits a ++ '.' :: (byteDigits b ++ '.' :: (byteDigits c ++ '.' :: byteDigits d))

theorem toList_renderV4 : (renderV4 a b c d).toList = dotted a b c d := by
  unfold renderV4 join
  simp [Nat.repr_eq_ofList_toDigits, dotted, byteDigits]

theorem scanDot_cons : scanDot ('.' :: rest) = some rest := rfl

theorem scanV4_dotted (stop : ∀ x ∈ rest.head?, isDigitAscii x = false) :
    scanV4 (dotted a b c d ++ rest) = some ((a, b, c, d), rest) := by
  have point (more : List Char) : ∀ x ∈ ('.' :: more).head?, isDigitAscii x = false := by
    intro x first
    cases first
    rfl
  unfold scanV4 dotted
  simp only [List.append_assoc, List.cons_append, scanByte_append (point _), scanDot_cons,
    scanByte_append stop, bind, Option.bind, pure]

theorem scanV4_dotted_whole (a b c d : UInt8) :
    scanV4 (dotted a b c d) = some ((a, b, c, d), []) := by
  have scanned : scanV4 (dotted a b c d ++ []) = some ((a, b, c, d), []) :=
    scanV4_dotted (by intro x first; cases first)
  rwa [List.append_nil] at scanned

/-- A text without a point is no address of the shorter kind. -/
theorem scanV4_of_undotted (undotted : '.' ∉ cs) : scanV4 cs = none := by
  unfold scanV4
  cases scanned : scanByte cs with
  | none => rfl
  | some read =>
    obtain ⟨b, rest⟩ := read
    have missing : scanDot rest = none := by
      refine dropLead_eq_none_iff.mpr fun led => undotted ?_
      exact (suffix_of_scanByte scanned).mem (led.mem List.mem_cons_self)
    simp only [bind, Option.bind, missing]

theorem scanV4_stop (stop : ∀ x ∈ cs.head?, isDigitAscii x = false) : scanV4 cs = none := by
  have scanned : scanByte cs = none := by
    rw [scanByte, scanNumber_stop]
    intro x first
    rw [decimalDigit?_isSome, stop x first]
  unfold scanV4
  rw [scanned]
  rfl

end Short

section Groups

variable {g : UInt16} {gs : List UInt16} {limit : Nat} {first : Bool} {cs text rest : List Char}

def groupDigits (g : UInt16) : List Char := hexLower g.toNat

theorem groupDigits_ne_nil : groupDigits g ≠ [] := Nat.toDigits_ne_nil

theorem isHexDigit_of_mem_groupDigits {c : Char} (member : c ∈ groupDigits g) :
    isHexDigit c = true := isHexDigit_of_mem_hexLower member

theorem length_groupDigits_le : (groupDigits g).length ≤ 4 := by
  have fits : g.toNat < 16 ^ 4 := g.toNat_lt
  exact (Nat.length_toDigits_le_iff (by decide) (by decide)).mpr fits

theorem scanGroup_append (stop : ∀ c ∈ rest.head?, isHexDigit c = false) :
    scanNumber hexDigitValue? 16 4 (groupDigits g ++ rest) = some (g.toNat, rest) := by
  have value : digitSum hexDigitValue? 16 (groupDigits g) = g.toNat :=
    digitSum_toDigits (by decide) readAlike_id g.toNat
  rw [scanNumber_append (fun _ => isHexDigit_of_mem_groupDigits) groupDigits_ne_nil
    length_groupDigits_le stop, value]

def laterGroups (gs : List UInt16) : List Char := gs.flatMap fun g => ':' :: groupDigits g

def groupText : List UInt16 → List Char
  | [] => []
  | g :: gs => groupDigits g ++ laterGroups gs

theorem toList_renderGroups (gs : List UInt16) : (renderGroups gs).toList = groupText gs := by
  unfold renderGroups join
  rw [String.toList_intercalate]
  cases gs with
  | nil => rfl
  | cons g gs =>
    have later : ((gs.map fun g => String.ofList (hexLower g.toNat)).map String.toList).flatMap
        (":".toList ++ ·) = laterGroups gs := by
      simp [laterGroups, groupDigits, List.flatMap_map]
    rw [List.map_cons, List.map_cons, intercalate_cons, later, String.toList_ofList]
    rfl

theorem undotted_groupDigits : '.' ∉ groupDigits g := fun member =>
  absurd (isHexDigit_of_mem_groupDigits member) (by decide)

theorem undotted_laterGroups : '.' ∉ laterGroups gs := by
  intro member
  obtain ⟨g, _, listed⟩ := List.mem_flatMap.mp member
  rcases List.mem_cons.mp listed with colon | digit
  · exact absurd colon (by decide)
  · exact undotted_groupDigits digit

theorem undotted_groupText : '.' ∉ groupText gs := by
  cases gs with
  | nil => exact List.not_mem_nil
  | cons g gs =>
    intro member
    rcases List.mem_append.mp member with digit | later
    · exact undotted_groupDigits digit
    · exact undotted_laterGroups later

/-- What a scan for groups looks at: the text itself, or what a colon precedes. -/
def lookAt (first : Bool) (cs : List Char) : Option (List Char) :=
  if first then some cs else scanColon cs

theorem scanGroups_nothing (undotted : (lookAt first cs).bind scanV4 = none)
    (empty : (lookAt first cs).bind (scanNumber hexDigitValue? 16 4) = none) :
    scanGroups limit first cs = ⟨[], false, cs⟩ := by
  unfold lookAt at undotted empty
  cases limit with
  | zero => rfl
  | succ limit =>
    unfold scanGroups
    dsimp only
    rw [undotted, ite_self, empty]

theorem scanGroups_group {n : Nat} {more : Groups}
    (undotted : (lookAt first cs).bind scanV4 = none)
    (read : (lookAt first cs).bind (scanNumber hexDigitValue? 16 4) = some (n, rest))
    (later : scanGroups limit false rest = more) :
    scanGroups (limit + 1) first cs = ⟨UInt16.ofNat n :: more.groups, more.dotted, more.rest⟩ := by
  unfold lookAt at undotted read
  rw [scanGroups]
  dsimp only
  rw [undotted, ite_self, read, ← later]

theorem scanGroups_dotted {a b c d : UInt8}
    (read : (lookAt first cs).bind scanV4 = some ((a, b, c, d), rest)) :
    scanGroups (limit + 2) first cs = ⟨[word a b, word c d], true, rest⟩ := by
  unfold lookAt at read
  rw [scanGroups]
  dsimp only
  rw [if_neg (Nat.succ_ne_zero _), read]

theorem scanGroups_stop (quiet : ∀ text ∈ lookAt first cs, ∀ c ∈ text.head?, isHexDigit c = false) :
    scanGroups limit first cs = ⟨[], false, cs⟩ := by
  have seen (text : List Char) (looked : lookAt first cs = some text) :
      scanV4 text = none ∧ scanNumber hexDigitValue? 16 4 text = none := by
    refine ⟨scanV4_stop fun c head => ?_, scanNumber_stop (quiet text looked)⟩
    have other := quiet text looked c head
    unfold isHexDigit hexDigitValue? at other
    split at other
    · cases other
    · next digit => exact Bool.eq_false_iff.mpr digit
  cases looked : lookAt first cs with
  | none => exact scanGroups_nothing (by rw [looked]; rfl) (by rw [looked]; rfl)
  | some text =>
    obtain ⟨undotted, empty⟩ := seen text looked
    exact scanGroups_nothing (by rw [looked]; exact undotted) (by rw [looked]; exact empty)

inductive AfterGroups : List Char → Prop
  | done : AfterGroups []
  | zeros (more : List Char) : AfterGroups (':' :: ':' :: more)

theorem AfterGroups.quiet (after : AfterGroups rest) :
    ∀ text ∈ lookAt first rest, ∀ c ∈ text.head?, isHexDigit c = false := by
  intro text looked c head
  cases after with
  | done =>
    cases first with
    | true => cases looked; cases head
    | false => cases looked
  | zeros more =>
    cases first with
    | true => cases looked; cases head; rfl
    | false => cases looked; cases head; rfl

theorem AfterGroups.stop (after : AfterGroups rest) :
    ∀ c ∈ (laterGroups gs ++ rest).head?, isHexDigit c = false := by
  intro c head
  cases gs with
  | nil =>
    cases after with
    | done => cases head
    | zeros more => cases head; rfl
  | cons g gs => cases head; rfl

theorem scanGroups_cons
    (looked : lookAt first cs = some (groupDigits g ++ (laterGroups gs ++ rest)))
    (undotted : '.' ∉ rest) (after : AfterGroups rest)
    (later : scanGroups limit false (laterGroups gs ++ rest) = ⟨gs, false, rest⟩) :
    scanGroups (limit + 1) first cs = ⟨g :: gs, false, rest⟩ := by
  have plain : '.' ∉ groupDigits g ++ (laterGroups gs ++ rest) := by
    simp [undotted_groupDigits, undotted_laterGroups, undotted]
  have read : scanNumber hexDigitValue? 16 4 (groupDigits g ++ (laterGroups gs ++ rest))
      = some (g.toNat, laterGroups gs ++ rest) := scanGroup_append after.stop
  rw [scanGroups_group (by rw [looked]; exact scanV4_of_undotted plain)
    (by rw [looked]; exact read) later, UInt16.ofNat_toNat]

theorem scanGroups_later (few : gs.length ≤ limit) (undotted : '.' ∉ rest)
    (after : AfterGroups rest) :
    scanGroups limit false (laterGroups gs ++ rest) = ⟨gs, false, rest⟩ := by
  induction gs generalizing limit with
  | nil => exact scanGroups_stop after.quiet
  | cons g gs ih =>
    cases limit with
    | zero => exact absurd few (Nat.not_succ_le_zero _)
    | succ limit =>
      have looked : lookAt false (laterGroups (g :: gs) ++ rest)
          = some (groupDigits g ++ (laterGroups gs ++ rest)) := by
        simp [lookAt, laterGroups, scanColon, dropLead]
      exact scanGroups_cons looked undotted after (ih (Nat.le_of_succ_le_succ few))

theorem scanGroups_text (few : gs.length ≤ limit) (undotted : gs = [] ∨ '.' ∉ rest)
    (after : AfterGroups rest) :
    scanGroups limit true (groupText gs ++ rest) = ⟨gs, false, rest⟩ := by
  cases gs with
  | nil => exact scanGroups_stop after.quiet
  | cons g gs =>
    have undotted : '.' ∉ rest := undotted.resolve_left (List.cons_ne_nil _ _)
    cases limit with
    | zero => exact absurd few (Nat.not_succ_le_zero _)
    | succ limit =>
      have looked : lookAt true (groupText (g :: gs) ++ rest)
          = some (groupDigits g ++ (laterGroups gs ++ rest)) := by
        simp [lookAt, groupText]
      exact scanGroups_cons looked undotted after
        (scanGroups_later (Nat.le_of_succ_le_succ few) undotted after)

end Groups

section Zeros

variable {groups head : List UInt16} {start run : Nat} {text : List Char}

/-- Groups are what is left of them when zeros are left out, with the zeros put back. -/
def Elides (groups : List UInt16) (start run : Nat) : Prop :=
  groups.take start ++ List.replicate run 0 ++ groups.drop (start + run) = groups

theorem replicate_zeroRun (gs : List UInt16) :
    List.replicate (zeroRun gs) 0 ++ gs.drop (zeroRun gs) = gs := by
  induction gs with
  | nil => rfl
  | cons g gs ih =>
    by_cases zero : g = 0
    · have longer : zeroRun (g :: gs) = zeroRun gs + 1 := by simp [zeroRun, zero]
      rw [longer, List.replicate_succ, List.drop_succ_cons, List.cons_append, ih, zero]
    · have none : zeroRun (g :: gs) = 0 := by simp [zeroRun, zero]
      rw [none]
      rfl

theorem elides_zeroRun (groups : List UInt16) (start : Nat) :
    Elides groups start (zeroRun (groups.drop start)) := by
  rw [Elides, ← List.drop_drop, List.append_assoc, replicate_zeroRun, List.take_append_drop]

theorem elides_longestRun (groups : List UInt16) :
    Elides groups (longestRun groups).1 (longestRun groups).2 := by
  -- Whatever places are looked at, the best one so far starts a run of zeros.
  have best (starts : List Nat) (place : Nat × Nat) (elides : Elides groups place.1 place.2) :
      Elides groups
        (starts.foldl (fun best start =>
          let run := zeroRun (groups.drop start)
          if best.2 < run then (start, run) else best) place).1
        (starts.foldl (fun best start =>
          let run := zeroRun (groups.drop start)
          if best.2 < run then (start, run) else best) place).2 := by
    induction starts generalizing place with
    | nil => exact elides
    | cons start starts ih =>
      rw [List.foldl_cons]
      apply ih
      dsimp only
      split
      · exact elides_zeroRun groups start
      · exact elides
  exact best (List.range groups.length) (0, 0) (by simp [Elides])

theorem scanV6_elided {tail : Groups} {address : IpAddress} (few : head.length ≤ 6)
    (undotted : head = [] ∨ '.' ∉ text) (scanned : scanGroups (7 - head.length) true text = tail)
    (whole : ofGroups? (head ++ List.replicate (8 - head.length - tail.groups.length) 0
      ++ tail.groups) = some address) :
    scanV6 (groupText head ++ ':' :: ':' :: text) = some (address, tail.rest) := by
  have undotted : head = [] ∨ '.' ∉ ':' :: ':' :: text := by simpa using undotted
  have first : scanGroups 8 true (groupText head ++ ':' :: ':' :: text)
      = ⟨head, false, ':' :: ':' :: text⟩ := scanGroups_text (by omega) undotted (.zeros text)
  have short : head.length ≠ 8 := by omega
  unfold scanV6
  dsimp only
  rw [first]
  dsimp only
  rw [if_neg short, if_neg Bool.false_ne_true]
  simp only [scanColon, dropLead, bind, Option.bind, pure, if_true]
  rw [scanned, whole]

def elidedText (groups : List UInt16) (start run : Nat) : List Char :=
  groupText (groups.take start) ++ ':' :: ':' :: groupText (groups.drop (start + run))

theorem undotted_elidedText : '.' ∉ elidedText groups start run := by
  simp [elidedText, undotted_groupText]

theorem scanV6_elidedText (eight : groups.length = 8) (elides : Elides groups start run)
    (several : 1 < run) : scanV6 (elidedText groups start run) = some (.v6 groups eight, []) := by
  have lengths := congrArg List.length elides
  simp only [List.length_append, List.length_take, List.length_replicate, List.length_drop]
    at lengths
  have count : 8 - (groups.take start).length - (groups.drop (start + run)).length = run := by
    rw [List.length_take, List.length_drop]
    omega
  have few : (groups.take start).length ≤ 6 := by
    rw [List.length_take]
    omega
  have rest : (groups.drop (start + run)).length ≤ 7 - (groups.take start).length := by
    rw [List.length_take, List.length_drop]
    omega
  have scanned := scanGroups_text rest (.inr List.not_mem_nil) .done
  rw [List.append_nil] at scanned
  refine scanV6_elided few (.inr undotted_groupText) scanned ?_
  dsimp only
  rw [count, elides, ofGroups?, dif_pos eight]

theorem scanV6_whole (eight : groups.length = 8) :
    scanV6 (groupText groups) = some (.v6 groups eight, []) := by
  have all : scanGroups 8 true (groupText groups ++ []) = ⟨groups, false, []⟩ :=
    scanGroups_text (by omega) (.inr List.not_mem_nil) .done
  rw [List.append_nil] at all
  unfold scanV6
  dsimp only
  rw [all]
  dsimp only
  rw [if_pos eight, ofGroups?, dif_pos eight]
  rfl

end Zeros

section Mapped

variable {groups : List UInt16} {high low : UInt16}

theorem word_halves (g : UInt16) :
    word (UInt8.ofNat (g.toNat / 256)) (UInt8.ofNat g.toNat) = g := by
  have small := g.toNat_lt
  have same : 256 * (UInt8.ofNat (g.toNat / 256)).toNat + (UInt8.ofNat g.toNat).toNat
      = g.toNat := by
    simp only [UInt8.toNat_ofNat']
    omega
  rw [word, same, UInt16.ofNat_toNat]

theorem eq_of_mapped? (mapped : mapped? groups = some (high, low)) :
    groups = [0, 0, 0, 0, 0, 0xffff, high, low] := by
  unfold mapped? at mapped
  split at mapped
  · cases mapped
    rfl
  · cases mapped

/-- The last two groups, written like an address of the shorter kind. -/
def mappedEnd (high low : UInt16) : List Char :=
  dotted (UInt8.ofNat (high.toNat / 256)) (UInt8.ofNat high.toNat)
    (UInt8.ofNat (low.toNat / 256)) (UInt8.ofNat low.toNat)

def mappedText (high low : UInt16) : List Char := groupDigits 0xffff ++ ':' :: mappedEnd high low

theorem scanGroups_mappedEnd :
    scanGroups 6 false (':' :: mappedEnd high low) = ⟨[high, low], true, []⟩ := by
  have scanned := scanV4_dotted_whole (UInt8.ofNat (high.toNat / 256)) (UInt8.ofNat high.toNat)
    (UInt8.ofNat (low.toNat / 256)) (UInt8.ofNat low.toNat)
  have looked : lookAt false (':' :: mappedEnd high low) = some (mappedEnd high low) := rfl
  rw [scanGroups_dotted (by rw [looked]; exact scanned), word_halves, word_halves]

theorem scanGroups_mappedText :
    scanGroups 7 true (mappedText high low) = ⟨[0xffff, high, low], true, []⟩ := by
  have undotted : scanV4 (mappedText high low) = none := by
    refine scanV4_stop fun c head => ?_
    cases head
    rfl
  have read : scanNumber hexDigitValue? 16 4 (mappedText high low)
      = some ((0xffff : UInt16).toNat, ':' :: mappedEnd high low) := by
    refine scanGroup_append fun c head => ?_
    cases head
    rfl
  have looked : lookAt true (mappedText high low) = some (mappedText high low) := rfl
  rw [scanGroups_group (by rw [looked]; exact undotted) (by rw [looked]; exact read)
    scanGroups_mappedEnd]
  rfl

end Mapped

theorem parse?_of_scanV6 {text : String} {address : IpAddress} (longer : scanV4 text.toList = none)
    (scanned : scanV6 text.toList = some (address, [])) : parse? text = some address := by
  unfold parse?
  dsimp only
  rw [longer]
  dsimp only
  rw [scanned]

theorem parse?_renderV4 (a b c d : UInt8) : parse? (renderV4 a b c d) = some (.v4 a b c d) := by
  unfold parse?
  dsimp only
  rw [toList_renderV4, scanV4_dotted_whole]

theorem parse?_renderV6 (groups : List UInt16) (eight : groups.length = 8) :
    parse? (renderV6 groups) = some (.v6 groups eight) := by
  unfold renderV6
  split
  · next high low mapped =>
    obtain rfl := eq_of_mapped? mapped
    have text : ("::ffff:" ++ renderV4 (UInt8.ofNat (high.toNat / 256)) (UInt8.ofNat high.toNat)
        (UInt8.ofNat (low.toNat / 256)) (UInt8.ofNat low.toNat)).toList
          = ':' :: ':' :: mappedText high low := by
      rw [String.toList_append, toList_renderV4]
      rfl
    apply parse?_of_scanV6
    · rw [text]
      exact scanV4_stop (by intro c head; cases head; rfl)
    · rw [text]
      have none : ([] : List UInt16).length ≤ 6 := Nat.zero_le _
      exact scanV6_elided none (.inl rfl) scanGroups_mappedText rfl
  · dsimp only
    split
    · next several =>
      have text : (renderGroups (groups.take (longestRun groups).1) ++ "::"
          ++ renderGroups (groups.drop ((longestRun groups).1 + (longestRun groups).2))).toList
            = elidedText groups (longestRun groups).1 (longestRun groups).2 := by
        simp [elidedText, toList_renderGroups]
      apply parse?_of_scanV6
      · rw [text]
        exact scanV4_of_undotted undotted_elidedText
      · rw [text]
        exact scanV6_elidedText eight (elides_longestRun groups) several
    · have text := toList_renderGroups groups
      apply parse?_of_scanV6
      · rw [text]
        exact scanV4_of_undotted undotted_groupText
      · rw [text]
        exact scanV6_whole eight

theorem parse?_render (address : IpAddress) : parse? address.render = some address := by
  cases address with
  | v4 a b c d => exact parse?_renderV4 a b c d
  | v6 groups eight => exact parse?_renderV6 groups eight

end DomainRegistry.IpAddress
