import DomainRegistry.Proofs.Answers
import DomainRegistry.Proofs.Text.Blanks
import DomainRegistry.Proofs.Text.Hexadecimal
import DomainRegistry.Proofs.Text.Splits
import DomainRegistry.Record.Resource
import Mathlib.Algebra.Group.Nat.Defs

/-!
Sets of named bits as texts. Main statement: every set, bits without a name included, is read back
from its text.
-/

namespace DomainRegistry

namespace Text

structure Word (cs : List Char) : Prop where
  filled : cs ≠ []
  solid : ∀ c ∈ cs, isBlank c = false
  undivided : '|' ∉ cs

variable {parts : List (List Char)} {lead : List Char}

theorem isBlank_of_spaces (blank : ∀ c ∈ lead, c = ' ') : ∀ c ∈ lead, isBlank c = true := by
  intro c member
  rw [blank c member]
  rfl

theorem splitAll_intercalate (words : ∀ p ∈ parts, Word p) (some : parts ≠ [])
    (blank : ∀ c ∈ lead, c = ' ') :
    (splitAll '|' (lead ++ [' ', '|', ' '].intercalate parts)).map trim = parts := by
  -- After the first word there is a blank before each, which is why the lead is general.
  induction parts generalizing lead with
  | nil => exact absurd rfl some
  | cons p parts ih =>
    have one : ∀ c ∈ [' '], c = ' ' := fun _ => List.mem_singleton.mp
    have lead_undivided : '|' ∉ lead := fun member => absurd (blank '|' member) (by decide)
    obtain ⟨word, others⟩ := List.forall_mem_cons.mp words
    have alone : trim (lead ++ (p ++ [])) = p :=
      trim_between (isBlank_of_spaces blank) (List.forall_mem_nil _) word.solid word.filled
    have spaced : trim (lead ++ (p ++ [' '])) = p :=
      trim_between (isBlank_of_spaces blank) (isBlank_of_spaces one) word.solid word.filled
    cases parts with
    | nil =>
      rw [List.append_nil] at alone
      have undivided : '|' ∉ lead ++ p := by
        rw [List.mem_append, not_or]
        exact ⟨lead_undivided, word.undivided⟩
      rw [List.intercalate_singleton, splitAll_of_not_mem undivided, List.map_singleton, alone]
    | cons q parts =>
      have undivided : '|' ∉ lead ++ (p ++ [' ']) := by
        rw [List.mem_append, List.mem_append, not_or, not_or]
        exact ⟨lead_undivided, word.undivided, by decide⟩
      have parted : lead ++ [' ', '|', ' '].intercalate (p :: q :: parts)
          = (lead ++ (p ++ [' ']))
              ++ '|' :: ([' '] ++ [' ', '|', ' '].intercalate (q :: parts)) := by
        rw [List.intercalate_cons_cons]
        simp
      rw [parted, splitAll_append undivided, List.map_cons, spaced,
        ih others (List.cons_ne_nil _ _) one]

end Text

namespace Flags

open Text

variable {names : List String} {bits limit : Nat}

structure Distinguishable (names : List String) : Prop where
  distinct : names.Nodup
  words : ∀ name ∈ names, Word name.toList
  unmarked : ∀ name ∈ names, dropLead hexMark name.toList = none

def bitsOf : (names : List String) → (place bits : Nat) → List Nat
  | [], _, _ => []
  | _ :: names, place, bits =>
    (if bits % 2 = 1 then [2 ^ place] else []) ++ bitsOf names (place + 1) (bits / 2)

theorem mem_namesOf {name : String} (member : name ∈ namesOf names bits) : name ∈ names := by
  induction names generalizing bits with
  | nil => cases member
  | cons known names ih =>
    rw [namesOf, List.mem_append] at member
    rcases member with here | later
    · split at here
      · rw [List.mem_singleton.mp here]
        exact List.mem_cons_self
      · cases here
    · exact List.mem_cons_of_mem _ (ih later)

theorem map_bitOf? (distinct : names.Nodup) (place bits : Nat) :
    (namesOf names bits).map (bitOf? names (2 ^ place)) = (bitsOf names place bits).map some := by
  induction names generalizing place bits with
  | nil => rfl
  | cons known names ih =>
    obtain ⟨fresh, distinct⟩ := List.nodup_cons.mp distinct
    have later : (namesOf names (bits / 2)).map (bitOf? (known :: names) (2 ^ place))
        = (namesOf names (bits / 2)).map (bitOf? names (2 ^ (place + 1))) := by
      refine List.map_congr_left fun name member => ?_
      have other : name ≠ known := by
        rintro rfl
        exact fresh (mem_namesOf member)
      rw [bitOf?, if_neg other, Nat.pow_succ']
    rw [namesOf, bitsOf, List.map_append, List.map_append, later, ih distinct]
    by_cases given : bits % 2 = 1
    · simp [given, bitOf?]
    · simp [given]

/-- Taken together, the bits of the names are those below the nameless ones. -/
theorem foldl_bitsOf (start place bits : Nat) :
    (bitsOf names place bits).foldl (· ||| ·) start
      = start ||| (bits % 2 ^ names.length) <<< place := by
  induction names generalizing start place bits with
  | nil =>
    rw [List.length_nil, Nat.pow_zero, Nat.mod_one, Nat.zero_shiftLeft, Nat.or_zero]
    rfl
  | cons known names ih =>
    have lowest : (if bits % 2 = 1 then [2 ^ place] else []).foldl (· ||| ·) start
        = start ||| (bits % 2) <<< place := by
      by_cases given : bits % 2 = 1
      · rw [if_pos given, given, Nat.one_shiftLeft]
        rfl
      · have zero : bits % 2 = 0 := by omega
        rw [if_neg given, zero, Nat.zero_shiftLeft, Nat.or_zero]
        rfl
    have parts : bits % 2 ^ (names.length + 1)
        = (bits / 2 % 2 ^ names.length) <<< 1 ||| bits % 2 := by
      rw [← Nat.shiftLeft_add_eq_or_of_lt (Nat.mod_lt bits (by decide)), Nat.pow_succ', Nat.mod_mul,
        Nat.shiftLeft_eq, Nat.pow_one]
      omega
    rw [bitsOf, List.foldl_append, lowest, ih, List.length_cons, parts, Nat.shiftLeft_or_distrib,
      ← Nat.shiftLeft_add, Nat.or_assoc, Nat.or_comm ((bits % 2) <<< place), Nat.add_comm 1]

theorem or_nameless : (bits % 2 ^ names.length) ||| nameless names bits = bits := by
  have low : bits % 2 ^ names.length < 2 ^ names.length := Nat.mod_lt _ (Nat.two_pow_pos _)
  rw [nameless, Nat.or_comm]
  change bits / 2 ^ names.length * 2 ^ names.length ||| _ = bits
  rw [← Nat.shiftLeft_eq, ← Nat.shiftLeft_add_eq_or_of_lt low, Nat.shiftLeft_eq, Nat.mul_comm,
    Nat.div_add_mod]

def wordsOf (names : List String) (bits : Nat) : List (List Char) :=
  (namesOf names bits).map String.toList
    ++ if nameless names bits = 0 then [] else [hexMark ++ hexLower (nameless names bits)]

def valuesOf (names : List String) (bits : Nat) : List Nat :=
  bitsOf names 0 bits ++ if nameless names bits = 0 then [] else [nameless names bits]

theorem toList_render :
    (render names bits).toList = [' ', '|', ' '].intercalate (wordsOf names bits) := by
  unfold render wordsOf join
  dsimp only
  rw [String.toList_intercalate, List.map_append]
  congr 2
  split <;> simp

theorem word_hex (n : Nat) : Word (hexMark ++ hexLower n) := by
  have each : ∀ d : Fin 16, isBlank d.val.digitChar = false ∧ d.val.digitChar ≠ '|' := by decide
  have digits : ∀ c ∈ hexLower n, isBlank c = false ∧ c ≠ '|' := by
    intro c member
    obtain ⟨d, small, rfl⟩ := mem_toDigits (by decide) member
    exact each ⟨d, small⟩
  have mark_solid : ∀ c ∈ hexMark, isBlank c = false :=
    List.forall_mem_cons.mpr ⟨rfl, List.forall_mem_cons.mpr ⟨rfl, List.forall_mem_nil _⟩⟩
  refine ⟨by simp [hexMark], ?_, ?_⟩
  · intro c member
    rcases List.mem_append.mp member with mark | digit
    · exact mark_solid c mark
    · exact (digits c digit).1
  · intro member
    rcases List.mem_append.mp member with mark | digit
    · exact absurd mark (by decide)
    · exact (digits '|' digit).2 rfl

theorem word_of_mem_wordsOf (known : Distinguishable names) :
    ∀ w ∈ wordsOf names bits, Word w := by
  intro w member
  rcases List.mem_append.mp member with named | rest
  · obtain ⟨name, listed, rfl⟩ := List.mem_map.mp named
    exact known.words name (mem_namesOf listed)
  · split at rest
    · cases rest
    · rw [List.mem_singleton.mp rest]
      exact word_hex _

theorem map_part? (known : Distinguishable names) (small : bits < limit) :
    (wordsOf names bits).map (part? names limit) = (valuesOf names bits).map some := by
  have named : ((namesOf names bits).map String.toList).map (part? names limit)
      = (bitsOf names 0 bits).map some := by
    rw [← map_bitOf? known.distinct, List.map_map]
    refine List.map_congr_left fun name member => ?_
    rw [Function.comp_apply, part?, known.unmarked name (mem_namesOf member)]
    dsimp only
    rw [String.ofList_toList, Nat.pow_zero]
  have least : nameless names bits < limit :=
    Nat.lt_of_le_of_lt (Nat.div_mul_le_self bits _) small
  have marked : dropLead hexMark (hexMark ++ hexLower (nameless names bits))
      = some (hexLower (nameless names bits)) := dropLead_eq_some_iff.mpr rfl
  rw [wordsOf, valuesOf, List.map_append, List.map_append, named]
  split
  · rfl
  · rw [List.map_singleton, List.map_singleton, part?, marked]
    dsimp only
    rw [boundedHex?_hexLower least]

theorem foldl_valuesOf : (valuesOf names bits).foldl (· ||| ·) 0 = bits := by
  rw [valuesOf, List.foldl_append, foldl_bitsOf, Nat.zero_or, Nat.shiftLeft_zero]
  by_cases none : nameless names bits = 0
  · have all : bits % 2 ^ names.length ||| nameless names bits = bits := or_nameless
    rw [none, Nat.or_zero] at all
    rw [if_pos none]
    exact all
  · rw [if_neg none]
    exact or_nameless

theorem parse?_render (known : Distinguishable names) (small : bits < limit) :
    parse? names limit (render names bits) = some bits := by
  have words : ∀ w ∈ wordsOf names bits, Word w := word_of_mem_wordsOf known
  have read := mapM_eq_some (map_part? known small)
  by_cases none : wordsOf names bits = []
  · -- A set without words is the empty one.
    have same := map_part? known small
    rw [none, List.map_nil, eq_comm, List.map_eq_nil_iff] at same
    have zero : (valuesOf names bits).foldl (· ||| ·) 0 = bits := foldl_valuesOf
    rw [same] at zero
    rw [parse?, toList_render, none, ← zero]
    rfl
  · obtain ⟨w, ws, parts⟩ := List.exists_cons_of_ne_nil none
    have first := words w (parts ▸ List.mem_cons_self)
    obtain ⟨c, cs, rfl⟩ := List.exists_cons_of_ne_nil first.filled
    have visible : trim (render names bits).toList ≠ [] := by
      refine trim_ne_nil (c := c) ?_ (first.solid c List.mem_cons_self)
      rw [toList_render, parts, intercalate_cons]
      exact List.mem_append_left _ List.mem_cons_self
    have split := splitAll_intercalate words none (List.forall_mem_nil _)
    rw [← split, List.mapM_map, List.nil_append, ← toList_render] at read
    rw [parse?, if_neg (by rwa [List.isEmpty_iff])]
    change ((splitAll '|' (render names bits).toList).mapM (part? names limit ∘ trim)).map _ = _
    rw [read, Option.map_some, foldl_valuesOf]

def isDistinct (name : String) : Bool :=
  !name.toList.isEmpty && name.toList.all (fun c => !isBlank c && c != '|')
    && (dropLead hexMark name.toList).isNone

theorem distinguishable_of_all (distinct : names.Nodup) (all : names.all isDistinct = true) :
    Distinguishable names := by
  have each : ∀ name ∈ names, Word name.toList ∧ dropLead hexMark name.toList = none := by
    intro name member
    have this := List.all_eq_true.mp all name member
    simp only [isDistinct, Bool.and_eq_true, Bool.not_eq_eq_eq_not, Bool.not_true,
      List.isEmpty_eq_false_iff, List.all_eq_true, bne_iff_ne, Option.isNone_iff_eq_none] at this
    obtain ⟨⟨filled, plain⟩, unmarked⟩ := this
    exact ⟨⟨filled, fun c listed => (plain c listed).1, fun bar => (plain '|' bar).2 rfl⟩, unmarked⟩
  exact ⟨distinct, fun name member => (each name member).1, fun name member => (each name member).2⟩

end Flags

open Flags

theorem GraceKinds.parse?_render (k : GraceKinds) : parse? k.render = some k := by
  have known : Distinguishable names := distinguishable_of_all (by decide) (by decide)
  rw [parse?, render, Flags.parse?_render known k.bits.toNat_lt, Option.map_some,
    UInt8.ofNat_toNat]

theorem Status.parse?_render (s : Status) : parse? s.render = some s := by
  have known : Distinguishable names := distinguishable_of_all (by decide) (by decide)
  rw [parse?, render, Flags.parse?_render known s.bits.toNat_lt, Option.map_some,
    UInt16.ofNat_toNat]

end DomainRegistry
