import DomainRegistry.Json.Printer
import DomainRegistry.Proofs.Bytes.Utf8

/-!
Strings of JSON there and back. Main statement: a written string is scanned as the text that it was
written for, whether it is handed over as text or as bytes.
-/

namespace DomainRegistry.Json

open Text

def isNumbered (c : Char) : Bool :=
  c.toNat < 32 && !(['\x08', '\x0c', '\n', '\r', '\t'].contains c)

section

variable (carry : Char → List Char)

def piecesOf (c : Char) : List Piece :=
  if isNumbered c then [.unit c.toNat] else (carry c).map .char

end

/--
A way to hand a text over: which characters stand for each of its own, and how the pieces of a
string make a text. Characters below 128 stand for themselves and for nothing else.
-/
structure Medium where
  spell : Spelling
  carry : Char → List Char
  carry_ascii : ∀ c, c.toNat < 128 → carry c = [c]
  carry_other : ∀ c, 128 ≤ c.toNat → ∀ d ∈ carry c, 128 ≤ d.toNat
  spells : ∀ s : String, spell (s.toList.flatMap (piecesOf carry)) = some s
  /-- Half of a character spells nothing. -/
  garbles : spell [.unit 0xD800] = none

section Spelling

variable {α : Type} {raw named : Char → List α}

theorem joinPieces_chars (cs : List Char) (rest : List Piece) :
    joinPieces raw named (cs.map .char ++ rest)
      = (joinPieces raw named rest).map (cs.flatMap raw ++ ·) := by
  induction cs with
  | nil => simp
  | cons c cs ih =>
    rw [List.map_cons, List.cons_append, joinPieces, ih]
    cases joinPieces raw named rest <;> simp

theorem joinPieces_unit {n : Nat} (small : n < 32) (rest : List Piece) :
    joinPieces raw named (.unit n :: rest)
      = (joinPieces raw named rest).map (named (Char.ofNat n) ++ ·) := by
  have high : isHighUnit n = false := by
    simp only [isHighUnit, Bool.and_eq_false_iff, decide_eq_false_iff_not]
    omega
  have low : isLowUnit n = false := by
    simp only [isLowUnit, Bool.and_eq_false_iff, decide_eq_false_iff_not]
    omega
  cases rest with
  | nil => simp [joinPieces, high, low]
  | cons piece rest => cases piece <;> simp [joinPieces, high, low]

theorem joinPieces_piecesOf {carry : Char → List Char} {form : Char → List α}
    (carried : ∀ c, (carry c).flatMap raw = form c)
    (numbered : ∀ c, c.toNat < 32 → named c = form c) (cs : List Char) :
    joinPieces raw named (cs.flatMap (piecesOf carry)) = some (cs.flatMap form) := by
  induction cs with
  | nil => rfl
  | cons c cs ih =>
    rw [List.flatMap_cons, piecesOf]
    split
    · next number =>
      have small : c.toNat < 32 := by
        simp only [isNumbered, Bool.and_eq_true, decide_eq_true_eq] at number
        exact number.1
      rw [List.singleton_append, joinPieces_unit small, ih, Char.ofNat_toNat, numbered c small]
      rfl
    · rw [joinPieces_chars, ih, carried]
      rfl

end Spelling

def Medium.text : Medium where
  spell := .ofText
  carry c := [c]
  carry_ascii _ _ := rfl
  carry_other c high d member := by rw [List.mem_singleton.mp member]; exact high
  spells s := by
    have carried (c : Char) : [c].flatMap (fun d => [d]) = [c] := rfl
    rw [Spelling.ofText, joinPieces_piecesOf carried fun _ _ => rfl]
    simp
  garbles := rfl

/-- A text that is handed over by the letters of its bytes. -/
def Medium.bytes : Medium where
  spell := .ofBytes
  carry := Bytes.letters
  carry_ascii _ := Bytes.letters_of_lt
  carry_other _ high _ := Bytes.le_of_mem_letters high
  spells s := by
    have carried (c : Char) : (Bytes.letters c).flatMap (fun d => [UInt8.ofNat d.toNat])
        = String.utf8EncodeChar c := by
      simp only [Bytes.letters, List.flatMap_map, Bytes.ofNat_toNat_letter, List.flatMap_singleton']
    have numbered (c : Char) : Bytes.ofString (String.singleton c) = String.utf8EncodeChar c := by
      rw [String.singleton_eq_ofList, Bytes.ofString_ofList, List.flatMap_singleton]
    rw [Spelling.ofBytes, joinPieces_piecesOf carried fun c _ => numbered c, Option.bind_some,
      ← Bytes.ofString_ofList, String.ofList_toList, Bytes.toString?_ofString]
  garbles := rfl

def putBefore (pieces : List Piece) (scanned : List Piece × List Char) : List Piece × List Char :=
  (pieces ++ scanned.1, scanned.2)

variable {c : Char} {rest : List Char}

def IsPlain (c : Char) : Prop := c ≠ quote ∧ c ≠ '\\' ∧ 32 ≤ c.toNat

theorem scanPieces_plain (plain : IsPlain c) :
    scanPieces (c :: rest) = (scanPieces rest).map (putBefore [.char c]) := by
  obtain ⟨unquoted, unescaped, printed⟩ := plain
  rw [scanPieces.eq_def]
  split
  · next same => cases same
  · next same => cases same; exact absurd rfl unescaped
  · next same => cases same; exact absurd rfl unescaped
  · next same =>
    cases same
    have unbroken : ¬(c = '\\' ∨ c.toNat < 32) := by
      rintro (same | small)
      · exact unescaped same
      · omega
    rw [if_neg unquoted, if_neg unbroken]
    rfl

theorem scanPieces_chars {cs : List Char} (plain : ∀ c ∈ cs, IsPlain c) :
    scanPieces (cs ++ rest) = (scanPieces rest).map (putBefore (cs.map .char)) := by
  induction cs with
  | nil =>
    have same : putBefore ([].map .char) = id := rfl
    rw [same, Option.map_id, List.nil_append, id]
  | cons c cs ih =>
    rw [List.cons_append, scanPieces_plain (plain c List.mem_cons_self),
      ih fun d member => plain d (List.mem_cons_of_mem _ member), Option.map_map]
    rfl

theorem scanPieces_escaped {e : Char} (other : e ≠ 'u') (short : simpleEscape? e = some c) :
    scanPieces ('\\' :: e :: rest) = (scanPieces rest).map (putBefore [.char c]) := by
  rw [scanPieces.eq_def]
  split
  · next same => cases same
  · next same => cases same; exact absurd rfl other
  · next same =>
    cases same
    rw [short]
    cases scanPieces rest <;> rfl
  · next no same =>
    cases same
    exact (no e rest rfl rfl).elim

theorem scanPieces_numbered {a b d f : Char} {n : Nat} (read : hex? [a, b, d, f] = some n) :
    scanPieces ('\\' :: 'u' :: a :: b :: d :: f :: rest)
      = (scanPieces rest).map (putBefore [.unit n]) := by
  rw [scanPieces, read]
  cases scanPieces rest <;> rfl

inductive Written (c : Char) : List Char → Prop where
  | short (e : Char) (other : e ≠ 'u') (ascii : e.toNat < 128) (read : simpleEscape? e = some c)
      (small : c.toNat < 128) (unnumbered : isNumbered c = false) : Written c ['\\', e]
  | numbered (a b d f : Char) (ascii : ∀ x ∈ [a, b, d, f], x.toNat < 128)
      (read : hex? [a, b, d, f] = some c.toNat) (number : isNumbered c = true) :
      Written c ['\\', 'u', a, b, d, f]
  | plain (plain : IsPlain c) (unnumbered : isNumbered c = false) : Written c [c]

theorem ascii_of_all {cs : List Char} (all : cs.all isAscii = true) : ∀ c ∈ cs, c.toNat < 128 := by
  intro c member
  exact of_decide_eq_true (List.all_eq_true.mp all c member)

theorem exists_digits {n : Nat} (small : n < 32) :
    ∃ a b d f, padZeros 4 (hexLower n) = [a, b, d, f] ∧ (∀ x ∈ [a, b, d, f], x.toNat < 128)
      ∧ hex? [a, b, d, f] = some n := by
  have each : ∀ i : Fin 32, (padZeros 4 (hexLower i)).length = 4
      ∧ (padZeros 4 (hexLower i)).all isAscii = true
      ∧ hex? (padZeros 4 (hexLower i)) = some i.val := by decide
  obtain ⟨four, ascii, read⟩ := each ⟨n, small⟩
  match written : padZeros 4 (hexLower n), four with
  | [a, b, d, f], _ => exact ⟨a, b, d, f, rfl, ascii_of_all (written ▸ ascii), written ▸ read⟩

def shortNames : List (Char × Char) :=
  [(quote, quote), ('\\', '\\'), ('\x08', 'b'), ('\x0c', 'f'), ('\n', 'n'), ('\r', 'r'),
    ('\t', 't')]

theorem written_escape (c : Char) : Written c (escape c) := by
  -- The characters with short names are checked one by one; the others miss all of their branches.
  by_cases named : ∃ p ∈ shortNames, p.1 = c
  · obtain ⟨⟨c, e⟩, listed, rfl⟩ := named
    have each : ∀ p ∈ shortNames, escape p.1 = ['\\', p.2] ∧ p.2 ≠ 'u' ∧ p.2.toNat < 128
        ∧ simpleEscape? p.2 = some p.1 ∧ p.1.toNat < 128 ∧ isNumbered p.1 = false := by decide
    obtain ⟨written, other, ascii, read, small, unnumbered⟩ := each (c, e) listed
    rw [written]
    exact .short e other ascii read small unnumbered
  · simp only [shortNames, List.mem_cons, List.not_mem_nil, or_false, exists_eq_or_imp,
      exists_eq_left, not_or] at named
    obtain ⟨unquoted, unescaped, back, feed, line, carriage, tab⟩ := named
    rw [escape, if_neg (Ne.symm unquoted), if_neg (Ne.symm unescaped), if_neg (Ne.symm back),
      if_neg (Ne.symm feed), if_neg (Ne.symm line), if_neg (Ne.symm carriage), if_neg (Ne.symm tab)]
    by_cases small : c.toNat < 32
    · obtain ⟨a, b, d, f, written, ascii, read⟩ := exists_digits small
      rw [if_pos small, List.cons_append, List.cons_append, List.nil_append, written]
      refine .numbered a b d f ascii read ?_
      simp [isNumbered, small, Ne.symm back, Ne.symm feed, Ne.symm line, Ne.symm carriage,
        Ne.symm tab]
    · rw [if_neg small]
      refine .plain ⟨Ne.symm unquoted, Ne.symm unescaped, by omega⟩ ?_
      simp [isNumbered, small]

namespace Medium

variable (m : Medium)

theorem isPlain_of_mem_carry {d : Char} (plain : IsPlain c) (member : d ∈ m.carry c) :
    IsPlain d := by
  by_cases ascii : c.toNat < 128
  · rw [m.carry_ascii c ascii, List.mem_singleton] at member
    rw [member]
    exact plain
  · have high : 128 ≤ d.toNat := m.carry_other c (by omega) d member
    refine ⟨?_, ?_, by omega⟩
    · rintro rfl
      exact absurd high (by decide)
    · rintro rfl
      exact absurd high (by decide)

theorem flatMap_carry {cs : List Char} (ascii : ∀ c ∈ cs, c.toNat < 128) :
    cs.flatMap m.carry = cs := by
  induction cs with
  | nil => rfl
  | cons c cs ih =>
    rw [List.flatMap_cons, m.carry_ascii c (ascii c List.mem_cons_self),
      ih fun d member => ascii d (List.mem_cons_of_mem _ member)]
    rfl

theorem scanPieces_escape (c : Char) (rest : List Char) :
    scanPieces ((escape c).flatMap m.carry ++ rest)
      = (scanPieces rest).map (putBefore (piecesOf m.carry c)) := by
  have written := written_escape c
  generalize escape c = cs at written
  rw [piecesOf]
  cases written with
  | short e other ascii read small unnumbered =>
    have same : ['\\', e].flatMap m.carry = ['\\', e] := by
      apply m.flatMap_carry
      simpa using ascii
    rw [same, unnumbered, m.carry_ascii c small]
    exact scanPieces_escaped other read
  | numbered a b d f ascii read number =>
    have same : ['\\', 'u', a, b, d, f].flatMap m.carry = ['\\', 'u', a, b, d, f] := by
      apply m.flatMap_carry
      simpa using ascii
    rw [same, number]
    exact scanPieces_numbered read
  | plain plain unnumbered =>
    rw [List.flatMap_singleton, unnumbered]
    exact scanPieces_chars fun d member => m.isPlain_of_mem_carry plain member

theorem scanPieces_text (cs rest : List Char) :
    scanPieces ((cs.flatMap escape).flatMap m.carry ++ quote :: rest)
      = some (cs.flatMap (piecesOf m.carry), rest) := by
  induction cs with
  | nil => rfl
  | cons c cs ih =>
    rw [List.flatMap_cons, List.flatMap_append, List.append_assoc, m.scanPieces_escape, ih]
    rfl

end Medium

end DomainRegistry.Json
