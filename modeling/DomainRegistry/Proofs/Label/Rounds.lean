import DomainRegistry.Proofs.Label.Placements

/-!
The encoder and the decoder side by side. What the encoder has gone over, written out as the
characters that the decoder has placed, is an invariant of each character passed, hence of each
round and of the whole; the digits of a round are those after which the decoder stands where the
encoder does. Main statement: the digits written for a label decode to it.
-/

namespace DomainRegistry.Punycode

open Text

def longestLabel : Nat := 63

def pointLimit : Nat := 0x110000

theorem toNat_lt_pointLimit (c : Char) : c.toNat < pointLimit := by
  have valid : c.toNat.isValidChar := c.valid
  unfold pointLimit
  rcases valid with low | high <;> omega

/-- The encoder is between `before` and `after`, in the round for code point `point`, and the
decoder has read all that is written so far. -/
structure InStep (basicCount point : Nat) (before after : List Char) (s : EncodeState)
    (d : DecodeState) : Prop where
  placed : d.placed = beneath (point + 1) before ++ beneath point after
  handled : s.handled = d.placed.length
  bias : s.bias = d.bias
  small : d.bias ≤ greatestBias
  onwards : d.point ≤ point
  clock : s.delta + d.point * (s.handled + 1) + d.index
    = point * (s.handled + 1) + (beneath (point + 1) before).length
  first : (s.handled == basicCount) = (d.index == 0)
  basic : basicCount ≤ s.handled

/-- The digits written between two states of the encoder bring the decoder from one of its states
to the other. -/
def Emits (s : EncodeState) (d : DecodeState) (t : EncodeState) (e : DecodeState) : Prop :=
  ∃ digits, t.written = s.written ++ digits ∧ (∀ c ∈ digits, isDigit c = true)
    ∧ ∀ rest u, Decodes e rest u → Decodes d (digits ++ rest) u

section Emits

variable {s t r : EncodeState} {d e f : DecodeState}

theorem Emits.nothing (same : t.written = s.written) : Emits s d t d := by
  refine ⟨[], ?_, ?_, ?_⟩
  · rw [same, List.append_nil]
  · intro c member
    cases member
  · intro rest u decodes
    exact decodes

theorem Emits.trans (one : Emits s d t e) (two : Emits t e r f) : Emits s d r f := by
  obtain ⟨digits, written, numeric, reads⟩ := one
  obtain ⟨more, rewritten, figures, rereads⟩ := two
  refine ⟨digits ++ more, ?_, ?_, ?_⟩
  · rw [rewritten, written, List.append_assoc]
  · intro c member
    rcases List.mem_append.mp member with early | late
    · exact numeric c early
    · exact figures c late
  · intro rest u decodes
    rw [List.append_assoc]
    exact reads _ u (rereads rest u decodes)

end Emits

theorem length_beneath_le (point : Nat) (cs : List Char) :
    (beneath point cs).length ≤ cs.length :=
  List.length_filter_le ..

variable {basicCount point : Nat} {before after cs : List Char} {c : Char} {s : EncodeState}
  {d : DecodeState}

namespace InStep

section Bounds

variable (inStep : InStep basicCount point before after s d)
  (short : (before ++ after).length ≤ longestLabel)
include inStep short

theorem handled_le : s.handled ≤ longestLabel := by
  have one := length_beneath_le (point + 1) before
  have two := length_beneath_le point after
  rw [List.length_append] at short
  rw [inStep.handled, inStep.placed, List.length_append]
  omega

/-- What no delta on the way through a label reaches. -/
theorem delta_lt (high : point < pointLimit) : d.index + s.delta < 71400000 := by
  have handled := inStep.handled_le short
  have clock := inStep.clock
  have rank := length_beneath_le (point + 1) before
  have most : point * (s.handled + 1) ≤ pointLimit * (longestLabel + 1) :=
    Nat.mul_le_mul (Nat.le_of_lt high) (Nat.succ_le_succ handled)
  rw [List.length_append] at short
  unfold longestLabel pointLimit at *
  omega

end Bounds

theorem pass_less (inStep : InStep basicCount point before (c :: after) s d)
    (less : c.toNat < point) :
    InStep basicCount point (before ++ [c]) after { s with delta := s.delta + 1 } d := by
  have one : beneath (point + 1) (before ++ [c]) = beneath (point + 1) before ++ [c] := by
    rw [beneath_append, beneath_cons_of_lt (by omega)]
    rfl
  refine ⟨?_, inStep.handled, inStep.bias, inStep.small, inStep.onwards, ?_, inStep.first,
    inStep.basic⟩
  · rw [one, inStep.placed, beneath_cons_of_lt less, List.append_assoc]
    rfl
  · have clock := inStep.clock
    rw [one, List.length_append, List.length_singleton]
    dsimp only
    omega

theorem pass_greater (inStep : InStep basicCount point before (c :: after) s d)
    (greater : point < c.toNat) : InStep basicCount point (before ++ [c]) after s d := by
  have one : beneath (point + 1) (before ++ [c]) = beneath (point + 1) before := by
    rw [beneath_append, beneath_cons_of_le greater]
    exact List.append_nil _
  have two : beneath point (c :: after) = beneath point after :=
    beneath_cons_of_le (Nat.le_of_lt greater)
  refine ⟨?_, inStep.handled, inStep.bias, inStep.small, inStep.onwards, ?_, inStep.first,
    inStep.basic⟩
  · rw [one, inStep.placed, two]
  · rw [one]
    exact inStep.clock

/-- The delta counts the decoder to the place of the character whose turn it is. -/
theorem turns (inStep : InStep basicCount point before after s d) :
    (d.index + s.delta) / (d.placed.length + 1) = point - d.point
      ∧ (d.index + s.delta) % (d.placed.length + 1) = (beneath (point + 1) before).length := by
  have clock := inStep.clock
  have inside : (beneath (point + 1) before).length < d.placed.length + 1 := by
    rw [inStep.placed, List.length_append]
    omega
  have counted : d.index + s.delta
      = (beneath (point + 1) before).length + (d.placed.length + 1) * (point - d.point) := by
    have parts := Nat.mul_sub (d.placed.length + 1) point d.point
    have less : (d.placed.length + 1) * d.point ≤ (d.placed.length + 1) * point :=
      Nat.mul_le_mul_left _ inStep.onwards
    rw [inStep.handled, Nat.mul_comm d.point, Nat.mul_comm point] at clock
    omega
  constructor
  · rw [counted, Nat.add_mul_div_left _ _ (Nat.succ_pos _), Nat.div_eq_of_lt inside, Nat.zero_add]
  · rw [counted, Nat.add_mul_mod_self_left, Nat.mod_eq_of_lt inside]

theorem place_eq (inStep : InStep basicCount c.toNat before (c :: after) s d)
    (short : (before ++ c :: after).length ≤ longestLabel) {bias : Nat}
    (adapted : adapt s.delta (s.handled + 1) (s.handled == basicCount) = .ok bias) :
    d.place (d.index + s.delta) = .ok ⟨beneath (c.toNat + 1) before ++ c :: beneath c.toNat after,
      c.toNat, (beneath (c.toNat + 1) before).length + 1, bias⟩ := by
  obtain ⟨steps, position⟩ := inStep.turns
  have high := toNat_lt_pointLimit c
  have handled := inStep.handled_le short
  have stood := inStep.placed
  rw [beneath_cons_of_le (Nat.le_refl _)] at stood
  rw [inStep.handled] at handled
  unfold longestLabel at handled
  unfold pointLimit at high
  refine place_eq_ok_iff.mpr ⟨?_, Nat.le_add_right .., ?_, c, bias, ?_, ?_, ?_⟩
  · rw [wordLimit_eq]
    omega
  · rw [steps, Nat.add_sub_cancel' inStep.onwards, wordLimit_eq]
    omega
  · rw [steps, Nat.add_sub_cancel' inStep.onwards]
  · rw [Nat.add_sub_cancel_left, ← inStep.handled, ← inStep.first]
    exact adapted
  · rw [steps, position, Nat.add_sub_cancel' inStep.onwards, stood, insertIdx_append]

theorem pass_equal (inStep : InStep basicCount c.toNat before (c :: after) s d)
    (short : (before ++ c :: after).length ≤ longestLabel) :
    ∃ t e, s.pass basicCount c.toNat c.toNat = .ok t
      ∧ InStep basicCount c.toNat (before ++ [c]) after t e ∧ Emits s d t e := by
  have few := inStep.delta_lt short (toNat_lt_pointLimit c)
  have handled := inStep.handled_le short
  unfold longestLabel at handled
  obtain ⟨digits, numeral⟩ : ∃ digits, Numeral d.bias base s.delta digits :=
    exists_numeral 8 inStep.small (by omega) (by decide)
  obtain ⟨bias, small, adapted⟩ : ∃ bias ≤ greatestBias,
      adapt s.delta (s.handled + 1) (s.handled == basicCount) = .ok bias :=
    exists_adapt (by rw [wordLimit_eq]; omega) (Nat.succ_pos _)
  have placed := inStep.place_eq short adapted
  have one : beneath (c.toNat + 1) (before ++ [c]) = beneath (c.toNat + 1) before ++ [c] := by
    rw [beneath_append, beneath_cons_of_lt (Nat.lt_succ_self _)]
    rfl
  refine ⟨⟨s.written ++ digits, 0, bias, s.handled + 1⟩,
    ⟨beneath (c.toNat + 1) before ++ c :: beneath c.toNat after, c.toNat,
      (beneath (c.toNat + 1) before).length + 1, bias⟩,
    ?_, ?_, digits, rfl, numeral.isDigit_of_mem, ?_⟩
  · rw [EncodeState.pass, if_neg (Nat.lt_irrefl _), if_pos rfl, inStep.bias, numeral.encodeNumber]
    refine bind_eq_ok.mpr ⟨digits, rfl, ?_⟩
    refine bind_eq_ok.mpr ⟨_, trusted_of_lt (by rw [wordLimit_eq]; omega), ?_⟩
    exact bind_eq_ok.mpr ⟨bias, adapted, rfl⟩
  · refine ⟨?_, ?_, rfl, small, Nat.le_refl _, ?_, ?_, Nat.le_succ_of_le inStep.basic⟩
    · rw [one, List.append_assoc]
      rfl
    · obtain ⟨_, _, _, inserts, _⟩ := inserts_of_place placed
      rw [inserts.length, inStep.handled]
    · rw [one, List.length_append, List.length_singleton]
      dsimp only
      omega
    · have less := inStep.basic
      have ahead : (s.handled + 1 == basicCount) = false := beq_false_of_ne (by omega)
      exact ahead
  · intro rest u decodes
    refine .place ?_ placed decodes
    have room : 35 * (s.delta * 1) < wordLimit := by rw [wordLimit_eq]; omega
    have fits : d.index + s.delta * 1 < wordLimit := by rw [wordLimit_eq]; omega
    have read := numeral.decodeNumber rest room fits
    rwa [Nat.mul_one] at read

theorem pass (inStep : InStep basicCount point before (c :: after) s d)
    (short : (before ++ c :: after).length ≤ longestLabel) (high : point < pointLimit) :
    ∃ t e, s.pass basicCount point c.toNat = .ok t
      ∧ InStep basicCount point (before ++ [c]) after t e ∧ Emits s d t e := by
  rcases Nat.lt_trichotomy c.toNat point with less | same | greater
  · have few := inStep.delta_lt short high
    refine ⟨_, d, ?_, inStep.pass_less less, .nothing rfl⟩
    rw [EncodeState.pass, if_pos less]
    exact bind_eq_ok.mpr ⟨_, checked_of_lt (by rw [wordLimit_eq]; omega), rfl⟩
  · subst same
    exact inStep.pass_equal short
  · refine ⟨s, d, ?_, inStep.pass_greater greater, .nothing rfl⟩
    rw [EncodeState.pass, if_neg (by omega), if_neg (by omega)]

theorem passAll (inStep : InStep basicCount point before after s d)
    (short : (before ++ after).length ≤ longestLabel) (high : point < pointLimit) :
    ∃ t e, (after.map Char.toNat).foldlM (EncodeState.pass basicCount point) s = .ok t
      ∧ InStep basicCount point (before ++ after) [] t e ∧ Emits s d t e := by
  induction after generalizing before s d with
  | nil =>
    refine ⟨s, d, rfl, ?_, .nothing rfl⟩
    rw [List.append_nil]
    exact inStep
  | cons c after ih =>
    obtain ⟨t, e, passed, onwards, emits⟩ := inStep.pass short high
    rw [List.append_cons] at short
    obtain ⟨r, f, rounded, done, emitted⟩ := ih onwards short
    rw [← List.append_cons] at done
    refine ⟨r, f, ?_, done, emits.trans emitted⟩
    rw [List.map_cons, List.foldlM_cons]
    exact bind_eq_ok.mpr ⟨t, passed, rounded⟩

/-- A round may start at a later code point when no character lies between. -/
theorem advance {next : Nat} (inStep : InStep basicCount point [] cs s d) (later : point ≤ next)
    (none : beneath next cs = beneath point cs) :
    InStep basicCount next [] cs { s with delta := s.delta + (next - point) * (s.handled + 1) }
      d := by
  refine ⟨?_, inStep.handled, inStep.bias, inStep.small, Nat.le_trans inStep.onwards later, ?_,
    inStep.first, inStep.basic⟩
  · rw [none]
    exact inStep.placed
  · have clock := inStep.clock
    have less : point * (s.handled + 1) ≤ next * (s.handled + 1) := Nat.mul_le_mul_right _ later
    rw [Nat.sub_mul]
    change s.delta + _ + d.point * (s.handled + 1) + _ = next * (s.handled + 1) + 0
    change _ = _ + 0 at clock
    omega

theorem startNext (inStep : InStep basicCount point cs [] s d) :
    InStep basicCount (point + 1) [] cs { s with delta := s.delta + 1 } d := by
  have all : beneath (point + 1) cs = d.placed := by
    rw [inStep.placed]
    exact (List.append_nil _).symm
  refine ⟨all.symm, inStep.handled, inStep.bias, inStep.small, Nat.le_succ_of_le inStep.onwards,
    ?_, inStep.first, inStep.basic⟩
  have clock := inStep.clock
  rw [all, ← inStep.handled] at clock
  change s.delta + 1 + d.point * (s.handled + 1) + _ = (point + 1) * (s.handled + 1) + 0
  rw [Nat.add_mul, Nat.one_mul]
  omega

theorem roundFrom {next : Nat} (inStep : InStep basicCount point [] cs s d) (later : point ≤ next)
    (none : beneath next cs = beneath point cs) (short : cs.length ≤ longestLabel)
    (high : next < pointLimit) :
    ∃ t e, encodeFrom.roundFrom (cs.map Char.toNat) basicCount point s next = .ok t
      ∧ InStep basicCount (next + 1) [] cs t e ∧ Emits s d t e := by
  have start := inStep.advance later none
  obtain ⟨t, e, passed, done, digits, written, numeric, reads⟩ := start.passAll short high
  have handled := inStep.handled_le short
  have few := start.delta_lt short high
  have fewer := done.delta_lt ((List.append_nil _).symm ▸ short) high
  unfold longestLabel at handled
  unfold pointLimit at high
  dsimp only at few
  refine ⟨{ t with delta := t.delta + 1 }, e, ?_, done.startNext, digits, written, numeric, reads⟩
  rw [encodeFrom.roundFrom]
  refine bind_eq_ok.mpr ⟨_, minus_of_le later, ?_⟩
  refine bind_eq_ok.mpr ⟨_, trusted_of_lt (by rw [wordLimit_eq]; omega), ?_⟩
  refine bind_eq_ok.mpr ⟨_, checked_of_lt (by rw [wordLimit_eq]; omega), ?_⟩
  refine bind_eq_ok.mpr ⟨_, checked_of_lt (by rw [wordLimit_eq]; omega), ?_⟩
  refine bind_eq_ok.mpr ⟨t, passed, ?_⟩
  refine bind_eq_ok.mpr ⟨_, trusted_of_lt (by rw [wordLimit_eq]; omega), ?_⟩
  exact bind_eq_ok.mpr ⟨_, trusted_of_lt (by rw [wordLimit_eq]; omega), rfl⟩

end InStep

theorem beneath_of_nextPoint? {next : Nat}
    (found : nextPoint? (cs.map Char.toNat) point = some next) :
    beneath next cs = beneath point cs := by
  obtain ⟨_, later⟩ := nextPoint?_mem found
  have least := (List.min?_eq_some_iff.mp found).2
  refine List.filter_congr fun c member => ?_
  by_cases low : c.toNat < point
  · rw [decide_eq_true low, decide_eq_true (Nat.lt_of_lt_of_le low later)]
  · have above : next ≤ c.toNat :=
      least _ (List.mem_filter.mpr ⟨List.mem_map_of_mem member, decide_eq_true (by omega)⟩)
    rw [decide_eq_false low, decide_eq_false (by omega)]

theorem beneath_of_nextPoint?_none (none : nextPoint? (cs.map Char.toNat) point = none) :
    beneath point cs = cs := by
  rw [nextPoint?, List.min?_eq_none_iff, List.filter_eq_nil_iff] at none
  refine beneath_eq_self fun c member => ?_
  have := none c.toNat (List.mem_map_of_mem member)
  rw [decide_eq_true_eq] at this
  omega

theorem InStep.encodeFrom (inStep : InStep basicCount point [] cs s d)
    (short : cs.length ≤ longestLabel) :
    ∃ digits, encodeFrom (cs.map Char.toNat) basicCount point s = .ok (s.written ++ digits)
      ∧ (∀ c ∈ digits, isDigit c = true) ∧ Decodes d digits cs := by
  fun_induction Punycode.encodeFrom (cs.map Char.toNat) basicCount point s generalizing d with
  | case1 point s finished =>
    have placed : d.placed = beneath point cs := inStep.placed
    rw [List.length_map, inStep.handled, placed] at finished
    have all : beneath point cs = cs := List.filter_sublist.eq_of_length_le finished
    refine ⟨[], ?_, ?_, ?_⟩
    · rw [List.append_nil]
    · intro c member
      cases member
    · have decodes := Decodes.done d
      rwa [placed, all] at decodes
  | case2 point s more none =>
    have placed : d.placed = beneath point cs := inStep.placed
    rw [List.length_map, inStep.handled, placed, beneath_of_nextPoint?_none none] at more
    exact absurd (Nat.le_refl _) more
  | case3 point s more next found e failed =>
    obtain ⟨member, later⟩ := nextPoint?_mem found
    obtain ⟨c, _, rfl⟩ := List.mem_map.mp member
    obtain ⟨t, _, rounded, _⟩ :=
      inStep.roundFrom later (beneath_of_nextPoint? found) short (toNat_lt_pointLimit c)
    rw [failed] at rounded
    cases rounded
  | case4 point s more next found t rounded ih =>
    obtain ⟨member, later⟩ := nextPoint?_mem found
    obtain ⟨c, _, rfl⟩ := List.mem_map.mp member
    obtain ⟨r, e, again, done, digits, written, numeric, reads⟩ :=
      inStep.roundFrom later (beneath_of_nextPoint? found) short (toNat_lt_pointLimit c)
    obtain rfl : t = r := Except.ok.inj (rounded.symm.trans again)
    obtain ⟨others, encoded, figures, decodes⟩ := ih done
    refine ⟨digits ++ others, ?_, ?_, reads others cs decodes⟩
    · rw [encoded, written, List.append_assoc]
    · intro c member
      rcases List.mem_append.mp member with early | late
      · exact numeric c early
      · exact figures c late

def basicOf (cs : List Char) : List Char := cs.filter isAscii

theorem beneath_initialPoint (cs : List Char) : beneath initialPoint cs = basicOf cs :=
  List.filter_congr fun _ _ => rfl

theorem start_inStep (cs : List Char) :
    InStep (basicOf cs).length initialPoint [] cs { handled := (basicOf cs).length }
      { placed := basicOf cs } := by
  have small : initialBias ≤ greatestBias := by decide
  refine ⟨(beneath_initialPoint cs).symm, rfl, rfl, small, Nat.le_refl _, ?_, beq_self_eq_true _,
    Nat.le_refl _⟩
  rw [Nat.zero_add]
  rfl

/-- The text written for a label whose other characters are written as these digits. -/
def writtenForm (cs digits : List Char) : List Char :=
  basicOf cs ++ (if (basicOf cs).isEmpty then [] else ['-']) ++ digits

theorem exists_encodeChars (short : cs.length ≤ longestLabel) :
    ∃ digits, encodeChars cs = .ok (writtenForm cs digits) ∧ (∀ c ∈ digits, isDigit c = true)
      ∧ Decodes { placed := basicOf cs } digits cs := by
  obtain ⟨digits, encoded, numeric, decodes⟩ := (start_inStep cs).encodeFrom short
  have few : cs.length < wordLimit := by
    unfold longestLabel at short
    rw [wordLimit_eq]
    omega
  have fewer : (basicOf cs).length ≤ cs.length := List.length_filter_le ..
  refine ⟨digits, ?_, numeric, decodes⟩
  unfold encodeChars
  refine bind_eq_ok.mpr ⟨_, checked_of_lt (Nat.lt_of_le_of_lt fewer few), ?_⟩
  exact bind_eq_ok.mpr ⟨_, checked_of_lt few, bind_eq_ok.mpr ⟨digits, encoded, rfl⟩⟩

end DomainRegistry.Punycode
