import DomainRegistry.Proofs.Label.Numerals

/-!
The characters that a Punycode text places. Main statement: as each is placed behind the one before
it, in the order of code points and among equal ones of positions, no two texts place the same.
-/

namespace DomainRegistry.Punycode

open Text

def beneath (point : Nat) (cs : List Char) : List Char :=
  cs.filter fun c => decide (c.toNat < point)

section Beneath

variable {point other : Nat} {cs : List Char} {c : Char}

theorem beneath_append (ds : List Char) :
    beneath point (cs ++ ds) = beneath point cs ++ beneath point ds :=
  List.filter_append ..

theorem beneath_cons_of_lt (low : c.toNat < point) :
    beneath point (c :: cs) = c :: beneath point cs :=
  List.filter_cons_of_pos (decide_eq_true low)

theorem beneath_cons_of_le (high : point ≤ c.toNat) : beneath point (c :: cs) = beneath point cs :=
  List.filter_cons_of_neg (by simpa using high)

theorem beneath_eq_self (low : ∀ c ∈ cs, c.toNat < point) : beneath point cs = cs :=
  List.filter_eq_self.mpr fun c member => decide_eq_true (low c member)

theorem beneath_beneath (less : other ≤ point) :
    beneath other (beneath point cs) = beneath other cs := by
  rw [beneath, beneath, List.filter_filter]
  refine List.filter_congr fun c _ => ?_
  by_cases low : c.toNat < other
  · simp [low, Nat.lt_of_lt_of_le low less]
  · simp [low]

end Beneath

variable {s next : DecodeState} {digits u : List Char} {index : Nat}

theorem charOf?_toNat (c : Char) : charOf? c.toNat = some c := by
  have valid : c.toNat.isValidChar := c.valid
  rw [charOf?, if_pos valid, Char.ofNat_toNat]

theorem toNat_of_charOf? {point : Nat} {c : Char} (found : charOf? point = some c) :
    c.toNat = point := by
  unfold charOf? at found
  split at found
  · next valid =>
    cases found
    rw [Char.ofNat, dif_pos valid]
    rfl
  · cases found

theorem insertIdx_append {before after : List Char} {c : Char} :
    (before ++ after).insertIdx before.length c = before ++ c :: after := by
  induction before with
  | nil => rfl
  | cons b before ih => rw [List.cons_append, List.length_cons, List.insertIdx_succ_cons, ih]; rfl

theorem place_eq_ok_iff :
    s.place index = .ok next ↔
      s.placed.length + 1 < wordLimit ∧ s.index ≤ index
        ∧ s.point + index / (s.placed.length + 1) < wordLimit
        ∧ ∃ c bias, c.toNat = s.point + index / (s.placed.length + 1)
          ∧ adapt (index - s.index) (s.placed.length + 1) (s.index == 0) = .ok bias
          ∧ next = ⟨s.placed.insertIdx (index % (s.placed.length + 1)) c,
              s.point + index / (s.placed.length + 1), index % (s.placed.length + 1) + 1,
              bias⟩ := by
  have inside : index % (s.placed.length + 1) ≤ s.placed.length :=
    Nat.le_of_lt_succ (Nat.mod_lt _ (Nat.succ_pos _))
  simp only [DecodeState.place, bind_eq_ok, checked_eq_ok_iff, trusted_eq_ok_iff, minus_eq_ok_iff,
    quotient_eq_ok_iff, remainder_eq_ok_iff]
  constructor
  · rintro ⟨_, ⟨_, rfl⟩, _, ⟨room, rfl⟩, _, ⟨onwards, rfl⟩, bias, adapted, _, ⟨_, rfl⟩, _,
      ⟨word, rfl⟩, _, ⟨_, rfl⟩, chosen⟩
    split at chosen
    · cases chosen
    · next c found =>
      rw [if_pos inside] at chosen
      simp only [bind_eq_ok, trusted_eq_ok_iff] at chosen
      obtain ⟨_, ⟨_, rfl⟩, made⟩ := chosen
      exact ⟨room, onwards, word, c, bias, toNat_of_charOf? found, adapted,
        (Except.ok.inj made).symm⟩
  · rintro ⟨room, onwards, word, c, bias, code, adapted, rfl⟩
    refine ⟨_, ⟨by omega, rfl⟩, _, ⟨room, rfl⟩, _, ⟨onwards, rfl⟩, bias, adapted, _,
      ⟨Nat.succ_ne_zero _, rfl⟩, _, ⟨word, rfl⟩, _, ⟨Nat.succ_ne_zero _, rfl⟩, ?_⟩
    rw [← code, charOf?_toNat]
    dsimp only
    rw [if_pos inside]
    simp only [bind_eq_ok, trusted_eq_ok_iff]
    exact ⟨_, ⟨by omega, rfl⟩, rfl⟩

inductive Decodes : DecodeState → List Char → List Char → Prop
  | done (s : DecodeState) : Decodes s [] s.placed
  | place {s next : DecodeState} {digits rest u : List Char} {index : Nat}
      (read : decodeNumber s.bias digits base 1 s.index = .ok (index, rest))
      (placed : s.place index = .ok next) (later : Decodes next rest u) : Decodes s digits u

theorem decodes_of_decodeFrom (decoded : decodeFrom s digits = .ok u) : Decodes s digits u := by
  fun_induction decodeFrom s digits with
  | case1 s digits empty =>
    obtain rfl := List.isEmpty_iff.mp empty
    obtain rfl := Except.ok.inj decoded
    exact .done s
  | case2 => cases decoded
  | case3 => cases decoded
  | case4 s digits _ index rest read next placed ih => exact .place read placed (ih decoded)

theorem Decodes.decodeFrom (decodes : Decodes s digits u) : decodeFrom s digits = .ok u := by
  induction decodes with
  | done s => rw [Punycode.decodeFrom]; rfl
  | @place s next digits rest u index read placed later ih =>
    have filled : digits.isEmpty = false := by
      cases digits with
      | nil => cases read
      | cons => rfl
    rw [Punycode.decodeFrom, filled, if_neg Bool.false_ne_true]
    split
    · next e failed => rw [read] at failed; cases failed
    · next same =>
      obtain ⟨rfl, rfl⟩ := Prod.mk.inj (Except.ok.inj (same.symm.trans read))
      rw [placed]
      exact ih

structure Inserts (s next : DecodeState) (c : Char) (before after : List Char) : Prop where
  stood : s.placed = before ++ after
  stands : next.placed = before ++ c :: after
  point : next.point = c.toNat
  index : next.index = before.length + 1
  onwards : s.point ≤ c.toNat
  passed : c.toNat = s.point → s.index ≤ before.length

theorem inserts_of_place (placed : s.place index = .ok next) :
    ∃ c before after, Inserts s next c before after
      ∧ index = (c.toNat - s.point) * (s.placed.length + 1) + before.length := by
  obtain ⟨_, onwards, _, c, bias, code, _, rfl⟩ := place_eq_ok_iff.mp placed
  have whole := Nat.div_add_mod index (s.placed.length + 1)
  have inside : index % (s.placed.length + 1) < s.placed.length + 1 :=
    Nat.mod_lt _ (Nat.succ_pos _)
  generalize index / (s.placed.length + 1) = steps at *
  generalize index % (s.placed.length + 1) = position at *
  have parts := (List.take_append_drop position s.placed).symm
  have length : (s.placed.take position).length = position := List.length_take_of_le (by omega)
  refine ⟨c, s.placed.take position, s.placed.drop position,
    ⟨parts, ?_, code.symm, by rw [length], by omega, ?_⟩, ?_⟩
  · change s.placed.insertIdx position c = _
    have put : (s.placed.take position ++ s.placed.drop position).insertIdx
        (s.placed.take position).length c = s.placed.take position ++ c :: s.placed.drop position :=
      insertIdx_append
    rwa [length, List.take_append_drop] at put
  · intro same
    obtain rfl : steps = 0 := by omega
    omega
  · rw [length, code, Nat.add_sub_cancel_left, ← whole, Nat.mul_comm]

structure DecodeState.InOrder (s : DecodeState) : Prop where
  inside : s.index ≤ s.placed.length
  passed : ∀ c ∈ s.placed, c.toNat ≤ s.point
  ahead : ∀ c ∈ s.placed.drop s.index, c.toNat < s.point

namespace Inserts

variable {c : Char} {before after : List Char} (inserts : Inserts s next c before after)
include inserts

theorem length : next.placed.length = s.placed.length + 1 := by
  rw [inserts.stands, inserts.stood, List.length_append, List.length_append, List.length_cons]
  rfl

theorem beneath_placed {point : Nat} (low : point ≤ c.toNat) :
    beneath point next.placed = beneath point s.placed := by
  rw [inserts.stands, inserts.stood, beneath_append, beneath_append, beneath_cons_of_le low]

theorem take_index : next.placed.take next.index = before ++ [c] := by
  rw [inserts.stands, inserts.index, List.take_append, List.take_of_length_le (by omega),
    Nat.add_sub_cancel_left]
  rfl

theorem ahead_lt (order : s.InOrder) {d : Char} (member : d ∈ after) : d.toNat < c.toNat := by
  have onwards := inserts.onwards
  have passed := order.passed d (by rw [inserts.stood]; exact List.mem_append_right _ member)
  by_cases same : c.toNat = s.point
  · refine same ▸ order.ahead d ?_
    rw [inserts.stood, List.drop_append_of_le_length (inserts.passed same)]
    exact List.mem_append_right _ member
  · omega

theorem inOrder (order : s.InOrder) : next.InOrder := by
  refine ⟨?_, fun d member => ?_, fun d member => ?_⟩
  · rw [inserts.stands, inserts.index, List.length_append, List.length_cons]
    omega
  · have onwards := inserts.onwards
    rw [inserts.stands, List.mem_append, List.mem_cons] at member
    rw [inserts.point]
    rcases member with first | rfl | last
    · have := order.passed d (by rw [inserts.stood]; exact List.mem_append_left _ first)
      omega
    · exact Nat.le_refl _
    · exact Nat.le_of_lt (inserts.ahead_lt order last)
  · rw [inserts.stands, inserts.index, List.drop_append, List.drop_of_length_le (by omega),
      Nat.add_sub_cancel_left] at member
    rw [inserts.point]
    exact inserts.ahead_lt order member

theorem not_stood (order : s.InOrder) : ¬before ++ [c] <+: s.placed := by
  rintro ⟨rest, same⟩
  rw [inserts.stood, List.append_assoc, List.append_cancel_left_eq] at same
  have member : c ∈ after := same ▸ List.mem_cons_self
  exact Nat.lt_irrefl _ (inserts.ahead_lt order member)

end Inserts

namespace Decodes

theorem length_le (decodes : Decodes s digits u) :
    s.placed.length ≤ u.length ∧ u.length ≤ s.placed.length + digits.length := by
  induction decodes with
  | done s => exact ⟨Nat.le_refl _, Nat.le_add_right ..⟩
  | place read placed later ih =>
    obtain ⟨c, before, after, inserts, _⟩ := inserts_of_place placed
    have shorter : _ < _ := decodeNumber_shorter read
    have := inserts.length
    dsimp only at shorter
    omega

/-- What later characters leave as it is: all that stands before the place of the state. -/
theorem keeps (decodes : Decodes s digits u) (order : s.InOrder) :
    beneath s.point u = beneath s.point s.placed
      ∧ s.placed.take s.index <+: beneath (s.point + 1) u := by
  induction decodes with
  | done s =>
    refine ⟨rfl, ?_⟩
    rw [beneath_eq_self fun c member => Nat.lt_succ_of_le (order.passed c member)]
    exact List.take_prefix ..
  | @place s next digits rest u index read placed later ih =>
    obtain ⟨c, before, after, inserts, _⟩ := inserts_of_place placed
    obtain ⟨low, stays⟩ := ih (inserts.inOrder order)
    rw [inserts.point] at low stays
    rw [inserts.take_index] at stays
    have lower {point : Nat} (less : point ≤ c.toNat) :
        beneath point u = beneath point s.placed := by
      rw [← beneath_beneath less, low, beneath_beneath less, inserts.beneath_placed less]
    refine ⟨lower inserts.onwards, ?_⟩
    by_cases same : c.toNat = s.point
    · have first : s.placed.take s.index <+: before := by
        rw [inserts.stood, List.take_append_of_le_length (inserts.passed same)]
        exact List.take_prefix ..
      exact same ▸ (first.trans (List.prefix_append ..)).trans stays
    · have onwards := inserts.onwards
      rw [lower (by omega),
        beneath_eq_self fun d member => Nat.lt_succ_of_le (order.passed d member)]
      exact List.take_prefix ..

end Decodes

/-- Two places for the next character after which the texts are the same are one place. -/
theorem index_unique {s next other : DecodeState} {i j : Nat} {ds es u : List Char}
    (order : s.InOrder) (one : s.place i = .ok next) (two : s.place j = .ok other)
    (first : Decodes next ds u) (second : Decodes other es u) : j ≤ i := by
  obtain ⟨c, before, after, inserts, counted⟩ := inserts_of_place one
  obtain ⟨d, front, back, instead, recounted⟩ := inserts_of_place two
  obtain ⟨_, stays⟩ := first.keeps (inserts.inOrder order)
  obtain ⟨low, stands⟩ := second.keeps (instead.inOrder order)
  rw [inserts.point, inserts.take_index] at stays
  rw [instead.point, instead.take_index] at stands
  rw [instead.point, instead.beneath_placed (Nat.le_refl _)] at low
  refine Nat.le_of_not_lt fun less => inserts.not_stood order ?_
  have within : before.length ≤ s.placed.length := by
    rw [inserts.stood, List.length_append]
    omega
  rcases Nat.lt_trichotomy c.toNat d.toNat with earlier | same | later
  · have all : ∀ b ∈ s.placed, b.toNat < c.toNat + 1 := fun b member =>
      Nat.lt_succ_of_le (Nat.le_trans (order.passed b member) inserts.onwards)
    have below : c.toNat + 1 ≤ d.toNat := Nat.succ_le_of_lt earlier
    rwa [← beneath_beneath below, low, beneath_beneath below, beneath_eq_self all] at stays
  · rw [same] at stays counted
    have longer : (before ++ [c]).length ≤ front.length := by
      rw [List.length_append, List.length_singleton]
      omega
    have within : front <+: beneath (d.toNat + 1) u := (List.prefix_append ..).trans stands
    exact (List.prefix_of_prefix_length_le stays within longer).trans
      (instead.stood ▸ List.prefix_append ..)
  · have more : (d.toNat - s.point + 1) * (s.placed.length + 1)
        ≤ (c.toNat - s.point) * (s.placed.length + 1) := by
      have := instead.onwards
      exact Nat.mul_le_mul_right _ (by omega)
    have short : front.length ≤ s.placed.length := by
      rw [instead.stood, List.length_append]
      omega
    rw [Nat.add_mul, Nat.one_mul] at more
    omega

theorem Decodes.unique {ds es : List Char} (order : s.InOrder) (first : Decodes s ds u)
    (second : Decodes s es u) (small : ∀ c ∈ ds, isUpperAscii c = false)
    (lower : ∀ c ∈ es, isUpperAscii c = false) : ds = es := by
  induction first generalizing es with
  | done s =>
    cases second with
    | done => rfl
    | place read placed later =>
      obtain ⟨c, before, after, inserts, _⟩ := inserts_of_place placed
      have := inserts.length
      have := later.length_le
      omega
  | @place s next ds rest u i read placed later ih =>
    obtain ⟨c, before, after, inserts, _⟩ := inserts_of_place placed
    cases second with
    | done =>
      have := inserts.length
      have := later.length_le
      omega
    | @place _ other _ remainder _ j reread replaced after =>
      obtain rfl : i = j := Nat.le_antisymm (index_unique order replaced placed after later)
        (index_unique order placed replaced later after)
      obtain rfl : next = other := Except.ok.inj (placed.symm.trans replaced)
      obtain ⟨q, written, numeral, rfl, value⟩ := numeral_of_decodeNumber small read
      obtain ⟨r, again, other, rfl, revalue⟩ := numeral_of_decodeNumber lower reread
      obtain rfl : q = r := by omega
      rw [numeral.unique other, ih (inserts.inOrder order) after
        (fun c member => small c (List.mem_append_right _ member))
        (fun c member => lower c (List.mem_append_right _ member))]

end DomainRegistry.Punycode
