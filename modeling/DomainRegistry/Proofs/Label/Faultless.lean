import DomainRegistry.Proofs.Label.LabelForms

/-!
Punycode stays within its words. A run either answers or is refused by one of its checks; what the
operations without a check rely on are bounds on the weight and the place of a digit, on the number
of characters placed, and on the characters that a round has still to pass. Main statement: on texts
whose characters can be counted in a word, neither direction faults.
-/

namespace DomainRegistry.Punycode

open Text

/-- That a run does not fault, and what holds of its result if it is not refused. -/
inductive Ensures {α : Type} (P : α → Prop) : Run α → Prop
  | ok {a : α} (holds : P a) : Ensures P (.ok a)
  | refused : Ensures P (.error .refused)

namespace Ensures

section

variable {α β : Type} {P Q : α → Prop} {R : β → Prop} {r : Run α} {f : α → Run β} {a : α}

theorem of_eq_ok (made : r = .ok a) (holds : P a) : Ensures P r := made ▸ .ok holds

theorem mono (run : Ensures P r) (weaker : ∀ a, P a → Q a) : Ensures Q r := by
  cases run with
  | ok holds => exact .ok (weaker _ holds)
  | refused => exact .refused

theorem bind (run : Ensures P r) (next : ∀ a, P a → Ensures R (f a)) : Ensures R (r >>= f) := by
  cases run with
  | ok holds => exact next _ holds
  | refused => exact .refused

theorem result (run : Ensures P r) (made : r = .ok a) : P a := by
  cases run with
  | ok holds => cases made; exact holds
  | refused => cases made

theorem failure {e : Halt} (run : Ensures P r) (failed : r = .error e) : e = .refused := by
  cases run with
  | ok => cases failed
  | refused => cases failed; rfl

end

variable {n : Nat}

theorem checked (n : Nat) : Ensures (fun m => m = n ∧ n < wordLimit) (checked n) := by
  unfold Punycode.checked
  split
  · next fits => exact .ok ⟨rfl, fits⟩
  · exact .refused

theorem trusted (fits : n < wordLimit) : Ensures (· = n) (trusted n) :=
  .of_eq_ok (trusted_of_lt fits) rfl

theorem minus {a b : Nat} (fits : b ≤ a) : Ensures (· = a - b) (minus a b) :=
  .of_eq_ok (minus_of_le fits) rfl

theorem quotient {a b : Nat} (filled : 0 < b) : Ensures (· = a / b) (quotient a b) :=
  .of_eq_ok (quotient_of_pos filled) rfl

theorem remainder {a b : Nat} (filled : 0 < b) : Ensures (· = a % b) (remainder a b) :=
  .of_eq_ok (remainder_eq_ok_iff.mpr ⟨Nat.ne_of_gt filled, rfl⟩) rfl

variable {bias k q delta placed : Nat} {first : Bool}

theorem threshold (small : bias ≤ greatestBias) :
    Ensures (fun t => 0 < t ∧ t ≤ 26) (threshold k bias) := by
  obtain ⟨t, read⟩ := exists_threshold (k := k) small
  exact .of_eq_ok read (threshold_proper read)

theorem adapt (word : delta < wordLimit) (filled : 0 < placed) :
    Ensures (· ≤ greatestBias) (adapt delta placed first) := by
  obtain ⟨next, small, adapted⟩ := exists_adapt word filled
  exact .of_eq_ok adapted small

/-- A word has at most eleven digits, each of which is below 36. -/
theorem encodeNumber (small : bias ≤ greatestBias) (word : q < wordLimit) :
    Ensures (fun digits => ∀ c ∈ digits, isDigit c = true) (encodeNumber bias base q) := by
  rw [wordLimit_eq] at word
  obtain ⟨digits, numeral⟩ : ∃ digits, Numeral bias base q digits :=
    exists_numeral 10 small (by omega) (by decide)
  exact .of_eq_ok numeral.encodeNumber numeral.isDigit_of_mem

end Ensures

section Decoding

variable {bias k weight index : Nat} {digits : List Char} {s : DecodeState}

/-- Each digit weighs at least ten times the one before it, so that the weight leaves the words
before the place of the digit does. -/
theorem ensures_decodeNumber (small : bias ≤ greatestBias) (heavy : 0 < weight)
    (near : k ≤ 32 + 4 * weight) :
    Ensures (fun read => index ≤ read.1 ∧ read.1 < wordLimit)
      (decodeNumber bias digits k weight index) := by
  induction digits generalizing k weight index with
  | nil => exact .refused
  | cons c digits ih =>
    rw [decodeNumber]
    split
    · exact .refused
    · next digit _ =>
      refine (Ensures.checked _).bind ?_
      rintro _ ⟨rfl, _⟩
      refine (Ensures.checked _).bind ?_
      rintro _ ⟨rfl, word⟩
      refine (Ensures.threshold small).bind ?_
      rintro t ⟨least, greatest⟩
      split
      · exact .ok ⟨Nat.le_add_right .., word⟩
      · refine (Ensures.minus (by unfold base; omega)).bind ?_
        rintro _ rfl
        refine (Ensures.checked _).bind ?_
        rintro _ ⟨rfl, fits⟩
        have factor : weight * 10 ≤ weight * (base - t) :=
          Nat.mul_le_mul_left _ (by unfold base; omega)
        rw [wordLimit_eq] at fits
        refine (Ensures.trusted (by rw [wordLimit_eq]; unfold base; omega)).bind ?_
        rintro _ rfl
        refine (ih (by omega) (by unfold base at *; omega)).mono ?_
        rintro read ⟨onwards, inside⟩
        exact ⟨by omega, inside⟩

structure Steady (s : DecodeState) : Prop where
  index : s.index ≤ s.placed.length
  bias : s.bias ≤ greatestBias

theorem ensures_place (room : s.placed.length + 1 < wordLimit) (onwards : s.index ≤ index)
    (word : index < wordLimit) :
    Ensures (fun next => next.placed.length = s.placed.length + 1 ∧ Steady next)
      (s.place index) := by
  unfold DecodeState.place
  refine (Ensures.checked _).bind ?_
  rintro _ ⟨rfl, _⟩
  refine (Ensures.trusted room).bind ?_
  rintro _ rfl
  refine (Ensures.minus onwards).bind ?_
  rintro _ rfl
  have filled : 0 < s.placed.length + 1 := Nat.succ_pos _
  refine (Ensures.adapt (by omega) filled).bind fun bias small => ?_
  refine (Ensures.quotient filled).bind ?_
  rintro _ rfl
  refine (Ensures.checked _).bind ?_
  rintro _ ⟨rfl, _⟩
  refine (Ensures.remainder filled).bind ?_
  rintro _ rfl
  split
  · exact .refused
  · next c _ =>
    have inside : index % (s.placed.length + 1) ≤ s.placed.length :=
      Nat.le_of_lt_succ (Nat.mod_lt _ filled)
    rw [if_pos inside]
    refine (Ensures.trusted (by omega)).bind ?_
    rintro _ rfl
    have longer := List.length_insertIdx_of_le_length inside c
    refine .ok ⟨longer, ?_, small⟩
    dsimp only
    omega

theorem Steady.reads (steady : Steady s) :
    Ensures (fun read => s.index ≤ read.1 ∧ read.1 < wordLimit)
      (decodeNumber s.bias digits base 1 s.index) :=
  ensures_decodeNumber steady.bias Nat.one_pos (by decide)

/-- Each character that is placed takes a digit at least, so that the room for them suffices. -/
theorem ensures_decodeFrom (steady : Steady s)
    (room : s.placed.length + digits.length + 1 < wordLimit) :
    Ensures (fun placed => placed.length ≤ s.placed.length + digits.length)
      (decodeFrom s digits) := by
  fun_induction decodeFrom s digits with
  | case1 s digits => exact .ok (Nat.le_add_right ..)
  | case2 s digits _ e failed =>
    obtain rfl := steady.reads.failure failed
    exact .refused
  | case3 s digits _ index rest read e failed =>
    have shorter : rest.length < digits.length := decodeNumber_shorter read
    obtain ⟨onwards, word⟩ := steady.reads.result read
    obtain rfl := (ensures_place (by omega) onwards word).failure failed
    exact .refused
  | case4 s digits _ index rest read next placed ih =>
    have shorter : rest.length < digits.length := decodeNumber_shorter read
    obtain ⟨onwards, word⟩ := steady.reads.result read
    obtain ⟨longer, again⟩ := (ensures_place (by omega) onwards word).result placed
    exact (ih again (by omega)).mono fun _ _ => by omega

theorem ensures_decodeChars {cs : List Char} (short : cs.length + 1 < wordLimit) :
    Ensures (fun out => out.length ≤ cs.length) (decodeChars cs) := by
  unfold decodeChars
  split
  · split
    next basic digits split =>
    have within : basic.length + digits.length ≤ cs.length := by
      rcases (splitLast_cases split).2 with rfl | ⟨rfl, rfl⟩
      · rw [List.length_append, List.length_cons]
        omega
      · simp
    have small : initialBias ≤ greatestBias := by decide
    refine (ensures_decodeFrom ⟨Nat.zero_le _, small⟩ (by dsimp only; omega)).mono ?_
    intro out bounded
    exact Nat.le_trans bounded within
  · exact .refused

end Decoding

section Encoding

variable {basicCount point : Nat} {points : List Nat} {s : EncodeState}

structure Passed (point : Nat) (points : List Nat) (s t : EncodeState) : Prop where
  handled : t.handled = s.handled + points.count point
  delta : t.delta ≤ s.delta + points.length
  bias : t.bias ≤ greatestBias
  word : t.delta < wordLimit
  /-- The delta starts anew at each character that is written. -/
  anew : point ∈ points → t.delta < points.length

theorem ensures_pass {c : Nat} (small : s.bias ≤ greatestBias) (word : s.delta < wordLimit)
    (room : c = point → s.handled + 1 < wordLimit) :
    Ensures (Passed point [c] s) (s.pass basicCount point c) := by
  unfold EncodeState.pass
  split
  · next less =>
    refine (Ensures.checked _).bind ?_
    rintro _ ⟨rfl, fits⟩
    have none : [c].count point = 0 := List.count_eq_zero.mpr (by simp; omega)
    exact .ok ⟨by rw [none]; rfl, Nat.le_refl _, small, fits, by simp; omega⟩
  · split
    · next same =>
      refine (Ensures.encodeNumber small word).bind fun digits _ => ?_
      refine (Ensures.trusted (room same)).bind ?_
      rintro _ rfl
      refine (Ensures.adapt word (Nat.succ_pos _)).bind fun bias bounded => ?_
      have one : [c].count point = 1 := by rw [same, List.count_singleton_self]
      have fits : 0 < wordLimit := by decide
      exact .ok ⟨by rw [one], Nat.zero_le _, bounded, fits, fun _ => Nat.one_pos⟩
    · next greater =>
      have none : [c].count point = 0 := List.count_eq_zero.mpr (by simp; omega)
      exact .ok ⟨by rw [none]; rfl, Nat.le_add_right .., small, word, by simp; omega⟩

theorem ensures_passes (small : s.bias ≤ greatestBias) (word : s.delta < wordLimit)
    (room : s.handled + points.count point < wordLimit) :
    Ensures (Passed point points s) (points.foldlM (EncodeState.pass basicCount point) s) := by
  induction points generalizing s with
  | nil => exact .ok ⟨rfl, Nat.le_refl _, small, word, nofun⟩
  | cons c points ih =>
    have counted : (c :: points).count point = [c].count point + points.count point := by
      rw [← List.count_append, List.singleton_append]
    have one : c = point → [c].count point = 1 := by
      rintro rfl
      exact List.count_singleton_self
    refine (ensures_pass small word fun same => by have := one same; omega).bind fun t passed => ?_
    have handled := passed.handled
    refine (ih passed.bias passed.word (by omega)).mono fun u later => ?_
    have first := passed.delta
    have delta := later.delta
    refine ⟨by rw [later.handled]; omega, ?_, later.bias, later.word, ?_⟩
    · rw [List.length_singleton] at first
      rw [List.length_cons]
      omega
    · intro member
      rw [List.length_cons]
      rcases List.mem_cons.mp member with rfl | member
      · have fresh := passed.anew List.mem_cons_self
        rw [List.length_singleton] at fresh
        omega
      · have := later.anew member
        omega

/-- What is true of an encoder between two rounds: the characters before the next code point are
written. -/
structure Settled (points : List Nat) (point : Nat) (s : EncodeState) : Prop where
  handled : s.handled = points.countP fun c => decide (c < point)
  bias : s.bias ≤ greatestBias
  word : s.delta < wordLimit

structure Countable (points : List Nat) : Prop where
  length : points.length < wordLimit
  each : ∀ c ∈ points, c < pointLimit

theorem exists_nextPoint? (more : points.countP (fun c => decide (c < point)) < points.length) :
    ∃ next, nextPoint? points point = some next := by
  refine Option.ne_none_iff_exists'.mp fun none => ?_
  rw [nextPoint?, List.min?_eq_none_iff, List.filter_eq_nil_iff] at none
  have all : points.countP (fun c => decide (c < point)) = points.length := by
    refine List.countP_eq_length.mpr fun c member => ?_
    have := none c member
    simp only [decide_eq_true_eq] at this ⊢
    omega
  omega

/-- The characters before the code point after the next one are those before, and those with the
next one. -/
theorem countP_next {next : Nat} (found : nextPoint? points point = some next) :
    points.countP (fun c => decide (c < next + 1))
      = points.countP (fun c => decide (c < point)) + points.count next := by
  have later := (nextPoint?_mem found).2
  have least := (List.min?_eq_some_iff.mp found).2
  have gap : ∀ c ∈ points, c < point ∨ next ≤ c := by
    intro c member
    by_cases low : c < point
    · exact Or.inl low
    · exact Or.inr (least c (List.mem_filter.mpr ⟨member, decide_eq_true (by omega)⟩))
  clear found least
  induction points with
  | nil => rfl
  | cons c points ih =>
    obtain ⟨here, others⟩ := List.forall_mem_cons.mp gap
    rw [List.countP_cons, List.countP_cons, List.count_cons, ih others]
    simp only [decide_eq_true_eq, beq_iff_eq]
    split <;> split <;> split <;> omega

theorem ensures_roundFrom {next : Nat} (countable : Countable points)
    (settled : Settled points point s) (found : nextPoint? points point = some next) :
    Ensures (Settled points (next + 1)) (encodeFrom.roundFrom points basicCount point s next) := by
  obtain ⟨member, later⟩ := nextPoint?_mem found
  have counted := countP_next found
  have handled := settled.handled
  have some : 0 < points.count next := List.count_pos_iff.mpr member
  have most : points.countP (fun c => decide (c < next + 1)) ≤ points.length :=
    List.countP_le_length
  have length := countable.length
  have high := countable.each next member
  unfold encodeFrom.roundFrom
  refine (Ensures.minus later).bind ?_
  rintro _ rfl
  refine (Ensures.trusted (by omega)).bind ?_
  rintro _ rfl
  refine (Ensures.checked _).bind ?_
  rintro _ ⟨rfl, _⟩
  refine (Ensures.checked _).bind ?_
  rintro _ ⟨rfl, word⟩
  have room : s.handled + points.count next < wordLimit := by omega
  refine Ensures.bind (ensures_passes (s := { s with delta := _ }) settled.bias word room)
    fun t passed => ?_
  have fresh := passed.anew member
  refine (Ensures.trusted (by omega)).bind ?_
  rintro _ rfl
  refine (Ensures.trusted (by rw [wordLimit_eq]; unfold pointLimit at high; omega)).bind ?_
  rintro _ rfl
  refine .ok ⟨?_, passed.bias, by dsimp only; omega⟩
  rw [counted, ← handled]
  exact passed.handled

theorem ensures_encodeFrom (countable : Countable points) (settled : Settled points point s) :
    Ensures (fun _ => True) (encodeFrom points basicCount point s) := by
  fun_induction encodeFrom points basicCount point s with
  | case1 => exact .ok trivial
  | case2 point s more none =>
    have handled := settled.handled
    obtain ⟨next, found⟩ : ∃ next, nextPoint? points point = some next :=
      exists_nextPoint? (by omega)
    rw [none] at found
    cases found
  | case3 point s more next found e failed =>
    obtain rfl := (ensures_roundFrom countable settled found).failure failed
    exact .refused
  | case4 point s more next found t rounded ih =>
    exact ih ((ensures_roundFrom countable settled found).result rounded)

theorem ensures_encodeChars (cs : List Char) : Ensures (fun _ => True) (encodeChars cs) := by
  unfold encodeChars
  refine (Ensures.checked _).bind ?_
  rintro _ ⟨rfl, few⟩
  refine (Ensures.checked _).bind ?_
  rintro _ ⟨_, length⟩
  have countable : Countable (cs.map Char.toNat) := by
    refine ⟨by rwa [List.length_map], fun c member => ?_⟩
    obtain ⟨d, _, rfl⟩ := List.mem_map.mp member
    exact toNat_lt_pointLimit d
  have settled : Settled (cs.map Char.toNat) initialPoint
      { handled := (cs.filter isAscii).length } := by
    refine ⟨?_, by dsimp only; decide, by dsimp only; decide⟩
    rw [List.countP_map, List.countP_eq_length_filter]
    rfl
  exact (ensures_encodeFrom countable settled).bind fun _ _ => .ok trivial

end Encoding

def AnswersOrRefuses (run : Run (List Char)) (answer : Option String) : Prop :=
  (∃ cs, run = .ok cs ∧ answer = some (String.ofList cs))
    ∨ run = .error .refused ∧ answer = none

theorem Ensures.answers {P : List Char → Prop} {run : Run (List Char)} (ensured : Ensures P run) :
    AnswersOrRefuses run (run.toOption.map String.ofList) := by
  cases ensured with
  | ok => exact Or.inl ⟨_, rfl, rfl⟩
  | refused => exact Or.inr ⟨rfl, rfl⟩

theorem never_faults :
    (∀ text : String, text.length < wordLimit - 1 →
      AnswersOrRefuses (decodeChars text.toList) (decode? text))
    ∧ ∀ text : String, AnswersOrRefuses (encodeChars text.toList) (encode? text) := by
  constructor
  · intro text short
    have room : text.toList.length + 1 < wordLimit := by
      rw [String.length_toList]
      omega
    exact (ensures_decodeChars room).answers
  · intro text
    exact (ensures_encodeChars text.toList).answers

theorem overflowing_digits_refused :
    "99999999999".length < wordLimit - 1
      ∧ decodeChars "99999999999".toList = .error .refused := by
  have short : "99999999999".length < wordLimit - 1 := by decide
  have none : decode? "99999999999" = none := by decide +kernel
  rcases never_faults.1 "99999999999" short with ⟨_, _, answered⟩ | ⟨refused, _⟩
  · rw [none] at answered
    cases answered
  · exact ⟨short, refused⟩

end DomainRegistry.Punycode
