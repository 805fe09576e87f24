import DomainRegistry.Proofs.Label.Rounds
import DomainRegistry.Proofs.Text.Splits

/-!
Labels and their ASCII forms. Main statement: every label of up to 63 characters has one ASCII form,
which stands for that label only, and lower-case text that stands for a label is its form.
-/

namespace DomainRegistry.Punycode

open Text

variable {cs basic digits : List Char}

theorem splitLast_append (absent : '-' ∉ digits) :
    splitLast (basic ++ '-' :: digits) = (basic, digits) := by
  have turned : '-' ∉ digits.reverse := by
    rw [List.mem_reverse]
    exact absent
  rw [splitLast, List.reverse_append, List.reverse_cons, List.append_assoc, List.singleton_append,
    splitOnce_append turned]
  dsimp only
  rw [List.reverse_reverse, List.reverse_reverse]

theorem splitLast_of_not_mem (absent : '-' ∉ cs) : splitLast cs = ([], cs) := by
  rw [splitLast, splitOnce_eq_none_iff.mpr (by rwa [List.mem_reverse])]

theorem splitLast_cases (split : splitLast cs = (basic, digits)) :
    '-' ∉ digits ∧ (cs = basic ++ '-' :: digits ∨ basic = [] ∧ cs = digits) := by
  rw [splitLast] at split
  cases found : splitOnce '-' cs.reverse with
  | none =>
    rw [found] at split
    cases split
    rw [splitOnce_eq_none_iff, List.mem_reverse] at found
    exact ⟨found, Or.inr ⟨rfl, rfl⟩⟩
  | some parts =>
    rw [found] at split
    cases split
    obtain ⟨whole, absent⟩ := splitOnce_eq_some_iff.mp found
    refine ⟨by rwa [List.mem_reverse], Or.inl ?_⟩
    have back := congrArg List.reverse whole
    rw [List.reverse_reverse, List.reverse_append, List.reverse_cons, List.append_assoc] at back
    exact back

theorem decodeChars_eq_ok_iff {text : List Char} :
    decodeChars text = .ok cs ↔ (∀ c ∈ text, isAscii c = true)
      ∧ decodeFrom { placed := (splitLast text).1 } (splitLast text).2 = .ok cs := by
  rw [decodeChars, ← List.all_eq_true]
  by_cases ascii : text.all isAscii = true
  · rw [if_pos ascii]
    exact (and_iff_right ascii).symm
  · rw [if_neg ascii]
    simp [ascii]

theorem isDigit_hyphen : isDigit '-' = false := by decide

theorem hyphen_not_mem (numeric : ∀ c ∈ digits, isDigit c = true) : '-' ∉ digits := by
  intro member
  have digit := numeric _ member
  rw [isDigit_hyphen] at digit
  cases digit

theorem isAscii_of_mem_basicOf {c : Char} (member : c ∈ basicOf cs) : isAscii c = true :=
  (List.mem_filter.mp member).2

theorem isAscii_of_isDigit {c : Char} (digit : isDigit c = true) : isAscii c = true :=
  decide_eq_true (toNat_of_isDigit digit)

section WrittenForm

variable (numeric : ∀ c ∈ digits, isDigit c = true)
include numeric

theorem splitLast_writtenForm : splitLast (writtenForm cs digits) = (basicOf cs, digits) := by
  have absent := hyphen_not_mem numeric
  unfold writtenForm
  cases empty : basicOf cs with
  | nil => exact splitLast_of_not_mem absent
  | cons c rest =>
    rw [List.isEmpty_cons, if_neg Bool.false_ne_true, List.append_assoc]
    exact splitLast_append absent

theorem writtenForm_ascii : ∀ c ∈ writtenForm cs digits, isAscii c = true := by
  intro c member
  rcases List.mem_append.mp member with front | digit
  · rcases List.mem_append.mp front with basic | hyphen
    · exact isAscii_of_mem_basicOf basic
    · split at hyphen
      · cases hyphen
      · rw [List.mem_singleton] at hyphen
        rw [hyphen]
        decide
  · exact isAscii_of_isDigit (numeric c digit)

theorem decodeChars_writtenForm (decodes : Decodes { placed := basicOf cs } digits cs) :
    decodeChars (writtenForm cs digits) = .ok cs := by
  rw [decodeChars_eq_ok_iff, splitLast_writtenForm numeric]
  exact ⟨writtenForm_ascii numeric, decodes.decodeFrom⟩

end WrittenForm

theorem start_inOrder (ascii : ∀ c ∈ basic, isAscii c = true) :
    ({ placed := basic } : DecodeState).InOrder := by
  have low : ∀ c ∈ basic, c.toNat < initialPoint := fun c member =>
    of_decide_eq_true (ascii c member)
  exact ⟨Nat.zero_le _, fun c member => Nat.le_of_lt (low c member), low⟩

theorem splitLast_within {text : List Char} (split : splitLast text = (basic, digits)) :
    (∀ c ∈ basic, c ∈ text) ∧ (∀ c ∈ digits, c ∈ text)
      ∧ basic.length + digits.length ≤ text.length := by
  rcases (splitLast_cases split).2 with whole | ⟨nothing, whole⟩
  · rw [whole, List.length_append, List.length_cons]
    refine ⟨?_, ?_, by omega⟩
    · intro c member
      exact List.mem_append_left _ member
    · intro c member
      exact List.mem_append_right _ (List.mem_cons_of_mem _ member)
  · rw [nothing, whole, List.length_nil, Nat.zero_add]
    refine ⟨?_, ?_, Nat.le_refl _⟩
    · intro c member
      cases member
    · intro c member
      exact member

theorem encodeChars_of_decodeChars {text : List Char} (decoded : decodeChars text = .ok cs)
    (small : ∀ c ∈ text, isUpperAscii c = false)
    (led : ∀ rest, text = '-' :: rest → '-' ∈ rest) (short : text.length ≤ longestLabel) :
    encodeChars cs = .ok text := by
  obtain ⟨ascii, decoded⟩ := decodeChars_eq_ok_iff.mp decoded
  cases split : splitLast text with
  | mk basic digits =>
    rw [split] at decoded
    obtain ⟨absent, parts⟩ := splitLast_cases split
    obtain ⟨front, back, length⟩ := splitLast_within split
    have decodes : Decodes { placed := basic } digits cs := decodes_of_decodeFrom decoded
    have order : ({ placed := basic } : DecodeState).InOrder :=
      start_inOrder fun c member => ascii c (front c member)
    have own : basicOf cs = basic := by
      rw [← beneath_initialPoint, (decodes.keeps order).1]
      exact beneath_eq_self order.ahead
    have few : cs.length ≤ longestLabel := by
      have := decodes.length_le.2
      change _ ≤ basic.length + _ at this
      omega
    obtain ⟨others, encoded, numeric, again⟩ := exists_encodeChars few
    rw [own] at again
    have same : digits = others := decodes.unique order again
      (fun c member => small c (back c member))
      (fun c member => not_upper_of_isDigit (numeric c member))
    rw [encoded, ← same, writtenForm, own]
    rcases parts with whole | ⟨nothing, whole⟩
    · cases basic with
      | nil => exact absurd (led digits whole) absent
      | cons c basic =>
        rw [whole, List.isEmpty_cons, if_neg Bool.false_ne_true, List.append_assoc]
        rfl
    · rw [whole, nothing]
      rfl

section Lengths

variable {basicCount point : Nat} {points : List Nat} {s t : EncodeState} {out : List Char}

theorem encodeNumber_ne_nil {bias k q : Nat} (encoded : encodeNumber bias k q = .ok out) :
    out ≠ [] := by
  unfold encodeNumber at encoded
  split at encoded
  · cases encoded
  · split at encoded
    · split at encoded
      · obtain ⟨_, _, made⟩ := bind_eq_ok.mp encoded
        cases made
        exact List.cons_ne_nil _ _
      · obtain ⟨_, _, encoded⟩ := bind_eq_ok.mp encoded
        obtain ⟨_, _, encoded⟩ := bind_eq_ok.mp encoded
        obtain ⟨_, _, made⟩ := bind_eq_ok.mp encoded
        cases made
        exact List.cons_ne_nil _ _
    · cases encoded

/-- At least one digit is written for each character that is dealt with. -/
def KeepsUp (s t : EncodeState) : Prop :=
  s.written.length + t.handled ≤ t.written.length + s.handled

theorem pass_keepsUp {c : Nat} (passed : s.pass basicCount point c = .ok t) : KeepsUp s t := by
  unfold EncodeState.pass at passed
  split at passed
  · obtain ⟨_, _, made⟩ := bind_eq_ok.mp passed
    cases made
    exact Nat.le_refl _
  · split at passed
    · obtain ⟨digits, encoded, passed⟩ := bind_eq_ok.mp passed
      obtain ⟨_, counted, passed⟩ := bind_eq_ok.mp passed
      obtain ⟨_, rfl⟩ := trusted_eq_ok_iff.mp counted
      obtain ⟨_, _, made⟩ := bind_eq_ok.mp passed
      cases made
      have some := List.length_pos_iff.mpr (encodeNumber_ne_nil encoded)
      change s.written.length + (s.handled + 1) ≤ (s.written ++ digits).length + s.handled
      rw [List.length_append]
      omega
    · cases passed
      exact Nat.le_refl _

theorem passAll_keepsUp (passed : points.foldlM (EncodeState.pass basicCount point) s = .ok t) :
    KeepsUp s t := by
  induction points generalizing s with
  | nil =>
    cases passed
    exact Nat.le_refl _
  | cons c points ih =>
    rw [List.foldlM_cons] at passed
    obtain ⟨r, first, others⟩ := bind_eq_ok.mp passed
    have one := pass_keepsUp first
    have two := ih others
    unfold KeepsUp at one two ⊢
    omega

theorem roundFrom_keepsUp {next : Nat}
    (rounded : encodeFrom.roundFrom points basicCount point s next = .ok t) : KeepsUp s t := by
  unfold encodeFrom.roundFrom at rounded
  obtain ⟨_, _, rounded⟩ := bind_eq_ok.mp rounded
  obtain ⟨_, _, rounded⟩ := bind_eq_ok.mp rounded
  obtain ⟨_, _, rounded⟩ := bind_eq_ok.mp rounded
  obtain ⟨_, _, rounded⟩ := bind_eq_ok.mp rounded
  obtain ⟨r, passed, rounded⟩ := bind_eq_ok.mp rounded
  obtain ⟨_, _, rounded⟩ := bind_eq_ok.mp rounded
  obtain ⟨_, _, made⟩ := bind_eq_ok.mp rounded
  cases made
  have all : KeepsUp { s with delta := _ } r := passAll_keepsUp passed
  exact all

theorem length_le_of_encodeFrom (encoded : encodeFrom points basicCount point s = .ok out)
    (behind : s.handled ≤ s.written.length + basicCount) :
    points.length ≤ out.length + basicCount := by
  fun_induction encodeFrom points basicCount point s with
  | case1 point s finished =>
    cases encoded
    omega
  | case2 => cases encoded
  | case3 => cases encoded
  | case4 point s more next found t rounded ih =>
    have step := roundFrom_keepsUp rounded
    unfold KeepsUp at step
    exact ih encoded (by omega)

theorem length_le_of_encodeChars (encoded : encodeChars cs = .ok out) :
    cs.length ≤ out.length := by
  unfold encodeChars at encoded
  obtain ⟨_, counted, encoded⟩ := bind_eq_ok.mp encoded
  obtain ⟨_, rfl⟩ := checked_eq_ok_iff.mp counted
  obtain ⟨_, _, encoded⟩ := bind_eq_ok.mp encoded
  obtain ⟨digits, written, made⟩ := bind_eq_ok.mp encoded
  cases made
  have length := length_le_of_encodeFrom written (Nat.le_add_left _ _)
  rw [List.length_map] at length
  rw [List.length_append, List.length_append]
  omega

end Lengths

theorem ofList_eq_iff {s : String} : String.ofList cs = s ↔ cs = s.toList := by
  rw [← String.toList_inj, String.toList_ofList]

theorem encode?_eq_some_iff {label text : String} :
    encode? label = some text ↔ encodeChars label.toList = .ok text.toList := by
  unfold encode?
  cases encodeChars label.toList with
  | error e => simp [Except.toOption]
  | ok cs => simp [Except.toOption, ofList_eq_iff]

theorem decode?_eq_some_iff {label text : String} :
    decode? text = some label ↔ decodeChars text.toList = .ok label.toList := by
  unfold decode?
  cases decodeChars text.toList with
  | error e => simp [Except.toOption]
  | ok cs => simp [Except.toOption, ofList_eq_iff]

theorem exists_encode? (s : String) (short : s.length ≤ longestLabel) :
    ∃ e, encode? s = some e ∧ (∀ c ∈ e.toList, isAscii c = true) ∧ decode? e = some s := by
  rw [← String.length_toList] at short
  obtain ⟨digits, encoded, numeric, decodes⟩ := exists_encodeChars short
  refine ⟨String.ofList (writtenForm s.toList digits), ?_, ?_, ?_⟩
  · rw [encode?_eq_some_iff, String.toList_ofList]
    exact encoded
  · rw [String.toList_ofList]
    exact writtenForm_ascii numeric
  · rw [decode?_eq_some_iff, String.toList_ofList]
    exact decodeChars_writtenForm numeric decodes

theorem encode?_of_decode? {e u : String} (small : ∀ c ∈ e.toList, isUpperAscii c = false)
    (led : ∀ rest, e.toList = '-' :: rest → '-' ∈ rest) (short : e.length ≤ longestLabel)
    (decoded : decode? e = some u) : encode? u = some e := by
  rw [← String.length_toList] at short
  rw [encode?_eq_some_iff]
  exact encodeChars_of_decodeChars (decode?_eq_some_iff.mp decoded) small led short

/-- What is written for a label of any length stands for it, if it is short. -/
theorem decode?_of_encode? {u e : String} (encoded : encode? u = some e)
    (short : e.length ≤ longestLabel) : decode? e = some u := by
  have longer : u.toList.length ≤ e.toList.length :=
    length_le_of_encodeChars (encode?_eq_some_iff.mp encoded)
  rw [String.length_toList, String.length_toList] at longer
  obtain ⟨written, again, _, decoded⟩ := exists_encode? u (Nat.le_trans longer short)
  rw [encoded] at again
  cases again
  exact decoded

theorem label_forms_bijective :
    (∀ s : String, s.length ≤ 63 →
      ∃ e, encode? s = some e ∧ (∀ c ∈ e.toList, isAscii c = true) ∧ decode? e = some s)
    ∧ ∀ e u : String, (∀ c ∈ e.toList, isAscii c = true ∧ isUpperAscii c = false) →
      e.length ≤ 59 → (∀ rest, e.toList = '-' :: rest → '-' ∈ rest) → decode? e = some u →
      encode? u = some e := by
  constructor
  · intro s short
    exact exists_encode? s short
  · intro e u lower short led decoded
    have within : e.length ≤ longestLabel := Nat.le_trans short (by decide)
    exact encode?_of_decode? (fun c member => (lower c member).2) led within decoded

theorem accented_label_written_once :
    (∃ e, encode? "bücher" = some e ∧ (∀ c ∈ e.toList, isAscii c = true)
      ∧ decode? e = some "bücher")
    ∧ encode? "bücher" = some "bcher-kva" := by
  have lower : ∀ c ∈ "bcher-kva".toList, isAscii c = true ∧ isUpperAscii c = false := by
    have all : "bcher-kva".toList.all (fun c => isAscii c && !isUpperAscii c) = true := by decide
    intro c member
    simpa using List.all_eq_true.mp all c member
  have led : ∀ rest, "bcher-kva".toList = '-' :: rest → '-' ∈ rest := by
    intro rest same
    have first : "bcher-kva".toList.head? = some '-' := congrArg List.head? same
    exact absurd first (by decide)
  have decoded : decode? "bcher-kva" = some "bücher" := by decide +kernel
  exact ⟨label_forms_bijective.1 "bücher" (by decide),
    label_forms_bijective.2 "bcher-kva" "bücher" lower (by decide) led decoded⟩

end DomainRegistry.Punycode
