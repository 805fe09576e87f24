import DomainRegistry.Bytes.Base64
import DomainRegistry.Proofs.Answers
import DomainRegistry.Proofs.Bytes.Utf8

/-!
Base64 there and back. Main statement: bytes are read back from their written form, with padding or
without it.
-/

namespace DomainRegistry.Base64

variable {p : Padding} {n base : Nat}

theorem value?_symbol (small : n < 64) : value? (symbol n) = some n := by
  have each : ∀ i : Fin 64, value? (symbol i) = some i.val := by decide
  exact each ⟨n, small⟩

theorem symbol_ne_pad (small : n < 64) : symbol n ≠ pad := by
  have each : ∀ i : Fin 64, symbol i ≠ pad := by decide
  exact each ⟨n, small⟩

theorem valueAt_symbol (small : n < 64) : valueAt base (symbol n) = .ok n := by
  rw [valueAt, value?_symbol small]

theorem LastGroup.read_symbol {index : Nat} {g : LastGroup} {rest : Bytes} (small : n < 64)
    (open' : g.pads = 0) :
    LastGroup.read base index g (symbol n :: rest)
      = LastGroup.read base (index + 1)
          { g with values := g.values ++ [n], lastByte := symbol n } rest := by
  rw [LastGroup.read, if_neg (symbol_ne_pad small), if_neg (by omega), valueAt_symbol small]
  rfl

theorem group_bytes (a b c : UInt8) :
    group (a.toNat / 4) (a.toNat % 4 * 16 + b.toNat / 16) (b.toNat % 16 * 4 + c.toNat / 64)
      (c.toNat % 64) = [a, b, c] := by
  have := a.toNat_lt
  have := b.toNat_lt
  have := c.toNat_lt
  have first : a.toNat / 4 * 4 + (a.toNat % 4 * 16 + b.toNat / 16) / 16 = a.toNat := by omega
  have second : (a.toNat % 4 * 16 + b.toNat / 16) % 16 * 16 + (b.toNat % 16 * 4 + c.toNat / 64) / 4
      = b.toNat := by omega
  have third : (b.toNat % 16 * 4 + c.toNat / 64) % 4 * 64 + c.toNat % 64 = c.toNat := by omega
  rw [group, first, second, third]
  simp

theorem group_two (a b : UInt8) :
    (group (a.toNat / 4) (a.toNat % 4 * 16 + b.toNat / 16) (b.toNat % 16 * 4) 0).take 2
      = [a, b] := by
  have := a.toNat_lt
  have := b.toNat_lt
  have first : a.toNat / 4 * 4 + (a.toNat % 4 * 16 + b.toNat / 16) / 16 = a.toNat := by omega
  have second : (a.toNat % 4 * 16 + b.toNat / 16) % 16 * 16 + b.toNat % 16 * 4 / 4 = b.toNat := by
    omega
  rw [group, first, second]
  simp

theorem group_one (a : UInt8) : (group (a.toNat / 4) (a.toNat % 4 * 16) 0 0).take 1 = [a] := by
  have := a.toNat_lt
  have first : a.toNat / 4 * 4 + a.toNat % 4 * 16 / 16 = a.toNat := by omega
  rw [group, first]
  simp

theorem decodeFrom_encode_three (a b c : UInt8) :
    decodeFrom p base (encode p [a, b, c]) = .ok [a, b, c] := by
  have := a.toNat_lt
  have := b.toNat_lt
  have := c.toNat_lt
  simp only [encode, decodeFrom]
  rw [LastGroup.read_symbol (by omega) rfl, LastGroup.read_symbol (by omega) rfl,
    LastGroup.read_symbol (by omega) rfl, LastGroup.read_symbol (by omega) rfl]
  simp only [LastGroup.read, bind, Except.bind]
  cases p <;> simp [LastGroup.bytes, LastGroup.paddingFits, group_bytes]

theorem decodeFrom_encode_two (a b : UInt8) :
    decodeFrom p base (encode p [a, b]) = .ok [a, b] := by
  have := a.toNat_lt
  have := b.toNat_lt
  cases p with
  | canonical =>
    simp only [encode, padding, List.replicate_one, List.cons_append, List.nil_append, decodeFrom]
    rw [LastGroup.read_symbol (by omega) rfl, LastGroup.read_symbol (by omega) rfl,
      LastGroup.read_symbol (by omega) rfl]
    simp [LastGroup.read, LastGroup.bytes, LastGroup.paddingFits, group_two, bind, Except.bind]
  | absent =>
    simp only [encode, padding, List.append_nil, decodeFrom]
    rw [LastGroup.read_symbol (by omega) rfl, LastGroup.read_symbol (by omega) rfl,
      LastGroup.read_symbol (by omega) rfl]
    simp [LastGroup.read, LastGroup.bytes, LastGroup.paddingFits, group_two, bind, Except.bind]

theorem decodeFrom_encode_one (a : UInt8) : decodeFrom p base (encode p [a]) = .ok [a] := by
  have := a.toNat_lt
  cases p with
  | canonical =>
    simp only [encode, padding, List.replicate_succ, List.replicate_zero, List.cons_append,
      List.nil_append, decodeFrom]
    rw [LastGroup.read_symbol (by omega) rfl, LastGroup.read_symbol (by omega) rfl]
    simp [LastGroup.read, LastGroup.bytes, LastGroup.paddingFits, group_one, bind, Except.bind]
  | absent =>
    simp only [encode, padding, List.append_nil, decodeFrom]
    rw [LastGroup.read_symbol (by omega) rfl, LastGroup.read_symbol (by omega) rfl]
    simp [LastGroup.read, LastGroup.bytes, LastGroup.paddingFits, group_one, bind, Except.bind]

theorem encode_ne_nil {bytes : Bytes} (filled : bytes ≠ []) : encode p bytes ≠ [] := by
  match bytes with
  | [] => exact absurd rfl filled
  | [_] => simp [encode]
  | [_, _] => simp [encode]
  | _ :: _ :: _ :: _ => simp [encode]

theorem decodeFrom_group (a b c : UInt8) {rest : Bytes} (more : rest ≠ []) :
    decodeFrom p base (encode p [a, b, c] ++ rest) =
      (decodeFrom p (base + 4) rest).map ([a, b, c] ++ ·) := by
  have := a.toNat_lt
  have := b.toNat_lt
  have := c.toNat_lt
  obtain ⟨e, rest, rfl⟩ := List.exists_cons_of_ne_nil more
  simp only [encode, List.cons_append, List.nil_append, decodeFrom]
  rw [valueAt_symbol (by omega), valueAt_symbol (by omega), valueAt_symbol (by omega),
    valueAt_symbol (by omega)]
  simp only [bind, Except.bind, group_bytes]
  cases decodeFrom p (base + 4) (e :: rest) <;> rfl

theorem decodeFrom_encode {bytes : Bytes} (filled : bytes ≠ []) :
    decodeFrom p base (encode p bytes) = .ok bytes := by
  induction bytes using encode.induct generalizing base with
  | case1 a b c rest ih =>
    -- Padding is only looked for in the last group, which is therefore read by itself.
    by_cases last : rest = []
    · subst last
      exact decodeFrom_encode_three a b c
    · change decodeFrom p base (encode p [a, b, c] ++ encode p rest) = _
      rw [decodeFrom_group a b c (encode_ne_nil last), ih last]
      rfl
  | case2 a b => exact decodeFrom_encode_two a b
  | case3 a => exact decodeFrom_encode_one a
  | case4 => exact absurd rfl filled

/-- No written form has a length that no bytes have. -/
theorem length_encode_mod (bytes : Bytes) : (encode p bytes).length % 4 ≠ 1 := by
  induction bytes using encode.induct with
  | case1 a b c rest ih =>
    simp only [encode, List.length_cons]
    omega
  | case2 a b => cases p <;> simp [encode, padding]
  | case3 a => cases p <;> simp [encode, padding]
  | case4 => simp [encode]

theorem decode_encode (p : Padding) (bytes : Bytes) : decode p (encode p bytes) = .ok bytes := by
  have complete : strayLast? (encode p bytes) = none := by
    rw [strayLast?, if_neg (length_encode_mod bytes)]
  rw [decode, complete]
  by_cases empty : bytes = []
  · subst empty
    rfl
  · have written : (encode p bytes).isEmpty = false := by
      rw [Bool.eq_false_iff, Ne, List.isEmpty_iff]
      exact encode_ne_nil empty
    simp only [written, Bool.false_eq_true, if_false]
    exact decodeFrom_encode empty

def IsWritten (b : UInt8) : Prop := (value? b).isSome = true ∨ b = pad

theorem isWritten_symbol (small : n < 64) : IsWritten (symbol n) := by
  rw [IsWritten, value?_symbol small]
  exact Or.inl rfl

theorem isWritten_of_mem_padding {b : UInt8} {count : Nat} (member : b ∈ padding p count) :
    IsWritten b := by
  cases p with
  | canonical => exact Or.inr (List.mem_replicate.mp member).2
  | absent => cases member

theorem isWritten_of_mem_encode {b : UInt8} {bytes : Bytes} (member : b ∈ encode p bytes) :
    IsWritten b := by
  induction bytes using encode.induct with
  | case1 x y z rest ih =>
    have := x.toNat_lt
    have := y.toNat_lt
    have := z.toNat_lt
    simp only [encode, List.mem_cons] at member
    rcases member with rfl | rfl | rfl | rfl | later
    · exact isWritten_symbol (by omega)
    · exact isWritten_symbol (by omega)
    · exact isWritten_symbol (by omega)
    · exact isWritten_symbol (by omega)
    · exact ih later
  | case2 x y =>
    have := x.toNat_lt
    have := y.toNat_lt
    simp only [encode, List.cons_append, List.nil_append, List.mem_cons] at member
    rcases member with rfl | rfl | rfl | padded
    · exact isWritten_symbol (by omega)
    · exact isWritten_symbol (by omega)
    · exact isWritten_symbol (by omega)
    · exact isWritten_of_mem_padding padded
  | case3 x =>
    have := x.toNat_lt
    simp only [encode, List.cons_append, List.nil_append, List.mem_cons] at member
    rcases member with rfl | rfl | padded
    · exact isWritten_symbol (by omega)
    · exact isWritten_symbol (by omega)
    · exact isWritten_of_mem_padding padded
  | case4 => cases member

theorem toNat_of_isWritten {b : UInt8} (written : IsWritten b) :
    b.toNat = 43 ∨ 47 ≤ b.toNat ∧ b.toNat ≤ 122 := by
  rcases written with symbol | rfl
  · unfold value? at symbol
    dsimp only at symbol
    by_cases inside : b.toNat = 43 ∨ 47 ≤ b.toNat ∧ b.toNat ≤ 122
    · exact inside
    · rw [if_neg (by omega), if_neg (by omega), if_neg (by omega), if_neg (by omega),
        if_neg (by omega)] at symbol
      cases symbol
  · decide

theorem lt_of_isWritten {b : UInt8} (written : IsWritten b) : b.toNat < 128 := by
  have inside := toNat_of_isWritten written
  omega

section Reading

variable {bytes out : Bytes}

theorem isWritten_of_valueAt {b : UInt8} (read : valueAt base b = .ok n) : IsWritten b := by
  rw [valueAt] at read
  split at read
  · next found => exact Or.inl (by rw [found]; rfl)
  · cases read

/-- What the last group takes is written, and it takes at most a value from each byte. -/
theorem LastGroup.of_read {index : Nat} {g g' : LastGroup}
    (done : LastGroup.read base index g bytes = .ok g') :
    (∀ b ∈ bytes, IsWritten b) ∧ g'.values.length ≤ g.values.length + bytes.length := by
  induction bytes generalizing index g with
  | nil =>
    cases done
    exact ⟨List.forall_mem_nil _, Nat.le_refl _⟩
  | cons b bytes ih =>
    rw [LastGroup.read] at done
    split at done
    · next padded =>
      split at done
      · cases done
      · obtain ⟨written, most⟩ := ih done
        refine ⟨List.forall_mem_cons.mpr ⟨Or.inr padded, written⟩, ?_⟩
        rw [List.length_cons]
        exact Nat.le_succ_of_le most
    · split at done
      · cases done
      · obtain ⟨value, read, done⟩ := bind_eq_ok.mp done
        obtain ⟨written, most⟩ := ih done
        refine ⟨List.forall_mem_cons.mpr ⟨isWritten_of_valueAt read, written⟩, ?_⟩
        simp only [List.length_append, List.length_cons, List.length_nil] at most ⊢
        omega

theorem LastGroup.length_bytes_le {g : LastGroup} (done : g.bytes base p = .ok out) :
    out.length ≤ g.values.length := by
  rw [LastGroup.bytes] at done
  split at done
  · cases done
  split at done
  · cases done
  split at done
  · next a b values =>
    split at done
    · cases done
    · cases done
      simp [values, group]
  · next a b c values =>
    split at done
    · cases done
    · cases done
      simp [values, group]
  · next a b c d values =>
    cases done
    simp [values, group]
  · cases done
    exact Nat.zero_le _

theorem of_decodeFrom (done : decodeFrom p base bytes = .ok out) :
    (∀ b ∈ bytes, IsWritten b) ∧ out.length ≤ bytes.length := by
  induction base, bytes using decodeFrom.induct generalizing out with
  | case1 base a b c d e rest ih =>
    rw [decodeFrom] at done
    obtain ⟨w, first, done⟩ := bind_eq_ok.mp done
    obtain ⟨x, second, done⟩ := bind_eq_ok.mp done
    obtain ⟨y, third, done⟩ := bind_eq_ok.mp done
    obtain ⟨z, fourth, done⟩ := bind_eq_ok.mp done
    obtain ⟨tail, more, done⟩ := bind_eq_ok.mp done
    cases done
    obtain ⟨written, most⟩ := ih more
    refine ⟨?_, ?_⟩
    · simp only [List.forall_mem_cons]
      exact ⟨isWritten_of_valueAt first, isWritten_of_valueAt second, isWritten_of_valueAt third,
        isWritten_of_valueAt fourth, List.forall_mem_cons.mp written⟩
    · simp only [List.length_append, List.length_cons, group, List.length_nil] at most ⊢
      omega
  | case2 base tail short =>
    rw [decodeFrom] at done
    · obtain ⟨g, read, done⟩ := bind_eq_ok.mp done
      obtain ⟨written, most⟩ := LastGroup.of_read read
      have fewer := LastGroup.length_bytes_le done
      refine ⟨written, ?_⟩
      change g.values.length ≤ 0 + tail.length at most
      omega
    · exact short

theorem of_decode (done : decode p bytes = .ok out) :
    (∀ b ∈ bytes, IsWritten b) ∧ out.length ≤ bytes.length := by
  rw [decode] at done
  split at done
  · cases done
  split at done
  · next empty =>
    cases done
    rw [List.isEmpty_iff.mp empty]
    exact ⟨List.forall_mem_nil _, Nat.le_refl _⟩
  · exact of_decodeFrom done

end Reading

theorem ofString_encodeText (p : Padding) (bytes : Bytes) :
    Bytes.ofString (encodeText p bytes) = encode p bytes :=
  Bytes.ofString_map_letter fun _ member => lt_of_isWritten (isWritten_of_mem_encode member)

theorem decodeText_encodeText (p : Padding) (bytes : Bytes) :
    decodeText p (encodeText p bytes) = .ok bytes := by
  rw [decodeText, ofString_encodeText, decode_encode]

theorem encodeText_injective {bytes more : Bytes} (same : encodeText p bytes = encodeText p more) :
    bytes = more := by
  have read := congrArg (decodeText p) same
  rw [decodeText_encodeText, decodeText_encodeText] at read
  exact Except.ok.inj read

end DomainRegistry.Base64
