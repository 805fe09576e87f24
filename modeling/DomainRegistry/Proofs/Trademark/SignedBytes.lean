import DomainRegistry.Proofs.Bytes.Base64
import DomainRegistry.Proofs.Time.Rfc3339
import DomainRegistry.Trademark.SignedBytes

/-!
What the bytes under a signature tell. Main statement: they determine the record that was signed,
and for a trust root also whether it is a certificate or a revocation list.
-/

namespace DomainRegistry

namespace SignedBytes

variable {α β : Type}

/-- That what follows a code cannot be taken for a part of it. -/
def EndsItself (code : α → Bytes) : Prop :=
  ∀ a b after rest, code a ++ after = code b ++ rest → a = b ∧ after = rest

theorem EndsItself.injective {code : α → Bytes} (ends : EndsItself code) {a b : α}
    (same : code a = code b) : a = b :=
  (ends a b [] [] (by rw [same])).1

theorem EndsItself.comp {code : β → Bytes} (ends : EndsItself code) {f : α → β}
    (injective : ∀ a b, f a = f b → a = b) : EndsItself fun a => code (f a) := by
  intro a b after rest same
  obtain ⟨values, left⟩ := ends (f a) (f b) after rest same
  exact ⟨injective a b values, left⟩

theorem number_of_lt {n : Nat} (small : n < 128) : number n = [UInt8.ofNat n] := by
  rw [number, if_pos small]

theorem number_of_le {n : Nat} (large : 128 ≤ n) :
    number n = UInt8.ofNat (128 + n % 128) :: number (n / 128) := by
  rw [number, if_neg (by omega)]

theorem ofNat_inj_of_lt {m n : Nat} (m_lt : m < 256) (n_lt : n < 256)
    (same : UInt8.ofNat m = UInt8.ofNat n) : m = n := by
  have values := congrArg UInt8.toNat same
  simp only [UInt8.toNat_ofNat'] at values
  omega

theorem number_endsItself : EndsItself number := by
  intro m
  induction m using Nat.strongRecOn with
  | ind m ih =>
    intro n after rest same
    -- Whether a number goes on is seen from its first byte, so that both end here or neither.
    by_cases short : m < 128
    · rw [number_of_lt short] at same
      by_cases short' : n < 128
      · rw [number_of_lt short'] at same
        obtain ⟨first, left⟩ := List.cons.inj same
        exact ⟨ofNat_inj_of_lt (by omega) (by omega) first, left⟩
      · rw [number_of_le (by omega)] at same
        have first := ofNat_inj_of_lt (by omega) (by omega) (List.cons.inj same).1
        omega
    · rw [number_of_le (by omega)] at same
      by_cases short' : n < 128
      · rw [number_of_lt short'] at same
        have first := ofNat_inj_of_lt (by omega) (by omega) (List.cons.inj same).1
        omega
      · rw [number_of_le (by omega : 128 ≤ n)] at same
        obtain ⟨first, more⟩ := List.cons.inj same
        have low := ofNat_inj_of_lt (by omega) (by omega) first
        obtain ⟨high, left⟩ := ih (m / 128) (by omega) (n / 128) after rest more
        exact ⟨by omega, left⟩

theorem text_endsItself : EndsItself text := by
  intro s t after rest same
  simp only [text, List.append_assoc] at same
  obtain ⟨lengths, more⟩ := number_endsItself _ _ _ _ same
  obtain ⟨bytes, left⟩ := List.append_inj more lengths
  exact ⟨Bytes.ofString_injective bytes, left⟩

theorem time_endsItself : EndsItself time :=
  text_endsItself.comp fun _ _ => Instant.render_injective

theorem key_endsItself : EndsItself key :=
  text_endsItself.comp fun _ _ => Base64.encodeText_injective

theorem flatMap_inj {item : α → Bytes} (ends : EndsItself item) {xs ys : List α}
    {after rest : Bytes} (lengths : xs.length = ys.length)
    (same : xs.flatMap item ++ after = ys.flatMap item ++ rest) : xs = ys ∧ after = rest := by
  induction xs generalizing ys with
  | nil =>
    obtain rfl : ys = [] := List.eq_nil_of_length_eq_zero lengths.symm
    exact ⟨rfl, same⟩
  | cons x xs ih =>
    obtain ⟨y, ys, rfl⟩ := List.exists_cons_of_length_eq_add_one lengths.symm
    simp only [List.flatMap_cons, List.append_assoc] at same
    obtain ⟨rfl, more⟩ := ends _ _ _ _ same
    obtain ⟨rfl, left⟩ := ih (Nat.succ.inj lengths) more
    exact ⟨rfl, left⟩

theorem list_endsItself {item : α → Bytes} (ends : EndsItself item) : EndsItself (list item) := by
  intro xs ys after rest same
  simp only [list, List.append_assoc] at same
  obtain ⟨lengths, more⟩ := number_endsItself _ _ _ _ same
  exact flatMap_inj ends lengths more

theorem serial_endsItself : EndsItself fun serial : UInt64 => number serial.toNat :=
  number_endsItself.comp fun _ _ => UInt64.toNat_inj.mp

theorem reason_endsItself : EndsItself fun reason : RevocationReason => number reason.index :=
  number_endsItself.comp fun a b same => by cases a <;> cases b <;> first | rfl | cases same

theorem certificate_endsItself : EndsItself certificate := by
  intro c d after rest same
  simp only [certificate, List.append_assoc] at same
  obtain ⟨serial, same⟩ := serial_endsItself _ _ _ _ same
  obtain ⟨subject, same⟩ := text_endsItself _ _ _ _ same
  obtain ⟨publicKey, same⟩ := key_endsItself _ _ _ _ same
  obtain ⟨notBefore, same⟩ := time_endsItself _ _ _ _ same
  obtain ⟨notAfter, left⟩ := time_endsItself _ _ _ _ same
  cases c
  cases d
  simp_all

theorem mark_endsItself : EndsItself mark := by
  intro m n after rest same
  simp only [mark, List.append_assoc] at same
  obtain ⟨id, same⟩ := text_endsItself _ _ _ _ same
  obtain ⟨markName, same⟩ := text_endsItself _ _ _ _ same
  obtain ⟨holder, same⟩ := text_endsItself _ _ _ _ same
  obtain ⟨labels, same⟩ := list_endsItself text_endsItself _ _ _ _ same
  obtain ⟨notBefore, same⟩ := time_endsItself _ _ _ _ same
  obtain ⟨notAfter, left⟩ := time_endsItself _ _ _ _ same
  cases m
  cases n
  simp_all

theorem revoked_endsItself : EndsItself revoked := by
  intro r q after rest same
  simp only [revoked, List.append_assoc] at same
  obtain ⟨serial, same⟩ := serial_endsItself _ _ _ _ same
  obtain ⟨revokedAt, same⟩ := time_endsItself _ _ _ _ same
  obtain ⟨reason, left⟩ := reason_endsItself _ _ _ _ same
  cases r
  cases q
  simp_all

theorem revocations_endsItself : EndsItself revocations := by
  intro d e after rest same
  simp only [revocations, List.append_assoc] at same
  obtain ⟨thisUpdate, same⟩ := time_endsItself _ _ _ _ same
  obtain ⟨revoked, left⟩ := list_endsItself revoked_endsItself _ _ _ _ same
  cases d
  cases e
  simp_all

theorem getLast?_time (t : Instant) : (time t).getLast? = some 90 := by
  rw [time, text, Instant.render, Bytes.ofString_ofList, List.flatMap_append]
  change (_ ++ (_ ++ [90])).getLast? = some 90
  rw [← List.append_assoc, List.getLast?_concat]

theorem getLast?_certificate (c : CertificateData) : (certificate c).getLast? = some 90 := by
  rw [certificate, List.getLast?_append, getLast?_time]
  rfl

theorem getLast?_revoked (r : RevokedCertificate) :
    (revoked r).getLast? = some (UInt8.ofNat r.reason.index) := by
  have small : r.reason.index < 128 := by cases r.reason <;> decide
  rw [revoked, number_of_lt small, List.getLast?_concat]

/-- A revocation list ends in a reason or, without rows, in their number. -/
theorem getLast?_revocations (d : RevocationData) :
    ∃ b, (revocations d).getLast? = some b ∧ b.toNat < 10 := by
  rw [revocations, list]
  rcases List.eq_nil_or_concat d.revoked with none | ⟨rows, r, split⟩
  · rw [none]
    exact ⟨0, by simp [number_of_lt], by decide⟩
  · rw [split, List.concat_eq_append, List.flatMap_append, List.flatMap_singleton,
      List.getLast?_append, List.getLast?_append, List.getLast?_append, getLast?_revoked]
    refine ⟨_, rfl, ?_⟩
    cases r.reason <;> decide

theorem certificate_ne_revocations (c : CertificateData) (d : RevocationData) :
    certificate c ≠ revocations d := by
  intro same
  obtain ⟨b, last, small⟩ := getLast?_revocations d
  rw [← same, getLast?_certificate] at last
  obtain rfl := Option.some.inj last
  exact absurd small (by decide)

inductive RootPayload where
  | certificate (data : CertificateData)
  | revocations (data : RevocationData)

def RootPayload.bytes : RootPayload → Bytes
  | certificate c => SignedBytes.certificate c
  | revocations d => SignedBytes.revocations d

/-- Signed bytes determine what was signed, and a root's also of which kind it is. -/
theorem signed_bytes_inj (p q : RootPayload) (m n : MarkData) :
    (p.bytes = q.bytes ↔ p = q) ∧ (mark m = mark n ↔ m = n) := by
  refine ⟨⟨fun same => ?_, congrArg _⟩, ⟨mark_endsItself.injective, congrArg _⟩⟩
  cases p with
  | certificate c =>
    cases q with
    | certificate d => rw [certificate_endsItself.injective same]
    | revocations d => exact absurd same (certificate_ne_revocations c d)
  | revocations d =>
    cases q with
    | certificate c => exact absurd same.symm (certificate_ne_revocations c d)
    | revocations e => rw [revocations_endsItself.injective same]

end SignedBytes

end DomainRegistry
