import DomainRegistry.Crypto.Ed25519
import DomainRegistry.Proofs.Answers
import DomainRegistry.Trademark.Revocation

/-!
What revocation lists say of their rows. Main statement: a mark or certificate is reported revoked
as soon as one of its rows has taken effect, exactly as long as its last row does not put the
revocation off.
-/

namespace DomainRegistry

section Rows

variable {κ : Type} {rows : List (κ × Instant)} {key : κ} {now : Instant}

def Revoked (rows : List (κ × Instant)) (key : κ) (now : Instant) : Prop :=
  ∃ t, (key, t) ∈ rows ∧ t ≤ now

/-- That a row for the key has taken effect, but the last row for it has not. -/
def PutOff (rows : List (κ × Instant)) (key : κ) (now : Instant) : Prop :=
  ∃ before t after, rows = before ++ (key, t) :: after ∧ (∀ row ∈ after, row.1 ≠ key)
    ∧ now < t ∧ Revoked before key now

def LastInEffect (rows : List (κ × Instant)) (key : κ) (now : Instant) : Prop :=
  ∃ before t after, rows = before ++ (key, t) :: after ∧ (∀ row ∈ after, row.1 ≠ key) ∧ t ≤ now

def LastRow {α : Type} (rows : List (κ × α)) (key : κ) (a : α) : Prop :=
  ∃ before after, rows = before ++ (key, a) :: after ∧ ∀ row ∈ after, row.1 ≠ key

theorem LastRow.mem {α : Type} {rows : List (κ × α)} {a : α} (last : LastRow rows key a) :
    (key, a) ∈ rows := by
  obtain ⟨before, after, rfl, _⟩ := last
  simp

theorem lastRow_map {α β : Type} {rows : List (κ × α)} (f : α → β) {b : β} :
    LastRow (rows.map fun row => (row.1, f row.2)) key b ↔ ∃ a, LastRow rows key a ∧ f a = b := by
  constructor
  · rintro ⟨_, _, split, apart⟩
    obtain ⟨before, rest, rfl, rfl, tail⟩ := List.map_eq_append_iff.mp split
    obtain ⟨⟨k, a⟩, after, rfl, same, rfl⟩ := List.map_eq_cons_iff.mp tail
    cases same
    exact ⟨a, ⟨before, after, rfl, fun row member => apart _ (List.mem_map_of_mem member)⟩, rfl⟩
  · rintro ⟨a, ⟨before, after, rfl, apart⟩, rfl⟩
    refine ⟨_, _, List.map_append, fun row member => ?_⟩
    obtain ⟨source, listed, rfl⟩ := List.mem_map.mp member
    exact apart source listed

theorem lastInEffect_iff : LastInEffect rows key now ↔ ∃ t, LastRow rows key t ∧ t ≤ now := by
  constructor
  · rintro ⟨before, t, after, split, apart, effective⟩
    exact ⟨t, ⟨before, after, split, apart⟩, effective⟩
  · rintro ⟨t, ⟨before, after, split, apart⟩, effective⟩
    exact ⟨before, t, after, split, apart, effective⟩

variable [DecidableEq κ]

theorem lastInEffect_iff_find :
    LastInEffect rows key now ↔ ∃ t, SortedMap.find key rows.reverse = some t ∧ t ≤ now := by
  simp only [SortedMap.find_reverse_eq_some_iff]
  exact lastInEffect_iff

omit [DecidableEq κ] in
theorem LastInEffect.revoked (last : LastInEffect rows key now) : Revoked rows key now := by
  obtain ⟨before, t, after, rfl, _, effective⟩ := last
  exact ⟨t, by simp, effective⟩

omit [DecidableEq κ] in
theorem PutOff.revoked (off : PutOff rows key now) : Revoked rows key now := by
  obtain ⟨before, t, after, rfl, _, _, u, member, effective⟩ := off
  exact ⟨u, by simp [member], effective⟩

theorem LastInEffect.not_putOff (last : LastInEffect rows key now) : ¬PutOff rows key now := by
  rintro ⟨before, t, after, split, apart, late, _⟩
  obtain ⟨u, found, effective⟩ := lastInEffect_iff_find.mp last
  have same : SortedMap.find key rows.reverse = some t :=
    SortedMap.find_reverse_eq_some_iff.mpr ⟨before, after, split, apart⟩
  rw [found] at same
  cases same
  exact Instant.not_le.mpr late effective

/-- A revoked key has a last row, and that row has taken effect or puts the revocation off. -/
theorem Revoked.lastInEffect_or_putOff (revoked : Revoked rows key now) :
    LastInEffect rows key now ∨ PutOff rows key now := by
  obtain ⟨t, member, effective⟩ := revoked
  have listed : (SortedMap.find key rows.reverse).isSome = true :=
    SortedMap.find_isSome_iff.mpr (List.mem_map.mpr ⟨(key, t), List.mem_reverse.mpr member, rfl⟩)
  obtain ⟨last, found⟩ := Option.isSome_iff_exists.mp listed
  obtain ⟨before, after, split, apart⟩ := SortedMap.find_reverse_eq_some_iff.mp found
  by_cases taken : last ≤ now
  · exact Or.inl ⟨before, last, after, split, apart, taken⟩
  · have late := Instant.not_le.mp taken
    refine Or.inr ⟨before, last, after, split, apart, late, t, ?_, effective⟩
    rw [split] at member
    rcases List.mem_append.mp member with early | rest
    · exact early
    · rcases List.mem_cons.mp rest with same | later
      · cases same
        exact absurd effective taken
      · exact absurd rfl (apart (key, t) later)

theorem not_putOff_iff :
    ¬PutOff rows key now ↔ (Revoked rows key now → LastInEffect rows key now) := by
  constructor
  · intro clear revoked
    exact revoked.lastInEffect_or_putOff.resolve_right clear
  · intro kept off
    exact (kept off.revoked).not_putOff off

structure Reports (rows : List (κ × Instant)) (key : κ) (reported : Instant → Prop) : Prop where
  /-- The report is right exactly as long as the last row does not put the revocation off. -/
  right_iff : ∀ now, (reported now ↔ Revoked rows key now) ↔ ¬PutOff rows key now
  /-- What is reported revoked is revoked. -/
  sound : ∀ now, reported now → Revoked rows key now
  /-- What is reported revoked stays so. -/
  lasting : ∀ now later, now ≤ later → reported now → reported later

theorem reports_of_last {reported : Instant → Prop}
    (same : ∀ now, reported now ↔ LastInEffect rows key now) : Reports rows key reported where
  right_iff now := by
    rw [same, not_putOff_iff]
    exact ⟨fun right => right.mpr, fun kept => ⟨LastInEffect.revoked, kept⟩⟩
  sound now reported := ((same now).mp reported).revoked
  lasting now later le reported := by
    obtain ⟨before, t, after, split, apart, effective⟩ := (same now).mp reported
    exact (same later).mpr ⟨before, t, after, split, apart, Instant.le_trans effective le⟩

end Rows

namespace MarkRevocations

open Text ListSource

def row? (line : List Char) : Option (String × Instant) :=
  match columns line with
  | [id, inserted] => (Instant.parseStrict? (String.ofList inserted)).map fun t =>
      (String.ofList id, t)
  | _ => none

/-- The rows of a text, after its header and its column line. -/
def rows? (text : String) : Option (List (String × Instant)) :=
  ((filledLines text).drop 2).mapM fun line => row? line.2

theorem addRow_eq_ok {revoked after : SortedMap String Instant} {line : Nat × List Char}
    (added : addRow revoked line = .ok after) :
    ∃ id t, row? line.2 = some (id, t) ∧ after = revoked.insert id t := by
  unfold addRow at added
  split at added
  · next id inserted parts =>
    split at added
    · cases added
    · obtain ⟨t, read, made⟩ := bind_eq_ok.mp added
      cases made
      unfold time at read
      split at read
      · next u parsed =>
        cases read
        refine ⟨String.ofList id, t, ?_, rfl⟩
        rw [row?, parts]
        exact congrArg (Option.map fun t => (String.ofList id, t)) parsed
      · cases read
  · cases added

theorem foldlM_addRow_eq_ok {lines : List (Nat × List Char)}
    {revoked after : SortedMap String Instant} (added : lines.foldlM addRow revoked = .ok after) :
    ∃ rows, lines.mapM (fun line => row? line.2) = some rows
      ∧ after = rows.foldl (fun m e => m.insert e.1 e.2) revoked := by
  induction lines generalizing revoked with
  | nil => cases added; exact ⟨[], rfl, rfl⟩
  | cons line lines ih =>
    rw [List.foldlM_cons] at added
    obtain ⟨next, first, rest⟩ := bind_eq_ok.mp added
    obtain ⟨id, t, read, rfl⟩ := addRow_eq_ok first
    obtain ⟨rows, readAll, rfl⟩ := ih rest
    refine ⟨(id, t) :: rows, ?_, rfl⟩
    rw [List.mapM_cons, read, readAll]
    rfl

theorem parse_eq_ok {text : String} {l : MarkRevocations} (parsed : parse text = .ok l) :
    ∃ rows, rows? text = some rows ∧ l.revoked = .ofList rows := by
  unfold parse at parsed
  unfold rows?
  split at parsed
  · cases parsed
  · next first rest shape =>
    obtain ⟨created, _, parsed⟩ := bind_eq_ok.mp parsed
    split at parsed
    · cases parsed
    · next second lines =>
      obtain ⟨_, parsed⟩ := ite_error_eq_ok.mp parsed
      obtain ⟨revoked, added, made⟩ := bind_eq_ok.mp parsed
      cases made
      obtain ⟨rows, read, rfl⟩ := foldlM_addRow_eq_ok added
      exact ⟨rows, by rw [shape]; exact read, rfl⟩

/-- That a list has these rows, be it read from a text or made of entries. -/
inductive HasRows : MarkRevocations → List (String × Instant) → Prop
  | parsed {text : String} {l : MarkRevocations} {rows : List (String × Instant)}
      (accepted : parse text = .ok l) (read : rows? text = some rows) : HasRows l rows
  | entries (rows : List (String × Instant)) : HasRows (.ofEntries rows) rows

theorem HasRows.kept {l : MarkRevocations} {rows : List (String × Instant)} (has : HasRows l rows) :
    l.revoked = .ofList rows := by
  cases has with
  | parsed accepted read =>
    obtain ⟨rows', read', kept⟩ := parse_eq_ok accepted
    cases read.symm.trans read'
    exact kept
  | entries => rfl

theorem hasRows_of_parse {text : String} {l : MarkRevocations} (accepted : parse text = .ok l) :
    ∃ rows, rows? text = some rows ∧ HasRows l rows := by
  obtain ⟨rows, read, _⟩ := parse_eq_ok accepted
  exact ⟨rows, read, .parsed accepted read⟩

theorem inEffect?_eq_some_iff {l : MarkRevocations} {rows : List (String × Instant)}
    (has : HasRows l rows) {id : String} {now t : Instant} :
    l.inEffect? id now = some t ↔ LastRow rows id t ∧ t ≤ now := by
  rw [inEffect?, has.kept, SortedMap.get?_ofList, Option.filter_eq_some_iff, decide_eq_true_eq,
    SortedMap.find_reverse_eq_some_iff, LastRow]

theorem inEffect?_isSome_iff {l : MarkRevocations} {rows : List (String × Instant)}
    (has : HasRows l rows) (id : String) (now : Instant) :
    (l.inEffect? id now).isSome = true ↔ LastInEffect rows id now := by
  rw [Option.isSome_iff_exists, lastInEffect_iff]
  exact exists_congr fun t => inEffect?_eq_some_iff has

end MarkRevocations

namespace CertificateRevocations

def rows (d : RevocationData) : List (UInt64 × Instant) :=
  d.revoked.map fun r => (r.serial, r.revokedAt)

def Revokes (d : RevocationData) (serial : UInt64) (now : Instant) (r : RevokedCertificate) :
    Prop :=
  r ∈ d.revoked ∧ r.serial = serial ∧ r.revokedAt ≤ now

def LastRevokes (d : RevocationData) (serial : UInt64) (now : Instant) (r : RevokedCertificate) :
    Prop :=
  LastRow (d.revoked.map fun r => (r.serial, r)) serial r ∧ r.revokedAt ≤ now

theorem LastRevokes.revokes {d : RevocationData} {serial : UInt64} {now : Instant}
    {r : RevokedCertificate} (last : LastRevokes d serial now r) : Revokes d serial now r := by
  obtain ⟨row, effective⟩ := last
  obtain ⟨r', member, same⟩ := List.mem_map.mp row.mem
  cases same
  exact ⟨member, rfl, effective⟩

theorem exists_revokes_iff {d : RevocationData} {serial : UInt64} {now : Instant} :
    (∃ r, Revokes d serial now r) ↔ Revoked (rows d) serial now := by
  constructor
  · rintro ⟨r, member, rfl, effective⟩
    exact ⟨r.revokedAt, List.mem_map.mpr ⟨r, member, rfl⟩, effective⟩
  · rintro ⟨t, row, effective⟩
    obtain ⟨r, member, same⟩ := List.mem_map.mp row
    cases same
    exact ⟨r, member, rfl, effective⟩

theorem exists_lastRevokes_iff {d : RevocationData} {serial : UInt64} {now : Instant} :
    (∃ r, LastRevokes d serial now r) ↔ LastInEffect (rows d) serial now := by
  have mapped : rows d = (d.revoked.map fun r => (r.serial, r)).map fun row =>
      (row.1, row.2.revokedAt) := by
    rw [rows, List.map_map]
    rfl
  rw [lastInEffect_iff, mapped]
  simp only [lastRow_map RevokedCertificate.revokedAt]
  constructor
  · rintro ⟨r, last, effective⟩
    exact ⟨r.revokedAt, ⟨r, last, rfl⟩, effective⟩
  · rintro ⟨_, ⟨r, last, rfl⟩, effective⟩
    exact ⟨r, last, effective⟩

theorem inEffect?_eq_some_iff {d : RevocationData} {serial : UInt64} {now : Instant}
    {r : RevokedCertificate} :
    (ofData d).inEffect? serial now = some r ↔ LastRevokes d serial now r := by
  rw [inEffect?, ofData, SortedMap.get?_ofList, Option.filter_eq_some_iff, decide_eq_true_eq,
    SortedMap.find_reverse_eq_some_iff, LastRevokes, LastRow]

theorem inEffect?_isSome_iff (d : RevocationData) (serial : UInt64) (now : Instant) :
    ((ofData d).inEffect? serial now).isSome = true ↔ LastInEffect (rows d) serial now := by
  rw [Option.isSome_iff_exists, ← exists_lastRevokes_iff]
  exact exists_congr fun r => inEffect?_eq_some_iff

theorem eq_ofData_of_verify {scheme : SignatureScheme} {root : Bytes} {s : SignedRevocations}
    {l : CertificateRevocations} (verified : s.verify scheme root = .ok l) : l = ofData s.data := by
  unfold SignedRevocations.verify at verified
  obtain ⟨_, verified⟩ := ite_error_eq_ok.mp verified
  split at verified
  · cases verified; rfl
  · cases verified

end CertificateRevocations

/-- All lists report revoked what their rows revoke, unless a last row puts the revocation off. -/
theorem revocation_reports_right_iff (text : String) (rows : List (String × Instant))
    (scheme : SignatureScheme) (root : Bytes) (s : SignedRevocations) :
    (∀ l, MarkRevocations.parse text = .ok l →
      ∃ rows, MarkRevocations.rows? text = some rows
        ∧ ∀ id, Reports rows id fun now => (l.inEffect? id now).isSome = true)
    ∧ (∀ id, Reports rows id fun now =>
        ((MarkRevocations.ofEntries rows).inEffect? id now).isSome = true)
    ∧ (∀ l, s.verify scheme root = .ok l →
        ∀ serial, Reports (CertificateRevocations.rows s.data) serial fun now =>
          (l.inEffect? serial now).isSome = true) := by
  refine ⟨fun l parsed => ?_, fun id => ?_, fun l verified serial => ?_⟩
  · obtain ⟨rows, read, has⟩ := MarkRevocations.hasRows_of_parse parsed
    exact ⟨rows, read, fun id => reports_of_last (MarkRevocations.inEffect?_isSome_iff has id)⟩
  · exact reports_of_last (MarkRevocations.inEffect?_isSome_iff (.entries rows) id)
  · obtain rfl := CertificateRevocations.eq_ofData_of_verify verified
    exact reports_of_last (CertificateRevocations.inEffect?_isSome_iff s.data serial)

namespace RevocationSamples

open MarkRevocations

/-- The mark `m` is revoked in 2030 and then in 2010. -/
def earlierLast : String :=
  "1,2024-01-01T00:00:00Z\nsmd-id,insertion-datetime\nm,2030-01-01T00:00:00Z\nm,2010-01-01T00:00:00Z\n"

def laterLast : String :=
  "1,2024-01-01T00:00:00Z\nsmd-id,insertion-datetime\nm,2010-01-01T00:00:00Z\nm,2030-01-01T00:00:00Z\n"

def start2010 : Instant := ⟨1262304000, 0, by decide, by decide⟩

def start2020 : Instant := ⟨1577836800, 0, by decide, by decide⟩

def start2030 : Instant := ⟨1893456000, 0, by decide, by decide⟩

def root : Bytes :=
  [138, 136, 227, 221, 116, 9, 241, 149, 253, 82, 219, 45, 60, 186, 93, 114, 202, 103, 9, 191, 29,
    148, 18, 27, 243, 116, 136, 1, 180, 15, 111, 92]

def list : SignedRevocations where
  data := ⟨.epoch, [⟨7, .epoch, .keyCompromise⟩]⟩
  signature := [131, 203, 88, 124, 141, 184, 151, 73, 2, 79, 38, 180, 107, 212, 182, 116, 207, 26,
    30, 206, 54, 195, 135, 132, 199, 226, 170, 212, 170, 19, 145, 25, 103, 47, 50, 170, 142, 207,
    23, 223, 144, 81, 34, 175, 247, 20, 41, 138, 55, 5, 79, 103, 27, 176, 152, 62, 189, 31, 202,
    209, 191, 89, 175, 11]

theorem samples_read :
    (∃ l, parse earlierLast = .ok l)
      ∧ rows? earlierLast = some [("m", start2030), ("m", start2010)]
      ∧ (∃ l, parse laterLast = .ok l ∧ (l.inEffect? "m" start2020).isSome = false)
      ∧ rows? laterLast = some [("m", start2010), ("m", start2030)]
      ∧ ∃ l, list.verify Ed25519.scheme root = .ok l := by
  have evaluated : (parse earlierLast).toOption.isSome = true
      ∧ rows? earlierLast = some [("m", start2030), ("m", start2010)]
      ∧ ((parse laterLast).toOption.map fun l => (l.inEffect? "m" start2020).isSome) = some false
      ∧ rows? laterLast = some [("m", start2010), ("m", start2030)]
      ∧ (list.verify Ed25519.scheme root).toOption.isSome = true := by
    unfold parse rows? ListSource.filledLines
    rw [show earlierLast = String.ofList _ from rfl, show laterLast = String.ofList _ from rfl,
      String.toList_ofList, String.toList_ofList]
    decide +kernel
  obtain ⟨accepted, earlier, passed, later, verified⟩ := evaluated
  obtain ⟨l, found⟩ := Option.isSome_iff_exists.mp accepted
  obtain ⟨k, parsed, free⟩ := Option.map_eq_some_iff.mp passed
  obtain ⟨r, signed⟩ := Option.isSome_iff_exists.mp verified
  exact ⟨⟨l, eq_ok_of_toOption found⟩, earlier, ⟨k, eq_ok_of_toOption parsed, free⟩, later,
    r, eq_ok_of_toOption signed⟩

end RevocationSamples

open RevocationSamples in
/-- The row of 2010 comes last, so that the mark is revoked in 2020, as the certificate is. -/
theorem reordered_rows_reported :
    (∃ l, MarkRevocations.parse earlierLast = .ok l ∧ (l.inEffect? "m" start2020).isSome = true)
      ∧ ∃ l, list.verify Ed25519.scheme root = .ok l ∧ (l.inEffect? 7 start2020).isSome = true := by
  obtain ⟨⟨l, parsed⟩, given, _, _, k, verified⟩ := samples_read
  obtain ⟨texts, _, lists⟩ := revocation_reports_right_iff earlierLast [] Ed25519.scheme root list
  obtain ⟨rows, found, reports⟩ := texts l parsed
  obtain rfl : [("m", start2030), ("m", start2010)] = rows := Option.some.inj (given ▸ found)
  have last : LastInEffect [("m", start2030), ("m", start2010)] "m" start2020 :=
    ⟨[("m", start2030)], start2010, [], rfl, by simp, by decide⟩
  have listed : LastInEffect (CertificateRevocations.rows list.data) 7 start2020 :=
    ⟨[], .epoch, [], rfl, by simp, by decide⟩
  exact ⟨⟨l, parsed, ((reports "m").right_iff start2020 |>.mpr last.not_putOff).mpr last.revoked⟩,
    k, verified, ((lists k verified 7).right_iff start2020 |>.mpr listed.not_putOff).mpr
      listed.revoked⟩

open RevocationSamples in
/-- The row of 2010 is followed by one of 2030, which lets the mark pass in 2020. -/
theorem later_row_lets_pass :
    ¬∀ text l rows, MarkRevocations.parse text = .ok l → MarkRevocations.rows? text = some rows →
      ∀ id now, (l.inEffect? id now).isSome = true ↔ Revoked rows id now := by
  intro right
  obtain ⟨_, _, ⟨l, parsed, passed⟩, given, _⟩ := samples_read
  have revoked : Revoked [("m", start2010), ("m", start2030)] "m" start2020 :=
    ⟨start2010, by simp, by decide⟩
  have reported := (right _ l _ parsed given "m" start2020).mpr revoked
  rw [passed] at reported
  cases reported

end DomainRegistry
