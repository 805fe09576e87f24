import Mathlib.Data.List.Nodup
import DomainRegistry.Json.Record
import DomainRegistry.Proofs.Answers
import DomainRegistry.Proofs.Json.Documents
import DomainRegistry.Proofs.Time.Rfc3339

/-!
Values in JSON there and back. Main statements: numbers, words, lists, sets and fields of records
are read back from what is written for them, and what is read back from its form is read back from
the text of that form.
-/

namespace DomainRegistry.Json

variable {α : Type} {entries : List (String × Json)} {names : List String}

theorem givenOnce_of_nodup (distinct : (entries.map Prod.fst).Nodup) :
    givenOnce names entries = true := by
  simp only [givenOnce, List.all_eq_true, decide_eq_true_eq]
  intro name _
  have once := List.nodup_iff_count_le_one.mp distinct name
  rwa [List.count, List.countP_map, List.countP_eq_length_filter] at once

theorem fields?_obj (same : entries.map Prod.fst = names) (distinct : names.Nodup) :
    fields? names (obj entries) = some ⟨entries, false⟩ := by
  rw [fields?, if_pos (givenOnce_of_nodup (same ▸ distinct))]

theorem exactFields?_obj (same : entries.map Prod.fst = names) (distinct : names.Nodup) :
    exactFields? names (obj entries) = some ⟨entries, false⟩ := by
  have known : (entries.all fun e => names.contains e.1) = true := by
    simp only [List.all_eq_true, List.contains_iff_mem]
    intro e member
    exact same ▸ List.mem_map_of_mem member
  rw [exactFields?, fields?_obj same distinct, Option.filter_some, if_pos known]

theorem lookup_of_mem {name : String} {j : Json} (distinct : (entries.map Prod.fst).Nodup)
    (member : (name, j) ∈ entries) : entries.lookup name = some j := by
  induction entries with
  | nil => cases member
  | cons entry entries ih =>
    obtain ⟨key, value⟩ := entry
    obtain ⟨fresh, distinct⟩ := List.nodup_cons.mp distinct
    rcases List.mem_cons.mp member with same | later
    · cases same
      exact List.lookup_cons_self
    · have other : name ≠ key := by
        rintro rfl
        have known : (name, j).1 ∈ entries.map Prod.fst := List.mem_map_of_mem later
        exact fresh known
      have differs : (name == key) = false := beq_false_of_ne other
      rw [List.lookup_cons, differs]
      exact ih distinct later

theorem bind_of_some {β : Type} {a? : Option α} {f : α → Option β} {a : α} {b : β}
    (found : a? = some a) (next : f a = some b) : a? >>= f = some b := by
  rw [found]
  exact next

section Fields

variable {name : String} {j : Json} {read : Json → Option α} {a absent : α}
  (same : entries.map Prod.fst = names) (distinct : names.Nodup) (member : (name, j) ∈ entries)
include same distinct member

theorem required_of_mem (back : read j = some a) :
    (Fields.mk entries false).required name read = some a := by
  rw [Fields.required, lookup_of_mem (same ▸ distinct) member, Option.bind_some, back]

theorem orElse_of_mem (back : read j = some a) :
    (Fields.mk entries false).orElse name read absent = some a := by
  rw [Fields.orElse, lookup_of_mem (same ▸ distinct) member]
  exact back

theorem optional_of_mem {a : Option α} (back : optional? read j = some a) :
    (Fields.mk entries false).optional name read = some a :=
  orElse_of_mem same distinct member back

end Fields

/-- That values of a kind have a JSON form from which they are read back, also out of its text. -/
structure HasForm (read : Json → Option α) (write : α → Json) : Prop where
  back : ∀ a, read (write a) = some a
  writable : ∀ a, Writable (write a)

theorem str_hasForm : HasForm string? str where
  back _ := rfl
  writable s := .scalar (.str s)

theorem instant_hasForm : HasForm instant? ofInstant where
  back t := by
    rw [instant?, ofInstant, string?, Option.bind_some]
    exact t.parse?_render
  writable t := .scalar (.str t.render)

section Numbers

variable {n limit : Nat}

theorem natBelow?_ofNat (small : n < limit) : natBelow? limit (ofNat n) = some n := by
  have fits : 0 ≤ (n : Int) ∧ (n : Int) < limit := ⟨Int.natCast_nonneg n, Int.ofNat_lt.mpr small⟩
  rw [Json.ofNat, natBelow?, if_pos fits, Int.toNat_natCast]

theorem writable_ofNat (small : n < UInt64.size) : Writable (ofNat n) := by
  unfold UInt64.size at small
  exact .scalar (.int ⟨by omega, by omega⟩)

theorem byte_hasForm : HasForm byte? fun n => ofNat n.toNat where
  back n := by rw [byte?, natBelow?_ofNat n.toNat_lt, Option.map_some, UInt8.ofNat_toNat]
  writable n := writable_ofNat (Nat.lt_trans n.toNat_lt (by decide))

theorem word16_hasForm : HasForm word16? fun n => ofNat n.toNat where
  back n := by rw [word16?, natBelow?_ofNat n.toNat_lt, Option.map_some, UInt16.ofNat_toNat]
  writable n := writable_ofNat (Nat.lt_trans n.toNat_lt (by decide))

theorem word32_hasForm : HasForm word32? fun n => ofNat n.toNat where
  back n := by rw [word32?, natBelow?_ofNat n.toNat_lt, Option.map_some, UInt32.ofNat_toNat]
  writable n := writable_ofNat (Nat.lt_trans n.toNat_lt (by decide))

theorem word64_hasForm : HasForm word64? fun n => ofNat n.toNat where
  back n := by rw [word64?, natBelow?_ofNat n.toNat_lt, Option.map_some, UInt64.ofNat_toNat]
  writable n := writable_ofNat n.toNat_lt

end Numbers

theorem word_hasForm {words : List (String × α)} {word : α → String}
    (each : ∀ a, words.lookup (word a) = some a) : HasForm (word? words) fun a => str (word a) where
  back := each
  writable a := .scalar (.str (word a))

section

variable {read : Json → Option α} {write : α → Json}

theorem list_hasForm (form : HasForm read write) : HasForm (list? read) (ofList write) where
  back items := by
    refine mapM_eq_some ?_
    rw [List.map_map]
    exact List.map_congr_left fun a _ => form.back a
  writable items := by
    refine .arr fun j member => ?_
    obtain ⟨item, _, rfl⟩ := List.mem_map.mp member
    exact form.writable item

theorem optional?_write {a : α} (back : read (write a) = some a) (refuses : read null = none) :
    optional? read (write a) = some (some a) := by
  unfold optional?
  split
  · next same =>
    rw [same, refuses] at back
    cases back
  · rw [back]
    rfl

theorem optional_hasForm (form : HasForm read write) (refuses : read null = none) :
    HasForm (optional? read) (ofOption write) where
  back a? := by
    cases a? with
    | none => rfl
    | some a => exact optional?_write (form.back a) refuses
  writable a? := by
    cases a? with
    | none => exact .scalar .null
    | some a => exact form.writable a

end

theorem optionalStr_hasForm : HasForm (optional? string?) (ofOption str) :=
  optional_hasForm str_hasForm rfl

theorem optionalInstant_hasForm : HasForm (optional? instant?) (ofOption ofInstant) :=
  optional_hasForm instant_hasForm rfl

theorem strings_hasForm : HasForm (list? string?) ofStrings := list_hasForm str_hasForm

theorem stringSet_hasForm : HasForm stringSet? ofStringSet where
  back s := by
    have same : SortedSet.ofList s.toList = s := SortedSet.ext fun _ => SortedSet.mem_ofList
    rw [stringSet?, ofStringSet, strings_hasForm.back, Option.map_some, same]
  writable s := strings_hasForm.writable s.toList

/-- That a value once read has a form from which it is read again, also out of its text. -/
structure Rereads (read : Json → Option α) (write : α → Json) : Prop where
  again : ∀ j a, read j = some a → read (write a) = some a
  writable : ∀ a, Writable (write a)

section

variable {read : Json → Option α} {write : α → Json}

theorem HasForm.rereads (form : HasForm read write) : Rereads read write :=
  ⟨fun _ a _ => form.back a, form.writable⟩

theorem optional_rereads (rereads : Rereads read write) (refuses : read null = none) :
    Rereads (optional? read) (ofOption write) where
  again j a? once := by
    cases a? with
    | none => rfl
    | some a =>
      have found : read j = some a := by
        unfold optional? at once
        split at once
        · cases once
        · obtain ⟨_, found, same⟩ := Option.map_eq_some_iff.mp once
          cases same
          exact found
      exact optional?_write (rereads.again j a found) refuses
  writable a? := by
    cases a? with
    | none => exact .scalar .null
    | some a => exact rereads.writable a

section

variable {f : Fields} {name : String} {a absent : α}

theorem Rereads.of_required (rereads : Rereads read write)
    (found : f.required name read = some a) : read (write a) = some a := by
  obtain ⟨j, _, once⟩ := Option.bind_eq_some_iff.mp found
  exact rereads.again j a once

theorem Rereads.of_orElse (rereads : Rereads read write) (own : read (write absent) = some absent)
    (found : f.orElse name read absent = some a) : read (write a) = some a := by
  unfold Fields.orElse at found
  split at found
  · next j _ => exact rereads.again j a found
  · cases found
    exact own

end

def Survives (read : Json → Option α) (write : α → Json) : Prop :=
  ∀ text a, (parse? text).bind read = some a →
    (parse? (write a).render).bind read = some a
      ∧ (parse? (write a).renderIndented).bind read = some a

theorem Rereads.survives (rereads : Rereads read write) : Survives read write := by
  intro text a found
  obtain ⟨j, _, once⟩ := Option.bind_eq_some_iff.mp found
  have again := rereads.again j a once
  have writable := rereads.writable a
  rw [parse?_render writable, parse?_renderIndented writable, Option.bind_some]
  exact ⟨again, again⟩

end

end DomainRegistry.Json
