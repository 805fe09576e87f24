import DomainRegistry.Lists.Reserved
import DomainRegistry.Proofs.Answers
import DomainRegistry.Proofs.Text.Letters

/-!
The texts of reserved lists. Main statements: a text parses exactly if each of its lines is blank or
well-formed and no label comes twice, and then the list holds just what its lines say, in whatever
order they stand.
-/

namespace DomainRegistry

namespace Text

theorem map_numberedLines (cs : List Char) : (numberedLines cs).map Prod.snd = lines cs := by
  unfold numberedLines
  rw [List.map_map]
  exact List.zipIdx_map_fst 0 (lines cs)

end Text

namespace ReservedList

open Text ListSource

/-- What a line adds to its list: nothing, if it is blank or a comment, and else an entry. -/
def rowOf (line : List Char) : Except String (Option ReservedEntry) :=
  let (body, comment) := splitComment line
  if body.isEmpty then .ok none else (lineEntry body comment).map some

def row? (line : List Char) : Option ReservedEntry := (rowOf line).toOption.join

/-- That a list holds the entries of some lines, each of them under a label of its own. -/
structure Holds (lines : List (List Char)) (entries : SortedMap String ReservedEntry) : Prop where
  formed : ∀ line ∈ lines, ∃ row, rowOf line = .ok row
  distinct : ((lines.filterMap row?).map ReservedEntry.label).Nodup
  found_iff : ∀ label e, entries.get? label = some e ↔ e ∈ lines.filterMap row? ∧ e.label = label

namespace Holds

variable {lines more : List (List Char)} {entries after : SortedMap String ReservedEntry}

theorem nil : Holds [] .empty where
  formed _ member := absurd member List.not_mem_nil
  distinct := List.nodup_nil
  found_iff label e := by simp

theorem unique (held : Holds lines entries) (also : Holds lines after) : entries = after :=
  SortedMap.ext fun label => Option.ext fun e =>
    (held.found_iff label e).trans (also.found_iff label e).symm

theorem perm (held : Holds lines entries) (reordered : more.Perm lines) : Holds more entries where
  formed line member := held.formed line (reordered.mem_iff.mp member)
  distinct :=
    ((reordered.filterMap row?).map ReservedEntry.label).nodup_iff.mpr held.distinct
  found_iff label e := by
    rw [held.found_iff, (reordered.filterMap row?).mem_iff]

theorem contains_iff (held : Holds lines entries) {label : String} :
    entries.contains label = true ↔ label ∈ (lines.filterMap row?).map ReservedEntry.label := by
  rw [SortedMap.contains, Option.isSome_iff_exists, List.mem_map]
  simp only [held.found_iff]

theorem blank {line : List Char} (held : Holds lines entries) (empty : rowOf line = .ok none) :
    Holds (lines ++ [line]) entries := by
  have rows : (lines ++ [line]).filterMap row? = lines.filterMap row? := by
    simp [row?, empty, Except.toOption]
  refine ⟨?_, by rw [rows]; exact held.distinct, by rw [rows]; exact held.found_iff⟩
  intro l member
  rcases List.mem_append.mp member with early | last
  · exact held.formed l early
  · cases List.mem_singleton.mp last
    exact ⟨none, empty⟩

theorem insert {line : List Char} {e : ReservedEntry} (held : Holds lines entries)
    (row : rowOf line = .ok (some e)) (fresh : entries.contains e.label = false) :
    Holds (lines ++ [line]) (entries.insert e.label e) := by
  have rows : (lines ++ [line]).filterMap row? = lines.filterMap row? ++ [e] := by
    simp [row?, row, Except.toOption]
  have absent : e.label ∉ (lines.filterMap row?).map ReservedEntry.label := by
    rw [← held.contains_iff, fresh]
    exact Bool.false_ne_true
  refine ⟨?_, ?_, ?_⟩
  · intro l member
    rcases List.mem_append.mp member with early | last
    · exact held.formed l early
    · cases List.mem_singleton.mp last
      exact ⟨some e, row⟩
  · rw [rows, List.map_append, List.map_singleton, List.nodup_append]
    refine ⟨held.distinct, List.pairwise_singleton _ _, ?_⟩
    intro label member _ last same
    cases List.mem_singleton.mp last
    exact absent (same ▸ member)
  · intro label f
    rw [rows, SortedMap.get?_insert, List.mem_append, List.mem_singleton]
    by_cases here : label = e.label
    · subst here
      rw [if_pos rfl, Option.some.injEq]
      constructor
      · rintro rfl
        exact ⟨Or.inr rfl, rfl⟩
      · rintro ⟨early | last, same⟩
        · exact absurd (List.mem_map.mpr ⟨f, early, same⟩) absent
        · exact last.symm
    · rw [if_neg here, held.found_iff]
      refine and_congr_left fun same => ?_
      have other : f ≠ e := fun equal => here (same.symm.trans (congrArg _ equal))
      exact (or_iff_left other).symm

end Holds

variable {name : String} {done : List (List Char)} {entries after : SortedMap String ReservedEntry}

theorem addLine_eq (name : String) (entries : SortedMap String ReservedEntry)
    (line : Nat × List Char) :
    addLine name entries line =
      match rowOf line.2 with
      | .error message => .error (.malformed name line.1 message)
      | .ok none => .ok entries
      | .ok (some e) =>
        if entries.contains e.label then
          .error (.malformed name line.1 ("duplicate label '" ++ e.label ++ "'"))
        else .ok (entries.insert e.label e) := by
  unfold addLine rowOf
  dsimp only
  split
  · rfl
  · cases lineEntry (splitComment line.2).1 (splitComment line.2).2 <;> rfl

theorem holds_of_addLine {line : Nat × List Char} (held : Holds done entries)
    (added : addLine name entries line = .ok after) : Holds (done ++ [line.2]) after := by
  rw [addLine_eq] at added
  split at added
  · cases added
  · next blank =>
    cases added
    exact held.blank blank
  · next e row =>
    obtain ⟨fresh, made⟩ := ite_error_eq_ok.mp added
    cases made
    exact held.insert row (Bool.eq_false_iff.mpr fresh)

theorem not_holds_of_addLine {line : Nat × List Char} {e : ListError} (held : Holds done entries)
    (rejected : addLine name entries line = .error e) (more : List (List Char)) :
    ¬Holds (done ++ line.2 :: more) after := by
  intro whole
  obtain ⟨row, formed⟩ := whole.formed line.2 (by simp)
  rw [addLine_eq, formed] at rejected
  cases row with
  | none => cases rejected
  | some f =>
    dsimp only at rejected
    split at rejected
    · next twice =>
      have distinct := whole.distinct
      have row : row? line.2 = some f := by simp [row?, formed, Except.toOption]
      rw [List.filterMap_append, List.filterMap_cons_some row, List.map_append,
        List.map_cons] at distinct
      have apart := (List.nodup_append.mp distinct).2.2 f.label (held.contains_iff.mp twice)
        f.label List.mem_cons_self
      exact apart rfl
    · cases rejected

theorem foldlM_addLine_eq_ok_iff {lines : List (Nat × List Char)} (held : Holds done entries) :
    lines.foldlM (addLine name) entries = .ok after ↔ Holds (done ++ lines.map Prod.snd) after := by
  induction lines generalizing done entries with
  | nil =>
    rw [List.map_nil, List.append_nil]
    constructor
    · intro made
      cases made
      exact held
    · intro also
      rw [held.unique also]
      rfl
  | cons line lines ih =>
    rw [List.foldlM_cons, List.map_cons]
    cases added : addLine name entries line with
    | error e =>
      constructor
      · intro made
        cases made
      · intro whole
        exact absurd whole (not_holds_of_addLine held added _)
    | ok middle =>
      have next := holds_of_addLine held added
      change lines.foldlM (addLine name) middle = .ok after ↔ _
      rw [ih next, List.append_assoc, List.singleton_append]

/-- A text parses to the list that holds its lines, and fails if no list does. -/
theorem parse_eq_ok_iff {text : String} {list : ReservedList} :
    parse name text = .ok list ↔ list.name = name ∧ Holds (lines text.toList) list.entries := by
  have folded : ∀ entries, (numberedLines text.toList).foldlM (addLine name) .empty = .ok entries ↔
      Holds (lines text.toList) entries := by
    intro entries
    rw [foldlM_addLine_eq_ok_iff .nil, map_numberedLines, List.nil_append]
  unfold parse
  rw [bind_eq_ok]
  constructor
  · rintro ⟨entries, made, same⟩
    cases same
    exact ⟨rfl, (folded entries).mp made⟩
  · rintro ⟨rfl, held⟩
    exact ⟨list.entries, (folded list.entries).mpr held, rfl⟩

theorem parse_of_perm {text other : String} {list : ReservedList}
    (parsed : parse name text = .ok list)
    (reordered : (lines other.toList).Perm (lines text.toList)) : parse name other = .ok list := by
  obtain ⟨named, held⟩ := parse_eq_ok_iff.mp parsed
  exact parse_eq_ok_iff.mpr ⟨named, held.perm reordered⟩

/-- That a line is for a label, up to the case of its letters, and gives it a type. -/
def Reserves (line : List Char) (label : String) (type : Reservation) : Prop :=
  ∃ raw kind rest, columns (splitComment line).1 = raw :: kind :: rest
    ∧ sameIgnoringCase (String.ofList raw) label = true
    ∧ Reservation.parse? (String.ofList kind) = some type

def Gives (text label : String) (type : Reservation) : Prop :=
  ∃ line ∈ lines text.toList, Reserves line label type

theorem lineEntry_eq_ok {body : List Char} {comment : Option (List Char)} {e : ReservedEntry}
    (made : lineEntry body comment = .ok e) :
    ∃ raw kind rest, columns body = raw :: kind :: rest ∧ e.label = lower (String.ofList raw)
      ∧ Reservation.parse? (String.ofList kind) = some e.type := by
  unfold lineEntry at made
  split at made
  · cases made
  · cases made
  · next raw kind rest cells =>
    split at made
    · cases made
    · next type parsed =>
      dsimp only at made
      obtain ⟨_, made⟩ := ite_error_eq_ok.mp made
      obtain ⟨_, made⟩ := ite_error_eq_ok.mp made
      obtain ⟨_, made⟩ := ite_error_eq_ok.mp made
      obtain ⟨_, made⟩ := ite_error_eq_ok.mp made
      cases made
      exact ⟨raw, kind, rest, cells, rfl, parsed⟩

/-- A well-formed line reserves just the label of its entry, with its type. -/
theorem reserves_iff {line : List Char} {row : Option ReservedEntry} (formed : rowOf line = .ok row)
    {label : String} (small : lower label = label) {type : Reservation} :
    Reserves line label type ↔ ∃ e, row? line = some e ∧ e.label = label ∧ e.type = type := by
  have kept : row? line = row := by simp [row?, formed, Except.toOption]
  rw [kept]
  unfold rowOf at formed
  dsimp only at formed
  unfold Reserves
  split at formed
  · next blank =>
    cases formed
    rw [List.isEmpty_iff.mp blank]
    constructor
    · rintro ⟨raw, kind, rest, cells, _⟩
      cases cells
    · rintro ⟨e, none, _⟩
      cases none
  · cases entry : lineEntry (splitComment line).1 (splitComment line).2 with
    | error message =>
      rw [entry] at formed
      cases formed
    | ok e =>
      rw [entry] at formed
      cases formed
      obtain ⟨raw, kind, rest, cells, labelled, typed⟩ := lineEntry_eq_ok entry
      constructor
      · rintro ⟨raw', kind', rest', cells', same, parsed⟩
        rw [cells] at cells'
        cases cells'
        rw [typed] at parsed
        cases parsed
        refine ⟨e, rfl, ?_, rfl⟩
        rw [labelled, sameIgnoringCase_iff.mp same, small]
      · rintro ⟨f, same, rfl, rfl⟩
        cases same
        refine ⟨raw, kind, rest, cells, ?_, typed⟩
        rw [sameIgnoringCase_iff, ← labelled, small]

theorem get?_type_iff {text label : String} {list : ReservedList}
    (parsed : parse name text = .ok list) (small : lower label = label) {type : Reservation} :
    (∃ e, list.get? label = some e ∧ e.type = type) ↔ Gives text label type := by
  obtain ⟨_, held⟩ := parse_eq_ok_iff.mp parsed
  unfold get? Gives
  simp only [held.found_iff, List.mem_filterMap]
  constructor
  · rintro ⟨e, ⟨⟨line, listed, row⟩, labelled⟩, typed⟩
    obtain ⟨_, formed⟩ := held.formed line listed
    exact ⟨line, listed, (reserves_iff formed small).mpr ⟨e, row, labelled, typed⟩⟩
  · rintro ⟨line, listed, reserved⟩
    obtain ⟨_, formed⟩ := held.formed line listed
    obtain ⟨e, row, labelled, typed⟩ := (reserves_iff formed small).mp reserved
    exact ⟨e, ⟨⟨line, listed, row⟩, labelled⟩, typed⟩

end ReservedList

end DomainRegistry
