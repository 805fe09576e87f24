import DomainRegistry.Proofs.Label.LabelForms
import DomainRegistry.Proofs.Label.Zones

/-!
The grammar of names that can be registered. Main statement: where policies stand under their own
names, a name is checked successfully exactly if it follows the grammar, what is then known of it is
determined by its parts, and in one zone a Unicode label belongs to one name.
-/

namespace DomainRegistry

open Text

namespace IdnTable

variable {table : IdnTable} {name label : String} {names : List String}

theorem named?_eq_some_iff : named? name = some table ↔ table ∈ all ∧ table.name = name := by
  constructor
  · intro found
    have same := List.find?_some (p := fun t : IdnTable => t.name == name) found
    exact ⟨List.mem_of_find?_eq_some found, beq_iff_eq.mp same⟩
  · intro found
    obtain ⟨member, rfl⟩ := found
    have known : ∀ t ∈ all, named? t.name = some t := by decide
    exact known table member

def Admits (name label : String) (table : IdnTable) : Prop :=
  table ∈ all ∧ table.name = name ∧ table.accepts label = true

def FirstAccepting (label : String) (names : List String) (table : IdnTable) : Prop :=
  ∃ before name after, names = before ++ name :: after ∧ Admits name label table
    ∧ ∀ earlier ∈ before, ∀ other, ¬Admits earlier label other

theorem find?_cons_of_admits (admits : Admits name label table) :
    find? label (name :: names) = some table := by
  obtain ⟨member, same, accepts⟩ := admits
  have known : named? name = some table := named?_eq_some_iff.mpr ⟨member, same⟩
  simp [find?, known, accepts]

theorem find?_cons_of_not_admits (refused : ∀ other, ¬Admits name label other) :
    find? label (name :: names) = find? label names := by
  unfold find?
  cases known : named? name with
  | none => rw [List.filterMap_cons_none known]
  | some other =>
    obtain ⟨member, same⟩ := named?_eq_some_iff.mp known
    have rejects : ¬other.accepts label = true := by
      intro accepts
      exact refused other ⟨member, same, accepts⟩
    rw [List.filterMap_cons_some known]
    exact List.find?_cons_of_neg rejects

theorem find?_eq_some_iff : find? label names = some table ↔ FirstAccepting label names table := by
  constructor
  · intro found
    induction names with
    | nil => cases found
    | cons name names ih =>
      by_cases passes : ∃ other, Admits name label other
      · obtain ⟨other, admits⟩ := passes
        rw [find?_cons_of_admits admits] at found
        cases found
        refine ⟨[], name, names, rfl, admits, ?_⟩
        intro earlier member
        cases member
      · have refused : ∀ other, ¬Admits name label other := not_exists.mp passes
        rw [find?_cons_of_not_admits refused] at found
        obtain ⟨before, later, after, listed, admits, others⟩ := ih found
        refine ⟨name :: before, later, after, by rw [listed, List.cons_append], admits, ?_⟩
        intro earlier member
        rcases List.mem_cons.mp member with rfl | member
        · exact refused
        · exact others earlier member
  · intro first
    obtain ⟨before, name, after, rfl, admits, others⟩ := first
    induction before with
    | nil => exact find?_cons_of_admits admits
    | cons earlier before ih =>
      rw [List.cons_append, find?_cons_of_not_admits (others earlier List.mem_cons_self)]
      exact ih fun name member => others name (List.mem_cons_of_mem _ member)

theorem exists_find?_iff :
    (∃ table, find? label names = some table)
      ↔ ∃ name ∈ names, ∃ table, Admits name label table := by
  constructor
  · intro found
    obtain ⟨table, found⟩ := found
    obtain ⟨before, name, after, listed, admits, _⟩ := find?_eq_some_iff.mp found
    rw [listed]
    exact ⟨name, List.mem_append_right _ List.mem_cons_self, table, admits⟩
  · intro passes
    obtain ⟨name, member, table, admits⟩ := passes
    induction names with
    | nil => cases member
    | cons first names ih =>
      by_cases early : ∃ other, Admits first label other
      · obtain ⟨other, admits⟩ := early
        exact ⟨other, find?_cons_of_admits admits⟩
      · rw [find?_cons_of_not_admits (not_exists.mp early)]
        rcases List.mem_cons.mp member with same | later
        · rw [same] at admits
          exact absurd ⟨table, admits⟩ early
        · exact ih later

end IdnTable

namespace DomainName

variable {config : Config} {text label zone unicodeLabel : String} {policy : ZonePolicy}
  {table : Option String} {name : DomainName}

theorem isNameChar_cases {c : Char} (allowed : isNameChar c = true) :
    Punycode.isDigit c = true ∨ c = '-' ∨ c = '.' := by
  simp only [isNameChar, Bool.or_eq_true, beq_iff_eq] at allowed
  rcases allowed with (letter | hyphen) | dot
  · left
    rw [Punycode.isDigit, Bool.or_eq_true]
    exact letter
  · exact Or.inr (Or.inl hyphen)
  · exact Or.inr (Or.inr dot)

theorem not_upper_of_isNameChar {c : Char} (allowed : isNameChar c = true) :
    isUpperAscii c = false := by
  rcases isNameChar_cases allowed with digit | rfl | rfl
  · exact Punycode.not_upper_of_isDigit digit
  · decide
  · decide

theorem isAscii_of_isNameChar {c : Char} (allowed : isNameChar c = true) : isAscii c = true := by
  rcases isNameChar_cases allowed with digit | rfl | rfl
  · exact Punycode.isAscii_of_isDigit digit
  · decide
  · decide

structure WellFormed (config : Config) (text : String) : Prop where
  chars : ∀ c ∈ text.toList, isNameChar c = true
  parts : ∀ part ∈ splitAll '.' text.toList, part ≠ []
  apart : config.zone? text = none

theorem checkShape_eq_ok_iff :
    checkShape config text = .ok ()
      ↔ WellFormed config text ∧ 2 ≤ (splitAll '.' text.toList).length := by
  simp only [checkShape, ite_error_eq_ok, and_true, Bool.not_eq_true, List.isEmpty_eq_false_iff,
    List.any_eq_false, Bool.not_eq_true', Bool.not_eq_false, List.all_eq_true, Nat.not_lt,
    Option.isSome_eq_false_iff, Option.isNone_iff_eq_none]
  constructor
  · intro checked
    obtain ⟨_, _, chars, parts, several, apart⟩ := checked
    exact ⟨⟨chars, parts, apart⟩, several⟩
  · intro formed
    obtain ⟨⟨chars, parts, apart⟩, several⟩ := formed
    refine ⟨?_, fun c member => not_upper_of_isNameChar (chars c member), chars, parts, several,
      apart⟩
    intro empty
    rw [empty] at several
    exact absurd several (by decide)

structure LabelForm (label : String) : Prop where
  short : label.length ≤ 63
  head : label.toList.head? ≠ some '-'
  last : label.toList.getLast? ≠ some '-'

def Plain (label : String) : Prop :=
  ¬mark <+: label.toList ∧ (label.toList.drop 2).take 2 ≠ ['-', '-']

def Encodes (label u : String) : Prop :=
  ∃ e, label = "xn--" ++ e ∧ Punycode.encode? u = some e ∧ ∃ c ∈ u.toList, isAscii c = false

theorem toList_marked {e : String} (marked : label = "xn--" ++ e) :
    label.toList = mark ++ e.toList := by
  rw [marked, String.toList_append]
  rfl

theorem checkLabel_eq_ok_iff :
    checkLabel label.toList = .ok ()
      ↔ LabelForm label ∧ (Plain label ∨ mark <+: label.toList) := by
  simp only [checkLabel, ite_error_eq_ok, and_true, Nat.not_lt, Option.isNone_iff_eq_none,
    dropLead_eq_none_iff, String.length_toList, maxLabelLength]
  constructor
  · intro checked
    obtain ⟨short, head, last, dashes⟩ := checked
    refine ⟨⟨short, head, last⟩, ?_⟩
    by_cases marked : mark <+: label.toList
    · exact Or.inr marked
    · exact Or.inl ⟨marked, fun both => dashes ⟨both, marked⟩⟩
  · intro formed
    obtain ⟨⟨short, head, last⟩, kind⟩ := formed
    refine ⟨short, head, last, ?_⟩
    intro dashes
    rcases kind with plain | marked
    · exact plain.2 dashes.1
    · exact dashes.2 marked

theorem unicodeOf?_eq_some_iff {e u : String} (short : e.length ≤ 63) :
    unicodeOf? e = some u
      ↔ Punycode.encode? u = some e ∧ ∃ c ∈ u.toList, isAscii c = false := by
  rw [unicodeOf?, Option.filter_eq_some_iff]
  simp only [Bool.and_eq_true, Bool.not_eq_true', List.all_eq_false, Bool.not_eq_true, beq_iff_eq]
  constructor
  · intro read
    exact ⟨read.2.2, read.2.1⟩
  · intro written
    exact ⟨Punycode.decode?_of_encode? written.1 short, written.2, written.1⟩

/-- What a label stands for in a zone, and the table that accepts it. -/
inductive ReadsAs (policy : ZonePolicy) (label : String) : String → Option String → Prop
  | plain (plain : Plain label) : ReadsAs policy label label none
  | encoded {u : String} {table : IdnTable} (encodes : Encodes label u)
      (first : IdnTable.FirstAccepting u policy.idnTables table) :
      ReadsAs policy label u (some table.name)

theorem readLabel_plain (plain : Plain label) :
    readLabel policy label.toList = .ok (label, none) := by
  rw [readLabel, dropLead_eq_none_iff.mpr plain.1]
  dsimp only
  rw [String.ofList_toList]

theorem readLabel_marked {e : String} (short : e.length ≤ 63) (marked : label = "xn--" ++ e) :
    readLabel policy label.toList = .ok (unicodeLabel, table)
      ↔ Punycode.encode? unicodeLabel = some e ∧ (∃ c ∈ unicodeLabel.toList, isAscii c = false)
        ∧ ∃ accepting, IdnTable.find? unicodeLabel policy.idnTables = some accepting
          ∧ table = some accepting.name := by
  rw [readLabel, dropLead_eq_some_iff.mpr (toList_marked marked)]
  dsimp only
  rw [String.ofList_toList, ← and_assoc, ← unicodeOf?_eq_some_iff short]
  cases unicodeOf? e with
  | none => simp
  | some unicode =>
    dsimp only
    constructor
    · intro read
      split at read
      · cases read
      · next accepting found =>
        cases read
        exact ⟨rfl, accepting, found, rfl⟩
    · intro read
      obtain ⟨same, accepting, found, named⟩ := read
      cases same
      rw [found, named]

theorem readLabel_eq_ok_iff (form : LabelForm label)
    (kind : Plain label ∨ mark <+: label.toList) :
    readLabel policy label.toList = .ok (unicodeLabel, table)
      ↔ ReadsAs policy label unicodeLabel table := by
  have short {e : String} (marked : label = "xn--" ++ e) : e.length ≤ 63 := by
    have length := form.short
    rw [marked, String.length_append] at length
    omega
  constructor
  · intro read
    rcases kind with plain | ⟨rest, led⟩
    · rw [readLabel_plain plain] at read
      cases read
      exact .plain plain
    · have marked : label = "xn--" ++ String.ofList rest := by
        rw [← String.toList_inj, toList_marked rfl, String.toList_ofList, led]
      obtain ⟨written, foreign, accepting, found, named⟩ :=
        (readLabel_marked (short marked) marked).mp read
      rw [named]
      exact .encoded ⟨_, marked, written, foreign⟩ (IdnTable.find?_eq_some_iff.mp found)
  · intro reads
    cases reads with
    | plain plain => exact readLabel_plain plain
    | encoded encodes first =>
      obtain ⟨e, marked, written, foreign⟩ := encodes
      exact (readLabel_marked (short marked) marked).mpr
        ⟨written, foreign, _, IdnTable.find?_eq_some_iff.mpr first, rfl⟩

theorem Encodes.marked {u : String} (encodes : Encodes label u) : mark <+: label.toList := by
  obtain ⟨e, marked, _⟩ := encodes
  exact ⟨e.toList, (toList_marked marked).symm⟩

theorem Encodes.unique {u v : String} (form : LabelForm label) (one : Encodes label u)
    (two : Encodes label v) : u = v := by
  obtain ⟨e, marked, written, _⟩ := one
  obtain ⟨f, same, rewritten, _⟩ := two
  have length := form.short
  rw [marked, String.length_append] at length
  obtain rfl : e = f := by
    have texts := (toList_marked marked).symm.trans (toList_marked same)
    exact String.toList_inj.mp (List.append_cancel_left texts)
  have short : e.length ≤ Punycode.longestLabel := by
    unfold Punycode.longestLabel
    omega
  have decoded := Punycode.decode?_of_encode? written short
  rw [Punycode.decode?_of_encode? rewritten short] at decoded
  exact (Option.some.inj decoded).symm

theorem ReadsAs.kind (reads : ReadsAs policy label unicodeLabel table) :
    Plain label ∨ mark <+: label.toList := by
  cases reads with
  | plain plain => exact Or.inl plain
  | encoded encodes first => exact Or.inr encodes.marked

theorem ReadsAs.admitted (reads : ReadsAs policy label unicodeLabel table) :
    Plain label ∨ ∃ u, Encodes label u
      ∧ ∃ name ∈ policy.idnTables, ∃ table, IdnTable.Admits name u table := by
  cases reads with
  | plain plain => exact Or.inl plain
  | encoded encodes first =>
    have found := IdnTable.find?_eq_some_iff.mpr first
    exact Or.inr ⟨_, encodes, IdnTable.exists_find?_iff.mp ⟨_, found⟩⟩

theorem ReadsAs.unicodeLabel_eq {u : String} (reads : ReadsAs policy label unicodeLabel table)
    (form : LabelForm label) (encodes : Encodes label u) : unicodeLabel = u := by
  cases reads with
  | plain plain => exact absurd encodes.marked plain.1
  | encoded again first => exact again.unique form encodes

structure Parses (config : Config) (text : String) (name : DomainName) : Prop where
  fullName : name.fullName = text
  formed : WellFormed config text
  splits : ∃ zone, Splits config text name.label zone name.zone
  form : LabelForm name.label
  reads : ReadsAs name.zone name.label name.unicodeLabel name.table

theorem Splits.head_splitAll (splits : Splits config text label zone policy) :
    (splitAll '.' text.toList).head? = some label.toList := by
  rw [splits.toList]
  exact head?_splitAll splits.single

theorem Splits.filled (splits : Splits config text label zone policy)
    (formed : WellFormed config text) : label ≠ "" := by
  intro empty
  have first := List.mem_of_mem_head? (Option.mem_def.mpr splits.head_splitAll)
  exact formed.parts _ first (String.toList_eq_nil_iff.mpr empty)

theorem Splits.unique {other again : String} {instead : ZonePolicy}
    (one : Splits config text label zone policy)
    (two : Splits config text other again instead) : label = other ∧ zone = again := by
  have heads := one.head_splitAll.symm.trans two.head_splitAll
  have same : label = other := String.toList_inj.mp (Option.some.inj heads)
  have whole := one.toList.symm.trans two.toList
  rw [← same] at whole
  have rest := List.cons.inj (List.append_cancel_left whole)
  exact ⟨same, String.toList_inj.mp rest.2⟩

theorem check_eq_ok_iff_parses (agree : config.NamesAgree) :
    check config text = .ok name ↔ Parses config text name := by
  rw [check_eq_ok_iff, checkShape_eq_ok_iff]
  constructor
  · intro checked
    obtain ⟨⟨formed, _⟩, policy, found, filled, single, labelled, unicodeLabel, table, read, rfl⟩ :=
      checked
    have nonempty : String.ofList (labelIn policy.name text) ≠ "" := by
      intro empty
      have nothing := congrArg String.toList empty
      rw [String.toList_ofList] at nothing
      rw [nothing] at filled
      cases filled
    have splits := (zone_iff_splits agree nonempty).mp
      ⟨found, String.toList_ofList.symm, by
        rw [String.toList_ofList]
        simpa using single⟩
    rw [← String.toList_ofList (l := labelIn policy.name text)] at labelled read
    obtain ⟨form, kind⟩ := checkLabel_eq_ok_iff.mp labelled
    exact ⟨rfl, formed, splits, form, (readLabel_eq_ok_iff form kind).mp read⟩
  · intro parses
    obtain ⟨zone, splits⟩ := parses.splits
    obtain ⟨fullName, label, unicodeLabel, policy, table⟩ := name
    obtain ⟨found, read, single⟩ :=
      (zone_iff_splits agree (splits.filled parses.formed)).mpr ⟨zone, splits⟩
    have several : 2 ≤ (splitAll '.' text.toList).length := by
      refine two_le_length_splitAll ?_
      rw [splits.toList]
      exact List.mem_append_right _ List.mem_cons_self
    refine ⟨⟨parses.formed, several⟩, policy, found, ?_, ?_, ?_, unicodeLabel, table, ?_, ?_⟩
    · rw [read, List.isEmpty_eq_false_iff]
      intro empty
      exact splits.filled parses.formed (String.toList_eq_nil_iff.mp empty)
    · rw [read]
      simpa using single
    · rw [read]
      exact checkLabel_eq_ok_iff.mpr ⟨parses.form, parses.reads.kind⟩
    · rw [read]
      exact (readLabel_eq_ok_iff parses.form parses.reads.kind).mpr parses.reads
    · rw [read, String.ofList_toList, ← parses.fullName]

theorem Parses.ascii (parses : Parses config text name) :
    ∀ c ∈ name.label.toList, isAscii c = true := by
  intro c member
  obtain ⟨zone, splits⟩ := parses.splits
  refine isAscii_of_isNameChar (parses.formed.chars c ?_)
  rw [splits.toList]
  exact List.mem_append_left _ member

theorem ReadsAs.label_eq {other : String} {instead : ZonePolicy} {found : Option String}
    (one : ReadsAs policy label unicodeLabel table)
    (two : ReadsAs instead other unicodeLabel found)
    (ascii : ∀ c ∈ label.toList, isAscii c = true)
    (plain : ∀ c ∈ other.toList, isAscii c = true) : label = other := by
  have foreign {u text : String} (encodes : Encodes text u)
      (all : ∀ c ∈ u.toList, isAscii c = true) :
      False := by
    obtain ⟨_, _, _, c, member, high⟩ := encodes
    rw [all c member] at high
    cases high
  cases one with
  | plain first =>
    cases two with
    | plain second => rfl
    | encoded encodes _ => exact (foreign encodes ascii).elim
  | encoded encodes _ =>
    cases two with
    | plain second => exact (foreign encodes plain).elim
    | encoded again _ =>
      obtain ⟨e, marked, written, _⟩ := encodes
      obtain ⟨f, same, rewritten, _⟩ := again
      rw [written] at rewritten
      rw [marked, same, Option.some.inj rewritten]

def Grammatical (config : Config) (text : String) : Prop :=
  WellFormed config text ∧ ∃ label zone policy, Splits config text label zone policy
    ∧ LabelForm label
    ∧ (Plain label
      ∨ ∃ u, Encodes label u ∧ ∃ name ∈ policy.idnTables, ∃ table, IdnTable.Admits name u table)

theorem exists_parses_iff : (∃ name, Parses config text name) ↔ Grammatical config text := by
  constructor
  · intro parsed
    obtain ⟨name, parses⟩ := parsed
    obtain ⟨zone, splits⟩ := parses.splits
    exact ⟨parses.formed, name.label, zone, name.zone, splits, parses.form, parses.reads.admitted⟩
  · intro grammatical
    obtain ⟨formed, label, zone, policy, splits, form, kind⟩ := grammatical
    rcases kind with plain | ⟨u, encodes, admitted⟩
    · exact ⟨⟨text, label, label, policy, none⟩, rfl, formed, ⟨zone, splits⟩, form, .plain plain⟩
    · obtain ⟨table, found⟩ := IdnTable.exists_find?_iff.mpr admitted
      exact ⟨⟨text, label, u, policy, some table.name⟩, rfl, formed, ⟨zone, splits⟩, form,
        .encoded encodes (IdnTable.find?_eq_some_iff.mp found)⟩

theorem checked_exactly_by_grammar (agree : config.NamesAgree) :
    (∀ text, (∃ name, check config text = .ok name) ↔ Grammatical config text)
    ∧ (∀ text name, check config text = .ok name →
      Parses config text name ∧ name.label ++ "." ++ name.zone.name = text
        ∧ (∀ label zone policy, Splits config text label zone policy →
          name.label = label ∧ name.zone.name = zone ∧ name.zone = policy)
        ∧ ∀ u, Encodes name.label u → name.unicodeLabel = u)
    ∧ ∀ text other name second, check config text = .ok name →
      check config other = .ok second → name.zone.name = second.zone.name →
      name.unicodeLabel = second.unicodeLabel → text = other := by
  refine ⟨?_, ?_, ?_⟩
  · intro text
    rw [← exists_parses_iff]
    exact exists_congr fun name => check_eq_ok_iff_parses agree
  · intro text name checked
    have parses := (check_eq_ok_iff_parses agree).mp checked
    obtain ⟨key, splits⟩ := parses.splits
    have filed := agree.name splits.configured
    refine ⟨parses, ?_, ?_, ?_⟩
    · rw [filed, splits.whole]
    · intro label zone policy others
      obtain ⟨same, rfl⟩ := splits.unique others
      have policies := splits.configured.symm.trans others.configured
      exact ⟨same, filed, Option.some.inj policies⟩
    · intro u encodes
      exact parses.reads.unicodeLabel_eq parses.form encodes
  · intro text other name second checked rechecked zones labels
    have one := (check_eq_ok_iff_parses agree).mp checked
    have two := (check_eq_ok_iff_parses agree).mp rechecked
    obtain ⟨zone, splits⟩ := one.splits
    obtain ⟨again, others⟩ := two.splits
    have reads := two.reads
    rw [← labels] at reads
    have same := one.reads.label_eq reads one.ascii two.ascii
    rw [splits.whole, others.whole, same, ← agree.name splits.configured, zones,
      agree.name others.configured]

def accentedZone : ZonePolicy :=
  { ZonePolicy.generalAvailability "tld" with idnTables := ["extended_latin"] }

def accentedZones : Config := { zones := .ofList [("tld", accentedZone)] }

theorem accented_name_registrable :
    accentedZones.NamesAgree ∧ Grammatical accentedZones "xn--bcher-kva.tld" := by
  have agree : accentedZones.NamesAgree := by
    intro key policy found
    rw [accentedZones, SortedMap.get?_ofList] at found
    have stored := SortedMap.mem_of_find found
    rw [List.reverse_singleton, List.mem_singleton] at stored
    cases stored
    exact Or.inr rfl
  have passes : (check accentedZones "xn--bcher-kva.tld").toOption.isSome = true := by
    decide +kernel
  obtain ⟨name, found⟩ := Option.isSome_iff_exists.mp passes
  have checked := eq_ok_of_toOption found
  exact ⟨agree, ((checked_exactly_by_grammar agree).1 "xn--bcher-kva.tld").mp ⟨name, checked⟩⟩

end DomainName

end DomainRegistry
