import DomainRegistry.Json.Parser
import DomainRegistry.Proofs.Json.Tokens

/-!
JSON documents there and back. Main statements: a document whose integers fit 64 bits is read back
from its written form, on one line or indented, as text or as bytes.
-/

namespace DomainRegistry.Json

open Text

mutual

def tokensOf : Json → List Token
  | null => [.null]
  | bool b => [.bool b]
  | int n => [.int n]
  | fraction => [.fraction]
  | str s => [.str s]
  | unreadable => [.garbled]
  | arr [] => [.openArray, .closeArray]
  | arr (item :: items) => .openArray :: tokensOf item ++ itemTokens items
  | obj [] => [.openObject, .closeObject]
  | obj ((key, value) :: entries) =>
    .openObject :: .str key :: .colon :: tokensOf value ++ entryTokens entries

def itemTokens : List Json → List Token
  | [] => [.closeArray]
  | item :: items => .comma :: tokensOf item ++ itemTokens items

def entryTokens : List (String × Json) → List Token
  | [] => [.closeObject]
  | (key, value) :: entries => .comma :: .str key :: .colon :: tokensOf value ++ entryTokens entries

end

inductive WritableScalar : Json → Prop where
  | null : WritableScalar null
  | bool (b : Bool) : WritableScalar (bool b)
  | int {n : Int} (fits : FitsWord n) : WritableScalar (int n)
  | fraction : WritableScalar fraction
  | str (s : String) : WritableScalar (str s)
  | unreadable : WritableScalar unreadable

/-- Documents whose integers are read as integers. -/
inductive Writable : Json → Prop where
  | scalar {j : Json} (fits : WritableScalar j) : Writable j
  | arr {items : List Json} (each : ∀ item ∈ items, Writable item) : Writable (arr items)
  | obj {entries : List (String × Json)} (each : ∀ e ∈ entries, Writable e.2) :
      Writable (obj entries)

variable {j : Json} {items : List Json} {entries : List (String × Json)} {cs w : List Char}
  {ts : List Token} {c : Char} {depth : Nat}

section Spelling

variable {v : List Char} {t : Token} {tokens : List Token}

/-- That a text spells a document, whatever follows that cannot be taken for more of it. -/
def SpelledBy (w : List Char) (j : Json) : Prop :=
  ∀ ⦃cs ts⦄, Stops cs → Spells cs ts → Spells (w ++ cs) (tokensOf j ++ ts)

def SpellsAhead (w : List Char) (tokens : List Token) : Prop :=
  ∀ ⦃cs ts⦄, Spells cs ts → Spells (w ++ cs) (tokens ++ ts)

structure RestSpelledBy (w : List Char) (tokens : List Token) : Prop where
  stops : ∀ cs, Stops (w ++ cs)
  spells : SpellsAhead w tokens

theorem stops_cons (ascii : c.toNat < 128) (other : isNumberChar c = false) : Stops (c :: cs) := by
  intro d first
  cases first
  exact ⟨ascii, other⟩

namespace SpellsAhead

theorem nil : SpellsAhead [] [] := fun _ _ later => later

theorem mark (listed : (c, t) ∈ marks) (ahead : SpellsAhead w tokens) :
    SpellsAhead (c :: w) (t :: tokens) :=
  fun _ _ later => .mark listed (ahead later)

theorem text (key : String) (ahead : SpellsAhead w tokens) :
    SpellsAhead (writeString key ++ w) (.str key :: tokens) := by
  intro cs ts later
  rw [List.append_assoc]
  exact .text key (ahead later)

theorem newline (depth : Nat) (ahead : SpellsAhead w tokens) :
    SpellsAhead (newline depth ++ w) tokens := by
  intro cs ts later
  have spaces (count : Nat) : Spells (List.replicate count ' ' ++ (w ++ cs)) (tokens ++ ts) := by
    induction count with
    | zero => exact ahead later
    | succ count ih => exact .blank rfl ih
  rw [List.append_assoc]
  exact .blank rfl (spaces (2 * depth))

theorem spelledBy (ahead : SpellsAhead w (tokensOf j)) : SpelledBy w j :=
  fun _ _ _ later => ahead later

end SpellsAhead

theorem SpelledBy.blank (value : SpelledBy v j) : SpelledBy (' ' :: v) j :=
  fun _ _ stops later => .blank rfl (value stops later)

theorem SpelledBy.ahead (value : SpelledBy v j) (rest : RestSpelledBy w tokens) :
    SpellsAhead (v ++ w) (tokensOf j ++ tokens) := by
  intro cs ts later
  rw [List.append_assoc, List.append_assoc]
  exact value (rest.stops cs) (rest.spells later)

theorem SpelledBy.entry (value : SpelledBy v j) (key : String) (rest : RestSpelledBy w tokens) :
    SpellsAhead (writeString key ++ ':' :: (v ++ w))
      (.str key :: .colon :: (tokensOf j ++ tokens)) :=
  .text key (.mark (by decide) (value.ahead rest))

theorem RestSpelledBy.mark (listed : (c, t) ∈ marks) (ahead : SpellsAhead w tokens) :
    RestSpelledBy (c :: w) (t :: tokens) where
  stops cs := by
    have each : ∀ p ∈ marks, p.1.toNat < 128 ∧ isNumberChar p.1 = false := by decide
    obtain ⟨ascii, other⟩ := each (c, t) listed
    exact stops_cons ascii other
  spells := ahead.mark listed

theorem RestSpelledBy.newline (depth : Nat) (ahead : SpellsAhead w tokens) :
    RestSpelledBy (newline depth ++ w) tokens where
  stops _ := stops_cons (by decide) (by decide)
  spells := ahead.newline depth

theorem spelledBy_scalar (fits : WritableScalar j) : SpelledBy (writeScalar j) j := by
  intro cs ts stops later
  cases fits with
  | null => exact .word (by decide) later
  | bool b =>
    cases b with
    | true => exact .word (by decide) later
    | false => exact .word (by decide) later
  | int fits => exact .int fits stops later
  | fraction => exact .fraction stops later
  | str s => exact .text s later
  | unreadable => exact .garbled later

theorem rest_writeItems (each : ∀ item ∈ items, SpelledBy (write item) item) :
    RestSpelledBy (writeItems items) (itemTokens items) := by
  induction items with
  | nil => exact .mark (by decide) .nil
  | cons item items ih =>
    have more := ih fun other member => each other (List.mem_cons_of_mem _ member)
    exact .mark (c := ',') (by decide) ((each item List.mem_cons_self).ahead more)

theorem rest_writeEntries (each : ∀ e ∈ entries, SpelledBy (write e.2) e.2) :
    RestSpelledBy (writeEntries entries) (entryTokens entries) := by
  induction entries with
  | nil => exact .mark (by decide) .nil
  | cons entry entries ih =>
    obtain ⟨key, value⟩ := entry
    have more := ih fun other member => each other (List.mem_cons_of_mem _ member)
    have first := (each (key, value) List.mem_cons_self).entry key more
    simpa [writeEntries, entryTokens] using
      RestSpelledBy.mark (c := ',') (t := .comma) (by decide) first

theorem spelledBy_write (fits : Writable j) : SpelledBy (write j) j := by
  induction fits with
  | @scalar j fits =>
    have same : write j = writeScalar j := by cases fits <;> rfl
    exact same ▸ spelledBy_scalar fits
  | @arr items each ih =>
    cases items with
    | nil => exact SpellsAhead.spelledBy (.mark (by decide) (.mark (by decide) .nil))
    | cons item items =>
      have more := rest_writeItems fun other member => ih other (List.mem_cons_of_mem _ member)
      have first := (ih item List.mem_cons_self).ahead more
      exact SpellsAhead.spelledBy (.mark (c := '[') (by decide) first)
  | @obj entries each ih =>
    cases entries with
    | nil => exact SpellsAhead.spelledBy (.mark (by decide) (.mark (by decide) .nil))
    | cons entry entries =>
      obtain ⟨key, value⟩ := entry
      have more := rest_writeEntries fun other member => ih other (List.mem_cons_of_mem _ member)
      have first := (ih (key, value) List.mem_cons_self).entry key more
      apply SpellsAhead.spelledBy
      simpa [write, tokensOf] using
        SpellsAhead.mark (c := '\x7b') (t := .openObject) (by decide) first

theorem rest_writeIndentedItems
    (each : ∀ item ∈ items, SpelledBy (writeIndented (depth + 1) item) item) :
    RestSpelledBy (writeIndentedItems depth items) (itemTokens items) := by
  induction items with
  | nil => exact .newline depth (.mark (by decide) .nil)
  | cons item items ih =>
    have more := ih fun other member => each other (List.mem_cons_of_mem _ member)
    have line := ((each item List.mem_cons_self).ahead more).newline (depth + 1)
    simpa [writeIndentedItems, itemTokens] using
      RestSpelledBy.mark (c := ',') (t := .comma) (by decide) line

theorem rest_writeIndentedEntries
    (each : ∀ e ∈ entries, SpelledBy (writeIndented (depth + 1) e.2) e.2) :
    RestSpelledBy (writeIndentedEntries depth entries) (entryTokens entries) := by
  induction entries with
  | nil => exact .newline depth (.mark (by decide) .nil)
  | cons entry entries ih =>
    obtain ⟨key, value⟩ := entry
    have more := ih fun other member => each other (List.mem_cons_of_mem _ member)
    have line := ((each (key, value) List.mem_cons_self).blank.entry key more).newline (depth + 1)
    simpa [writeIndentedEntries, entryTokens] using
      RestSpelledBy.mark (c := ',') (t := .comma) (by decide) line

theorem spelledBy_writeIndented (fits : Writable j) : SpelledBy (writeIndented depth j) j := by
  induction fits generalizing depth with
  | @scalar j fits =>
    have same : writeIndented depth j = writeScalar j := by cases fits <;> rfl
    exact same ▸ spelledBy_scalar fits
  | @arr items each ih =>
    cases items with
    | nil => exact SpellsAhead.spelledBy (.mark (by decide) (.mark (by decide) .nil))
    | cons item items =>
      have more : RestSpelledBy (writeIndentedItems depth items) (itemTokens items) :=
        rest_writeIndentedItems fun other member => ih other (List.mem_cons_of_mem _ member)
      have first : SpelledBy (writeIndented (depth + 1) item) item := ih item List.mem_cons_self
      have line := (first.ahead more).newline (depth + 1)
      apply SpellsAhead.spelledBy
      simpa [writeIndented, tokensOf] using
        SpellsAhead.mark (c := '[') (t := .openArray) (by decide) line
  | @obj entries each ih =>
    cases entries with
    | nil => exact SpellsAhead.spelledBy (.mark (by decide) (.mark (by decide) .nil))
    | cons entry entries =>
      obtain ⟨key, value⟩ := entry
      have more : RestSpelledBy (writeIndentedEntries depth entries) (entryTokens entries) :=
        rest_writeIndentedEntries fun other member => ih other (List.mem_cons_of_mem _ member)
      have first : SpelledBy (writeIndented (depth + 1) value) value :=
        ih (key, value) List.mem_cons_self
      have line := (first.blank.entry key more).newline (depth + 1)
      apply SpellsAhead.spelledBy
      simpa [writeIndented, tokensOf] using
        SpellsAhead.mark (c := '\x7b') (t := .openObject) (by decide) line

theorem SpelledBy.spells (spelled : SpelledBy w j) : Spells w (tokensOf j) := by
  have closed : Stops [] := by
    intro c first
    cases first
  simpa using spelled closed .nil

end Spelling

section Reading

open Machine

def Runs (j : Json) : Prop :=
  ∀ stack e, e = .value ∨ e = .firstItem →
    (tokensOf j).foldlM step ⟨stack, e⟩ = some (complete j stack)

theorem run_first {stack : List Frame} {e : Expect} {t : Token} {next : Machine}
    (opens : e = .value ∨ e = .firstItem) (starts : t ≠ .closeArray)
    (taken : take stack t = some next) :
    (t :: ts).foldlM step ⟨stack, e⟩ = ts.foldlM step next := by
  have stepped : step ⟨stack, e⟩ t = some next := by
    rcases opens with rfl | rfl
    · exact taken
    · cases t <;> first | exact taken | exact absurd rfl starts
  rw [List.foldlM_cons, stepped]
  rfl

theorem run_itemTokens (each : ∀ item ∈ items, Runs item) (before : List Json)
    (stack : List Frame) :
    (itemTokens items).foldlM step ⟨.array before :: stack, .separator⟩
      = some (complete (.arr (before.reverse ++ items)) stack) := by
  -- Each step moves an item from the tokens to the frame, which is why the frame is general.
  induction items generalizing before with
  | nil =>
    rw [List.append_nil]
    rfl
  | cons item items ih =>
    have first := each item List.mem_cons_self (.array before :: stack) .value (.inl rfl)
    have rest := ih (fun other member => each other (List.mem_cons_of_mem _ member))
      (item :: before)
    rw [itemTokens, List.cons_append, List.foldlM_cons]
    change List.foldlM step ⟨.array before :: stack, .value⟩ _ = _
    rw [List.foldlM_append, first]
    change List.foldlM step ⟨.array (item :: before) :: stack, .separator⟩ _ = _
    rw [rest]
    simp

theorem run_entryTokens (each : ∀ e ∈ entries, Runs e.2) (before : List (String × Json))
    (last : String) (stack : List Frame) :
    (entryTokens entries).foldlM step ⟨.object before last :: stack, .separator⟩
      = some (complete (.obj (before.reverse ++ entries)) stack) := by
  induction entries generalizing before last with
  | nil =>
    rw [List.append_nil]
    rfl
  | cons entry entries ih =>
    obtain ⟨key, value⟩ := entry
    have first :=
      each (key, value) List.mem_cons_self (.object before key :: stack) .value (.inl rfl)
    have rest := ih (fun other member => each other (List.mem_cons_of_mem _ member))
      ((key, value) :: before) key
    rw [entryTokens]
    change List.foldlM step ⟨.object before key :: stack, .value⟩ (tokensOf value ++ _) = _
    rw [List.foldlM_append, first]
    change List.foldlM step ⟨.object ((key, value) :: before) key :: stack, .separator⟩ _ = _
    rw [rest]
    simp

theorem runs_scalar (fits : WritableScalar j) : Runs j := by
  intro stack e opens
  cases fits with
  | null => exact run_first opens nofun rfl
  | bool b => exact run_first opens nofun rfl
  | int fits => exact run_first opens nofun rfl
  | fraction => exact run_first opens nofun rfl
  | str s => exact run_first opens nofun rfl
  | unreadable => exact run_first opens nofun rfl

theorem runs (fits : Writable j) : Runs j := by
  induction fits with
  | scalar fits => exact runs_scalar fits
  | @arr items each ih =>
    intro stack e opens
    cases items with
    | nil =>
      exact run_first (t := .openArray) opens nofun rfl
    | cons item items =>
      have first := ih item List.mem_cons_self (.array [] :: stack) .firstItem (.inr rfl)
      have rest := run_itemTokens (fun other member => ih other (List.mem_cons_of_mem _ member))
        [item] stack
      rw [tokensOf]
      refine (run_first (t := .openArray) opens nofun rfl).trans ?_
      change List.foldlM step ⟨.array [] :: stack, .firstItem⟩ (tokensOf item ++ _) = _
      rw [List.foldlM_append, first]
      exact rest
  | @obj entries each ih =>
    intro stack e opens
    cases entries with
    | nil =>
      exact run_first (t := .openObject) opens nofun rfl
    | cons entry entries =>
      obtain ⟨key, value⟩ := entry
      have first := ih (key, value) List.mem_cons_self (.object [] key :: stack) .value (.inl rfl)
      have rest := run_entryTokens (fun other member => ih other (List.mem_cons_of_mem _ member))
        [(key, value)] key stack
      rw [tokensOf]
      refine (run_first (t := .openObject) opens nofun rfl).trans ?_
      change List.foldlM step ⟨.object [] key :: stack, .value⟩ (tokensOf value ++ _) = _
      rw [List.foldlM_append, first]
      exact rest

theorem ofTokens?_tokensOf (fits : Writable j) : ofTokens? (tokensOf j) = some j := by
  rw [ofTokens?, start, runs fits [] .value (.inl rfl)]
  rfl

theorem parse?_of_spelledBy (fits : Writable j) (spelled : SpelledBy w j) :
    parse? (String.ofList w) = some j := by
  have read : tokens? .ofText w = some (tokensOf j) := by
    have handed := Medium.text.tokens?_of_spells spelled.spells
    change tokens? .ofText (w.flatMap fun c => [c]) = _ at handed
    rwa [List.flatMap_singleton'] at handed
  rw [parse?, String.toList_ofList, read, Option.bind_some, ofTokens?_tokensOf fits]

theorem ofBytes?_of_spelledBy (fits : Writable j) (spelled : SpelledBy w j) :
    ofBytes? (Bytes.ofString (String.ofList w)) = some j := by
  have read : tokens? .ofBytes ((Bytes.ofString (String.ofList w)).map Bytes.letter)
      = some (tokensOf j) := by
    rw [Bytes.map_letter_ofString]
    exact Medium.bytes.tokens?_of_spells spelled.spells
  rw [ofBytes?]
  change (tokens? .ofBytes ((Bytes.ofString (String.ofList w)).map Bytes.letter)).bind _ = _
  rw [read, Option.bind_some, ofTokens?_tokensOf fits]

theorem parse?_render (fits : Writable j) : parse? j.render = some j :=
  parse?_of_spelledBy fits (spelledBy_write fits)

theorem ofBytes?_render (fits : Writable j) : ofBytes? (Bytes.ofString j.render) = some j :=
  ofBytes?_of_spelledBy fits (spelledBy_write fits)

theorem parse?_renderIndented (fits : Writable j) : parse? j.renderIndented = some j :=
  parse?_of_spelledBy fits (spelledBy_writeIndented fits)

end Reading

end DomainRegistry.Json
