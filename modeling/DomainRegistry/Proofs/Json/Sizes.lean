import DomainRegistry.Json.Parser
import DomainRegistry.Json.Record
import DomainRegistry.Proofs.Bytes.Utf8

/-!
How long the texts of a document can be. Main statement: no text of a document that is read from
bytes has more bytes than these.
-/

namespace DomainRegistry.Json

open Text

section Pieces

variable {cs after : List Char} {pieces : List Piece} {out : Bytes} {s : String}

/-- How many characters a piece is written with, at least. -/
def Piece.width : Piece → Nat
  | .char _ => 1
  | .unit _ => 6

def widths (pieces : List Piece) : Nat :=
  pieces.foldr (fun piece total => piece.width + total) 0

theorem widths_cons (piece : Piece) (pieces : List Piece) :
    widths (piece :: pieces) = piece.width + widths pieces := rfl

theorem widths_lt_of_scanPieces (scanned : scanPieces cs = some (pieces, after)) :
    widths pieces + after.length < cs.length := by
  -- Each piece takes at least its width of characters, and the closing quote takes one more.
  fun_induction scanPieces cs generalizing pieces with
  | case1 => cases scanned
  | case2 a b c d rest n more later found read ih =>
    cases scanned
    have shorter := ih found
    simp only [widths_cons, Piece.width, List.length_cons]
    omega
  | case3 => cases scanned
  | case4 e rest _ c more later found read ih =>
    cases scanned
    have shorter := ih found
    simp only [widths_cons, Piece.width, List.length_cons]
    omega
  | case5 => cases scanned
  | case6 rest =>
    cases scanned
    simp [widths]
  | case7 => cases scanned
  | case8 c rest _ _ _ _ ih =>
    obtain ⟨⟨more, later⟩, found, same⟩ := Option.map_eq_some_iff.mp scanned
    cases same
    have shorter := ih found
    simp only [widths_cons, Piece.width, List.length_cons]
    omega

theorem length_named_le (c : Char) : (Bytes.ofString (String.singleton c)).length ≤ 4 := by
  rw [String.singleton_eq_ofList, Bytes.ofString_ofList, List.flatMap_singleton,
    String.length_utf8EncodeChar]
  exact c.utf8Size_le_four

theorem length_le_widths {raw named : Char → Bytes} (short : ∀ c, (raw c).length ≤ 1)
    (few : ∀ c, (named c).length ≤ 4) (joined : joinPieces raw named pieces = some out) :
    out.length ≤ widths pieces := by
  fun_induction joinPieces raw named pieces generalizing out with
  | case1 =>
    cases joined
    exact Nat.zero_le _
  | case2 c rest ih =>
    obtain ⟨more, found, rfl⟩ := Option.map_eq_some_iff.mp joined
    have later := ih found
    have first := short c
    simp only [widths_cons, Piece.width, List.length_append]
    omega
  | case3 high low rest _ _ ih =>
    obtain ⟨more, found, rfl⟩ := Option.map_eq_some_iff.mp joined
    have later := ih found
    have first := few (joinUnits high low)
    simp only [widths_cons, Piece.width, List.length_append]
    omega
  | case4 => cases joined
  | case5 => cases joined
  | case6 high low rest _ _ ih =>
    obtain ⟨more, found, rfl⟩ := Option.map_eq_some_iff.mp joined
    have later := ih found
    have first := few (Char.ofNat high)
    simp only [widths_cons, Piece.width, List.length_append] at later ⊢
    omega
  | case7 => cases joined
  | case8 n rest _ _ ih =>
    obtain ⟨more, found, rfl⟩ := Option.map_eq_some_iff.mp joined
    have later := ih found
    have first := few (Char.ofNat n)
    simp only [widths_cons, Piece.width, List.length_append]
    omega

theorem length_le_of_ofBytes (spelled : Spelling.ofBytes pieces = some s) :
    (Bytes.ofString s).length ≤ widths pieces := by
  obtain ⟨out, joined, read⟩ := Option.bind_eq_some_iff.mp spelled
  rw [Bytes.ofString_of_toString? read]
  exact length_le_widths (fun _ => Nat.le_refl _) length_named_le joined

end Pieces

section Tokens

variable {cs after : List Char} {t : Token} {ts : List Token} {s : String} {spell : Spelling}

theorem numberToken?_ne_str : numberToken? cs ≠ some (.str s) := by
  intro read
  unfold numberToken? at read
  split at read
  next negative body _ =>
  dsimp only at read
  split at read
  · cases read
  split at read
  · cases read
  split at read
  · cases read
  split at read
  · cases read
  · cases read

theorem widths_lt_of_scanToken (scanned : scanToken .ofBytes cs = some (.str s, after)) :
    (Bytes.ofString s).length + after.length < cs.length := by
  rw [scanToken.eq_def] at scanned
  split at scanned
  · cases scanned
  · cases scanned
  · cases scanned
  · cases scanned
  · cases scanned
  · cases scanned
  · cases scanned
  · next c rest _ _ _ _ _ _ =>
    split at scanned
    · obtain ⟨⟨pieces, later⟩, found, same⟩ := Option.map_eq_some_iff.mp scanned
      obtain ⟨token, rfl⟩ := Prod.mk.inj same
      have wide := widths_lt_of_scanPieces found
      rw [stringToken] at token
      split at token
      · next text spelled =>
        cases token
        have short := length_le_of_ofBytes spelled
        rw [List.length_cons]
        omega
      · cases token
    split at scanned
    · obtain ⟨token, read, same⟩ := Option.map_eq_some_iff.mp scanned
      cases same
      exact absurd read numberToken?_ne_str
    · split at scanned
      · cases scanned
      · cases scanned
      · cases scanned
      · cases scanned

theorem length_le_of_tokens? (read : tokens? .ofBytes cs = some ts) (member : .str s ∈ ts) :
    (Bytes.ofString s).length ≤ cs.length := by
  fun_induction tokens? Spelling.ofBytes cs generalizing ts with
  | case1 =>
    cases read
    cases member
  | case2 c rest blank ih =>
    have shorter := ih read member
    rw [List.length_cons]
    omega
  | case3 => cases read
  | case4 c rest _ token after scanned shorter ih =>
    obtain ⟨more, found, rfl⟩ := Option.map_eq_some_iff.mp read
    rcases List.mem_cons.mp member with rfl | later
    · have wide := widths_lt_of_scanToken scanned
      omega
    · have fits := ih found later
      omega
  | case5 => cases read

end Tokens

section Documents

variable {P : String → Prop} {j : Json} {items : List Json} {entries : List (String × Json)}
  {t : Token} {ts : List Token}

inductive Texts (P : String → Prop) : Json → Prop where
  | null : Texts P null
  | bool (b : Bool) : Texts P (bool b)
  | int (n : Int) : Texts P (int n)
  | fraction : Texts P fraction
  | str {s : String} (holds : P s) : Texts P (str s)
  | unreadable : Texts P unreadable
  | arr {items : List Json} (each : ∀ item ∈ items, Texts P item) : Texts P (arr items)
  | obj {entries : List (String × Json)} (each : ∀ e ∈ entries, Texts P e.2) : Texts P (obj entries)

def Frame.Texts (P : String → Prop) : Frame → Prop
  | .array items => ∀ item ∈ items, item.Texts P
  | .object entries _ => ∀ e ∈ entries, e.2.Texts P
  | .garbled => True

structure Machine.Texts (P : String → Prop) (m : Machine) : Prop where
  frames : ∀ f ∈ m.stack, f.Texts P
  done : ∀ v, m.expect = .done v → v.Texts P

namespace Machine

variable {m next : Machine} {stack : List Frame} {value : Json}

theorem texts_complete (value_texts : value.Texts P) (frames : ∀ f ∈ stack, f.Texts P) :
    (complete value stack).Texts P := by
  match stack with
  | [] => exact ⟨frames, fun v same => by cases same; exact value_texts⟩
  | .array items :: below =>
    obtain ⟨each, frames⟩ := List.forall_mem_cons.mp frames
    exact ⟨List.forall_mem_cons.mpr ⟨List.forall_mem_cons.mpr ⟨value_texts, each⟩, frames⟩, nofun⟩
  | .object entries key :: below =>
    obtain ⟨each, frames⟩ := List.forall_mem_cons.mp frames
    exact ⟨List.forall_mem_cons.mpr ⟨List.forall_mem_cons.mpr ⟨value_texts, each⟩, frames⟩, nofun⟩
  | .garbled :: below => exact ⟨frames, nofun⟩

theorem texts_take (frames : ∀ f ∈ stack, f.Texts P) (holds : ∀ s, t = .str s → P s)
    (taken : take stack t = some next) : next.Texts P := by
  cases t with
  | openArray =>
    cases taken
    exact ⟨List.forall_mem_cons.mpr ⟨List.forall_mem_nil _, frames⟩, nofun⟩
  | openObject =>
    cases taken
    exact ⟨List.forall_mem_cons.mpr ⟨List.forall_mem_nil _, frames⟩, nofun⟩
  | null => cases taken; exact texts_complete .null frames
  | bool b => cases taken; exact texts_complete (.bool b) frames
  | int n => cases taken; exact texts_complete (.int n) frames
  | fraction => cases taken; exact texts_complete .fraction frames
  | str s => cases taken; exact texts_complete (.str (holds s rfl)) frames
  | garbled => cases taken; exact texts_complete .unreadable frames
  | outOfRange => cases taken; exact texts_complete .unreadable frames
  | closeArray => cases taken
  | closeObject => cases taken
  | comma => cases taken
  | colon => cases taken

theorem texts_close (frames : ∀ f ∈ stack, f.Texts P) (closed : close stack t = some next) :
    next.Texts P := by
  rw [close.eq_def] at closed
  split at closed
  · next items below =>
    cases closed
    obtain ⟨each, frames⟩ := List.forall_mem_cons.mp frames
    exact texts_complete (.arr fun item member => each item (List.mem_reverse.mp member)) frames
  · next entries key below =>
    cases closed
    obtain ⟨each, frames⟩ := List.forall_mem_cons.mp frames
    exact texts_complete (.obj fun e member => each e (List.mem_reverse.mp member)) frames
  · cases closed
    exact texts_complete .unreadable (List.forall_mem_cons.mp frames).2
  · cases closed

theorem texts_name (frames : ∀ f ∈ stack, f.Texts P) (named : name stack t = some next) :
    next.Texts P := by
  rw [name.eq_def] at named
  split at named
  · cases named
    obtain ⟨each, frames⟩ := List.forall_mem_cons.mp frames
    exact ⟨List.forall_mem_cons.mpr ⟨each, frames⟩, nofun⟩
  · cases named
    obtain ⟨each, frames⟩ := List.forall_mem_cons.mp frames
    exact ⟨List.forall_mem_cons.mpr ⟨trivial, frames⟩, nofun⟩
  · cases named
    exact ⟨frames, nofun⟩
  · cases named
    exact ⟨frames, nofun⟩
  · cases named

theorem texts_step (texts : m.Texts P) (holds : ∀ s, t = .str s → P s)
    (stepped : step m t = some next) : next.Texts P := by
  rw [step.eq_def] at stepped
  split at stepped
  · exact texts_take texts.frames holds stepped
  · exact texts_close texts.frames stepped
  · exact texts_take texts.frames holds stepped
  · exact texts_close texts.frames stepped
  · exact texts_name texts.frames stepped
  · exact texts_name texts.frames stepped
  · cases stepped
    exact ⟨texts.frames, nofun⟩
  · split at stepped
    · cases stepped
      exact ⟨texts.frames, nofun⟩
    · cases stepped
      exact ⟨texts.frames, nofun⟩
    · cases stepped
      exact ⟨texts.frames, nofun⟩
    · cases stepped
  · exact texts_close texts.frames stepped
  · cases stepped

theorem texts_run (texts : m.Texts P) (holds : ∀ s, .str s ∈ ts → P s)
    (ran : ts.foldlM step m = some next) : next.Texts P := by
  induction ts generalizing m with
  | nil =>
    cases ran
    exact texts
  | cons t ts ih =>
    rw [List.foldlM_cons] at ran
    obtain ⟨middle, stepped, ran⟩ := Option.bind_eq_some_iff.mp ran
    have kept : middle.Texts P := by
      refine texts_step texts (fun s same => holds s ?_) stepped
      rw [same]
      exact List.mem_cons_self
    exact ih kept (fun s member => holds s (List.mem_cons_of_mem _ member)) ran

end Machine

theorem texts_of_ofTokens? (holds : ∀ s, .str s ∈ ts → P s) (read : ofTokens? ts = some j) :
    j.Texts P := by
  obtain ⟨last, ran, result⟩ := Option.bind_eq_some_iff.mp read
  have started : Machine.start.Texts P := ⟨List.forall_mem_nil _, nofun⟩
  have ended := Machine.texts_run started holds ran
  rw [Machine.result?] at result
  split at result
  · next expects =>
    cases result
    exact ended.done j expects
  · cases result

/-- No text of a document has more bytes than the document. -/
theorem texts_of_ofBytes? {bytes : Bytes} (read : ofBytes? bytes = some j) :
    j.Texts fun s => (Bytes.ofString s).length ≤ bytes.length := by
  obtain ⟨ts, scanned, read⟩ := Option.bind_eq_some_iff.mp read
  refine texts_of_ofTokens? (fun s member => ?_) read
  have fits := length_le_of_tokens? scanned member
  rwa [List.length_map] at fits

theorem texts_of_fields? {names : List String} {f : Fields} (texts : j.Texts P)
    (given : fields? names j = some f) : ∀ e ∈ f.entries, e.2.Texts P := by
  rw [fields?.eq_def] at given
  split at given
  · next entries =>
    split at given
    · cases given
      cases texts with
      | obj each => exact each
    · cases given
  · next items =>
    split at given
    · cases given
      cases texts with
      | arr each => exact fun e member => each e.2 (List.of_mem_zip member).2
    · cases given
  · cases given

theorem exists_of_required {α : Type} {read : Json → Option α} {f : Fields} {name : String} {a : α}
    (each : ∀ e ∈ f.entries, e.2.Texts P) (given : f.required name read = some a) :
    ∃ part : Json, part.Texts P ∧ read part = some a := by
  obtain ⟨part, found, got⟩ := Option.bind_eq_some_iff.mp given
  obtain ⟨before, after, split, _⟩ := List.lookup_eq_some_iff.mp found
  refine ⟨part, each (name, part) ?_, got⟩
  rw [split]
  exact List.mem_append_right _ List.mem_cons_self

end Documents

end DomainRegistry.Json
