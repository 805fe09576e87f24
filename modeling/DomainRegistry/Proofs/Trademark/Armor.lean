import Mathlib.Data.List.Flatten
import DomainRegistry.Proofs.Json.Sizes
import DomainRegistry.Proofs.Text.Markers
import DomainRegistry.Proofs.Trademark.Marks
import DomainRegistry.Proofs.Trademark.Records

/-!
Written marks there and back. Main statements: a mark is read back from what is written for it
exactly when its name does not hold the first marker line, and a name that carries another mark
between marker lines has that one read in its place.
-/

namespace DomainRegistry

open Text

variable {cs inside rest : List Char} {c : Char}

namespace Armor

theorem filter_filled (filled : ∀ c ∈ cs, isBlank c = false) :
    cs.filter (fun c => !isBlank c) = cs := by
  rw [List.filter_eq_self]
  intro c member
  rw [filled c member]
  rfl

theorem filter_wrap (filled : ∀ c ∈ cs, isBlank c = false) :
    (wrap cs).filter (fun c => !isBlank c) = cs := by
  induction cs using wrap.induct with
  | case1 cs empty =>
    rw [wrap, if_pos empty, List.isEmpty_iff.mp empty]
    rfl
  | case2 cs more ih =>
    have line : (cs.take lineLength).filter (fun c => !isBlank c) = cs.take lineLength :=
      filter_filled fun c member => filled c (List.mem_of_mem_take member)
    have later := ih fun c member => filled c (List.mem_of_mem_drop member)
    rw [wrap, if_neg more, List.filter_append, line, List.filter_cons, later]
    exact List.take_append_drop lineLength cs

theorem mem_wrap (member : c ∈ wrap cs) : c ∈ cs ∨ c = '\n' := by
  induction cs using wrap.induct with
  | case1 cs empty =>
    rw [wrap, if_pos empty] at member
    cases member
  | case2 cs more ih =>
    rw [wrap, if_neg more] at member
    rcases List.mem_append.mp member with line | later
    · exact Or.inl (List.mem_of_mem_take line)
    · rcases List.mem_cons.mp later with rfl | later
      · exact Or.inr rfl
      · exact (ih later).imp_left List.mem_of_mem_drop

theorem body_of_line (first : ¬begins <:+: cs) (free : '-' ∉ inside) :
    body (cs ++ '\n' :: (begins ++ (inside ++ (ends ++ rest)))) = .ok inside := by
  have opened : splitAtMarker begins (cs ++ '\n' :: (begins ++ (inside ++ (ends ++ rest))))
      = some (cs ++ ['\n'], inside ++ (ends ++ rest)) := by
    rw [splitAtMarker_next_line (by decide) (by decide) (splitAtMarker_eq_none_iff.mpr first),
      splitAtMarker_append]
    rfl
  have closed : splitAtMarker ends (inside ++ (ends ++ rest)) = some (inside, rest) := by
    have skipped : splitAtMarker ends (inside ++ (ends ++ rest)) = _ := splitAtMarker_skip rfl free
    rw [skipped, splitAtMarker_append, Option.map_some]
    simp
  rw [body, opened]
  simp only [closed]

end Armor

namespace SignedMark

def symbols (m : SignedMark) : List Char :=
  (Base64.encode .canonical (Bytes.ofString m.toJson.render)).map Bytes.letter

theorem encode_eq (m : SignedMark) :
    m.encode = String.ofList ("Marks: ".toList ++ m.data.markName.toList ++ '\n' ::
      (Armor.begins ++ ('\n' :: Armor.wrap m.symbols ++ (Armor.ends ++ ['\n'])))) := by
  apply String.toList_inj.mp
  simp only [encode, Base64.encodeText, String.toList_append, String.toList_ofList]
  simp [symbols]
  rfl

theorem toNat_of_mem_symbols {m : SignedMark} (member : c ∈ m.symbols) :
    c.toNat = 43 ∨ 47 ≤ c.toNat ∧ c.toNat ≤ 122 := by
  obtain ⟨b, written, rfl⟩ := List.mem_map.mp member
  rw [Bytes.toNat_letter]
  exact Base64.toNat_of_isWritten (Base64.isWritten_of_mem_encode written)

theorem isBlank_of_mem_symbols {m : SignedMark} (member : c ∈ m.symbols) : isBlank c = false := by
  have inside := toNat_of_mem_symbols member
  exact not_isBlank_of_printed (by omega) (by omega)

theorem hyphen_not_mem_wrap (m : SignedMark) : '-' ∉ '\n' :: Armor.wrap m.symbols := by
  intro member
  rcases List.mem_cons.mp member with same | wrapped
  · exact absurd same (by decide)
  rcases Armor.mem_wrap wrapped with symbol | same
  · exact absurd (toNat_of_mem_symbols symbol) (by decide)
  · exact absurd same (by decide)

theorem flatMap_symbols (m : SignedMark) :
    m.symbols.flatMap String.utf8EncodeChar
      = Base64.encode .canonical (Bytes.ofString m.toJson.render) := by
  rw [← Bytes.ofString_ofList]
  exact Bytes.ofString_map_letter fun b member =>
    Base64.lt_of_isWritten (Base64.isWritten_of_mem_encode member)

theorem ofSymbols_symbols (m : SignedMark) : ofSymbols m.symbols = .ok m := by
  have read : (Json.ofBytes? (Bytes.ofString m.toJson.render)).bind ofJson? = some m := by
    rw [Json.ofBytes?_render (hasForm.writable m), Option.bind_some, hasForm.back]
  have filled : m.symbols.isEmpty = false := by
    rw [Bool.eq_false_iff, Ne, List.isEmpty_iff, symbols, List.map_eq_nil_iff]
    apply Base64.encode_ne_nil
    intro empty
    rw [empty, Json.ofBytes?, List.map_nil, Json.tokens?] at read
    cases read
  rw [ofSymbols, filled, flatMap_symbols, Base64.decode_encode]
  simp only [read, Bool.false_eq_true, if_false]

theorem splitAtMarker_header (name : List Char) :
    splitAtMarker Armor.begins ("Marks: ".toList ++ name)
      = (splitAtMarker Armor.begins name).map fun (b, a) => ("Marks: ".toList ++ b, a) :=
  splitAtMarker_skip rfl (by decide)

theorem decode_encode {m : SignedMark} (free : ¬Armor.begins <:+: m.data.markName.toList) :
    decode m.encode = .ok m := by
  have first : ¬Armor.begins <:+: "Marks: ".toList ++ m.data.markName.toList := by
    rw [← splitAtMarker_eq_none_iff] at free ⊢
    rw [splitAtMarker_header, free, Option.map_none]
  have filtered : ('\n' :: Armor.wrap m.symbols).filter (fun c => !isBlank c) = m.symbols := by
    rw [List.filter_cons_of_neg (by decide)]
    exact Armor.filter_wrap fun c => isBlank_of_mem_symbols
  rw [encode_eq, decode_ofList, Armor.body_of_line first m.hyphen_not_mem_wrap]
  rw [Except.bind, filtered, ofSymbols_symbols]

section Repeated

open Json

variable {P : String → Prop} {j : Json} {m : SignedMark}

theorem markName_of_texts (texts : j.Texts P) (read : ofJson? j = some m) : P m.data.markName := by
  simp only [ofJson?, Option.bind_eq_bind, Option.bind_eq_some_iff] at read
  obtain ⟨f, given, data, readData, signature, _, certificate, _, built⟩ := read
  cases built
  obtain ⟨part, partTexts, read⟩ := exists_of_required (texts_of_fields? texts given) readData
  simp only [MarkData.ofJson?, Option.bind_eq_bind, Option.bind_eq_some_iff] at read
  obtain ⟨g, known, id, _, markName, readName, holder, _, labels, _, first, _, last, _, built⟩ :=
    read
  cases built
  have given := (Option.filter_eq_some_iff.mp known).1
  obtain ⟨name, nameTexts, read⟩ := exists_of_required (texts_of_fields? partTexts given) readName
  cases nameTexts with
  | str holds =>
    cases read
    exact holds
  | _ => cases read

/-- A mark is read from at least as many symbols as its name has bytes. -/
theorem of_ofSymbols {symbols : List Char} (read : ofSymbols symbols = .ok m) :
    (∀ b ∈ symbols.flatMap String.utf8EncodeChar, Base64.IsWritten b)
      ∧ (Bytes.ofString m.data.markName).length
        ≤ (symbols.flatMap String.utf8EncodeChar).length := by
  rw [ofSymbols] at read
  split at read
  · cases read
  split at read
  · cases read
  · next bytes decoded =>
    split at read
    · cases read
    · next n found =>
      cases read
      obtain ⟨j, document, found⟩ := Option.bind_eq_some_iff.mp found
      obtain ⟨written, fewer⟩ := Base64.of_decode decoded
      have short := markName_of_texts (texts_of_ofBytes? document) found
      exact ⟨written, Nat.le_trans short fewer⟩

end Repeated

/--
Where the name holds the first marker line, what is read either starts inside the name and ends
there, or runs over the true marker line.
-/
theorem body_of_repeated {m : SignedMark} {after : List Char}
    (found : splitAtMarker Armor.begins m.data.markName.toList = some (cs, after))
    (read : Armor.body m.encode.toList = .ok inside) : '-' ∈ inside ∨ inside <+: after := by
  rw [encode_eq, String.toList_ofList] at read
  have opened : splitAtMarker Armor.begins ("Marks: ".toList ++ m.data.markName.toList)
      = some ("Marks: ".toList ++ cs, after) := by
    rw [splitAtMarker_header, found, Option.map_some]
  rw [Armor.body, splitAtMarker_line (by decide) (by decide) opened] at read
  dsimp only at read
  cases here : splitAtMarker Armor.ends after with
  | some parts =>
    obtain ⟨ended, more⟩ := parts
    rw [splitAtMarker_line (by decide) (by decide) here] at read
    cases read
    refine Or.inr ⟨Armor.ends ++ more, ?_⟩
    rw [splitAtMarker_eq_some here, List.append_assoc]
  | none =>
    rw [splitAtMarker_next_line (by decide) (by decide) here] at read
    split at read
    · next ended more closed =>
      cases read
      obtain ⟨⟨line, more⟩, closed, same⟩ := Option.map_eq_some_iff.mp closed
      cases same
      have parts := splitAtMarker_eq_some closed
      refine Or.inl (List.mem_append_right _ (List.mem_cons_of_mem _ ?_))
      cases line with
      | nil =>
        -- The two marker lines differ in their sixth character.
        have sixth : some 'B' = some 'E' := congrArg (fun l : List Char => l[5]?) parts
        exact absurd sixth (by decide)
      | cons d line =>
        have first := congrArg List.head? parts
        cases first
        exact List.mem_cons_self
    · cases read

theorem decode_encode_ne {m : SignedMark} (repeated : Armor.begins <:+: m.data.markName.toList) :
    decode m.encode ≠ .ok m := by
  intro read
  obtain ⟨⟨before, after⟩, found⟩ : ∃ parts,
      splitAtMarker Armor.begins m.data.markName.toList = some parts :=
    Option.ne_none_iff_exists'.mp fun missing => splitAtMarker_eq_none_iff.mp missing repeated
  rw [← String.ofList_toList (s := m.encode), decode_ofList] at read
  obtain ⟨inside, body, read⟩ := bind_eq_ok.mp read
  obtain ⟨written, long⟩ := of_ofSymbols read
  rcases body_of_repeated found body with hyphen | short
  · have kept : '-' ∈ inside.filter fun c => !isBlank c := List.mem_filter.mpr ⟨hyphen, by decide⟩
    have stray : Base64.IsWritten 45 :=
      written 45 (List.mem_flatMap.mpr ⟨'-', kept, by decide⟩)
    exact absurd (Base64.toNat_of_isWritten stray) (by decide)
  · -- The symbols stand in the name after the marker, and are too few for that name.
    have kept : (inside.filter fun c => !isBlank c).Sublist after :=
      List.filter_sublist.trans short.sublist
    have fewer := (kept.flatMap String.utf8EncodeChar).length_le
    have whole : Bytes.ofString m.data.markName
        = (before ++ Armor.begins ++ after).flatMap String.utf8EncodeChar := by
      rw [← splitAtMarker_eq_some found, ← Bytes.ofString_ofList, String.ofList_toList]
    have marker : (Armor.begins.flatMap String.utf8EncodeChar).length = 27 := by decide
    rw [whole, List.flatMap_append, List.flatMap_append, List.length_append, List.length_append,
      marker] at long
    omega

/-- A name between marker lines can carry another mark, which is then read instead. -/
theorem decode_encode_enclosing {m n : SignedMark}
    (named : m.data.markName.toList = Armor.begins ++ (n.symbols ++ Armor.ends)) :
    decode m.encode = .ok n := by
  have opened : splitAtMarker Armor.begins ("Marks: ".toList ++ m.data.markName.toList)
      = some ("Marks: ".toList, n.symbols ++ Armor.ends) := by
    rw [splitAtMarker_header, named, splitAtMarker_append, Option.map_some]
    simp only [List.append_nil]
  have free : '-' ∉ n.symbols := fun member => absurd (toNat_of_mem_symbols member) (by decide)
  have closed : splitAtMarker Armor.ends (n.symbols ++ Armor.ends) = some (n.symbols, []) := by
    have last := splitAtMarker_append Armor.ends []
    rw [List.append_nil] at last
    have skipped : splitAtMarker Armor.ends (n.symbols ++ Armor.ends) = _ :=
      splitAtMarker_skip rfl free
    rw [skipped, last]
    simp
  have filtered : n.symbols.filter (fun c => !isBlank c) = n.symbols :=
    Armor.filter_filled fun c => isBlank_of_mem_symbols
  have body (rest : List Char) :
      Armor.body ("Marks: ".toList ++ m.data.markName.toList ++ '\n' :: rest) = .ok n.symbols := by
    rw [Armor.body, splitAtMarker_line (by decide) (by decide) opened]
    dsimp only
    rw [splitAtMarker_line (by decide) (by decide) closed]
  rw [encode_eq, decode_ofList, body]
  rw [Except.bind, filtered, ofSymbols_symbols]

/-- A mark is read back from what is written for it unless its name holds the first marker line. -/
theorem written_mark_decodes_iff (m : SignedMark) :
    decode m.encode = .ok m ↔ ¬Armor.begins <:+: m.data.markName.toList :=
  ⟨fun read repeated => decode_encode_ne repeated read, decode_encode⟩

def namedAsMarker : SignedMark where
  data := ⟨"m", "-----BEGIN ENCODED SMD-----", "H", ["a"], .epoch, .epoch⟩
  signature := []
  certificate := ⟨⟨1, "", [], .epoch, .epoch⟩, []⟩

theorem mark_named_as_marker_lost : decode namedAsMarker.encode ≠ .ok namedAsMarker :=
  decode_encode_ne ⟨[], [], rfl⟩

end SignedMark

end DomainRegistry
