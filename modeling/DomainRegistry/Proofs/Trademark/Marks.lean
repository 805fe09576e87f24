import DomainRegistry.Crypto.Ed25519
import DomainRegistry.Proofs.Answers
import DomainRegistry.Trademark.Verifier

/-!
Reading and verifying signed marks. Main statements: a written mark is read from its characters
alone, and a mark verified for a label is a verified mark that covers it.
-/

namespace DomainRegistry

namespace SignedMark

def ofSymbols (symbols : List Char) : Except TrademarkError SignedMark :=
  if symbols.isEmpty then .error (.encoding "no encoded data" none)
  else
    match Base64.decode .canonical (symbols.flatMap String.utf8EncodeChar) with
    | .error fault => .error (.base64 "encoded SMD" fault)
    | .ok bytes =>
      match (Json.ofBytes? bytes).bind SignedMark.ofJson? with
      | none => .error (.json "signed mark document")
      | some m => .ok m

theorem decode_ofList (cs : List Char) :
    decode (String.ofList cs) =
      (Armor.body cs).bind fun inside => ofSymbols (inside.filter fun c => !Text.isBlank c) := by
  unfold decode
  rw [String.toList_ofList]
  cases Armor.body cs with
  | error e => rfl
  | ok inside =>
    have bytes : Bytes.ofString (String.ofList (inside.filter fun c => !Text.isBlank c))
        = (inside.filter fun c => !Text.isBlank c).flatMap String.utf8EncodeChar :=
      Bytes.ofString_ofList _
    dsimp only [Except.bind, ofSymbols]
    exact bytes ▸ rfl

end SignedMark

namespace Verifier

theorem verifyForLabel_eq_ok_iff {v : Verifier} {encoded label : String} {now : Instant}
    {m : SignedMark} :
    v.verifyForLabel encoded label now = .ok m ↔
      v.verify encoded now = .ok m ∧ m.data.covers label = true := by
  unfold verifyForLabel
  cases v.verify encoded now with
  | error e => simp [bind, Except.bind]
  | ok n =>
    change (if n.data.covers label then _ else _) = _ ↔ _
    simp only [Except.ok.injEq]
    split
    · next covers =>
      constructor
      · rintro ⟨⟩; exact ⟨rfl, covers⟩
      · rintro ⟨rfl, _⟩; rfl
    · next bare =>
      constructor
      · rintro ⟨⟩
      · rintro ⟨rfl, covers⟩; exact absurd covers bare

end Verifier

/-- A mark for the label `a` and all times up to 2096, as its agent sends it. -/
def writtenMark : String :=
  "eyJkYXRhIjp7ImlkIjoibSIsIm1hcmtOYW1lIjoiTSIsImhvbGRlciI6IkgiLCJsYWJlbHMiOlsiYSJdLCJub3RCZWZvcmUiOiIxOTcwLTAxLTAxVDAwOjAwOjAwWiIsIm5vdEFmdGVyIjoiMjA5Ni0xMC0wMlQwNzowNjo0MFoifSwic2lnbmF0dXJlIjoiUVNJdm5kQk1KT3F5bTZyaWdGQ0ZYc0hzTVBQaXBLUDRlVHFZVkROUEJpL0FXTTduSGUvL2NjY2E3ZFp0QmM1V1FKUnEvbnhnSlRMRHJCMXlKb25CQWciLCJjZXJ0aWZpY2F0ZSI6eyJkYXRhIjp7InNlcmlhbCI6MSwic3ViamVjdCI6IiIsInB1YmxpY0tleSI6ImdUbDNEcWg5RjE5V28xUm13MHgrek11TmlwRzA3amVpWGZZUFc0L0pzNVEiLCJub3RCZWZvcmUiOiIxOTcwLTAxLTAxVDAwOjAwOjAwWiIsIm5vdEFmdGVyIjoiMjA5Ni0xMC0wMlQwNzowNjo0MFoifSwic2lnbmF0dXJlIjoiWU9vd0RRcmRVYzN6cFJOWXh1R3VYRkNmSEpLREpNQ1BDY0lTZWJxWDlkcmp1ZzYyNkpWa09VQTZNZzVyeEVaYS9OOGlONmxIUVF0Z0lDZEs1aGhIQncifX0="

def markVerifier : Verifier where
  scheme := Ed25519.scheme
  mode := .production
  root := [138, 136, 227, 221, 116, 9, 241, 149, 253, 82, 219, 45, 60, 186, 93, 114,
    202, 103, 9, 191, 29, 148, 18, 27, 243, 116, 136, 1, 180, 15, 111, 92]

set_option maxRecDepth 100000 in
theorem writtenMark_verifies :
    ∃ m, markVerifier.verify writtenMark .epoch = .ok m ∧ m.data.id = "m"
      ∧ m.data.covers "a" = true := by
  have read : ((markVerifier.verify writtenMark .epoch).toOption.map fun m =>
      (m.data.id, m.data.covers "a")) = some ("m", true) := by
    rw [Verifier.verify, show writtenMark = String.ofList _ from rfl, SignedMark.decode_ofList]
    decide +kernel
  obtain ⟨m, verified, same⟩ := Option.map_eq_some_iff.mp read
  exact ⟨m, eq_ok_of_toOption verified, by simpa using same⟩

end DomainRegistry
