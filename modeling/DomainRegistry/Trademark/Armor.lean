import DomainRegistry.Json.Parser
import DomainRegistry.Json.Printer
import DomainRegistry.Trademark.Error

/-!
The written form of signed marks: JSON in base64, bare or between two marker lines.
-/

namespace DomainRegistry

open Text

namespace Armor

def begins : List Char := "-----BEGIN ENCODED SMD-----".toList

def ends : List Char := "-----END ENCODED SMD-----".toList

def unbalanced : TrademarkError := .encoding "unbalanced encoded SMD armor" none

/-- The text between the markers, or all of it if there are none. -/
def body (text : List Char) : Except TrademarkError (List Char) :=
  match splitAtMarker begins text with
  | none => if (splitAtMarker ends text).isSome then .error unbalanced else .ok text
  | some (_, rest) =>
    match splitAtMarker ends rest with
    | some (inside, _) => .ok inside
    | none => .error unbalanced

def lineLength : Nat := 72

/-- The lines of a body, all full but perhaps the last. -/
def wrap (text : List Char) : List Char :=
  if text.isEmpty then []
  else text.take lineLength ++ '\n' :: wrap (text.drop lineLength)
termination_by text.length
decreasing_by
  have : 0 < text.length := by cases text <;> simp_all
  simp only [List.length_drop, lineLength]
  omega

end Armor

namespace SignedMark

def decode (encoded : String) : Except TrademarkError SignedMark := do
  let inside ← Armor.body encoded.toList
  let symbols := inside.filter fun c => !isBlank c
  if symbols.isEmpty then .error (.encoding "no encoded data" none)
  else
    match Base64.decodeText .canonical (String.ofList symbols) with
    | .error fault => .error (.base64 "encoded SMD" fault)
    | .ok bytes =>
      match (Json.ofBytes? bytes).bind SignedMark.ofJson? with
      | none => .error (.json "signed mark document")
      | some m => .ok m

def encode (m : SignedMark) : String :=
  let body := Base64.encodeText .canonical (Bytes.ofString m.toJson.render)
  "Marks: " ++ m.data.markName ++ "\n" ++ String.ofList (Armor.begins ++ ['\n']
    ++ Armor.wrap body.toList ++ Armor.ends ++ ['\n'])

end SignedMark

end DomainRegistry
