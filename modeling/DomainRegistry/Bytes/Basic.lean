/-!
Byte strings as lists, and the UTF-8 form of text.
-/

namespace DomainRegistry

abbrev Bytes := List UInt8

namespace Bytes

def ofString (s : String) : Bytes := s.toByteArray.data.toList

def toString? (bytes : Bytes) : Option String := String.fromUTF8? ⟨bytes.toArray⟩

theorem toString?_ofString (s : String) : toString? (ofString s) = some s := by
  have valid : s.toByteArray.IsValidUTF8 := s.isValidUTF8
  simp [toString?, ofString, String.fromUTF8?, valid, String.fromUTF8]

theorem ofString_injective {s t : String} (same : ofString s = ofString t) : s = t := by
  have := congrArg toString? same
  simpa [toString?_ofString] using this

theorem ofString_ofList (cs : List Char) :
    ofString (String.ofList cs) = cs.flatMap String.utf8EncodeChar := by
  rw [ofString, String.toByteArray_ofList, List.utf8Encode, List.data_toByteArray]

def toNatLittle (bytes : Bytes) : Nat := bytes.foldr (fun b n => b.toNat + 256 * n) 0

def ofNatLittle : (width n : Nat) → Bytes
  | 0, _ => []
  | width + 1, n => UInt8.ofNat n :: ofNatLittle width (n / 256)

end Bytes

end DomainRegistry
