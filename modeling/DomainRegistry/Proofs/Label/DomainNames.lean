import DomainRegistry.Label.DomainName
import DomainRegistry.Proofs.Answers

/-!
Checked domain names. Main statements: the checked name is the one that was given, and a name that
does not pass is turned away for its form, not for being taken.
-/

namespace DomainRegistry

namespace DomainName

variable {config : Config} {text : String} {name : DomainName} {r : Rejection}

theorem check_eq_ok_iff :
    check config text = .ok name ↔
      checkShape config text = .ok () ∧ ∃ zone, findZone? config text = some zone
        ∧ (labelIn zone.name text).isEmpty = false ∧ (labelIn zone.name text).contains '.' = false
        ∧ checkLabel (labelIn zone.name text) = .ok ()
        ∧ ∃ unicodeLabel table, readLabel zone (labelIn zone.name text) = .ok (unicodeLabel, table)
          ∧ name = ⟨text, String.ofList (labelIn zone.name text), unicodeLabel, zone, table⟩ := by
  unfold check
  rw [bind_eq_ok]
  cases findZone? config text with
  | none => simp
  | some zone =>
    simp only [ite_error_eq_ok, bind_eq_ok, Bool.or_eq_true, not_or, Bool.not_eq_true]
    constructor
    · rintro ⟨_, shaped, ⟨filled, single⟩, _, formed, ⟨unicodeLabel, table⟩, read, made⟩
      exact ⟨shaped, zone, rfl, filled, single, formed, unicodeLabel, table, read,
        (Except.ok.inj made).symm⟩
    · rintro ⟨shaped, _, ⟨⟩, filled, single, formed, unicodeLabel, table, read, rfl⟩
      exact ⟨(), shaped, ⟨filled, single⟩, (), formed, (unicodeLabel, table), read, rfl⟩

theorem checkShape_eq_ok (shaped : checkShape config text = .ok ()) :
    text ≠ "" ∧ ∀ c ∈ text.toList, Text.isUpperAscii c = false ∧ isNameChar c = true := by
  simp only [checkShape, ite_error_eq_ok, List.any_eq_true, not_exists, not_and,
    Bool.not_eq_true', Bool.not_eq_false, List.all_eq_true, Bool.not_eq_true] at shaped
  obtain ⟨filled, small, formed, _⟩ := shaped
  refine ⟨?_, fun c member => ⟨small c member, formed c member⟩⟩
  rintro rfl
  cases filled

theorem findZone?_of_check (checked : check config text = .ok name) :
    findZone? config text = some name.zone := by
  obtain ⟨_, _, found, _, _, _, _, _, _, rfl⟩ := check_eq_ok_iff.mp checked
  exact found

theorem fullName_of_check (checked : check config text = .ok name) : name.fullName = text := by
  obtain ⟨_, _, _, _, _, _, _, _, _, rfl⟩ := check_eq_ok_iff.mp checked
  rfl

def IsNaming : Rejection → Prop
  | .invalidDomainName _ => True
  | .zoneDoesNotExist _ => True
  | .invalidPunycode => True
  | .invalidIdnDomainLabel => True
  | _ => False

theorem checkShape_error (rejected : checkShape config text = .error r) : IsNaming r := by
  unfold checkShape at rejected
  dsimp only at rejected
  repeat' split at rejected
  all_goals cases rejected
  all_goals trivial

theorem checkLabel_error {label : List Char} (rejected : checkLabel label = .error r) :
    IsNaming r := by
  unfold checkLabel at rejected
  repeat' split at rejected
  all_goals cases rejected
  all_goals trivial

theorem readLabel_error {zone : ZonePolicy} {label : List Char}
    (rejected : readLabel zone label = .error r) : IsNaming r := by
  unfold readLabel at rejected
  repeat' split at rejected
  all_goals cases rejected
  all_goals trivial

theorem check_error (rejected : check config text = .error r) : IsNaming r := by
  unfold check at rejected
  rcases bind_eq_error.mp rejected with shape | ⟨_, _, rest⟩
  · exact checkShape_error shape
  · split at rest
    · cases rest; trivial
    · dsimp only at rest
      split at rest
      · cases rest; trivial
      · rcases bind_eq_error.mp rest with label | ⟨_, _, rest⟩
        · exact checkLabel_error label
        · rcases bind_eq_error.mp rest with read | ⟨_, _, made⟩
          · exact readLabel_error read
          · cases made

end DomainName

end DomainRegistry
