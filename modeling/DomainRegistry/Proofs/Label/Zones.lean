import DomainRegistry.Proofs.Label.DomainNames
import DomainRegistry.Proofs.Text.Splits

/-!
The zone of a name. Main statement: where policies stand under their own names, a name has a zone
with one label above it exactly if the text after the first dot is a configured zone.
-/

namespace DomainRegistry

namespace Config

/-- Policies are filed under their names, or have none. -/
def NamesAgree (config : Config) : Prop :=
  ∀ key policy, config.zones.get? key = some policy → policy.name = "" ∨ policy.name = key

variable {config : Config} {key : String} {policy : ZonePolicy}

theorem NamesAgree.name (agree : config.NamesAgree) (found : config.zone? key = some policy) :
    policy.name = key := by
  obtain ⟨filed, stored, rfl⟩ := Option.map_eq_some_iff.mp found
  unfold ZonePolicy.named
  rcases agree key filed stored with unnamed | same
  · rw [if_pos unnamed]
  · split
    · rfl
    · exact same

end Config

namespace DomainName

open Text

variable {config : Config} {cs label rest : List Char} {policy : ZonePolicy} {text : String}

theorem zoneAbove?_of_zone (single : '.' ∉ label)
    (found : config.zone? (String.ofList rest) = some policy) :
    zoneAbove? config (label ++ '.' :: rest) = some policy := by
  induction label with
  | nil =>
    rw [List.nil_append, zoneAbove?, if_pos rfl, found]
  | cons c label ih =>
    rw [List.mem_cons, not_or] at single
    rw [List.cons_append, zoneAbove?, if_neg (Ne.symm single.1)]
    exact ih single.2

theorem exists_of_zoneAbove? (found : zoneAbove? config cs = some policy) :
    ∃ front rest, cs = front ++ '.' :: rest
      ∧ config.zone? (String.ofList rest) = some policy := by
  induction cs with
  | nil => cases found
  | cons c cs ih =>
    have later (onwards : zoneAbove? config cs = some policy) :
        ∃ front rest, c :: cs = front ++ '.' :: rest
          ∧ config.zone? (String.ofList rest) = some policy := by
      obtain ⟨front, rest, whole, configured⟩ := ih onwards
      exact ⟨c :: front, rest, by rw [whole, List.cons_append], configured⟩
    rw [zoneAbove?] at found
    split at found
    · next dot =>
      split at found
      · next zone here =>
        cases found
        exact ⟨[], cs, by rw [dot, List.nil_append], here⟩
      · exact later found
    · exact later found

theorem labelIn_append {zone : String} (whole : text.toList = label ++ '.' :: zone.toList) :
    labelIn zone text = label := by
  have outer : dropTail zone.toList text.toList = some (label ++ ['.']) := by
    rw [dropTail_eq_some_iff, whole, List.append_assoc]
    rfl
  have inner : dropTail ['.'] (label ++ ['.']) = some label := dropTail_eq_some_iff.mpr rfl
  rw [labelIn, outer, Option.bind_some, inner, Option.getD_some]

theorem whole_of_labelIn {zone : String} (filled : (labelIn zone text).isEmpty = false) :
    text.toList = labelIn zone text ++ '.' :: zone.toList := by
  cases outer : dropTail zone.toList text.toList with
  | none =>
    rw [labelIn, outer] at filled
    cases filled
  | some front =>
    cases inner : dropTail ['.'] front with
    | none =>
      rw [labelIn, outer, Option.bind_some, inner] at filled
      cases filled
    | some label =>
      have one := dropTail_eq_some_iff.mp outer
      have two := dropTail_eq_some_iff.mp inner
      rw [labelIn, outer, Option.bind_some, inner, Option.getD_some, one, two, List.append_assoc]
      rfl

structure Splits (config : Config) (text : String) (label zone : String) (policy : ZonePolicy) :
    Prop where
  configured : config.zone? zone = some policy
  whole : text = label ++ "." ++ zone
  single : '.' ∉ label.toList

theorem Splits.toList {label zone : String} (splits : Splits config text label zone policy) :
    text.toList = label.toList ++ '.' :: zone.toList := by
  rw [splits.whole, String.toList_append, String.toList_append, List.append_assoc]
  rfl

theorem zone_iff_splits (agree : config.NamesAgree) {label : String} (filled : label ≠ "") :
    (findZone? config text = some policy ∧ labelIn policy.name text = label.toList
        ∧ '.' ∉ label.toList)
      ↔ ∃ zone, Splits config text label zone policy := by
  constructor
  · intro found
    obtain ⟨above, read, single⟩ := found
    obtain ⟨front, rest, _, configured⟩ := exists_of_zoneAbove? above
    have name := agree.name configured
    have nonempty : (labelIn policy.name text).isEmpty = false := by
      rw [read, List.isEmpty_eq_false_iff]
      intro empty
      exact filled (String.toList_eq_nil_iff.mp empty)
    have whole := whole_of_labelIn nonempty
    rw [read] at whole
    refine ⟨String.ofList rest, configured, ?_, single⟩
    rw [← String.toList_inj, whole, String.toList_append, String.toList_append, List.append_assoc,
      name]
    rfl
  · intro found
    obtain ⟨zone, splits⟩ := found
    have name := agree.name splits.configured
    refine ⟨?_, ?_, splits.single⟩
    · rw [findZone?, splits.toList]
      refine zoneAbove?_of_zone splits.single ?_
      rw [String.ofList_toList]
      exact splits.configured
    · rw [name]
      exact labelIn_append splits.toList

end DomainName

end DomainRegistry
