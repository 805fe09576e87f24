import DomainRegistry.Config
import DomainRegistry.Label.IdnTable
import DomainRegistry.Label.Punycode
import DomainRegistry.Rejection

/-!
Names that can be registered: one label below a configured zone. Checking a name finds its zone,
and the Unicode form of its label with the table that accepts it.
-/

namespace DomainRegistry

open Text

structure DomainName where
  fullName : String
  label : String
  /-- The label that an `xn--` label stands for; otherwise the label itself. -/
  unicodeLabel : String
  zone : ZonePolicy
  /-- The table that accepts the Unicode label, unless the label is plain. -/
  table : Option String
  deriving DecidableEq

namespace DomainName

def maxLabelLength : Nat := 63

def mark : List Char := ['x', 'n', '-', '-']

/-- The nearest configured zone above a name, found by dropping labels from the left. -/
def zoneAbove? (config : Config) : List Char → Option ZonePolicy
  | [] => none
  | c :: rest =>
    if c = '.' then
      match config.zone? (String.ofList rest) with
      | some zone => some zone
      | none => zoneAbove? config rest
    else zoneAbove? config rest

def findZone? (config : Config) (name : String) : Option ZonePolicy :=
  zoneAbove? config name.toList

def isNameChar (c : Char) : Bool := isLowerAscii c || isDigitAscii c || c == '-' || c == '.'

def severalParts : Rejection :=
  .invalidDomainName "Domain name must have exactly one part above the TLD"

def checkShape (config : Config) (name : String) : Except Rejection Unit :=
  let cs := name.toList
  if cs.isEmpty then .error (.invalidDomainName "Domain name cannot be empty")
  else if cs.any isUpperAscii then
    .error (.invalidDomainName "Domain name must be in lower case")
  else if !cs.all isNameChar then
    .error (.invalidDomainName "Domain name contains invalid characters")
  else if (splitAll '.' cs).any List.isEmpty then
    .error (.invalidDomainName "No part of a domain name can be empty")
  else if (splitAll '.' cs).length < 2 then .error severalParts
  else if (config.zone? name).isSome then .error severalParts
  else .ok ()

def parent (name : String) : String :=
  match splitOnce '.' name.toList with
  | some (_, rest) => String.ofList rest
  | none => name

/-- What stands before a zone's name and the dot; nothing if the name does not end so. -/
def labelIn (zone : String) (name : String) : List Char :=
  ((dropTail zone.toList name.toList).bind (dropTail ['.'])).getD []

def checkLabel (label : List Char) : Except Rejection Unit :=
  if maxLabelLength < label.length then
    .error (.invalidDomainName "Domain labels cannot be longer than 63 characters")
  else if label.head? = some '-' then
    .error (.invalidDomainName "Domain labels cannot begin with a dash")
  else if label.getLast? = some '-' then
    .error (.invalidDomainName "Domain labels cannot end with a dash")
  else if (label.drop 2).take 2 = ['-', '-'] ∧ (dropLead mark label).isNone then
    .error (.invalidDomainName
      "Non-IDN domain names cannot contain dashes in the third or fourth position")
  else .ok ()

/-- The label that a Punycode text stands for, if it is not ASCII and has just this text. -/
def unicodeOf? (encoded : String) : Option String :=
  (Punycode.decode? encoded).filter fun u =>
    !u.toList.all isAscii && Punycode.encode? u == some encoded

def readLabel (zone : ZonePolicy) (label : List Char) : Except Rejection (String × Option String) :=
  match dropLead mark label with
  | none => .ok (String.ofList label, none)
  | some encoded =>
    match unicodeOf? (String.ofList encoded) with
    | none => .error .invalidPunycode
    | some unicode =>
      match IdnTable.find? unicode zone.idnTables with
      | none => .error .invalidIdnDomainLabel
      | some table => .ok (unicode, some table.name)

/-- A name that can be registered in a configured zone, or the first reason why it cannot. -/
def check (config : Config) (name : String) : Except Rejection DomainName := do
  checkShape config name
  match findZone? config name with
  | none => .error (.zoneDoesNotExist (parent name))
  | some zone => do
    let label := labelIn zone.name name
    if label.isEmpty || label.contains '.' then .error severalParts
    else do
      checkLabel label
      let (unicodeLabel, table) ← readLabel zone label
      return ⟨name, String.ofList label, unicodeLabel, zone, table⟩

end DomainName

end DomainRegistry
