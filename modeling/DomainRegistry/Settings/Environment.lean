import DomainRegistry.Settings.Overlay

/-!
Settings from environment variables. Two low lines separate the parts of a key, and a part is
written in snake case: `REGISTRY__TMCH__MODE` is `tmch.mode`.
-/

namespace DomainRegistry.Settings

open Text

abbrev Variables := List (String × String)

def variableLead : String := "registry__"

/-- The text with points for pairs of low lines. -/
def pointed : List Char → List Char
  | '_' :: '_' :: rest => '.' :: pointed rest
  | c :: rest => c :: pointed rest
  | [] => []

/-- Whether a word ends between two characters: where letters meet digits. -/
def isBoundary (c d : Char) : Bool :=
  (isLowerAscii c && isDigitAscii d) || (isDigitAscii c && isLowerAscii d)

def pieces : List Char → List (List Char)
  | [] => []
  | c :: rest =>
    match rest, pieces rest with
    | d :: _, piece :: more => if isBoundary c d then [c] :: piece :: more else (c :: piece) :: more
    | _, more => [c] :: more

/-- Words joined by low lines; hyphens, spaces and low lines stand between words. -/
def snakeCase (cs : List Char) : List Char :=
  let marked := cs.map fun c => if c == '-' || c == ' ' then '_' else c
  let words := (splitAll '_' marked).filter fun word => !word.isEmpty
  ['_'].intercalate (words.flatMap pieces)

def variableKey? (name : String) : Option String :=
  (dropLead variableLead.toList (lower name).toList).map fun rest =>
    String.ofList (['.'].intercalate ((splitAll '.' (pointed rest)).map snakeCase))

def ofVariables (environment : Variables) : Entries :=
  environment.filterMap fun (name, text) => (variableKey? name).map fun key => (key, .str text)

end DomainRegistry.Settings
