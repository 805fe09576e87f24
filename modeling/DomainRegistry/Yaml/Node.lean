import DomainRegistry.Json.Basic
import DomainRegistry.Number.Floating
import DomainRegistry.Yaml.Property

/-!
The values of YAML documents: what plain scalars stand for, and the JSON that a value is.
-/

namespace DomainRegistry.Yaml

open Text

inductive Node where
  /-- A scalar that is not what its tag says, or the value of an anchor inside itself. -/
  | bad
  | null
  | bool (value : Bool)
  | int (value : Int)
  | real (text : List Char)
  | str (text : List Char)
  | seq (items : List Node)
  | map (entries : List (Node × Node))

def radixInt? (radix : Nat) (isDigit : Char → Bool) (cs : List Char) : Option Int :=
  let (negative, digits) := match cs with
    | '-' :: rest => (true, rest)
    | '+' :: rest => (false, rest)
    | rest => (false, rest)
  if digits.isEmpty || !digits.all isDigit then none
  else
    let n : Int := digits.foldl (fun n c => radix * n + (hexDigitValue? c).getD 0) 0
    let n := if negative then -n else n
    if Int64.minValue.toInt ≤ n ∧ n ≤ Int64.maxValue.toInt then some n else none

def decimalInt? (cs : List Char) : Option Int := radixInt? 10 isDigitAscii cs

def markedInt? : List Char → Option Int
  | '0' :: 'x' :: rest => radixInt? 16 isHexDigit rest
  | '0' :: 'o' :: rest => radixInt? 8 (fun c => '0' ≤ c && c ≤ '7') rest
  | '+' :: rest => decimalInt? rest
  | _ => none

def specialReals : List String :=
  [".inf", ".Inf", ".INF", "+.inf", "+.Inf", "+.INF", "-.inf", "-.Inf", "-.INF", ".nan", ".NaN",
    ".NAN"]

def isReal (cs : List Char) : Bool :=
  specialReals.contains (String.ofList cs) || (cs.any isDigitAscii && Floating.isNumber cs)

namespace Node

def ofPlain (cs : List Char) : Node :=
  match markedInt? cs with
  | some n => int n
  | none =>
    if cs.isEmpty || cs = ['~'] || cs = "null".toList then null
    else if cs = "true".toList then bool true
    else if cs = "false".toList then bool false
    else
      match decimalInt? cs with
      | some n => int n
      | none => if isReal cs then real cs else str cs

def coreHandle : String := "tag:yaml.org,2002:"

/-- What a plain scalar with a tag stands for; of tags only a few say more than that it is text. -/
def ofTagged (t : Tag) (cs : List Char) : Node :=
  if String.ofList t.handle ≠ coreHandle then str cs
  else
    match String.ofList t.suffix with
    | "bool" =>
      if cs = "true".toList then bool true else if cs = "false".toList then bool false else bad
    | "int" => match decimalInt? cs with
      | some n => int n
      | none => bad
    | "float" => if isReal cs then real cs else bad
    | "null" => if cs = ['~'] || cs = "null".toList then null else bad
    | _ => str cs

def ofScalar (plain : Bool) (tag : Option Tag) (cs : List Char) : Node :=
  if !plain then str cs
  else
    match tag with
    | some t => ofTagged t cs
    | none => ofPlain cs

def isSame : Node → Node → Bool
  | null, null => true
  | bool a, bool b => a == b
  | int a, int b => a == b
  | real a, real b => a == b
  | str a, str b => a == b
  | _, _ => false

def name? : Node → Option String
  | str text => some (String.ofList text)
  | int n => some (toString n)
  | bool b => some (if b then "true" else "false")
  | real text => some (String.ofList text)
  | _ => none

mutual

/-- The JSON of a value; keys have to be scalars, and numbers finite. -/
def toJson? : Node → Option Json
  | bad => some .null
  | null => some .null
  | bool b => some (.bool b)
  | int n => some (.int n)
  | real text => if specialReals.contains (String.ofList text) then none else some .fraction
  | str text => some (.str (String.ofList text))
  | seq items => (itemsToJson? items).map .arr
  | map entries => (entriesToJson? entries).map .obj

def itemsToJson? : List Node → Option (List Json)
  | [] => some []
  | item :: items => do return (← item.toJson?) :: (← itemsToJson? items)

def entriesToJson? : List (Node × Node) → Option (List (String × Json))
  | [] => some []
  | (key, value) :: entries => do
    return (← key.name?, ← value.toJson?) :: (← entriesToJson? entries)

end

end Node

end DomainRegistry.Yaml
