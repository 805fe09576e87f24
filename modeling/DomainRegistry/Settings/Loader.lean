import DomainRegistry.Config
import DomainRegistry.Files.Tree
import DomainRegistry.Ini.Document
import DomainRegistry.Json.Parser
import DomainRegistry.Json5.Document
import DomainRegistry.Ron.Document
import DomainRegistry.Settings.Environment
import DomainRegistry.Toml.Document
import DomainRegistry.Yaml.Document

/-!
The configuration of a registry from a file and from environment variables, which go before the
file. The ending of its name tells the format of the file.
-/

namespace DomainRegistry.Settings

open Text

inductive Format where
  | toml
  | json
  | yaml
  | ini
  | ron
  | json5
  deriving DecidableEq

namespace Format

def endings : List (String × Format) :=
  [("toml", toml), ("json", json), ("yaml", yaml), ("yml", yaml), ("ini", ini), ("ron", ron),
    ("json5", json5)]

def parse? : Format → String → Option Json
  | toml => Toml.parse?
  | json => Json.parseWhole?
  | yaml => Yaml.parse?
  | ini => Ini.parse?
  | ron => Ron.parse?
  | json5 => Json5.parse?

def ofPath? (path : String) : Option Format :=
  let name := (Path.parts path).getLastD []
  let ending := name.reverse.takeWhile (· != '.') |>.reverse
  if ending.length + 1 < name.length then endings.lookup (String.ofList ending) else none

end Format

/-- The paths of a path with each of the endings, if it ends in a name. -/
def withEndings (path : String) : List String :=
  let parts := Path.withoutEnd (Path.parts path)
  match parts.getLast? with
  | none => []
  | some last =>
    if last = Path.up || last = Path.top then []
    else Format.endings.map fun (ending, _) => Path.render parts ++ "." ++ ending

def candidates (path : String) : List String := path :: withEndings path

def dropByteOrderMark (text : String) : String :=
  match text.toList with
  | '\ufeff' :: rest => String.ofList rest
  | _ => text

def findFile? (read : String → Except FileFault String) (path : String) :
    Option (Option Format × String) :=
  (candidates path).findSome? fun candidate =>
    match read candidate with
    | .ok text => some (Format.ofPath? candidate, dropByteOrderMark text)
    | .error _ => none

def fileEntries? (read : String → Except FileFault String) (path : String) : Option Entries :=
  match findFile? read path with
  | some (some format, text) =>
    match (format.parse? text).map lastOfEach with
    | some (.obj entries) => some entries
    | _ => none
  | _ => none

def load? (read : String → Except FileFault String) (environment : Variables) (path : String) :
    Option Config :=
  (fileEntries? read path).bind fun entries =>
    Config.ofJson? (overlay (overlay (.obj []) entries) (ofVariables environment))

end DomainRegistry.Settings
