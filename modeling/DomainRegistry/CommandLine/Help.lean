import DomainRegistry.CommandLine.Arguments

/-!
The help texts of the command line: what a command is for, how it is called, and its arguments and
options in two columns.
-/

namespace DomainRegistry.CommandLine

def programName : String := "regtool"

def version : String := "0.0.0"

abbrev Entry := String × String

/-- Entries line by line; what they stand for starts in one column. -/
def columns (entries : List Entry) : List String :=
  let width := (entries.map fun e => e.1.length).foldl max 0
  entries.map fun (name, text) =>
    "  " ++ name ++ String.ofList (List.replicate (width - name.length + 2) ' ') ++ text

def listing (title : String) (entries : List Entry) : List String :=
  if entries.isEmpty then [] else ["", title ++ ":"] ++ columns entries

namespace Help

def config : Entry :=
  ("-c, --config <CONFIG>",
    "Configuration file (TOML or JSON), overlaid with `REGISTRY__*` variables"
      ++ " [default: " ++ defaultConfig ++ "]")

def fixtures : Entry :=
  ("-f, --fixtures <FIXTURES>", "Resources to preload into the datastore (JSON)")

def asOf : Entry :=
  ("    --at <AT>", "Evaluate as of this instant instead of the system clock (RFC 3339)")

def registrar : Entry := ("    --registrar <REGISTRAR>", "")

def superuser : Entry := ("    --superuser", "")

def label : Entry := ("    --label <LABEL>", "Also require the mark to cover this label")

def help : Entry := ("-h, --help", "Print help")

def version : Entry := ("-V, --version", "Print version")

def about : HelpTopic → String
  | .tool => "Registry core operations against an in-memory datastore"
  | .verb .check => "Run the admission pipeline for a create command without writing anything"
  | .verb .create => "Admit a create command and persist the domain"
  | .verb .deleteHost => "Request deletion of a host, then run the reference-safe deletion job"
  | .verb .verifySmd => "Verify an encoded signed mark file against the configured trust root"
  | .help => "Print this message or the help of the given subcommand(s)"

def usage : HelpTopic → String
  | .tool => " [OPTIONS] <COMMAND>"
  | .verb .verifySmd => " " ++ Verb.verifySmd.word ++ " [OPTIONS] <PATH>"
  | .verb .deleteHost =>
    " " ++ Verb.deleteHost.word ++ " [OPTIONS] --registrar <REGISTRAR> <HOST>"
  | .verb v => " " ++ v.word ++ " [OPTIONS] --registrar <REGISTRAR> <COMMAND>"
  | .help => " help [COMMAND]..."

def commands : HelpTopic → List Entry
  | .tool => Verb.all.map (fun v => (v.word, about (.verb v))) ++ [("help", about .help)]
  | _ => []

def arguments : HelpTopic → List Entry
  | .tool => []
  | .verb .verifySmd => [("<PATH>", "")]
  | .verb .deleteHost => [("<HOST>", "Fully qualified host name")]
  | .verb _ => [("<COMMAND>", "Create command as JSON")]
  | .help => [("[COMMAND]...", "Print help for the subcommand(s)")]

def options : HelpTopic → List Entry
  | .tool => [config, fixtures, asOf, help, version]
  | .verb .verifySmd => [config, label, fixtures, asOf, help]
  | .verb _ => [config, registrar, fixtures, superuser, asOf, help]
  | .help => []

def lines (topic : HelpTopic) : List String :=
  [about topic, "", "Usage: " ++ programName ++ usage topic]
    ++ listing "Commands" (commands topic)
    ++ listing "Arguments" (arguments topic)
    ++ listing "Options" (options topic)

end Help

end DomainRegistry.CommandLine
