import DomainRegistry.Text.Basic
import DomainRegistry.Time.Rfc3339

/-!
The arguments of the command line. They are read one after another; options that any command has may
also stand before the command, and those after it count more.
-/

namespace DomainRegistry.CommandLine

open Text

inductive Verb where
  | check
  | create
  | deleteHost
  | verifySmd
  deriving DecidableEq

namespace Verb

def all : List Verb := [check, create, deleteHost, verifySmd]

def word : Verb → String
  | check => "check"
  | create => "create"
  | deleteHost => "delete-host"
  | verifySmd => "verify-smd"

def ofWord? (word : String) : Option Verb := all.find? fun v => v.word == word

def takesFile : Verb → Bool
  | deleteHost => false
  | _ => true

end Verb

inductive Valued where
  | config
  | fixtures
  | asOf
  | registrar
  | label
  deriving DecidableEq

inductive Flag where
  | superuser
  | help
  | version
  deriving DecidableEq

inductive OptionKind where
  | valued (o : Valued)
  | flag (f : Flag)
  deriving DecidableEq

structure Globals where
  config : Option String := none
  fixtures : Option String := none
  asOf : Option Instant := none
  deriving DecidableEq

/-- Options given later go before earlier ones. -/
def Globals.over (inner outer : Globals) : Globals :=
  ⟨inner.config <|> outer.config, inner.fixtures <|> outer.fixtures, inner.asOf <|> outer.asOf⟩

structure Draft where
  globals : Globals := {}
  registrar : Option String := none
  label : Option String := none
  superuser : Bool := false
  /-- The file or host that the verb is about. -/
  subject : Option String := none
  deriving DecidableEq

inductive HelpTopic where
  | tool
  | verb (verb : Verb)
  | help
  deriving DecidableEq

inductive Stop where
  | usage
  | help (topic : HelpTopic)
  | version
  deriving DecidableEq

/-- The verb that has been read, if one has, and what stood before it. -/
inductive Place where
  | before
  | after (verb : Verb) (outer : Globals)
  /-- Only the name of a command may follow, and only one. -/
  | helping (topic : HelpTopic)
  deriving DecidableEq

def Place.topic : Place → HelpTopic
  | .before => .tool
  | .after verb _ => .verb verb
  | .helping topic => topic

structure Scan where
  place : Place := .before
  draft : Draft := {}
  /-- An option that waits for its value. -/
  pending : Option Valued := none
  /-- Whether two hyphens have ended the options. -/
  ended : Bool := false
  deriving DecidableEq

def anywhere : List (String × OptionKind) :=
  [("config", .valued .config), ("fixtures", .valued .fixtures), ("at", .valued .asOf),
    ("help", .flag .help)]

def optionsAt : Place → List (String × OptionKind)
  | .before => anywhere ++ [("version", .flag .version)]
  | .after .verifySmd _ => anywhere ++ [("label", .valued .label)]
  | .after _ _ => anywhere ++ [("registrar", .valued .registrar), ("superuser", .flag .superuser)]
  | .helping _ => []

def letters : List (Char × String) :=
  [('c', "config"), ('f', "fixtures"), ('h', "help"), ('V', "version")]

/-- Gives an option its value; none may be given twice at one side of the verb. -/
def Draft.give (d : Draft) (o : Valued) (value : String) : Except Stop Draft :=
  let g := d.globals
  match o with
  | .config =>
    if g.config.isSome || value.isEmpty then .error .usage
    else .ok { d with globals := { g with config := some value } }
  | .fixtures =>
    if g.fixtures.isSome || value.isEmpty then .error .usage
    else .ok { d with globals := { g with fixtures := some value } }
  | .asOf =>
    match g.asOf, Instant.parse? value with
    | none, some t => .ok { d with globals := { g with asOf := some t } }
    | _, _ => .error .usage
  | .registrar =>
    if d.registrar.isSome then .error .usage else .ok { d with registrar := some value }
  | .label => if d.label.isSome then .error .usage else .ok { d with label := some value }

def Draft.raise (d : Draft) (topic : HelpTopic) : Flag → Except Stop Draft
  | .superuser => if d.superuser then .error .usage else .ok { d with superuser := true }
  | .help => .error (.help topic)
  | .version => .error .version

namespace Scan

def option (s : Scan) (o : OptionKind) (attached : Option String) : Except Stop Scan :=
  match o, attached with
  | .valued o, some value => (s.draft.give o value).map fun draft => { s with draft }
  | .valued o, none => .ok { s with pending := some o }
  | .flag f, none => (s.draft.raise s.place.topic f).map fun draft => { s with draft }
  | .flag _, some _ => .error .usage

/-- An option with two hyphens, after which an equals sign may attach a value. -/
def long (s : Scan) (text : List Char) : Except Stop Scan :=
  let (name, attached) := match splitOnce '=' text with
    | some (name, value) => (name, some (String.ofList value))
    | none => (text, none)
  match (optionsAt s.place).lookup (String.ofList name) with
  | some o => s.option o attached
  | none => .error .usage

/-- An option of one letter, to which a value may be attached, also with an equals sign. -/
def short (s : Scan) (letter : Char) (rest : List Char) : Except Stop Scan :=
  match (letters.lookup letter).bind fun name => (optionsAt s.place).lookup name with
  | some (.valued o) =>
    let attached := match rest with
      | [] => none
      | '=' :: value => some (String.ofList value)
      | value => some (String.ofList value)
    s.option (.valued o) attached
  | some (.flag f) => s.option (.flag f) none
  | none => .error .usage

def word (s : Scan) (text : String) : Except Stop Scan :=
  match s.place with
  | .before =>
    if s.ended then .error .usage
    else if text == "help" then .ok { s with place := .helping .tool }
    else match Verb.ofWord? text with
      | some verb => .ok { s with place := .after verb s.draft.globals, draft := {} }
      | none => .error .usage
  | .after verb _ =>
    if s.draft.subject.isSome || (verb.takesFile && text.isEmpty) then .error .usage
    else .ok { s with draft := { s.draft with subject := some text } }
  | .helping .tool =>
    if text == "help" then .ok { s with place := .helping .help }
    else match Verb.ofWord? text with
      | some verb => .ok { s with place := .helping (.verb verb) }
      | none => .error .usage
  | .helping _ => .error .usage

def isOption (text : String) : Bool :=
  match text.toList with
  | '-' :: _ :: _ => true
  | _ => false

def step (s : Scan) (text : String) : Except Stop Scan :=
  match s.pending with
  | some o =>
    if isOption text then .error .usage
    else (s.draft.give o text).map fun draft => { s with draft, pending := none }
  | none =>
    match s.place with
    | .helping _ => s.word text
    | _ =>
      if s.ended then s.word text
      else match text.toList with
        | ['-', '-'] => .ok { s with ended := true }
        | '-' :: '-' :: rest => s.long rest
        | '-' :: letter :: rest => s.short letter rest
        | _ => s.word text

end Scan

inductive Command where
  | check (path registrar : String) (superuser : Bool)
  | create (path registrar : String) (superuser : Bool)
  | deleteHost (host registrar : String) (superuser : Bool)
  | verifySmd (path : String) (label : Option String)
  deriving DecidableEq

structure Invocation where
  config : String
  fixtures : Option String
  asOf : Option Instant
  command : Command
  deriving DecidableEq

def defaultConfig : String := "config/registry.toml"

def commandOf (verb : Verb) (d : Draft) : Option Command :=
  match verb, d.subject, d.registrar with
  | .check, some path, some registrar => some (.check path registrar d.superuser)
  | .create, some path, some registrar => some (.create path registrar d.superuser)
  | .deleteHost, some host, some registrar => some (.deleteHost host registrar d.superuser)
  | .verifySmd, some path, _ => some (.verifySmd path d.label)
  | _, _, _ => none

def Scan.finish (s : Scan) : Except Stop Invocation :=
  match s.pending, s.place with
  | none, .helping topic => .error (.help topic)
  | none, .after verb outer =>
    let g := s.draft.globals.over outer
    match commandOf verb s.draft with
    | some command => .ok ⟨g.config.getD defaultConfig, g.fixtures, g.asOf, command⟩
    | none => .error .usage
  | _, _ => .error .usage

def parse (args : List String) : Except Stop Invocation :=
  (args.foldlM Scan.step {}).bind Scan.finish

end DomainRegistry.CommandLine
