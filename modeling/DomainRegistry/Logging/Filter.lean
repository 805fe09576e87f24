import DomainRegistry.Logging.FieldPattern
import DomainRegistry.Logging.File

/-!
Filters of log records: directives that give levels to targets. Of the directives that a record
answers to, the most specific one decides; a filter without directives has one level for all.
-/

namespace DomainRegistry

open Text

structure FieldMatch where
  name : List Char
  hasValue : Bool
  deriving DecidableEq

structure LogDirective where
  /-- How the target of a record has to start. -/
  target : Option (List Char) := none
  /-- The span that a record has to be in. -/
  span : Option (List Char) := none
  fields : List FieldMatch := []
  level : LogLevel := .trace
  deriving DecidableEq

namespace LogDirective

/-- Where the reading of a directive stands, with the place where the current part began. -/
inductive Place where
  | start
  | name (since : Nat)
  | span (since : Nat)
  | field (since : Nat)
  | fieldsEnd
  | spanEnd
  | level (since : Nat)

/-- Characters with their places, counted in UTF-8 bytes. -/
def placed : Nat → List Char → List (Nat × Char)
  | _, [] => []
  | n, c :: cs => (n, c) :: placed (n + c.utf8Size) cs

def between (text : List Char) (since till : Nat) : List Char :=
  ((placed 0 text).filter fun p => since ≤ p.1 && p.1 < till).map Prod.snd

def onwards (text : List Char) (since : Nat) : List Char :=
  ((placed 0 text).filter fun p => since ≤ p.1).map Prod.snd

def startsName (c : Char) : Bool :=
  isAlphanumeric c || c == '-' || c == ':' || c == '_'

/-- A field with the value it is to have, which ends before a second equals sign. -/
def fieldMatch? (text : List Char) : Option FieldMatch :=
  match splitAll '=' text with
  | name :: value :: _ => if FieldPattern.isValue value then some ⟨name, true⟩ else none
  | _ => some ⟨text, false⟩

def step (text : List Char) : LogDirective × Place → Nat × Char → Option (LogDirective × Place)
  | (d, .start), (n, c) =>
    if c = '[' then some (d, .span (n + 1))
    else if startsName c then some (d, .name n)
    else none
  | (d, .name since), (n, c) =>
    if c = '=' then some ({ d with target := some (between text since n) }, .level (n + 1))
    else if c = '[' then some ({ d with target := some (between text since n) }, .span (n + 1))
    else some (d, .name since)
  | (d, .span since), (n, c) =>
    let name := between text since n
    if c = ']' then some ({ d with span := some name }, .spanEnd)
    else if c = '\x7b' then
      some ({ d with span := some name |>.filter fun s => !s.isEmpty }, .field (n + 1))
    else some (d, .span since)
  | (d, .field since), (n, c) =>
    let name := between text since n
    if c ≠ '\x7d' then some (d, .field since)
    else if name.isEmpty then none
    else (fieldMatch? name).map fun f => ({ d with fields := d.fields ++ [f] }, .fieldsEnd)
  | (d, .fieldsEnd), (_, c) => if c = ']' then some (d, .spanEnd) else none
  | (d, .spanEnd), (n, c) => if c = '=' then some (d, .level (n + 1)) else none
  | (d, .level since), _ => some (d, .level since)

/-- A name alone is a level if it can be one, and otherwise a target with all its records. -/
def finish (text : List Char) : LogDirective × Place → Option LogDirective
  | (d, .name since) =>
    let name := onwards text since
    match LogLevel.parse? (String.ofList name) with
    | some level => some { d with level }
    | none => some { d with target := some name }
  | (d, .level since) =>
    let name := onwards text since
    if name.isEmpty then some d
    else (LogLevel.parse? (String.ofList name)).map fun level => { d with level }
  | (d, .spanEnd) => some d
  | _ => none

/--
Reads a directive such as `target=level`, `target[span]=level` or a target or level alone. Places
are counted from the first character that is no blank, also in a text that starts with blanks.
-/
def parse? (text : List Char) : Option LogDirective :=
  ((placed 0 (trim text)).foldlM (step text) ({}, .start)).bind (finish text)

/-- Whether a directive can be decided for a record by itself. -/
def isStatic (d : LogDirective) : Bool := d.span.isNone && d.fields.all fun f => !f.hasValue

/-- Records have a message and no other fields. -/
def answers (d : LogDirective) (r : LogRecord) : Bool :=
  d.isStatic && d.fields.all (fun f => f.name == "message".toList)
    && (d.target.all fun t => (dropLead t r.target.toList).isSome)

/-- The length of a target, which no target falls short of, and the number of fields. -/
def specificity (d : LogDirective) : Nat × Nat :=
  ((d.target.map fun t => (String.ofList t).utf8ByteSize + 1).getD 0, d.fields.length)

def isAtLeast (d e : LogDirective) : Bool :=
  match compare d.specificity.1 e.specificity.1 with
  | .lt => false
  | .gt => true
  | .eq => e.specificity.2 ≤ d.specificity.2

end LogDirective

structure LogFilter where
  directives : List LogDirective
  deriving DecidableEq

namespace LogFilter

def texts (text : String) : List (List Char) :=
  (splitAll ',' text.toList).filter fun part => !part.isEmpty

/-- A filter that logs by level alone unless there are directives. -/
def ofDirectives (level : LogLevel) (ds : List LogDirective) : LogFilter :=
  ⟨if ds.isEmpty then [{ level }] else ds⟩

/-- Directives between commas. -/
def parse? (level : LogLevel) (text : String) : Option LogFilter :=
  ((texts text).mapM LogDirective.parse?).map (ofDirectives level)

/-- The same, but directives that cannot be read are left out. -/
def parseLossy (level : LogLevel) (text : String) : LogFilter :=
  ofDirectives level ((texts text).filterMap LogDirective.parse?)

/-- The most specific directive that a record answers to; of equals, the last. -/
def decisive? (f : LogFilter) (r : LogRecord) : Option LogDirective :=
  (f.directives.filter fun d => d.answers r).foldl
    (fun best d =>
      match best with
      | none => some d
      | some b => if d.isAtLeast b then some d else some b)
    none

def enables (f : LogFilter) (r : LogRecord) : Bool :=
  (f.decisive? r).any fun d => d.level.covers r.level

end LogFilter

end DomainRegistry
