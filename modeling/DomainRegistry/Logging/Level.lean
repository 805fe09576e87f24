import DomainRegistry.Text.Basic

/-!
How much is logged: nothing, or records down to some severity.
-/

namespace DomainRegistry

open Text

inductive LogLevel where
  | off
  | error
  | warn
  | info
  | debug
  | trace
  deriving DecidableEq

namespace LogLevel

def all : List LogLevel := [off, error, warn, info, debug, trace]

def rank : LogLevel → Nat
  | off => 0
  | error => 1
  | warn => 2
  | info => 3
  | debug => 4
  | trace => 5

def word : LogLevel → String
  | off => "OFF"
  | error => "ERROR"
  | warn => "WARN"
  | info => "INFO"
  | debug => "DEBUG"
  | trace => "TRACE"

def covers (limit level : LogLevel) : Bool := level.rank ≤ limit.rank

/-- A rank, or a name in any case; the empty text is the level of errors. -/
def parse? (text : String) : Option LogLevel :=
  match (boundedDecimal? UInt64.size text.toList).bind (all[·]?) with
  | some level => some level
  | none =>
    if text.isEmpty then some error else all.find? fun level => sameIgnoringCase level.word text

end LogLevel

end DomainRegistry
