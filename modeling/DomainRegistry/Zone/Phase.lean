/-!
The states a zone goes through and the launch phases a command may name.
-/

namespace DomainRegistry

inductive LaunchPhase where
  | sunrise
  | sunrush
  | landrush
  | claims
  | open
  deriving DecidableEq

def LaunchPhase.word : LaunchPhase → String
  | sunrise => "sunrise"
  | sunrush => "sunrush"
  | landrush => "landrush"
  | claims => "claims"
  | «open» => "open"

def LaunchPhase.words : List (String × LaunchPhase) :=
  [sunrise, sunrush, landrush, claims, .open].map fun p => (p.word, p)

inductive ZoneState where
  | predelegation
  | sunrise
  | sunrush
  | landrush
  | quietPeriod
  | generalAvailability
  deriving DecidableEq, Inhabited

namespace ZoneState

def word : ZoneState → String
  | predelegation => "PREDELEGATION"
  | sunrise => "SUNRISE"
  | sunrush => "SUNRUSH"
  | landrush => "LANDRUSH"
  | quietPeriod => "QUIET_PERIOD"
  | generalAvailability => "GENERAL_AVAILABILITY"

def words : List (String × ZoneState) :=
  [predelegation, sunrise, sunrush, landrush, quietPeriod, generalAvailability].map
    fun s => (s.word, s)

def acceptedPhases : ZoneState → List LaunchPhase
  | predelegation => []
  | sunrise => [.sunrise]
  | sunrush => [.sunrush]
  | landrush => [.landrush]
  | quietPeriod => []
  | generalAvailability => [.claims, .open]

def acceptsSignedMarks : ZoneState → Bool
  | sunrise => true
  | sunrush => true
  | _ => false

end ZoneState

end DomainRegistry
