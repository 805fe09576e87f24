import DomainRegistry.Text.Basic

/-!
Why a label is kept back, on a scale of severity.
-/

namespace DomainRegistry

open Text

inductive Reservation where
  | unreserved
  | nameserverRestricted
  | allowedInSunrise
  | mistakenPremium
  | anchorTenant
  | nameCollision
  | fullyBlocked
  deriving DecidableEq, Inhabited

namespace Reservation

def all : List Reservation :=
  [unreserved, nameserverRestricted, allowedInSunrise, mistakenPremium, anchorTenant,
    nameCollision, fullyBlocked]

def severity : Reservation → Nat
  | unreserved => 0
  | nameserverRestricted => 1
  | allowedInSunrise => 2
  | mistakenPremium => 3
  | anchorTenant => 4
  | nameCollision => 5
  | fullyBlocked => 6

instance : Ord Reservation := ⟨compareOn severity⟩

instance : LT Reservation := ⟨fun a b => a.severity < b.severity⟩

instance : LE Reservation := ⟨fun a b => a.severity ≤ b.severity⟩

instance (a b : Reservation) : Decidable (a < b) :=
  inferInstanceAs (Decidable (a.severity < b.severity))

instance (a b : Reservation) : Decidable (a ≤ b) :=
  inferInstanceAs (Decidable (a.severity ≤ b.severity))

/-- The reason given to a registrar; none if the label is free. -/
def reason : Reservation → Option String
  | unreserved => none
  | nameserverRestricted => some "Nameserver restricted"
  | allowedInSunrise => some "Reserved for non-sunrise"
  | mistakenPremium => some "Reserved"
  | anchorTenant => some "Reserved"
  | nameCollision => some "Cannot be delegated"
  | fullyBlocked => some "Reserved"

def max (a b : Reservation) : Reservation := if a.severity ≤ b.severity then b else a

/-- The most severe of several, `unreserved` if there are none. -/
def mostSevere (types : List Reservation) : Reservation := types.foldl max unreserved

def render : Reservation → String
  | unreserved => "UNRESERVED"
  | nameserverRestricted => "NAMESERVER_RESTRICTED"
  | allowedInSunrise => "ALLOWED_IN_SUNRISE"
  | mistakenPremium => "MISTAKEN_PREMIUM"
  | anchorTenant => "RESERVED_FOR_ANCHOR_TENANT"
  | nameCollision => "NAME_COLLISION"
  | fullyBlocked => "FULLY_BLOCKED"

def words : List (String × Reservation) := all.map fun r => (r.render, r)

def parse? (s : String) : Option Reservation :=
  let word := String.ofList (trim s.toList)
  all.find? fun r => sameIgnoringCase r.render word

def parseFailure (s : String) : String := "unknown reservation type '" ++ s ++ "'"

end Reservation

end DomainRegistry
