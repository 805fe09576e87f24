import DomainRegistry.Lists.Reserved
import DomainRegistry.Zone.Policy

/-!
The reservation of a label in a zone: of all lists bound to the zone, the most severe type counts.
-/

namespace DomainRegistry

structure Listing where
  list : String
  type : Reservation
  deriving DecidableEq

structure ListCheck where
  zone : String
  count : Nat
  list : Option String
  type : Reservation
  deriving DecidableEq

structure ReservationPolicy where
  lists : SortedMap String ReservedList := .empty
  deriving DecidableEq

namespace ReservationPolicy

/-- Of lists with one name, the last counts. -/
def ofLists (lists : List ReservedList) : ReservationPolicy :=
  ⟨.ofList (lists.map fun l => (l.name, l))⟩

/-- The entries for a label on the lists bound to a zone, in the order of the bindings. -/
def entries (p : ReservationPolicy) (label : String) (zone : ZonePolicy) :
    List (ReservedList × ReservedEntry) :=
  (zone.reservedLists.filterMap p.lists.get?).filterMap fun l =>
    (l.get? label).map fun e => (l, e)

def listings (p : ReservationPolicy) (label : String) (zone : ZonePolicy) : List Listing :=
  (p.entries label zone).map fun (l, e) => ⟨l.name, e.type⟩

/-- The last listing whose type no other exceeds. -/
def lastMostSevere (listings : List Listing) : Option Listing :=
  listings.foldl
    (fun best l =>
      match best with
      | none => some l
      | some b => if b.type ≤ l.type then some l else some b)
    none

def check (p : ReservationPolicy) (label : String) (zone : ZonePolicy) : ListCheck :=
  let listings := p.listings label zone
  let most := lastMostSevere listings
  ⟨zone.name, listings.length, most.map Listing.list, (most.map Listing.type).getD .unreserved⟩

/-- The effective type of a label: the most severe over all bound lists. -/
def typeOf (p : ReservationPolicy) (label : String) (zone : ZonePolicy) : Reservation :=
  .mostSevere ((p.listings label zone).map Listing.type)

/-- Whether a code, if not empty, is that of an anchor tenant entry for the label. -/
def unlocks (p : ReservationPolicy) (label : String) (zone : ZonePolicy) (authCode : String) : Bool :=
  authCode != "" && (p.entries label zone).any fun (_, e) =>
    e.type == .anchorTenant && e.authCode == some authCode

end ReservationPolicy

end DomainRegistry
