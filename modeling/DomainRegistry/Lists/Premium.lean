import DomainRegistry.Lists.Source
import DomainRegistry.Zone.Policy

/-!
Premium lists, and what it costs to register a label for some years.
-/

namespace DomainRegistry

open Text ListSource

structure PremiumList where
  name : String
  prices : SortedMap String Money
  deriving DecidableEq

namespace PremiumList

def get? (l : PremiumList) (label : String) : Option Money := l.prices.get? label

def lineEntry (body : List Char) : Except String (String × Money) :=
  match splitOnce ',' body with
  | none => .error "expected 'label,CUR amount'"
  | some (label, price) =>
    let price := String.ofList (trim price)
    match Money.parse? price with
    | none => .error (Money.parseFailure price)
    | some price => .ok (lower (String.ofList (trim label)), price)

structure Reading where
  prices : SortedMap String Money := .empty
  currency : Option String := none

def Reading.add (r : Reading) (label : String) (price : Money) : Except String Reading :=
  let currency := r.currency.getD price.currency
  if currency ≠ price.currency then
    .error ("currency " ++ price.currency ++ " differs from " ++ currency)
  else if r.prices.contains label then .error ("duplicate label '" ++ label ++ "'")
  else .ok ⟨r.prices.insert label price, some currency⟩

def addLine (name : String) (r : Reading) (line : Nat × List Char) : Except ListError Reading :=
  let body := (splitComment line.2).1
  if body.isEmpty then .ok r
  else
    match (lineEntry body).bind fun (label, price) => r.add label price with
    | .error message => .error (.malformed name line.1 message)
    | .ok r => .ok r

def parse (name text : String) : Except ListError PremiumList := do
  let r ← (numberedLines text.toList).foldlM (addLine name) {}
  return ⟨name, r.prices⟩

end PremiumList

structure CreateCost where
  amount : Money
  premium : Bool
  deriving DecidableEq

inductive PricingError where
  | otherCurrency (zone : String) (unit : Money) (currency : String)
  | overflow (zone : String) (unit : Money) (years : UInt32)
  deriving DecidableEq

def PricingError.message : PricingError → String
  | otherCurrency zone unit currency =>
    "Pricing error (" ++ zone ++ "): premium price " ++ unit.render ++ " is not in " ++ currency
  | overflow zone unit years =>
    "Pricing error (" ++ zone ++ "): " ++ unit.render ++ " x " ++ toString years.toNat
      ++ " overflows"

structure Pricing where
  lists : SortedMap String PremiumList := .empty
  deriving DecidableEq

namespace Pricing

/-- Of lists with one name, the last counts. -/
def ofLists (lists : List PremiumList) : Pricing := ⟨.ofList (lists.map fun l => (l.name, l))⟩

def premiumPrice? (p : Pricing) (label : String) (zone : ZonePolicy) : Option Money := do
  let list ← p.lists.get? (← zone.premiumList)
  list.get? label

def isPremium (p : Pricing) (label : String) (zone : ZonePolicy) : Bool :=
  (p.premiumPrice? label zone).isSome

def unitPrice (p : Pricing) (label : String) (zone : ZonePolicy) : Money :=
  (p.premiumPrice? label zone).getD zone.createCost

def createCost (p : Pricing) (label : String) (zone : ZonePolicy) (years : UInt32) :
    Except PricingError CreateCost :=
  let unit := p.unitPrice label zone
  if unit.currency ≠ zone.currency then .error (.otherCurrency zone.name unit zone.currency)
  else
    match unit.times years with
    | none => .error (.overflow zone.name unit years)
    | some amount => .ok ⟨amount, p.isPremium label zone⟩

end Pricing

end DomainRegistry
