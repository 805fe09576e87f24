import DomainRegistry.Rejection

/-!
The steps of an admission, and computations that report each step they take. A step that rejects
ends the computation and is the last that is reported.
-/

namespace DomainRegistry

inductive AdmissionStep where
  | existence
  | domainName
  | registrarAccess
  | zoneState
  | period
  | linkedResources
  | contacts
  | nameservers
  | launchEvidence
  | dnssec
  | gating
  | fee
  deriving DecidableEq

namespace AdmissionStep

def all : List AdmissionStep :=
  [existence, domainName, registrarAccess, zoneState, period, linkedResources, contacts,
    nameservers, launchEvidence, dnssec, gating, fee]

def word : AdmissionStep → String
  | existence => "existence"
  | domainName => "domain_name"
  | registrarAccess => "registrar_access"
  | zoneState => "tld_state"
  | period => "period"
  | linkedResources => "linked_resources"
  | contacts => "contacts"
  | nameservers => "nameservers"
  | launchEvidence => "launch_evidence"
  | dnssec => "dnssec"
  | gating => "gating"
  | fee => "fee"

end AdmissionStep

inductive StepOutcome where
  | passed
  /-- Not asked of a superuser. -/
  | bypassed
  | rejected (r : Rejection)
  deriving DecidableEq

structure StepReport where
  step : AdmissionStep
  outcome : StepOutcome
  deriving DecidableEq

def StepReport.render (r : StepReport) : String :=
  r.step.word ++ ": " ++ match r.outcome with
    | .passed => "passed"
    | .bypassed => "bypassed"
    | .rejected e => "rejected " ++ e.name

structure Traced (α : Type) where
  result : Except Rejection α
  reports : List StepReport

namespace Traced

variable {α β : Type}

protected def pure (a : α) : Traced α := ⟨.ok a, []⟩

protected def bind (x : Traced α) (f : α → Traced β) : Traced β :=
  match x.result with
  | .ok a => ⟨(f a).result, x.reports ++ (f a).reports⟩
  | .error r => ⟨.error r, x.reports⟩

instance : Monad Traced where
  pure := Traced.pure
  bind := Traced.bind

def step (s : AdmissionStep) (answer : Except Rejection α) : Traced α :=
  match answer with
  | .ok a => ⟨.ok a, [⟨s, .passed⟩]⟩
  | .error r => ⟨.error r, [⟨s, .rejected r⟩]⟩

/-- A step that is not asked of superusers. -/
def stepUnless (superuser : Bool) (s : AdmissionStep) (answer : Except Rejection Unit) :
    Traced Unit :=
  if superuser then ⟨.ok (), [⟨s, .bypassed⟩]⟩ else step s answer

end Traced

end DomainRegistry
