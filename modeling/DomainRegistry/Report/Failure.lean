import DomainRegistry.Json.Record
import DomainRegistry.Registry

/-!
Failures in JSON: the name of the cause and its message, with what else the cause tells. A file that
cannot be read has no message.
-/

namespace DomainRegistry

open Json

def Json.failure (error message : String) : Json :=
  obj [("error", str error), ("message", str message)]

def Json.extended (more : List (String × Json)) : Json → Json
  | obj entries => obj (entries ++ more)
  | j => j

def Rejection.toJson (r : Rejection) : Json :=
  (failure r.name r.message).extended [("code", ofNat r.code), ("kind", str r.kind.word)]

def ListError.toJson : ListError → Json
  | unreadable => obj [("error", str "Io")]
  | e => failure "Parse" e.message

def PricingError.toJson (e : PricingError) : Json := failure "Pricing" e.message

def TrademarkError.toJson : TrademarkError → Json
  | unreadable => obj [("error", str "Io")]
  | e => (failure e.name e.message).extended [("isEncoding", bool e.isEncoding)]

def ClaimsNoticeId.Fault.toJson : ClaimsNoticeId.Fault → Json
  | e@(malformed _) => failure "Malformed" e.message
  | e@(checksum _) => failure "Checksum" e.message

def BootstrapError.toJson : BootstrapError → Json
  | labels .unreadable => obj [("error", str "Labels")]
  | trademark .unreadable => obj [("error", str "Tmch")]
  | e@(labels _) => failure "Labels" e.message
  | e@(trademark _) => failure "Tmch" e.message

end DomainRegistry
