import DomainRegistry.ResultCode
import DomainRegistry.Text.Basic

/-!
Why a command is rejected: one constructor for each cause, with its category and its message.
-/

namespace DomainRegistry

inductive LinkKind where
  | contacts
  | hosts
  deriving DecidableEq

def LinkKind.word : LinkKind → String
  | contacts => "contacts"
  | hosts => "hosts"

inductive Rejection where
  | resourceAlreadyExists (id : String)
  | resourceDoesNotExist (id : String)
  | invalidDomainName (message : String)
  | invalidPunycode
  | invalidIdnDomainLabel
  | zoneDoesNotExist (zone : String)
  | notAuthorizedForZone (zone : String)
  | noGeneralRegistrationsInCurrentPhase
  | badPeriodUnit
  | badPeriod (max : Nat)
  | expirationOutOfRange
  | linkedResourcesDoNotExist (kind : LinkKind) (ids : List String)
  | linkedResourceInPendingDelete (id : String)
  | missingContactType
  | duplicateContactForRole
  | missingRegistrant
  | missingAdminContact
  | missingTechnicalContact
  | registrantNotAllowed (id : String)
  | tooManyNameservers (max : Nat)
  | tooFewNameservers (min : Nat)
  | nameserversNotAllowed (hosts : List String)
  | nameserverMissingGlue (host : String)
  | launchPhaseMismatch
  | unsupportedMarkType
  | signedMarksNotAcceptedInCurrentPhase
  | tooManySignedMarks
  | signedMarkEncoding (message : String)
  | signedMarkInvalid (message : String)
  | noMarksFoundMatchingDomain
  | invalidClaimsNoticeValidator
  | expiredClaim
  | acceptedTooLongAgo (hours : Nat)
  | malformedClaimsNoticeId
  | claimsNoticeIdChecksum
  | dsDataRequired
  | maxSigLifeNotSupported
  | tooManyDsRecords (max : Nat)
  | invalidDsRecord (message : String)
  | domainReserved (label reason : String)
  | missingClaimsNotice (label : String)
  | unexpectedClaimsNotice (label : String)
  | claimsPeriodEnded (zone : String)
  | premiumNameBlocked
  | currencyMismatch (expected : String)
  | feesMismatch (expected : String)
  | feesRequiredForPremiumName
  | pricingUnavailable (message : String)
  | resourceNotOwned
  | resourceStatusProhibitsOperation
  deriving DecidableEq

namespace Rejection

def name : Rejection → String
  | resourceAlreadyExists _ => "ResourceAlreadyExists"
  | resourceDoesNotExist _ => "ResourceDoesNotExist"
  | invalidDomainName _ => "InvalidDomainName"
  | invalidPunycode => "InvalidPunycode"
  | invalidIdnDomainLabel => "InvalidIdnDomainLabel"
  | zoneDoesNotExist _ => "TldDoesNotExist"
  | notAuthorizedForZone _ => "NotAuthorizedForTld"
  | noGeneralRegistrationsInCurrentPhase => "NoGeneralRegistrationsInCurrentPhase"
  | badPeriodUnit => "BadPeriodUnit"
  | badPeriod _ => "BadPeriod"
  | expirationOutOfRange => "ExpirationOutOfRange"
  | linkedResourcesDoNotExist _ _ => "LinkedResourcesDoNotExist"
  | linkedResourceInPendingDelete _ => "LinkedResourceInPendingDelete"
  | missingContactType => "MissingContactType"
  | duplicateContactForRole => "DuplicateContactForRole"
  | missingRegistrant => "MissingRegistrant"
  | missingAdminContact => "MissingAdminContact"
  | missingTechnicalContact => "MissingTechnicalContact"
  | registrantNotAllowed _ => "RegistrantNotAllowed"
  | tooManyNameservers _ => "TooManyNameservers"
  | tooFewNameservers _ => "TooFewNameservers"
  | nameserversNotAllowed _ => "NameserversNotAllowed"
  | nameserverMissingGlue _ => "NameserverMissingGlue"
  | launchPhaseMismatch => "LaunchPhaseMismatch"
  | unsupportedMarkType => "UnsupportedMarkType"
  | signedMarksNotAcceptedInCurrentPhase => "SignedMarksNotAcceptedInCurrentPhase"
  | tooManySignedMarks => "TooManySignedMarks"
  | signedMarkEncoding _ => "SignedMarkEncoding"
  | signedMarkInvalid _ => "SignedMarkInvalid"
  | noMarksFoundMatchingDomain => "NoMarksFoundMatchingDomain"
  | invalidClaimsNoticeValidator => "InvalidClaimsNoticeValidator"
  | expiredClaim => "ExpiredClaim"
  | acceptedTooLongAgo _ => "AcceptedTooLongAgo"
  | malformedClaimsNoticeId => "MalformedTcnid"
  | claimsNoticeIdChecksum => "InvalidTcnidChecksum"
  | dsDataRequired => "DsDataRequired"
  | maxSigLifeNotSupported => "MaxSigLifeNotSupported"
  | tooManyDsRecords _ => "TooManyDsRecords"
  | invalidDsRecord _ => "InvalidDsRecord"
  | domainReserved _ _ => "DomainReserved"
  | missingClaimsNotice _ => "MissingClaimsNotice"
  | unexpectedClaimsNotice _ => "UnexpectedClaimsNotice"
  | claimsPeriodEnded _ => "ClaimsPeriodEnded"
  | premiumNameBlocked => "PremiumNameBlocked"
  | currencyMismatch _ => "CurrencyMismatch"
  | feesMismatch _ => "FeesMismatch"
  | feesRequiredForPremiumName => "FeesRequiredForPremiumName"
  | pricingUnavailable _ => "PricingUnavailable"
  | resourceNotOwned => "ResourceNotOwned"
  | resourceStatusProhibitsOperation => "ResourceStatusProhibitsOperation"

def kind : Rejection → ResultKind
  | resourceAlreadyExists _ => .objectExists
  | resourceDoesNotExist _ => .objectDoesNotExist
  | invalidDomainName _ => .parameterValueSyntax
  | invalidPunycode => .parameterValueSyntax
  | invalidIdnDomainLabel => .parameterValuePolicy
  | zoneDoesNotExist _ => .parameterValuePolicy
  | notAuthorizedForZone _ => .authorization
  | noGeneralRegistrationsInCurrentPhase => .statusProhibitsOperation
  | badPeriodUnit => .parameterValuePolicy
  | badPeriod _ => .parameterValueRange
  | expirationOutOfRange => .parameterValueRange
  | linkedResourcesDoNotExist _ _ => .objectDoesNotExist
  | linkedResourceInPendingDelete _ => .statusProhibitsOperation
  | missingContactType => .parameterValuePolicy
  | duplicateContactForRole => .parameterValuePolicy
  | missingRegistrant => .requiredParameterMissing
  | missingAdminContact => .requiredParameterMissing
  | missingTechnicalContact => .requiredParameterMissing
  | registrantNotAllowed _ => .statusProhibitsOperation
  | tooManyNameservers _ => .parameterValuePolicy
  | tooFewNameservers _ => .statusProhibitsOperation
  | nameserversNotAllowed _ => .statusProhibitsOperation
  | nameserverMissingGlue _ => .parameterValuePolicy
  | launchPhaseMismatch => .parameterValuePolicy
  | unsupportedMarkType => .parameterValuePolicy
  | signedMarksNotAcceptedInCurrentPhase => .statusProhibitsOperation
  | tooManySignedMarks => .parameterValuePolicy
  | signedMarkEncoding _ => .parameterValueSyntax
  | signedMarkInvalid _ => .signedMarkInvalid
  | noMarksFoundMatchingDomain => .parameterValuePolicy
  | invalidClaimsNoticeValidator => .parameterValuePolicy
  | expiredClaim => .parameterValueRange
  | acceptedTooLongAgo _ => .parameterValueRange
  | malformedClaimsNoticeId => .parameterValueSyntax
  | claimsNoticeIdChecksum => .parameterValueRange
  | dsDataRequired => .parameterValuePolicy
  | maxSigLifeNotSupported => .unimplementedOption
  | tooManyDsRecords _ => .parameterValuePolicy
  | invalidDsRecord _ => .parameterValuePolicy
  | domainReserved _ _ => .statusProhibitsOperation
  | missingClaimsNotice _ => .statusProhibitsOperation
  | unexpectedClaimsNotice _ => .statusProhibitsOperation
  | claimsPeriodEnded _ => .statusProhibitsOperation
  | premiumNameBlocked => .statusProhibitsOperation
  | currencyMismatch _ => .parameterValuePolicy
  | feesMismatch _ => .parameterValueRange
  | feesRequiredForPremiumName => .requiredParameterMissing
  | pricingUnavailable _ => .commandUse
  | resourceNotOwned => .authorization
  | resourceStatusProhibitsOperation => .statusProhibitsOperation

def code (r : Rejection) : Nat := r.kind.code

def message : Rejection → String
  | resourceAlreadyExists id => "Object with given ID (" ++ id ++ ") already exists"
  | resourceDoesNotExist id => "Resource with given ID (" ++ id ++ ") does not exist"
  | invalidDomainName message => message
  | invalidPunycode => "Domain name starts with xn-- but is not a valid IDN"
  | invalidIdnDomainLabel => "Domain label is not allowed by IDN table"
  | zoneDoesNotExist zone => "Domain name is under tld " ++ zone ++ " which doesn't exist"
  | notAuthorizedForZone zone => "Registrar is not authorized to access the TLD " ++ zone
  | noGeneralRegistrationsInCurrentPhase =>
    "The current registry phase does not allow for general registrations"
  | badPeriodUnit => "Periods for domain registrations must be specified in years"
  | badPeriod max => "Registration period must be between 1 and " ++ toString max ++ " years"
  | expirationOutOfRange => "Registration period runs past the last representable date"
  | linkedResourcesDoNotExist kind ids =>
    "The " ++ kind.word ++ " with given IDs (" ++ Text.join "," ids ++ ") don't exist"
  | linkedResourceInPendingDelete id =>
    "Linked resource in pending delete prohibits operation: " ++ id
  | missingContactType => "The contact type is required"
  | duplicateContactForRole => "More than one contact for a given role is not allowed"
  | missingRegistrant => "Registrant is required"
  | missingAdminContact => "Admin contact is required"
  | missingTechnicalContact => "Technical contact is required"
  | registrantNotAllowed id => "Registrant with id " ++ id ++ " is not whitelisted for TLD"
  | tooManyNameservers max =>
    "Only " ++ toString max ++ " nameservers are allowed per domain"
  | tooFewNameservers min =>
    "At least " ++ toString min ++ " nameservers must be specified for this TLD"
  | nameserversNotAllowed hosts =>
    "Nameservers '" ++ Text.join ", " hosts ++ "' are not whitelisted for this TLD"
  | nameserverMissingGlue host =>
    "Host " ++ host ++ " is subordinate to a registry domain and has no glue addresses"
  | launchPhaseMismatch =>
    "The specified launch phase does not match the current registry phase"
  | unsupportedMarkType => "Only encoded signed marks are supported"
  | signedMarksNotAcceptedInCurrentPhase =>
    "Signed marks are not accepted in the current registry phase"
  | tooManySignedMarks => "Only one signed mark is allowed per application"
  | signedMarkEncoding message => "Signed mark data is improperly encoded: " ++ message
  | signedMarkInvalid message => message
  | noMarksFoundMatchingDomain => "The provided mark does not match the desired domain label"
  | invalidClaimsNoticeValidator =>
    "The only supported validationID is 'tmch' for the ICANN Trademark Clearinghouse."
  | expiredClaim => "The expiration time specified in the claim notice has elapsed"
  | acceptedTooLongAgo hours =>
    "The acceptance time specified in the claim notice is more than " ++ toString hours
      ++ " hours in the past"
  | malformedClaimsNoticeId => "The specified TCNID is malformed"
  | claimsNoticeIdChecksum => "The checksum in the specified TCNID does not validate"
  | dsDataRequired => "At least one dsData is required when using the secDNS extension"
  | maxSigLifeNotSupported => "The 'maxSigLife' setting is not supported"
  | tooManyDsRecords max =>
    "A maximum of " ++ toString max ++ " DS records are allowed per domain"
  | invalidDsRecord message => "Domain contains an invalid DS record: " ++ message
  | domainReserved label reason => label ++ " is reserved: " ++ reason
  | missingClaimsNotice label => label ++ " requires a claims notice"
  | unexpectedClaimsNotice label => label ++ " does not require a claims notice"
  | claimsPeriodEnded zone => "The claims period for " ++ zone ++ " has ended"
  | premiumNameBlocked =>
    "The requested domain name is on the premium price list, and this registrar has blocked "
      ++ "premium registrations"
  | currencyMismatch expected =>
    "Currency specified in the fee extension does not match currency of the price ("
      ++ expected ++ ")"
  | feesMismatch expected =>
    "The fees passed in the transform command do not match the fees that will be charged ("
      ++ expected ++ ")"
  | feesRequiredForPremiumName =>
    "Fees must be explicitly acknowledged when creating domains with premium prices"
  | pricingUnavailable message => "Unable to price the domain: " ++ message
  | resourceNotOwned => "The specified resource belongs to another client"
  | resourceStatusProhibitsOperation => "Resource status prohibits this operation"

end Rejection

end DomainRegistry
