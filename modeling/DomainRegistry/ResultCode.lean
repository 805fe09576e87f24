/-!
Categories of rejected commands and the protocol's result code of each.
-/

namespace DomainRegistry

inductive ResultKind where
  | commandUse
  | requiredParameterMissing
  | parameterValueRange
  | parameterValueSyntax
  | unimplementedOption
  | authorization
  | objectExists
  | objectDoesNotExist
  | statusProhibitsOperation
  | parameterValuePolicy
  | signedMarkInvalid
  deriving DecidableEq

namespace ResultKind

def all : List ResultKind :=
  [commandUse, requiredParameterMissing, parameterValueRange, parameterValueSyntax,
    unimplementedOption, authorization, objectExists, objectDoesNotExist,
    statusProhibitsOperation, parameterValuePolicy, signedMarkInvalid]

def code : ResultKind → Nat
  | commandUse => 2002
  | requiredParameterMissing => 2003
  | parameterValueRange => 2004
  | parameterValueSyntax => 2005
  | unimplementedOption => 2102
  | authorization => 2201
  | objectExists => 2302
  | objectDoesNotExist => 2303
  | statusProhibitsOperation => 2304
  | parameterValuePolicy => 2306
  | signedMarkInvalid => 2306

def word : ResultKind → String
  | commandUse => "command_use"
  | requiredParameterMissing => "required_parameter_missing"
  | parameterValueRange => "parameter_value_range"
  | parameterValueSyntax => "parameter_value_syntax"
  | unimplementedOption => "unimplemented_option"
  | authorization => "authorization"
  | objectExists => "object_exists"
  | objectDoesNotExist => "object_does_not_exist"
  | statusProhibitsOperation => "status_prohibits_operation"
  | parameterValuePolicy => "parameter_value_policy"
  | signedMarkInvalid => "signed_mark_invalid"

def title : ResultKind → String
  | commandUse => "CommandUse"
  | requiredParameterMissing => "RequiredParameterMissing"
  | parameterValueRange => "ParameterValueRange"
  | parameterValueSyntax => "ParameterValueSyntax"
  | unimplementedOption => "UnimplementedOption"
  | authorization => "Authorization"
  | objectExists => "ObjectExists"
  | objectDoesNotExist => "ObjectDoesNotExist"
  | statusProhibitsOperation => "StatusProhibitsOperation"
  | parameterValuePolicy => "ParameterValuePolicy"
  | signedMarkInvalid => "SignedMarkInvalid"

def display (k : ResultKind) : String := k.title ++ " (" ++ toString k.code ++ ")"

def words : List (String × ResultKind) := all.map fun k => (k.word, k)

end ResultKind

end DomainRegistry
