/-
# Extension identifiers and component contracts

Extensions, their runtime instances, scopes and components are named by opaque
texts. Components define, provide and consume versioned contracts; an endpoint
may require that its component holds a grant on a domain of secrets.
-/

import Rintawa.Sdk.World

namespace Rintawa.Sdk

/-! ## Identifiers -/

/-- The kinds of textual identifier, besides those of extensions. -/
inductive StringIdKind
  | extensionInstance | runtimeScope | component | contract | contribution
  | runtimeEffect | componentTarget
  deriving DecidableEq, Repr

/-- An opaque textual identifier of one kind. -/
structure StringId (kind : StringIdKind) where
  asStr : String
  deriving DecidableEq, Repr

/-- Whether an identifier is one of a list. -/
instance {kind : StringIdKind} (id : StringId kind) (ids : List (StringId kind)) :
    Decidable (id ∈ ids) :=
  List.instDecidableMemOfLawfulBEq id ids

abbrev ExtensionInstanceId := StringId .extensionInstance
abbrev RuntimeScopeId := StringId .runtimeScope
abbrev ComponentId := StringId .component
abbrev ContractId := StringId .contract
abbrev ContributionId := StringId .contribution
abbrev RuntimeEffectId := StringId .runtimeEffect
abbrev ComponentTarget := StringId .componentTarget

/-- One component within one concrete extension runtime instance. -/
structure ComponentRef where
  instanceId : ExtensionInstanceId
  componentId : ComponentId
  deriving DecidableEq, Repr

/-- One major version of a contract. -/
structure ContractKey where
  id : ContractId
  version : Nat
  deriving DecidableEq, Repr

/-- The displayed contract key. -/
def ContractKey.display (key : ContractKey) : String :=
  key.id.asStr ++ "@" ++ toString key.version

/-! ## Secret paths -/

/-- A validated dotted path of a secret. -/
structure SecretPath where
  asStr : String
  deriving DecidableEq, Repr

/-- A permission pattern: one path, or everything below a segment boundary. -/
inductive SecretPathPattern
  | exact (path : SecretPath)
  | descendants (path : SecretPath)
  deriving DecidableEq, Repr

/-- The displayed pattern. -/
def SecretPathPattern.display : SecretPathPattern → String
  | .exact path => path.asStr
  | .descendants path => path.asStr ++ ".*"

/-- What is left of a path after a prefix starts at a segment boundary. -/
def SecretPath.below (path domain : SecretPath) : Bool :=
  match path.asStr.toList.dropPrefix? domain.asStr.toList with
  | some ('.' :: _) => true
  | _ => false

namespace SecretPathPattern

/-- Whether a pattern permits a path. -/
def «matches» : SecretPathPattern → SecretPath → Bool
  | .exact permitted, path => permitted == path
  | .descendants domain, path => path.below domain

/-- Whether a requested pattern can authorize a grant. A grant may narrow the request
and never widens it. -/
def allowsPattern : SecretPathPattern → SecretPathPattern → Bool
  | .exact requested, .exact granted => requested == granted
  | .descendants domain, .exact granted => (descendants domain).matches granted
  | .descendants requested, .descendants granted =>
      granted == requested || granted.below requested
  | .exact _, .descendants _ => false

end SecretPathPattern

/-! ## Contracts -/

/-- How the providers of one contract are composed. -/
inductive ContractResolutionPolicy
  | single
  | multiple
  deriving DecidableEq, Repr

/-- The displayed policy. -/
def ContractResolutionPolicy.display : ContractResolutionPolicy → String
  | .single => "single"
  | .multiple => "multiple"

/-- How a resolved contract is used by the host. -/
inductive ContractProtocol
  | binding
  | service
  deriving DecidableEq, Repr

/-- The displayed protocol. -/
def ContractProtocol.display : ContractProtocol → String
  | .binding => "binding"
  | .service => "service"

/-- A contract with its provider resolution policy. -/
structure ContractDefinition where
  contract : ContractKey
  resolution : ContractResolutionPolicy
  protocol : ContractProtocol
  deriving DecidableEq, Repr

/-- A host grant that must exist before an endpoint is eligible. -/
inductive ContractGrantRequirement
  | secretRead (pattern : SecretPathPattern)
  deriving DecidableEq, Repr

/-- A component provides a contract. -/
structure ContractProvider where
  contract : ContractKey
  requiredGrants : List ContractGrantRequirement
  deriving DecidableEq, Repr

/-- A component consumes a contract. -/
structure ContractConsumer where
  contract : ContractKey
  required : Bool
  requiredGrants : List ContractGrantRequirement
  deriving DecidableEq, Repr

end Rintawa.Sdk
