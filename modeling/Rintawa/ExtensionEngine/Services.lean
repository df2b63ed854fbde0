/-
# The service runtime

Components call services through the contracts that they consume. Routing is isolated
by runtime scopes: a caller only reaches providers of its own scope. Routes are cached
under the topology and policy revisions that they were resolved in, and handles name
single providers of multiple contracts.

Each operation runs as one step. The loops of the source only go round when the policy
changes while they resolve.
-/

import Rintawa.ExtensionEngine.Composition

namespace Rintawa.ExtensionEngine

open Rintawa.Lib Rintawa.Sdk

def defaultMaxServiceMessageBytes : Nat := 8 * 1024 * 1024

def defaultMaxServiceProvidersPerContract : Nat := 64

/-! ## State -/

/-- A component that can be called, with its own limit on messages. -/
structure ServiceComponent where
  serviceMessageLimit : Option Nat

/-- The principal of one component activation. -/
structure ComponentIdentity where
  extensionId : ExtensionId
  instanceId : ExtensionInstanceId
  scopeId : RuntimeScopeId
  componentId : ComponentId
  deriving DecidableEq

/-- An instance as calls are routed to it. -/
structure ServiceExtensionInstance where
  extensionId : ExtensionId
  scopeId : RuntimeScopeId
  isActive : Bool
  definitions : List OwnedContractDefinition
  providers : List OwnedContractProvider
  consumers : List OwnedContractConsumer
  components : Dict ComponentId ServiceComponent

/-- The registration of one instance. Its endpoints belong to components of its own. -/
structure ServiceInstanceRegistration where
  instanceId : ExtensionInstanceId
  extensionId : ExtensionId
  scopeId : RuntimeScopeId
  definitions : List OwnedContractDefinition
  providers : List OwnedContractProvider
  consumers : List OwnedContractConsumer
  components : Dict ComponentId ServiceComponent
  providers_owned : ∀ entry ∈ providers, entry.owner.instanceId = instanceId ∧
    (components.lookup entry.owner.componentId).isSome = true
  consumers_owned : ∀ entry ∈ consumers, entry.owner.instanceId = instanceId

/-- The question that a cached route answers. -/
structure RouteKey where
  caller : ComponentRef
  contract : ContractKey
  allowInactiveCaller : Bool
  deriving DecidableEq

/-- An answer with the revisions under which it holds. -/
structure CachedRoute where
  topologyRevision : Nat
  policyRevision : Nat
  result : ServiceCallResult ComponentRef

/-- The route that a provider handle was issued for. -/
structure ProviderHandleKey where
  caller : ComponentRef
  contract : ContractKey
  provider : ComponentRef
  allowInactiveCaller : Bool
  deriving DecidableEq

/-- What a provider handle stands for. -/
structure ProviderHandleBinding where
  key : ProviderHandleKey
  deriving DecidableEq

/-- The providers of a consumed contract. -/
structure ResolvedServiceBinding where
  resolution : ContractResolutionPolicy
  providers : List ComponentRef

/-- The routing tables of the engine, with its caches. -/
structure ServiceRuntimeState where
  instances : Dict ExtensionInstanceId ServiceExtensionInstance
  platformDefinitions : Dict RuntimeScopeId (Dict ContractKey ContractDefinition)
  preferredProviders : Dict RuntimeScopeId (Dict ContractKey ComponentRef)
  topologyRevision : Nat
  routeCache : Dict RouteKey CachedRoute
  nextProviderHandle : Nat
  providerHandlePolicyRevision : Nat
  providerHandles : Dict ServiceProviderHandle ProviderHandleBinding
  providerHandleCache : Dict ProviderHandleKey ServiceProviderHandle

def ServiceRuntimeState.new : ServiceRuntimeState :=
  ⟨∅, ∅, ∅, 0, ∅, 0, 0, ∅, ∅⟩

/-- A provider with its component and its principal. -/
structure ResolvedProvider where
  provider : ComponentRef
  component : ServiceComponent
  identity : ComponentIdentity

/-- The value under a key, or an error. -/
def orError {α : Type} (value : Option α) (error : ServiceCallError) : ServiceCallResult α :=
  match value with
  | some value => .ok value
  | none => .error error

/-- A check with the error that it fails with. -/
def ensure (condition : Bool) (error : ServiceCallError) : ServiceCallResult Unit :=
  if condition then .ok () else .error error

namespace ServiceRuntimeState

variable (state : ServiceRuntimeState)

/-- Every change of the topology drops all routes and handles. -/
def topologyChanged : ServiceRuntimeState :=
  { state with
    topologyRevision := (state.topologyRevision + 1) % counterLimit
    routeCache := ∅
    providerHandles := ∅
    providerHandleCache := ∅ }

/-- Handles that were issued under another policy revision are dropped. -/
def syncProviderHandlePolicy (policyRevision : Nat) : ServiceRuntimeState :=
  if state.providerHandlePolicyRevision = policyRevision then state
  else
    { state with
      providerHandlePolicyRevision := policyRevision
      providerHandles := ∅
      providerHandleCache := ∅ }

/-- The handle of a choice. A new one takes the next number. -/
def issueProviderHandle (key : ProviderHandleKey) :
    ServiceRuntimeState × ServiceCallResult ServiceProviderHandle :=
  match state.providerHandleCache.lookup key with
  | some handle => (state, .ok handle)
  | none =>
      if state.nextProviderHandle + 1 < counterLimit then
        let handle : ServiceProviderHandle := ⟨state.nextProviderHandle + 1⟩
        ({ state with
            nextProviderHandle := state.nextProviderHandle + 1
            providerHandles := state.providerHandles.insert handle ⟨key⟩
            providerHandleCache := state.providerHandleCache.insert key handle }, .ok handle)
      else (state, .error .unavailable)

def component (owner : ComponentRef) : Option ServiceComponent :=
  (state.instances.lookup owner.instanceId).bind fun inst =>
    inst.components.lookup owner.componentId

def componentIdentity (owner : ComponentRef) : Option ComponentIdentity :=
  (state.instances.lookup owner.instanceId).bind fun inst =>
    if (inst.components.lookup owner.componentId).isSome then
      some ⟨inst.extensionId, owner.instanceId, inst.scopeId, owner.componentId⟩
    else none

/-- The component and the principal of a provider. -/
def locate (provider : ComponentRef) : ServiceCallResult ResolvedProvider := do
  let component ← orError (state.component provider) .unavailable
  let identity ← orError (state.componentIdentity provider) .unavailable
  return ⟨provider, component, identity⟩

/-- The runtime scope of an instance. -/
def componentScopeId (owner : ComponentRef) : Option RuntimeScopeId :=
  (state.instances.lookup owner.instanceId).map fun inst => inst.scopeId

/-! ## Topology -/

/-- Define a contract of the platform. `none` when another definition is there. -/
def definePlatformContract (scopeId : RuntimeScopeId) (definition : ContractDefinition) :
    Option ServiceRuntimeState :=
  let definitions := (state.platformDefinitions.lookup scopeId).getD ∅
  match definitions.lookup definition.contract with
  | some existing => if existing = definition then some state else none
  | none =>
      some (topologyChanged { state with
        platformDefinitions := state.platformDefinitions.insert scopeId
          (definitions.insert definition.contract definition) })

/-- Remove the platform contracts of a scope. -/
def clearPlatformContractsInScope (scopeId : RuntimeScopeId) : ServiceRuntimeState :=
  if (state.platformDefinitions.lookup scopeId).isSome then
    topologyChanged { state with platformDefinitions := state.platformDefinitions.erase scopeId }
  else state

/-- Register an instance, inactive. `none` when it is registered. -/
def registerInstance (registration : ServiceInstanceRegistration) : Option ServiceRuntimeState :=
  if (state.instances.lookup registration.instanceId).isSome then none
  else
    some (topologyChanged { state with
      instances := state.instances.insert registration.instanceId
        { extensionId := registration.extensionId
          scopeId := registration.scopeId
          isActive := false
          definitions := registration.definitions
          providers := registration.providers
          consumers := registration.consumers
          components := registration.components } })

/-- Remove an instance. -/
def unregisterInstance (instanceId : ExtensionInstanceId) : ServiceRuntimeState :=
  if (state.instances.lookup instanceId).isSome then
    topologyChanged { state with instances := state.instances.erase instanceId }
  else state

/-- Activate an instance. `none` when it is not registered. -/
def activateInstance (instanceId : ExtensionInstanceId) : Option ServiceRuntimeState :=
  match state.instances.lookup instanceId with
  | none => none
  | some inst =>
      if inst.isActive then some state
      else
        some (topologyChanged { state with
          instances := state.instances.insert instanceId { inst with isActive := true } })

/-- Deactivate an instance. -/
def deactivateInstance (instanceId : ExtensionInstanceId) : ServiceRuntimeState :=
  match state.instances.lookup instanceId with
  | none => state
  | some inst =>
      if inst.isActive then
        topologyChanged { state with
          instances := state.instances.insert instanceId { inst with isActive := false } }
      else state

/-- The preferences of one scope. -/
def preferencesOf (scopeId : RuntimeScopeId) : Dict ContractKey ComponentRef :=
  (state.preferredProviders.lookup scopeId).getD ∅

/-- Prefer a provider for a contract. -/
def setPreferredProvider (scopeId : RuntimeScopeId) (contract : ContractKey)
    (provider : ComponentRef) : ServiceRuntimeState :=
  if (state.preferencesOf scopeId).lookup contract = some provider then state
  else
    topologyChanged { state with
      preferredProviders := state.preferredProviders.insert scopeId
        ((state.preferencesOf scopeId).insert contract provider) }

/-- Drop the preference for a contract. A scope without preferences is dropped too. -/
def clearPreferredProvider (scopeId : RuntimeScopeId) (contract : ContractKey) :
    ServiceRuntimeState :=
  if ((state.preferencesOf scopeId).lookup contract).isSome then
    let rest := (state.preferencesOf scopeId).erase contract
    topologyChanged { state with
      preferredProviders :=
        if rest.entries.isEmpty then state.preferredProviders.erase scopeId
        else state.preferredProviders.insert scopeId rest }
  else state

/-! ## Resolution -/

variable (secrets : SecretManager)

/-- What one instance contributes to the composition that a caller sees. An inactive
instance only takes part in calls of its own components while they are executed. -/
structure Participation where
  definitions : List ContractDefinition
  providers : List OwnedContractProvider
  consumers : List OwnedContractConsumer

/-- The part of an instance in the composition of a caller. -/
def participation (caller : ComponentRef) (allowInactiveCaller : Bool)
    (instanceId : ExtensionInstanceId) (inst : ServiceExtensionInstance) : Participation :=
  if inst.isActive then
    ⟨inst.definitions.map fun owned => owned.definition, inst.providers, inst.consumers⟩
  else if allowInactiveCaller && instanceId == caller.instanceId then
    ⟨inst.definitions.map fun owned => owned.definition, [],
      inst.consumers.filter fun entry => entry.owner == caller⟩
  else ⟨[], [], []⟩

/-- The parts of all instances in the scope of a caller. -/
def participants (caller : ComponentRef) (scopeId : RuntimeScopeId)
    (allowInactiveCaller : Bool) : List Participation :=
  (state.instances.pairs.filter fun entry => entry.2.scopeId == scopeId).map fun entry =>
    participation caller allowInactiveCaller entry.1 entry.2

/-- The platform definitions of one scope. -/
def platformDefinitionsOf (scopeId : RuntimeScopeId) : Dict ContractKey ContractDefinition :=
  (state.platformDefinitions.lookup scopeId).getD ∅

/-- The binding of a caller in the present composition of its scope. -/
def resolveBindingUncached (caller : ComponentRef) (contract : ContractKey)
    (allowInactiveCaller : Bool) : ServiceCallResult ResolvedServiceBinding := do
  let callerInstance ← orError (state.instances.lookup caller.instanceId) .unavailable
  let parts := state.participants caller callerInstance.scopeId allowInactiveCaller
  let definitions := (state.platformDefinitionsOf callerInstance.scopeId).values ++
    parts.flatMap fun part => part.definitions
  let providers := parts.flatMap fun part => part.providers
  let consumers := parts.flatMap fun part => part.consumers
  ensure (consumers.any fun entry => entry.owner == caller && entry.consumer.contract == contract)
    .notConsumer
  let definition ← orError (definitionOf definitions contract) .unavailable
  ensure (definition.protocol == .service) .notServiceContract
  let snapshot := resolveContracts secrets definitions providers
    (state.preferencesOf callerInstance.scopeId) consumers
  let binding ← orError
    (snapshot.bindings.find? fun entry => entry.consumer == caller && entry.contract == contract)
    .unavailable
  return ⟨definition.resolution, binding.providers⟩

/-- The only provider of a list. -/
def exactlyOne (providers : List ComponentRef) : ServiceCallResult ComponentRef :=
  match providers with
  | [provider] => .ok provider
  | _ => .error .unsupportedResolution

/-- The provider of a caller in the present composition of its scope. -/
def resolveUncached (caller : ComponentRef) (contract : ContractKey)
    (allowInactiveCaller : Bool) : ServiceCallResult ComponentRef := do
  let binding ← state.resolveBindingUncached secrets caller contract allowInactiveCaller
  exactlyOne binding.providers

/-- A cached route of the present topology and policy revisions. -/
def cachedRoute (key : RouteKey) : Option (ServiceCallResult ComponentRef) :=
  match state.routeCache.lookup key with
  | none => none
  | some cached =>
      if cached.topologyRevision = state.topologyRevision ∧
          cached.policyRevision = secrets.policyRevision then some cached.result
      else none

/-- Resolve through the cache. -/
def resolveProvider (caller : ComponentRef) (contract : ContractKey)
    (allowInactiveCaller : Bool) : ServiceRuntimeState × ServiceCallResult ResolvedProvider :=
  match state.cachedRoute secrets ⟨caller, contract, allowInactiveCaller⟩ with
  | some result => (state, result >>= state.locate)
  | none =>
      let result := state.resolveUncached secrets caller contract allowInactiveCaller
      ({ state with
          routeCache := state.routeCache.insert ⟨caller, contract, allowInactiveCaller⟩
            ⟨state.topologyRevision, secrets.policyRevision, result⟩ },
        result >>= state.locate)

/-- Resolve for the platform, perhaps only to instances of one extension. -/
def resolvePlatformProvider (scopeId : RuntimeScopeId) (providerExtensionId : Option ExtensionId)
    (contract : ContractKey) : ServiceCallResult ResolvedProvider := do
  let definition ← orError ((state.platformDefinitionsOf scopeId).lookup contract) .unavailable
  ensure (definition.protocol == .service) .notServiceContract
  let candidates := state.instances.values.filter fun inst =>
    inst.isActive && inst.scopeId == scopeId &&
      providerExtensionId.all fun expected => inst.extensionId == expected
  let resolved ← (resolveContractProviders secrets contract definition.resolution
    (candidates.flatMap fun inst => inst.providers)
    ((state.preferencesOf scopeId).lookup contract)).mapError fun _ => .unavailable
  let provider ← exactlyOne resolved
  state.locate provider

/-! ## Handles -/

/-- Issue the handles of several providers, in order. -/
def issueProviderHandles (caller : ComponentRef) (contract : ContractKey)
    (allowInactiveCaller : Bool) : ServiceRuntimeState → List ComponentRef →
    ServiceRuntimeState × ServiceCallResult (List ServiceProviderHandle)
  | state, [] => (state, .ok [])
  | state, provider :: rest =>
      match state.issueProviderHandle ⟨caller, contract, provider, allowInactiveCaller⟩ with
      | (state, .error error) => (state, .error error)
      | (state, .ok handle) =>
          match issueProviderHandles caller contract allowInactiveCaller state rest with
          | (state, .error error) => (state, .error error)
          | (state, .ok handles) => (state, .ok (handle :: handles))

/-- The providers that a caller may choose from. -/
def listedProviders (caller : ComponentRef) (contract : ContractKey)
    (allowInactiveCaller : Bool) : ServiceCallResult (List ComponentRef) := do
  let binding ← state.resolveBindingUncached secrets caller contract allowInactiveCaller
  ensure (binding.resolution == .multiple) .unsupportedResolution
  ensure (binding.providers.length ≤ defaultMaxServiceProvidersPerContract) .responseTooLarge
  return binding.providers

/-- List the eligible providers of a multiple contract as handles. -/
def listProviders (caller : ComponentRef) (contract : ContractKey)
    (allowInactiveCaller : Bool) :
    ServiceRuntimeState × ServiceCallResult (List ServiceProviderHandle) :=
  let synced := state.syncProviderHandlePolicy secrets.policyRevision
  match synced.listedProviders secrets caller contract allowInactiveCaller with
  | .error error => (synced, .error error)
  | .ok providers => issueProviderHandles caller contract allowInactiveCaller synced providers

/-- The contract and the provider of a handle, for the caller that it was issued to. -/
def resolveProviderHandle (caller : ComponentRef) (providerHandle : ServiceProviderHandle)
    (allowInactiveCaller : Bool) : ServiceCallResult (ContractKey × ResolvedProvider) := do
  ensure (state.providerHandlePolicyRevision == secrets.policyRevision) .unavailable
  let binding ← orError (state.providerHandles.lookup providerHandle) .unavailable
  ensure (binding.key.caller == caller && binding.key.allowInactiveCaller == allowInactiveCaller)
    .unavailable
  let provider ← state.locate binding.key.provider
  return (binding.key.contract, provider)

end ServiceRuntimeState

/-! ## Dispatch -/

/-- The lock of a provider when it is called. -/
inductive ComponentLock
  | free
  | busy
  | poisoned
  deriving DecidableEq

/-- A callback that is due: its provider, its principal, its contract and the providers
that are being called. -/
structure ServiceDispatch where
  provider : ComponentRef
  identity : ComponentIdentity
  contract : ContractKey
  callStack : List ComponentRef
  limit : Nat

/-- The lock is taken unless another call holds it or a callback has panicked. -/
def ComponentLock.take : ComponentLock → ServiceCallResult Unit
  | .free => .ok ()
  | .busy => .error .providerBusy
  | .poisoned => .error .providerFailed

/-- The limit on the messages of a provider. -/
def ServiceComponent.messageLimit (component : ServiceComponent) : Nat :=
  min (component.serviceMessageLimit.getD defaultMaxServiceMessageBytes)
    defaultMaxServiceMessageBytes

/-- The checks before the callback of a provider. -/
def dispatchTo (resolved : ResolvedProvider) (contract : ContractKey) (request : List UInt8)
    (callStack : List ComponentRef) (lock : ComponentLock) :
    ServiceCallResult ServiceDispatch := do
  ensure (!callStack.contains resolved.provider) .cyclicCall
  lock.take
  ensure (request.length ≤ resolved.component.messageLimit) .requestTooLarge
  return ⟨resolved.provider, resolved.identity, contract, callStack ++ [resolved.provider],
    resolved.component.messageLimit⟩

/-- What the callback of a provider comes back with. -/
inductive ProviderAnswer
  | response (bytes : List UInt8)
  | requestTooLarge
  | responseTooLarge
  | failed

/-- The checks after the callback of a provider. -/
def receiveAnswer (dispatch : ServiceDispatch) : ProviderAnswer → ServiceCallResult (List UInt8)
  | .response bytes =>
      if dispatch.limit < bytes.length then .error .responseTooLarge else .ok bytes
  | .requestTooLarge => .error .requestTooLarge
  | .responseTooLarge => .error .responseTooLarge
  | .failed => .error .providerFailed

/-- A call carries a request, the providers that are being called and, as found at the
dispatch, the lock of its provider. -/
structure ServiceRequest where
  request : List UInt8
  callStack : List ComponentRef
  lock : ComponentLock

namespace ServiceRuntimeState

variable (state : ServiceRuntimeState) (secrets : SecretManager)

/-- Requests over the transport limit are refused first. -/
def admitRequest (request : List UInt8) : ServiceCallResult Unit :=
  ensure (request.length ≤ defaultMaxServiceMessageBytes) .requestTooLarge

/-- Call the provider of a contract. -/
def call (caller : ComponentRef) (contract : ContractKey) (allowInactiveCaller : Bool)
    (request : ServiceRequest) : ServiceRuntimeState × ServiceCallResult ServiceDispatch :=
  match admitRequest request.request with
  | .error error => (state, .error error)
  | .ok () =>
      let next := state.resolveProvider secrets caller contract allowInactiveCaller
      (next.1, next.2 >>= fun resolved =>
        dispatchTo resolved contract request.request request.callStack request.lock)

/-- Call the provider of a handle. -/
def callProvider (caller : ComponentRef) (providerHandle : ServiceProviderHandle)
    (allowInactiveCaller : Bool) (request : ServiceRequest) :
    ServiceCallResult ServiceDispatch := do
  admitRequest request.request
  let (contract, resolved) ←
    state.resolveProviderHandle secrets caller providerHandle allowInactiveCaller
  dispatchTo resolved contract request.request request.callStack request.lock

/-- Call a platform service. -/
def callPlatform (scopeId : RuntimeScopeId) (providerExtensionId : Option ExtensionId)
    (contract : ContractKey) (request : List UInt8) (lock : ComponentLock) :
    ServiceCallResult ServiceDispatch := do
  admitRequest request
  let resolved ← state.resolvePlatformProvider secrets scopeId providerExtensionId contract
  dispatchTo resolved contract request [] lock

end ServiceRuntimeState

end Rintawa.ExtensionEngine
