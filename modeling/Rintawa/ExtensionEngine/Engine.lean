/-
# The extension engine

The engine keeps the instances of extensions with what their components registered. The
contribution identifiers of instances that are not stopped are kept in one set, by
scope; platform contracts and preferred providers are kept beside the copies that the
service runtime has of them.
-/

import Mathlib.Data.Finset.SDiff
import Rintawa.ExtensionEngine.Callbacks
import Rintawa.ExtensionEngine.Errors
import Rintawa.ExtensionEngine.Registration

namespace Rintawa.ExtensionEngine

open Rintawa.Lib Rintawa.Sdk Rintawa.UiRuntime

/-! ## State -/

/-- The lifecycle of an instance. -/
inductive ExtensionState
  | registered
  | active
  | stopped
  deriving DecidableEq, Repr

/-- A component under its identifier. -/
structure ManagedComponent where
  id : ComponentId
  handle : ServiceComponent

/-- A registered instance. What its components registered is well formed, as the
registration left it. -/
structure ManagedExtension where
  instanceId : ExtensionInstanceId
  scopeId : RuntimeScopeId
  manifest : ExtensionManifest
  state : ExtensionState
  components : List ManagedComponent
  contributions : List OwnedContribution
  worldSchemas : List OwnedWorldSchemaContribution
  contractDefinitions : List OwnedContractDefinition
  contractProviders : List OwnedContractProvider
  contractConsumers : List OwnedContractConsumer
  executionTargetDependencies : List ExecutionTargetDependency
  contributions_nodup : (contributions.map fun owned => owned.descriptor.id).Nodup
  definitions_owned : ∀ entry ∈ contractDefinitions,
    BelongsTo instanceId (components.map fun component => component.id) entry.owner
  providers_owned : ∀ entry ∈ contractProviders,
    BelongsTo instanceId (components.map fun component => component.id) entry.owner
  consumers_owned : ∀ entry ∈ contractConsumers,
    BelongsTo instanceId (components.map fun component => component.id) entry.owner
  consumers_nodup :
    (contractConsumers.map fun entry => (entry.owner, entry.consumer.contract)).Nodup

namespace ManagedExtension

variable (ext : ManagedExtension)

/-- The keys under which the contributions of an instance are active. -/
def contributionKeys : Finset (RuntimeScopeId × ContributionId) :=
  (ext.contributions.map fun owned => (ext.scopeId, owned.descriptor.id)).toFinset

/-- The principal of a component of the instance. -/
def principal (component : ManagedComponent) : ComponentRef :=
  ⟨ext.instanceId, component.id⟩

/-- Whether an instance was instantiated through another one. -/
def dependsOn (providerInstanceId : ExtensionInstanceId) : Bool :=
  ext.executionTargetDependencies.any fun dependency =>
    dependency.provider.instanceId == providerInstanceId

end ManagedExtension

/-- The engine over the facilities that its components use. -/
structure Engine extends EngineFacilities where
  extensions : Dict ExtensionInstanceId ManagedExtension
  activeContributions : Finset (RuntimeScopeId × ContributionId)
  runtimePermissions : RuntimePermissionManager
  secrets : SecretManager
  preferredContractProviders : Dict RuntimeScopeId (Dict ContractKey ComponentRef)
  platformContractDefinitions : Dict RuntimeScopeId (Dict ContractKey ContractDefinition)

/-- An engine over a secret manager that the host configured. -/
def Engine.withSecretManager (secrets : SecretManager) : Engine where
  toEngineFacilities := .new
  extensions := ∅
  activeContributions := ∅
  runtimePermissions := .new
  secrets := secrets
  preferredContractProviders := ∅
  platformContractDefinitions := ∅

def Engine.new : Engine :=
  .withSecretManager .new

/-- What an operation leaves and returns. -/
abbrev EngineOutcome := Engine × EngineResult Unit

namespace Engine

variable (engine : Engine)

/-- The instance of an identifier, or an error. -/
def instanceOf (instanceId : ExtensionInstanceId) : EngineResult ManagedExtension :=
  match engine.extensions.lookup instanceId with
  | some ext => .ok ext
  | none => .error (.extensionInstanceNotFound instanceId.asStr)

/-- Whether an instance is active. -/
def isActive (instanceId : ExtensionInstanceId) : Bool :=
  (engine.extensions.lookup instanceId).any fun ext => ext.state == .active

/-! ## Execution targets -/

/-- Register the host of an execution target that an active component owns. -/
def registerExecutionTargetHost (owner : ComponentRef) (target : String) : EngineOutcome :=
  match engine.instanceOf owner.instanceId with
  | .error error => (engine, .error error)
  | .ok ext =>
      if ext.state = .active ∧ owner.componentId ∈ ext.components.map fun component => component.id
      then
        let registered := engine.executionTargets.register owner target
        ({ engine with executionTargets := registered.1 }, registered.2.mapError .executionTarget)
      else
        (engine, .error (.executionTargetOwnerInactive owner.instanceId.asStr
          owner.componentId.asStr))

/-- The instances that were instantiated through another one, in order. -/
def executionTargetDependentsOf (providerInstanceId : ExtensionInstanceId) :
    List ExtensionInstanceId :=
  ((engine.extensions.values.filter fun ext =>
      ext.instanceId != providerInstanceId && ext.dependsOn providerInstanceId).map
    fun ext => ext.instanceId).dedup.insertionSort fun left right => left.asStr ≤ right.asStr

/-- Instances that others were instantiated through cannot go. -/
def ensureExecutionTargetProviderNotInUse (providerInstanceId : ExtensionInstanceId) :
    EngineResult Unit :=
  let dependents := engine.executionTargetDependentsOf providerInstanceId
  if dependents.isEmpty then .ok ()
  else
    .error (.executionTargetProviderInUse providerInstanceId.asStr
      (dependents.map fun instanceId => instanceId.asStr))

/-! ## Contract definitions -/

/-- What two definitions of one contract have to agree on. -/
abbrev DefinitionTerms := ContractResolutionPolicy × ContractProtocol

/-- The terms of a definition. -/
def termsOf (definition : ContractDefinition) : DefinitionTerms :=
  (definition.resolution, definition.protocol)

/-- The displayed terms. -/
def displayTerms (terms : DefinitionTerms) : String :=
  terms.2.display ++ "/" ++ terms.1.display

/-- The instances of one scope. -/
def extensionsIn (scopeId : RuntimeScopeId) : List ManagedExtension :=
  engine.extensions.values.filter fun ext => ext.scopeId == scopeId

/-- The platform definitions of one scope. -/
def platformDefinitionsIn (scopeId : RuntimeScopeId) : Dict ContractKey ContractDefinition :=
  (engine.platformContractDefinitions.lookup scopeId).getD ∅

/-- The terms of the contracts that instances of a scope define. The last one counts. -/
def definedTerms (scopeId : RuntimeScopeId) : Dict ContractKey DefinitionTerms :=
  ((engine.extensionsIn scopeId).flatMap fun ext => ext.contractDefinitions).foldl
    (fun terms owned => terms.insert owned.definition.contract (termsOf owned.definition)) ∅

/-- Check incoming definitions against those that are there and against each other. -/
def checkDefinitions (scopeId : RuntimeScopeId) :
    Dict ContractKey DefinitionTerms → List OwnedContractDefinition → EngineResult Unit
  | _, [] => .ok ()
  | terms, owned :: rest =>
      let definition := owned.definition
      if ((engine.platformDefinitionsIn scopeId).lookup definition.contract).isSome then
        .error (.platformContractDefinitionReserved definition.contract.display scopeId.asStr)
      else
        match terms.lookup definition.contract with
        | some existing =>
            if existing = termsOf definition then checkDefinitions scopeId terms rest
            else
              .error (.contractDefinitionConflict definition.contract.display
                (displayTerms existing) (displayTerms (termsOf definition)))
        | none =>
            checkDefinitions scopeId (terms.insert definition.contract (termsOf definition)) rest

/-- Check the definitions of a new instance. -/
def validateContractDefinitions (scopeId : RuntimeScopeId)
    (incoming : List OwnedContractDefinition) : EngineResult Unit :=
  engine.checkDefinitions scopeId (engine.definedTerms scopeId) incoming

/-- Define a platform contract in the service runtime. -/
def definePlatformService (scopeId : RuntimeScopeId) (definition : ContractDefinition) :
    EngineResult ServiceRuntimeState :=
  if engine.servicesPoisoned then .error .serviceRuntimeUnavailable
  else
    match engine.services.definePlatformContract scopeId definition with
    | some services => .ok services
    | none => .error .serviceRuntimeUnavailable

/-- Define a contract of the platform in a scope. A repetition changes nothing. -/
def definePlatformContractInScope (scopeId : RuntimeScopeId) (definition : ContractDefinition) :
    EngineOutcome :=
  if (engine.extensionsIn scopeId).any fun ext =>
      ext.contractDefinitions.any fun owned =>
        owned.definition.contract == definition.contract then
    (engine, .error (.platformContractReservationConflict definition.contract.display
      scopeId.asStr))
  else
    match (engine.platformDefinitionsIn scopeId).lookup definition.contract with
    | some existing =>
        if existing = definition then
          match engine.definePlatformService scopeId definition with
          | .error error => (engine, .error error)
          | .ok services => ({ engine with services := services }, .ok ())
        else
          (engine, .error (.contractDefinitionConflict definition.contract.display
            (displayTerms (termsOf existing)) (displayTerms (termsOf definition))))
    | none =>
        match engine.definePlatformService scopeId definition with
        | .error error => (engine, .error error)
        | .ok services =>
            ({ engine with
                services := services
                platformContractDefinitions :=
                  engine.platformContractDefinitions.insert scopeId
                    ((engine.platformDefinitionsIn scopeId).insert definition.contract
                      definition) }, .ok ())

/-- Remove the platform contracts of a scope. -/
def clearPlatformContractDefinitionsInScope (scopeId : RuntimeScopeId) : Engine :=
  { engine with
    services := engine.services.clearPlatformContractsInScope scopeId
    platformContractDefinitions := engine.platformContractDefinitions.erase scopeId }

/-! ## Preferred providers -/

/-- The preferred providers of one scope. -/
def preferencesIn (scopeId : RuntimeScopeId) : Dict ContractKey ComponentRef :=
  (engine.preferredContractProviders.lookup scopeId).getD ∅

/-- Prefer a provider, whether it is registered or not. -/
def setPreferredContractProviderPolicyInScope (scopeId : RuntimeScopeId) (contract : ContractKey)
    (provider : ComponentRef) : Engine :=
  { engine with
    preferredContractProviders := engine.preferredContractProviders.insert scopeId
      ((engine.preferencesIn scopeId).insert contract provider)
    services := engine.services.setPreferredProvider scopeId contract provider }

/-- Prefer a provider that is registered in the scope. -/
def setPreferredContractProviderInScope (scopeId : RuntimeScopeId) (contract : ContractKey)
    (provider : ComponentRef) : EngineOutcome :=
  match engine.instanceOf provider.instanceId with
  | .error error => (engine, .error error)
  | .ok ext =>
      if ext.scopeId = scopeId then
        (engine.setPreferredContractProviderPolicyInScope scopeId contract provider, .ok ())
      else
        (engine, .error (.invalidState ("provider instance `" ++ provider.instanceId.asStr ++
          "` does not belong to runtime scope `" ++ scopeId.asStr ++ "`")))

/-- Drop the preference for a contract. A scope without preferences is dropped too. -/
def clearPreferredContractProviderInScope (scopeId : RuntimeScopeId) (contract : ContractKey) :
    Engine :=
  { engine with
    preferredContractProviders :=
      match engine.preferredContractProviders.lookup scopeId with
      | none => engine.preferredContractProviders
      | some providers =>
          let rest := providers.erase contract
          if rest.entries.isEmpty then engine.preferredContractProviders.erase scopeId
          else engine.preferredContractProviders.insert scopeId rest
    services := engine.services.clearPreferredProvider scopeId contract }

/-- Drop every preference in a scope. -/
def clearPreferredContractProviderPoliciesInScope (scopeId : RuntimeScopeId) : Engine :=
  { engine with
    preferredContractProviders := engine.preferredContractProviders.erase scopeId
    services := (engine.preferencesIn scopeId).keys.foldl
      (fun services contract => services.clearPreferredProvider scopeId contract)
      engine.services }

/-! ## Grants -/

/-- Grant a secret pattern that the manifest of a component requests. -/
def grantRequestedSecretReadForInstance (instanceId : ExtensionInstanceId)
    (componentId : ComponentId) (pattern : SecretPathPattern) : EngineOutcome :=
  match engine.instanceOf instanceId with
  | .error error => (engine, .error error)
  | .ok ext =>
      match ext.manifest.components.find? fun component => component.id == componentId with
      | none =>
          (engine, .error (.secretComponentNotFound ext.manifest.id.asStr componentId.asStr))
      | some component =>
          if component.permissions.secretRead.any fun requested => requested.allowsPattern pattern
          then
            ({ engine with secrets := engine.secrets.grantRead ⟨instanceId, componentId⟩ pattern },
              .ok ())
          else
            (engine, .error (.secretPermissionNotRequested ext.manifest.id.asStr
              componentId.asStr pattern.display))

/-- Grant a runtime permission that the manifest of a component requests. -/
def grantRequestedRuntimePermissionForInstance (instanceId : ExtensionInstanceId)
    (componentId : ComponentId) (permission : RuntimePermission) : EngineOutcome :=
  match engine.instanceOf instanceId with
  | .error error => (engine, .error error)
  | .ok ext =>
      match ext.manifest.components.find? fun component => component.id == componentId with
      | none =>
          (engine, .error (.runtimePermissionComponentNotFound ext.manifest.id.asStr
            componentId.asStr))
      | some component =>
          if permission ∈ component.permissions.runtime then
            ({ engine with
                runtimePermissions :=
                  engine.runtimePermissions.grant ⟨instanceId, componentId⟩ permission }, .ok ())
          else
            (engine, .error (.runtimePermissionNotRequested ext.manifest.id.asStr
              componentId.asStr permission.display))

/-! ## Composition -/

/-- The composition of a scope, of the instances that are included. -/
def resolveCompositionForScope (scopeId : RuntimeScopeId) (included : ManagedExtension → Bool) :
    CompositionSnapshot :=
  let parts := (engine.extensionsIn scopeId).filter included
  resolveContracts engine.secrets
    ((engine.platformDefinitionsIn scopeId).values ++
      parts.flatMap fun ext => ext.contractDefinitions.map fun owned => owned.definition)
    (parts.flatMap fun ext => ext.contractProviders)
    (engine.preferencesIn scopeId)
    (parts.flatMap fun ext => ext.contractConsumers)

/-- The composition of the active instances of a scope. -/
def compositionSnapshotForScope (scopeId : RuntimeScopeId) : CompositionSnapshot :=
  engine.resolveCompositionForScope scopeId fun ext => ext.state == .active

/-- The composition of all instances of a scope. -/
def compositionTopologySnapshotForScope (scopeId : RuntimeScopeId) : CompositionSnapshot :=
  engine.resolveCompositionForScope scopeId fun _ => true

/-- The active providers of one contract in a scope. -/
def resolveActiveContractProvidersInScope (scopeId : RuntimeScopeId) (contract : ContractKey) :
    Except UnresolvedContractReason (List ComponentRef) :=
  let active := (engine.extensionsIn scopeId).filter fun ext => ext.state == .active
  let extensionDefinition := (active.flatMap fun ext => ext.contractDefinitions).find? fun owned =>
    owned.definition.contract == contract
  match ((engine.platformDefinitionsIn scopeId).lookup contract).or
      (extensionDefinition.map fun owned => owned.definition) with
  | none => .error .undefinedContract
  | some definition =>
      resolveContractProviders engine.secrets contract definition.resolution
        (active.flatMap fun ext => ext.contractProviders)
        ((engine.preferencesIn scopeId).lookup contract)

/-- The first component, in order, among some that define a contract. -/
def definitionOwnerAmong (contract : ContractKey) (extensions : List ManagedExtension) :
    Option ComponentRef :=
  ((((extensions.flatMap fun ext => ext.contractDefinitions).filter fun owned =>
    owned.definition.contract == contract).map fun owned => owned.owner).insertionSort
      componentRefLe).head?

/-- The component that defines a contract in a scope, active or not. -/
def contractDefinitionOwnerInScope (scopeId : RuntimeScopeId) (contract : ContractKey) :
    Option ComponentRef :=
  definitionOwnerAmong contract (engine.extensionsIn scopeId)

/-! ## Activation plans -/

/-- The scopes of some instances, each once, in order. -/
def scopesOf (seen : List RuntimeScopeId) :
    List ExtensionInstanceId → EngineResult (List RuntimeScopeId)
  | [] => .ok []
  | instanceId :: rest =>
      match engine.instanceOf instanceId with
      | .error error => .error error
      | .ok ext =>
          if ext.scopeId ∈ seen then scopesOf seen rest
          else
            match scopesOf (ext.scopeId :: seen) rest with
            | .error error => .error error
            | .ok scopes => .ok (ext.scopeId :: scopes)

/-- The dependencies of required consumers on the instances that define their contracts. -/
def definitionDependencies (scopeId : RuntimeScopeId) (eligible : ManagedExtension → Bool)
    (resolved : CompositionSnapshot) : List (ExtensionInstanceId × ExtensionInstanceId) :=
  (resolved.bindings.filter fun binding => binding.required).filterMap fun binding =>
    if ((engine.platformDefinitionsIn scopeId).lookup binding.contract).isSome then none
    else
      (definitionOwnerAmong binding.contract
        ((engine.extensionsIn scopeId).filter eligible)).map fun owner =>
          (owner.instanceId, binding.consumer.instanceId)

/-- Plan the activation of some instances. Active instances and those of the batch take
part in the composition. -/
def planExtensionActivation (orderedInstances : List ExtensionInstanceId) :
    EngineResult ActivationPlan :=
  match engine.scopesOf [] orderedInstances with
  | .error error => .error error
  | .ok scopes =>
      let eligible := fun ext : ManagedExtension =>
        ext.state == .active || orderedInstances.contains ext.instanceId
      let resolved := scopes.map fun scopeId =>
        (scopeId, engine.resolveCompositionForScope scopeId eligible)
      let composition : CompositionSnapshot :=
        ⟨resolved.flatMap fun part => part.2.bindings,
          resolved.flatMap fun part => part.2.unresolved⟩
      (buildActivationPlan composition orderedInstances
        (resolved.flatMap fun part =>
          engine.definitionDependencies part.1 eligible part.2)).mapError .activationPlan

end Engine

end Rintawa.ExtensionEngine
