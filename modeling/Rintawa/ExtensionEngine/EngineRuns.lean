/-
# Runs of the extension engine

The operations of the engine follow each other in any order. Each of them changes the
instances, and what the engine keeps beside them, by a few kinds of changes; between the
changes the registries stay consistent with the instances.
-/

import Mathlib.Logic.Relation
import Rintawa.Lib.Transition
import Rintawa.ExtensionEngine.ArtifactLoader
import Rintawa.ExtensionEngine.Mirrors

namespace Rintawa.ExtensionEngine

open Rintawa.Lib Rintawa.Sdk Rintawa.UiRuntime

/-! ## Operations -/

/-- The operations of the engine, with what the callbacks that they run do. -/
inductive EngineOp
  | registerExtensionInstance (instanceId : ExtensionInstanceId) (scopeId : RuntimeScopeId)
      (manifest : ExtensionManifest) (components : List Component)
  | tryLoadArchive (archive : RtwArchive) (instanceId : ExtensionInstanceId)
      (scopeId : RuntimeScopeId)
  | startExtensionInstance (instanceId : ExtensionInstanceId) (script : InstanceScript)
  | stopExtensionInstance (instanceId : ExtensionInstanceId) (script : InstanceScript)
  | unregisterExtensionInstance (instanceId : ExtensionInstanceId) (script : InstanceScript)
  | runActiveComponent (owner : ComponentRef) (entry : RuntimeCallback) (callback : Callback)
      (scripts : ExtensionInstanceId → InstanceScript)
  | registerExecutionTargetHost (owner : ComponentRef) (target : String)
  | definePlatformContractInScope (scopeId : RuntimeScopeId) (definition : ContractDefinition)
  | clearPlatformContractDefinitionsInScope (scopeId : RuntimeScopeId)
  | setPreferredContractProviderPolicyInScope (scopeId : RuntimeScopeId) (contract : ContractKey)
      (provider : ComponentRef)
  | setPreferredContractProviderInScope (scopeId : RuntimeScopeId) (contract : ContractKey)
      (provider : ComponentRef)
  | clearPreferredContractProviderInScope (scopeId : RuntimeScopeId) (contract : ContractKey)
  | clearPreferredContractProviderPoliciesInScope (scopeId : RuntimeScopeId)
  | grantRequestedSecretReadForInstance (instanceId : ExtensionInstanceId)
      (componentId : ComponentId) (pattern : SecretPathPattern)
  | grantRequestedRuntimePermissionForInstance (instanceId : ExtensionInstanceId)
      (componentId : ComponentId) (permission : RuntimePermission)
  | revokeSecretReads (owner : ComponentRef)
  | callService (caller : ComponentRef) (contract : ContractKey) (allowInactiveCaller : Bool)
      (request : ServiceRequest)
  | listProviders (caller : ComponentRef) (contract : ContractKey) (allowInactiveCaller : Bool)
  | presentUi (call : {call : UiCall // call.isPresentation = true})
  | poisonServices
  | poisonUi

/-- Carry out an operation. -/
def Engine.run (engine : Engine) : EngineOp → EngineOutcome
  | .registerExtensionInstance instanceId scopeId manifest components =>
      engine.registerExtensionInstance instanceId scopeId manifest components
  | .tryLoadArchive archive instanceId scopeId =>
      let loaded := engine.tryLoadArchive archive instanceId scopeId
      (loaded.1, loaded.2.map fun _ => ())
  | .startExtensionInstance instanceId script => engine.startExtensionInstance instanceId script
  | .stopExtensionInstance instanceId script => engine.stopExtensionInstance instanceId script
  | .unregisterExtensionInstance instanceId script =>
      engine.unregisterExtensionInstance instanceId script
  | .runActiveComponent owner entry callback scripts =>
      engine.runActiveComponent owner entry callback scripts
  | .registerExecutionTargetHost owner target => engine.registerExecutionTargetHost owner target
  | .definePlatformContractInScope scopeId definition =>
      engine.definePlatformContractInScope scopeId definition
  | .clearPlatformContractDefinitionsInScope scopeId =>
      (engine.clearPlatformContractDefinitionsInScope scopeId, .ok ())
  | .setPreferredContractProviderPolicyInScope scopeId contract provider =>
      (engine.setPreferredContractProviderPolicyInScope scopeId contract provider, .ok ())
  | .setPreferredContractProviderInScope scopeId contract provider =>
      engine.setPreferredContractProviderInScope scopeId contract provider
  | .clearPreferredContractProviderInScope scopeId contract =>
      (engine.clearPreferredContractProviderInScope scopeId contract, .ok ())
  | .clearPreferredContractProviderPoliciesInScope scopeId =>
      (engine.clearPreferredContractProviderPoliciesInScope scopeId, .ok ())
  | .grantRequestedSecretReadForInstance instanceId componentId pattern =>
      engine.grantRequestedSecretReadForInstance instanceId componentId pattern
  | .grantRequestedRuntimePermissionForInstance instanceId componentId permission =>
      engine.grantRequestedRuntimePermissionForInstance instanceId componentId permission
  | .revokeSecretReads owner =>
      ({ engine with secrets := engine.secrets.revokeComponent owner }, .ok ())
  | .callService caller contract allowInactiveCaller request =>
      ({ engine with
          toEngineFacilities := engine.useServices fun services =>
            (services.call engine.secrets caller contract allowInactiveCaller request).1 },
        .ok ())
  | .listProviders caller contract allowInactiveCaller =>
      ({ engine with
          toEngineFacilities := engine.useServices fun services =>
            (services.listProviders engine.secrets caller contract allowInactiveCaller).1 },
        .ok ())
  | .presentUi call =>
      let presented := engine.changeUi fun ui => ui.run call.1
      (presented.1, presented.2.mapError .ui)
  | .poisonServices => ({ engine with servicesPoisoned := true }, .ok ())
  | .poisonUi => ({ engine with uiPoisoned := true }, .ok ())

/-- An operation with what it returned. -/
structure EngineEvent where
  op : EngineOp
  result : EngineResult Unit

/-- The transition system of the engine. The host configures its secrets at first. -/
def engineSystem : Lts Engine EngineEvent where
  init engine := engine = .new
  step engine event engine' := engine.run event.op = (engine', event.result)

/-- Carry out operations one after the other. -/
def Engine.runAll (engine : Engine) : List EngineOp → Engine × List EngineEvent
  | [] => (engine, [])
  | op :: rest =>
      let next := engine.run op
      let final := next.1.runAll rest
      (final.1, ⟨op, next.2⟩ :: final.2)

/-- Operations make a run. -/
theorem Engine.run_runAll (engine : Engine) (ops : List EngineOp) :
    engineSystem.Run engine (engine.runAll ops).2 (engine.runAll ops).1 := by
  induction ops generalizing engine with
  | nil => exact .refl engine
  | cons op rest ih => exact .cons rfl (ih _)

end Rintawa.ExtensionEngine
