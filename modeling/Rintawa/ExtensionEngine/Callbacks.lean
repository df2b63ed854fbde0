/-
# Callbacks of components

The engine runs the callbacks of components, one at a time. A callback is code of an
extension: what it asks the engine for and whether it fails are its own. Through its
context it reaches the registries below and nothing else of the engine.
-/

import Rintawa.ExtensionEngine.Registries
import Rintawa.ExtensionEngine.Services
import Rintawa.UiRuntime.Runtime

namespace Rintawa.ExtensionEngine

open Rintawa.Lib Rintawa.Sdk Rintawa.UiRuntime

/-! ## What callbacks reach -/

/-- The entry points of a component that is running. -/
inductive RuntimeCallback
  | pollRuntime
  | handleEvent (topic : String) (payload : List UInt8)
  | handleUiAction (event : UiActionEvent)
  deriving DecidableEq

/-- The entry points of a component. -/
inductive CallbackKind
  | start
  | stop
  | runtime (callback : RuntimeCallback)
  deriving DecidableEq

/-- A callback that was run. -/
structure ComponentCallback where
  owner : ComponentRef
  kind : CallbackKind
  deriving DecidableEq

/-- The registries that callbacks reach. The service runtime and the UI runtime are
behind locks, which a panic poisons. The callbacks that were run are recorded; nothing
reads the record. -/
structure EngineFacilities where
  runtimeEffects : RuntimeEffectRegistry
  services : ServiceRuntimeState
  ui : UiRuntimeState
  executionTargets : ExecutionTargetRegistry
  servicesPoisoned : Bool
  uiPoisoned : Bool
  callbacks : List ComponentCallback

def EngineFacilities.new : EngineFacilities :=
  ⟨.new, .new, .new, .new, false, false, []⟩

/-- What a callback asks for. Effects and targets are its own; services are called and
surfaces are changed by the component or, nested in a call, by a provider. -/
inductive ContextCall
  | registerRuntimeEffect (effect : RuntimeEffect)
  | revokeRuntimeEffect (effectId : RuntimeEffectId)
  | revokeAllRuntimeEffects
  | callService (caller : ComponentRef) (contract : ContractKey) (allowInactiveCaller : Bool)
      (request : ServiceRequest)
  | listProviders (caller : ComponentRef) (contract : ContractKey) (allowInactiveCaller : Bool)
  | mountUiSurface (owner : ComponentRef) (snapshot : UiSurfaceSnapshot)
  | patchUiSurface (owner : ComponentRef) (batch : UiPatchBatch)
  | unmountUiSurface (owner : ComponentRef) (surfaceId : UiSurfaceId)
  | requestWorldFocus (layerOwner : ComponentRef) (worldId : WorldId)
  | queueAction (layerOwner : ComponentRef) (event : UiActionEvent)
  | registerTarget (target : String)
  | revokeTargets

/-- Why a callback failed. Some failures discard the runtime of the component. -/
structure CallbackFailure where
  reason : String
  invalidatesRuntime : Bool
  deriving DecidableEq

/-- One run of a callback. -/
structure Callback where
  calls : List ContextCall
  failure : Option CallbackFailure

namespace EngineFacilities

variable (facilities : EngineFacilities) (secrets : SecretManager)

/-- Use the service runtime, unless its lock is poisoned. -/
def useServices (change : ServiceRuntimeState → ServiceRuntimeState) : EngineFacilities :=
  if facilities.servicesPoisoned then facilities
  else { facilities with services := change facilities.services }

/-- Use the UI runtime, unless its lock is poisoned. -/
def useUi (change : UiRuntimeState → UiOutcome) : EngineFacilities :=
  if facilities.uiPoisoned then facilities
  else { facilities with ui := (change facilities.ui).1 }

/-- Services and surfaces are only there while the component is executed. -/
def whileActive (executionActive : Bool) (used : EngineFacilities) : EngineFacilities :=
  if executionActive then used else facilities

/-- Carry out one request of a callback. -/
def perform (owner : ComponentRef) (executionActive : Bool) : ContextCall → EngineFacilities
  | .registerRuntimeEffect effect =>
      { facilities with runtimeEffects := (facilities.runtimeEffects.register owner effect).1 }
  | .revokeRuntimeEffect effectId =>
      { facilities with runtimeEffects := (facilities.runtimeEffects.revoke effectId owner).1 }
  | .revokeAllRuntimeEffects =>
      { facilities with runtimeEffects := facilities.runtimeEffects.revokeComponent owner }
  | .callService caller contract allowInactiveCaller request =>
      facilities.whileActive executionActive <| facilities.useServices fun services =>
        (services.call secrets caller contract allowInactiveCaller request).1
  | .listProviders caller contract allowInactiveCaller =>
      facilities.whileActive executionActive <| facilities.useServices fun services =>
        (services.listProviders secrets caller contract allowInactiveCaller).1
  | .mountUiSurface surfaceOwner snapshot =>
      facilities.whileActive executionActive <| facilities.useUi fun ui =>
        ui.mountSurface surfaceOwner snapshot
  | .patchUiSurface surfaceOwner batch =>
      facilities.whileActive executionActive <| facilities.useUi fun ui =>
        ui.applyPatches surfaceOwner batch
  | .unmountUiSurface surfaceOwner surfaceId =>
      facilities.whileActive executionActive <| facilities.useUi fun ui =>
        ui.unmountSurface surfaceOwner surfaceId
  | .requestWorldFocus layerOwner worldId =>
      facilities.whileActive executionActive <| facilities.useUi fun ui =>
        ui.queueWorldFocusRequest layerOwner worldId
  | .queueAction layerOwner event =>
      facilities.whileActive executionActive <| facilities.useUi fun ui =>
        ui.queueAction layerOwner event
  | .registerTarget target =>
      { facilities with
        executionTargets := (facilities.executionTargets.register owner target).1 }
  | .revokeTargets =>
      { facilities with executionTargets := facilities.executionTargets.revokeComponent owner }

/-- Carry out the requests of a callback, in order. -/
def performAll (owner : ComponentRef) (executionActive : Bool) :
    EngineFacilities → List ContextCall → EngineFacilities
  | facilities, [] => facilities
  | facilities, call :: rest =>
      performAll owner executionActive (facilities.perform secrets owner executionActive call) rest

/-- Run a callback. Components that are stopped are not executed any more. -/
def runCallback (owner : ComponentRef) (kind : CallbackKind) (callback : Callback) :
    EngineFacilities :=
  performAll secrets owner (decide (kind ≠ .stop))
    { facilities with callbacks := facilities.callbacks ++ [⟨owner, kind⟩] } callback.calls

/-! ## Activation in the service and UI runtimes -/

/-- Change the activation of an instance in the UI runtime. Deactivation goes through a
poisoned lock. -/
def setUiActive (instanceId : ExtensionInstanceId) (isActive : Bool) :
    EngineFacilities × Except UiError Unit :=
  if isActive && facilities.uiPoisoned then (facilities, .error .runtimeUnavailable)
  else
    let outcome := facilities.ui.setInstanceActive instanceId isActive
    ({ facilities with ui := outcome.1 }, outcome.2)

/-- Activate an instance in the service runtime. `none` when the lock is poisoned or the
instance is not registered. -/
def activateServices (instanceId : ExtensionInstanceId) : Option EngineFacilities :=
  if facilities.servicesPoisoned then none
  else (facilities.services.activateInstance instanceId).map fun services =>
    { facilities with services := services }

/-- Deactivate an instance in the service runtime. -/
def deactivateServices (instanceId : ExtensionInstanceId) : EngineFacilities :=
  { facilities with services := facilities.services.deactivateInstance instanceId }

/-- Take back the effects and the targets of an instance. -/
def revokeInstance (instanceId : ExtensionInstanceId) : EngineFacilities :=
  { facilities with
    runtimeEffects := facilities.runtimeEffects.revokeInstance instanceId
    executionTargets := facilities.executionTargets.revokeInstance instanceId }

end EngineFacilities

end Rintawa.ExtensionEngine
