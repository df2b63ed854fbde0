/-
# The host state of a guest

The store of one WebAssembly component keeps the state of the host side: for which
component the guest acts, which capabilities it has, and what the components that it acts
for own there. A provider of execution targets acts for the components that it hosts too,
with one and the same store.
-/

import Mathlib.Data.Finset.Basic
import Rintawa.ExtensionEngine.Registration
import Rintawa.ExtensionEngine.Registries
import Rintawa.ExtensionEngine.Services
import Rintawa.Lib.Handles

namespace Rintawa.WasmRuntime

open Rintawa.Lib Rintawa.Sdk Rintawa.ExtensionEngine

/-! ## Limits -/

/-- The resource limits that the host side checks. -/
structure WasmExecutionBudget where
  maxHostMessageBytes : Nat := 1024 * 1024
  maxArtifactReadBytes : Nat := 8 * 1024 * 1024
  maxArtifactImportBytes : Nat := 32 * 1024 * 1024
  maxAssetImportBytes : Nat := 32 * 1024 * 1024
  maxUserContentWritesPerExecution : Nat := 4
  maxWorldSessionMutationsPerExecution : Nat := 8
  maxWorldCommandSubmissionsPerExecution : Nat := 8
  maxWorldProjectionReadsPerExecution : Nat := 8
  maxBackgroundTasks : Nat := 8
  minBackgroundTaskIntervalMs : Nat := 10
  maxNetworkHandles : Nat := 64
  maxNetworkIoBytes : Nat := 64 * 1024

/-! ## What components own -/

/-- An effect of the engine under a handle of the guest. -/
structure ActiveWasmRuntimeEffect where
  owner : ComponentRef
  effectId : RuntimeEffectId
  effect : RuntimeEffect
  deriving DecidableEq

/-- What a guest asks to be done to the effects of the engine once its callback ends. -/
inductive WasmRuntimeEffectOperation
  | subscribe (owner : ComponentRef) (handle : String) (effect : RuntimeEffect)
  | unsubscribe (handle : String) (effect : ActiveWasmRuntimeEffect)
  deriving DecidableEq

/-- A periodic task. Times are in milliseconds. -/
structure ActiveWasmTask where
  owner : ComponentRef
  interval : Nat
  nextDue : Nat
  deriving DecidableEq

/-- What a network handle stands for. -/
inductive NetworkHandleKind
  | listener
  | stream
  deriving DecidableEq

/-- A network handle with its owner. -/
structure OwnedNetworkHandle where
  owner : ComponentRef
  kind : NetworkHandleKind
  deriving DecidableEq

/-- An asset that is uploaded in chunks. -/
structure PendingAssetUpload where
  expectedSize : Nat
  mediaType : String
  bytes : List UInt8
  deriving DecidableEq

/-- A resource that is uploaded in chunks. -/
structure PendingUserResourceUpload where
  expectedSize : Nat
  mediaType : String
  name : Option String
  bytes : List UInt8
  deriving DecidableEq

/-- What a guest has registered in one registration. The sets of keys that refuse
repetitions are the keys of what is there. -/
structure WasmRegistrationScope where
  capabilities : List String
  worldSchemas : List WorldSchemaContribution
  definitions : List ContractDefinition
  providers : List ContractProvider
  consumers : List ContractConsumer
  uiSurfaces : List UiSurfaceContribution
  uiLayer : Option UiLayerDescriptor
  worldPresentation : Option WorldPresentationDescriptor

/-- A registration to which nothing was contributed. -/
def WasmRegistrationScope.empty : WasmRegistrationScope :=
  ⟨[], [], [], [], [], [], none, none⟩

/-! ## The state -/

/-- The switches of the capabilities. -/
structure GuestAccess where
  runtimeEffectsActive : Bool
  taskAccessActive : Bool
  networkAccessActive : Bool
  hostAccessActive : Bool
  secretAccessActive : Bool
  serviceAccessActive : Bool
  uiAccessActive : Bool
  executionTargetRegistrationActive : Bool
  deriving DecidableEq

/-- Every switch is off. -/
def GuestAccess.closed : GuestAccess :=
  ⟨false, false, false, false, false, false, false, false⟩

/-- How often a guest has written in the current callback. -/
structure ExecutionCounters where
  userContentWritesThisExecution : Nat
  worldSessionMutationsThisExecution : Nat
  worldCommandSubmissionsThisExecution : Nat
  worldProjectionReadsThisExecution : Nat
  deriving DecidableEq

/-- The counters of a new execution. -/
def ExecutionCounters.zero : ExecutionCounters :=
  ⟨0, 0, 0, 0⟩


/-- The host side of the store of one component. Tasks and network handles are numbered
from zero and uploads from one. Sources of artifacts that are being loaded are under the
handles that the guest borrows. -/
structure WasmHostState extends GuestAccess, ExecutionCounters where
  budget : WasmExecutionBudget
  componentId : ComponentId
  extensionId : Option ExtensionId
  instanceId : Option ExtensionInstanceId
  scopeId : Option RuntimeScopeId
  executionOwner : Option ComponentRef
  registrationScope : Option WasmRegistrationScope
  nextEffectHandle : Nat
  effectHandles : Dict String ActiveWasmRuntimeEffect
  pendingEffects : List WasmRuntimeEffectOperation
  pendingRevocations : Finset String
  taskHandlerAvailable : Bool
  activeTasks : HandleTable id ActiveWasmTask
  networkHandles : HandleTable id OwnedNetworkHandle
  assetUploads : HandleTable Nat.succ PendingAssetUpload
  userResourceUploads : HandleTable Nat.succ PendingUserResourceUpload
  pendingExecutionTargets : List String
  resourceTable : List Nat

namespace WasmHostState

/-- A new store. -/
def withHostServicesAndBudget (componentId : ComponentId) (taskHandlerAvailable : Bool)
    (budget : WasmExecutionBudget) : WasmHostState where
  toGuestAccess := .closed
  toExecutionCounters := .zero
  budget := budget
  componentId := componentId
  extensionId := none
  instanceId := none
  scopeId := none
  executionOwner := none
  registrationScope := none
  nextEffectHandle := 0
  effectHandles := ∅
  pendingEffects := []
  pendingRevocations := ∅
  taskHandlerAvailable := taskHandlerAvailable
  activeTasks := .empty
  networkHandles := .empty
  assetUploads := .empty
  userResourceUploads := .empty
  pendingExecutionTargets := []
  resourceTable := []

variable (state : WasmHostState)

/-! ## Registration -/

/-- Why a driver of a callback returns an error before or after the guest runs. -/
inductive WasmError
  | registrationInProgress
  | registrationCompleted
  | targetRegistrationInProgress
  | registrationNotActive
  | registrationNotCompleted
  | differentOwner
  | effect (error : RuntimeEffectError)
  | effectRollbackFailed (operation : RuntimeEffectError) (rollback : List RuntimeEffectError)
  deriving DecidableEq, Repr

/-- Open the registration of the component itself. It happens once. -/
def beginRegistration (identity : ComponentIdentity) : Except WasmError WasmHostState :=
  if state.registrationScope.isSome then .error .registrationInProgress
  else if state.extensionId.isSome then .error .registrationCompleted
  else
    .ok { state with
      registrationScope := some .empty
      extensionId := some identity.extensionId
      instanceId := some identity.instanceId
      scopeId := some identity.scopeId }

/-- Open the registration of a component that is hosted. The switches are turned off even
when a registration is in progress. -/
def beginTargetComponentRegistration : WasmHostState × Except WasmError Unit :=
  let closed : WasmHostState := { state with
    executionOwner := none
    toGuestAccess := .closed }
  if closed.registrationScope.isSome then (closed, .error .targetRegistrationInProgress)
  else ({ closed with registrationScope := some .empty }, .ok ())

/-- Close a registration of a hosted component without a result. -/
def cancelTargetComponentRegistration : WasmHostState :=
  { state with registrationScope := none }

/-- Close a registration and take what was registered. -/
def finishRegistration : WasmHostState × Except WasmError WasmRegistrationScope :=
  match state.registrationScope with
  | none => (state, .error .registrationNotActive)
  | some scope => ({ state with registrationScope := none }, .ok scope)

/-- Forget a registration of the component itself. -/
def cancelRegistration : WasmHostState :=
  { state with
    registrationScope := none
    extensionId := none
    instanceId := none
    scopeId := none }

/-! ## Opening and closing callbacks -/

/-- The component itself, once it is registered. -/
def registeredOwner : Option ComponentRef :=
  state.instanceId.map fun instanceId => ⟨instanceId, state.componentId⟩

/-- Check that the engine calls the component that was registered. -/
def validateExecutionOwner (identity : ComponentIdentity) : Except WasmError Unit :=
  match state.extensionId, state.instanceId, state.scopeId with
  | some extensionId, some instanceId, some scopeId =>
      if identity = ⟨extensionId, instanceId, scopeId, state.componentId⟩ then .ok ()
      else .error .differentOwner
  | _, _, _ => .error .registrationNotCompleted

/-- Close everything that a callback may have opened, and drop what it has asked for. -/
def discardGuestExecution : WasmHostState :=
  { state with
    registrationScope := none
    executionOwner := none
    toGuestAccess := .closed
    toExecutionCounters := .zero
    pendingEffects := []
    pendingRevocations := ∅
    pendingExecutionTargets := [] }

/-- The switches of an ordinary callback. -/
def openAccess : GuestAccess :=
  ⟨true, true, true, true, true, true, true, false⟩

/-- Open a callback of the component itself. -/
def beginGuestExecution : WasmHostState :=
  { state with
    executionOwner := state.registeredOwner
    toGuestAccess := openAccess
    toExecutionCounters := .zero }

/-- Open a callback of a component that is hosted. -/
def beginDelegatedGuestExecution (owner : ComponentRef) : WasmHostState :=
  { state with
    executionOwner := some owner
    toGuestAccess := openAccess
    toExecutionCounters := .zero }

/-- Open a task of a component that is hosted. Effects need the context of their owner,
which is not there. -/
def beginDelegatedTaskExecution (owner : ComponentRef) : WasmHostState :=
  { state with
    executionOwner := some owner
    toGuestAccess := { openAccess with runtimeEffectsActive := false }
    toExecutionCounters := .zero }

/-- Close a task of a hosted component. -/
def finishDelegatedTaskExecution : WasmHostState :=
  state.discardGuestExecution

/-- Open a start callback, which may publish execution targets. -/
def beginStartExecution : WasmHostState :=
  { state.beginGuestExecution with
    executionTargetRegistrationActive := true
    pendingExecutionTargets := [] }

/-- Take the targets that wait. -/
def takePendingExecutionTargets : WasmHostState × List String :=
  ({ state with pendingExecutionTargets := [] }, state.pendingExecutionTargets)

/-- The switches of a service callback. Publishing targets is left as it is. -/
def serviceAccess (access : GuestAccess) : GuestAccess :=
  { access with
    runtimeEffectsActive := false
    taskAccessActive := false
    networkAccessActive := false
    hostAccessActive := false
    secretAccessActive := true
    serviceAccessActive := true
    uiAccessActive := true }

/-- Open a service callback of the component itself. -/
def beginServiceExecution : WasmHostState :=
  { state with
    executionOwner := state.registeredOwner
    toGuestAccess := serviceAccess state.toGuestAccess }

/-- Open a service callback of a component that is hosted. -/
def beginDelegatedServiceExecution (owner : ComponentRef) : WasmHostState :=
  { state with
    executionOwner := some owner
    toGuestAccess := serviceAccess state.toGuestAccess }

/-- Close a service callback. Effects were off and stay off. -/
def finishServiceExecution : WasmHostState :=
  { state with
    executionOwner := none
    toGuestAccess := { GuestAccess.closed with
      runtimeEffectsActive := state.runtimeEffectsActive } }

/-! ## Effects of a callback -/

/-- How far the effects of a callback are committed. -/
structure EffectCommit where
  state : WasmHostState
  registry : RuntimeEffectRegistry
  registeredHandles : List String
  revokedEffects : List (String × ActiveWasmRuntimeEffect)

/-- Commit operations in order, up to the first one that the registry refuses. -/
def EffectCommit.run (caller : ComponentRef) :
    EffectCommit → List WasmRuntimeEffectOperation → EffectCommit × Option RuntimeEffectError
  | commit, [] => (commit, none)
  | commit, .subscribe owner handle effect :: rest =>
      match commit.registry.register caller effect with
      | (registry, .error error) => ({ commit with registry := registry }, some error)
      | (registry, .ok effectId) =>
          EffectCommit.run caller
            { state := { commit.state with
                effectHandles :=
                  commit.state.effectHandles.insert handle ⟨owner, effectId, effect⟩ }
              registry := registry
              registeredHandles := commit.registeredHandles ++ [handle]
              revokedEffects := commit.revokedEffects } rest
  | commit, .unsubscribe handle effect :: rest =>
      match commit.registry.revoke effect.effectId caller with
      | (registry, .error error) => ({ commit with registry := registry }, some error)
      | (registry, .ok ()) =>
          EffectCommit.run caller
            { state := { commit.state with
                effectHandles := commit.state.effectHandles.erase handle
                pendingRevocations := commit.state.pendingRevocations.erase handle }
              registry := registry
              registeredHandles := commit.registeredHandles
              revokedEffects := commit.revokedEffects ++ [(handle, effect)] } rest

/-- A host state and a registry with the errors of a rollback. -/
abbrev EffectRollback := WasmHostState × RuntimeEffectRegistry × List RuntimeEffectError

/-- Revoke an effect that was registered. It stays when that fails. -/
def rollBackRegistered (caller : ComponentRef) (rollback : EffectRollback) (handle : String) :
    EffectRollback :=
  match rollback.1.effectHandles.lookup handle with
  | none => rollback
  | some effect =>
      match rollback.2.1.revoke effect.effectId caller with
      | (registry, .error error) => (rollback.1, registry, rollback.2.2 ++ [error])
      | (registry, .ok ()) =>
          ({ rollback.1 with effectHandles := rollback.1.effectHandles.erase handle }, registry,
            rollback.2.2)

/-- Register an effect that was revoked, under a new identifier. -/
def rollBackRevoked (caller : ComponentRef) (rollback : EffectRollback)
    (revoked : String × ActiveWasmRuntimeEffect) : EffectRollback :=
  match rollback.2.1.register caller revoked.2.effect with
  | (registry, .error error) => (rollback.1, registry, rollback.2.2 ++ [error])
  | (registry, .ok effectId) =>
      ({ rollback.1 with
          effectHandles := rollback.1.effectHandles.insert revoked.1
            { revoked.2 with effectId := effectId } }, registry, rollback.2.2)

/-- Undo what was committed, last first. -/
def rollbackRuntimeEffects (caller : ComponentRef) (commit : EffectCommit) : EffectRollback :=
  let registered := commit.registeredHandles.reverse.foldl (rollBackRegistered caller)
    (commit.state, commit.registry, [])
  let revoked := commit.revokedEffects.reverse.foldl (rollBackRevoked caller) registered
  ({ revoked.1 with pendingRevocations := ∅ }, revoked.2)

/-- Commit the effects that a callback has asked for, all or none. -/
def commitRuntimeEffects (caller : ComponentRef) (registry : RuntimeEffectRegistry) :
    WasmHostState × RuntimeEffectRegistry × Except WasmError Unit :=
  let ran := EffectCommit.run caller
    ⟨{ state with pendingEffects := [] }, registry, [], []⟩ state.pendingEffects
  match ran.2 with
  | none => (ran.1.state, ran.1.registry, .ok ())
  | some error =>
      let undone := rollbackRuntimeEffects caller ran.1
      (undone.1, undone.2.1,
        .error (if undone.2.2.isEmpty then .effect error
          else .effectRollbackFailed error undone.2.2))

/-- Close a callback and commit its effects. -/
def finishGuestExecution (caller : ComponentRef) (registry : RuntimeEffectRegistry) :
    WasmHostState × RuntimeEffectRegistry × Except WasmError Unit :=
  let committed := commitRuntimeEffects { state with toGuestAccess := .closed } caller registry
  ({ committed.1 with executionOwner := none }, committed.2)

/-! ## Cleaning up -/

/-- Cancel the tasks of a component and close its network handles. -/
def revokeRuntimeResourcesForOwner (owner : ComponentRef) : WasmHostState :=
  { state with
    activeTasks := state.activeTasks.retain fun task => task.owner != owner
    networkHandles := state.networkHandles.retain fun resource => resource.owner != owner }

/-- Forget the handles of the effects of a component. -/
def forgetEffectHandlesForOwner (owner : ComponentRef) : WasmHostState :=
  let kept := state.effectHandles.retain fun _ effect => effect.owner != owner
  { state with
    effectHandles := kept
    pendingRevocations := state.pendingRevocations.filter fun handle =>
      (kept.lookup handle).isSome = true }

/-- Close a callback that failed, with everything that its component owns here. -/
def abortGuestExecution (caller : ComponentRef) (registry : RuntimeEffectRegistry) :
    WasmHostState × RuntimeEffectRegistry :=
  let discarded := state.discardGuestExecution
  ({ discarded with
      effectHandles := discarded.effectHandles.retain fun _ effect => effect.owner != caller
    }.revokeRuntimeResourcesForOwner caller, registry.revokeComponent caller)

/-- Set the next time of a task. -/
def rescheduleTask (handle now : Nat) : WasmHostState :=
  { state with
    activeTasks := state.activeTasks.modify handle fun task =>
      { task with nextDue := now + task.interval } }

end WasmHostState

end Rintawa.WasmRuntime
