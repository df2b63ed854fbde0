/-
# Runs of the UI runtime

Any operation can follow any other. A step shows the call, its result and what the
host would present afterwards. What one accepted call does is said once for each
operation; a rejected call does nothing.
-/

import Rintawa.Lib.Table
import Rintawa.Lib.Transition
import Rintawa.UiRuntime.Runtime

namespace Rintawa.UiRuntime

open Rintawa.Lib Rintawa.Sdk

/-- The operations of the runtime. -/
inductive UiCall
  | registerInstance (instanceId : ExtensionInstanceId) (scopeId : RuntimeScopeId)
      (surfaces : List OwnedUiSurfaceContribution) (layers : List OwnedUiLayerDescriptor)
  | registerWorldPresentation (owned : OwnedWorldPresentationDescriptor)
  | unregisterInstance (instanceId : ExtensionInstanceId)
  | setInstanceActive (instanceId : ExtensionInstanceId) (isActive : Bool)
  | attachLayer (owner : ComponentRef) (descriptor : UiLayerDescriptor)
  | attachRegisteredLayer (owner : ComponentRef)
  | detachLayer (owner : ComponentRef)
  | queueWorldFocusRequest (owner : ComponentRef) (worldId : WorldId)
  | drainWorldFocusRequests
  | recordWorldFocusFailure (owner : ComponentRef) (worldId : WorldId) (diagnostic : String)
  | setFocusedWorldScope (owner : ComponentRef) (worldId : WorldId) (scopeId : RuntimeScopeId)
      (descriptor : WorldPresentationDescriptor)
  | clearFocusedWorldScope (owner : ComponentRef)
  | clearFocusedWorldScopeForAllLayers (scopeId : RuntimeScopeId)
  | mountSurface (owner : ComponentRef) (snapshot : UiSurfaceSnapshot)
  | applyPatches (owner : ComponentRef) (batch : UiPatchBatch)
  | unmountSurface (owner : ComponentRef) (surfaceId : UiSurfaceId)
  | queueAction (layerOwner : ComponentRef) (event : UiActionEvent)
  | drainQueuedActions
  deriving DecidableEq

/-- Carry out one operation. -/
def UiRuntimeState.run (state : UiRuntimeState) : UiCall → UiOutcome
  | .registerInstance instanceId scopeId surfaces layers =>
      state.registerInstance instanceId scopeId surfaces layers
  | .registerWorldPresentation owned => state.registerWorldPresentation owned
  | .unregisterInstance instanceId => state.unregisterInstance instanceId
  | .setInstanceActive instanceId isActive => state.setInstanceActive instanceId isActive
  | .attachLayer owner descriptor => state.attachLayer owner descriptor
  | .attachRegisteredLayer owner => state.attachRegisteredLayer owner
  | .detachLayer owner => state.detachLayer owner
  | .queueWorldFocusRequest owner worldId => state.queueWorldFocusRequest owner worldId
  | .drainWorldFocusRequests => (state.drainWorldFocusRequests.1, .ok ())
  | .recordWorldFocusFailure owner worldId diagnostic =>
      state.recordWorldFocusFailure owner worldId diagnostic
  | .setFocusedWorldScope owner worldId scopeId descriptor =>
      state.setFocusedWorldScope owner worldId scopeId descriptor
  | .clearFocusedWorldScope owner => state.clearFocusedWorldScope owner
  | .clearFocusedWorldScopeForAllLayers scopeId =>
      state.clearFocusedWorldScopeForAllLayers scopeId
  | .mountSurface owner snapshot => state.mountSurface owner snapshot
  | .applyPatches owner batch => state.applyPatches owner batch
  | .unmountSurface owner surfaceId => state.unmountSurface owner surfaceId
  | .queueAction layerOwner event => state.queueAction layerOwner event
  | .drainQueuedActions => (state.drainQueuedActions.1, .ok ())

/-- What is visible of one step: the call, its result, and what the host presents. -/
structure UiLabel where
  call : UiCall
  result : Except UiError Unit
  surfaces : List UiPresentationSurface

/-- One step carries out one call. -/
def UiStep (state : UiRuntimeState) (label : UiLabel) (state' : UiRuntimeState) : Prop :=
  state.run label.call = (state', label.result) ∧
    label.surfaces = state'.presentationSurfaces

/-- The transition system of the runtime. -/
def uiSystem : Lts UiRuntimeState UiLabel where
  init state := state = .new
  step := UiStep

/-- Carry out calls one after the other. -/
def UiRuntimeState.runAll (state : UiRuntimeState) : List UiCall → UiRuntimeState × List UiLabel
  | [] => (state, [])
  | call :: rest =>
      let next := state.run call
      let final := next.1.runAll rest
      (final.1, ⟨call, next.2, next.1.presentationSurfaces⟩ :: final.2)

/-- Calls make a run. -/
theorem UiRuntimeState.run_runAll (state : UiRuntimeState) (calls : List UiCall) :
    uiSystem.Run state (state.runAll calls).2 (state.runAll calls).1 := by
  induction calls generalizing state with
  | nil => exact .refl state
  | cons call rest ih => exact .cons ⟨rfl, rfl⟩ (ih (state.run call).1)

/-! ## Checks -/

variable {error : UiError} {next : Except UiError UiRuntimeState} {state state' : UiRuntimeState}

theorem require_eq_ok_iff {condition : Bool} {value : Unit} :
    require condition error = .ok value ↔ condition = true := by
  cases condition <;> simp [require]

theorem found_eq_ok_iff {α : Type} {value : Option α} {result : α} :
    found value error = .ok result ↔ value = some result := by
  cases value <;> simp [found]

/-- A checked operation either succeeds with its next state or changes nothing. -/
theorem settle_eq_iff {result : Except UiError Unit} :
    settle state next = (state', result) ↔
      (next = .ok state' ∧ result = .ok ()) ∨
        ∃ error, next = .error error ∧ state' = state ∧ result = .error error := by
  cases next with
  | ok next =>
      simp [settle, @eq_comm _ (Except.ok ()) result]
  | error error =>
      simp [settle, @eq_comm _ state state', @eq_comm _ (Except.error error) result]

theorem settle_ok_iff : settle state next = (state', .ok ()) ↔ next = .ok state' := by
  rw [settle_eq_iff]
  simp

theorem settle_error (h : settle state next = (state', .error error)) : state' = state := by
  rcases settle_eq_iff.mp h with ⟨-, hresult⟩ | ⟨-, -, hstate, -⟩
  · cases hresult
  · exact hstate

/-! ## Attached layers -/

/-- A layer that is found is attached and has the owner asked for. -/
theorem UiRuntimeState.findLayer_some {owner : ComponentRef} {scopeId : RuntimeScopeId}
    {layer : ActiveUiLayer} (h : state.findLayer owner = some (scopeId, layer)) :
    state.layers.lookup scopeId = some layer ∧ layer.owner = owner := by
  have hmem := List.mem_of_find?_eq_some h
  have howner := List.find?_some h
  exact ⟨Dict.mem_pairs_iff.mp hmem, by simpa using howner⟩

/-- An attached layer is found under its owner, or another one is. -/
theorem UiRuntimeState.findLayer_isSome {scopeId : RuntimeScopeId} {layer : ActiveUiLayer}
    (h : state.layers.lookup scopeId = some layer) :
    (state.findLayer layer.owner).isSome = true := by
  rw [UiRuntimeState.findLayer, List.find?_isSome]
  exact ⟨(scopeId, layer), Dict.mem_pairs_iff.mpr h, by simp⟩

/-! ## Rejected calls -/

/-- A call that is rejected leaves the state as it is. The layer that a drain of focus requests has
found is still there when it is marked. -/
theorem UiRuntimeState.run_error {state state' : UiRuntimeState} {call : UiCall}
    {error : UiError} (h : state.run call = (state', .error error)) : state' = state := by
  cases call with
  | registerInstance => exact settle_error h
  | registerWorldPresentation => exact settle_error h
  | unregisterInstance instanceId =>
      simp only [run, unregisterInstance] at h
      split at h <;> cases h
  | setInstanceActive instanceId isActive =>
      simp only [run, setInstanceActive] at h
      split at h
      · cases h
        rfl
      · split at h <;> cases h
  | attachLayer => exact settle_error h
  | attachRegisteredLayer owner =>
      simp only [run, attachRegisteredLayer] at h
      split at h
      · cases h
        rfl
      · exact settle_error h
  | detachLayer => exact settle_error h
  | queueWorldFocusRequest owner worldId =>
      simp only [run, queueWorldFocusRequest] at h
      split at h
      · cases h
        rfl
      · next scopeId layer hfound =>
          have hlayer := (findLayer_some hfound).1
          split at h
          · simp [queueWorldFocusRequest.markPending, hlayer] at h
          · split at h
            · cases h
              rfl
            · simp [queueWorldFocusRequest.markPending, hlayer] at h
  | drainWorldFocusRequests => cases h
  | recordWorldFocusFailure owner worldId diagnostic =>
      simp only [run, recordWorldFocusFailure] at h
      split at h
      · cases h
        rfl
      · split at h <;> cases h
  | setFocusedWorldScope => exact settle_error h
  | clearFocusedWorldScope => exact settle_error h
  | clearFocusedWorldScopeForAllLayers => cases h
  | mountSurface => exact settle_error h
  | applyPatches => exact settle_error h
  | unmountSurface => exact settle_error h
  | queueAction => exact settle_error h
  | drainQueuedActions => cases h

end Rintawa.UiRuntime
