/-
# The registries mirror the engine

The service runtime and the UI runtime keep their own entries for every instance. What a
callback does leaves these entries as they are, so both mirror the instances of the engine
before and after every callback, and change with them.
-/

import Rintawa.ExtensionEngine.Lifecycle
import Rintawa.ExtensionEngine.ServiceRuns
import Rintawa.UiRuntime.Registrations

namespace Rintawa.ExtensionEngine

open Rintawa.Lib Rintawa.Sdk Rintawa.UiRuntime

/-! ## What callbacks leave -/

namespace ServiceRuntimeState

/-- A call only touches the routes. -/
theorem sameComposition_call (state : ServiceRuntimeState) (secrets : SecretManager)
    (caller : ComponentRef) (contract : ContractKey) (allowInactiveCaller : Bool)
    (request : ServiceRequest) :
    SameComposition state (state.call secrets caller contract allowInactiveCaller request).1 := by
  unfold call
  split
  · exact .refl state
  · simp only [resolveProvider]
    split <;> exact ⟨rfl, rfl, rfl⟩

end ServiceRuntimeState

namespace EngineFacilities

/-- Facilities with the same entries of instances and the same policy. -/
structure SameTopology (facilities facilities' : EngineFacilities) : Prop where
  services : ServiceRuntimeState.SameComposition facilities.services facilities'.services
  ui : UiRuntimeState.SameRegistrations facilities.ui facilities'.ui
  servicesPoisoned : facilities'.servicesPoisoned = facilities.servicesPoisoned
  uiPoisoned : facilities'.uiPoisoned = facilities.uiPoisoned

theorem SameTopology.refl (facilities : EngineFacilities) : SameTopology facilities facilities :=
  ⟨.refl _, .refl _, rfl, rfl⟩

theorem SameTopology.trans {facilities facilities' facilities'' : EngineFacilities}
    (h : SameTopology facilities facilities') (h' : SameTopology facilities' facilities'') :
    SameTopology facilities facilities'' :=
  ⟨h.services.trans h'.services, h.ui.trans h'.ui,
    h'.servicesPoisoned.trans h.servicesPoisoned, h'.uiPoisoned.trans h.uiPoisoned⟩

variable (facilities : EngineFacilities) (secrets : SecretManager)

theorem sameTopology_whileActive {executionActive : Bool} {used : EngineFacilities}
    (h : SameTopology facilities used) :
    SameTopology facilities (facilities.whileActive executionActive used) := by
  unfold whileActive
  split
  · exact h
  · exact .refl facilities

theorem sameTopology_useServices {change : ServiceRuntimeState → ServiceRuntimeState}
    (h : ServiceRuntimeState.SameComposition facilities.services (change facilities.services)) :
    SameTopology facilities (facilities.useServices change) := by
  unfold useServices
  split
  · exact .refl facilities
  · exact ⟨h, .refl _, rfl, rfl⟩

theorem sameTopology_useUi {change : UiRuntimeState → UiOutcome}
    (h : UiRuntimeState.SameRegistrations facilities.ui (change facilities.ui).1) :
    SameTopology facilities (facilities.useUi change) := by
  unfold useUi
  split
  · exact .refl facilities
  · exact ⟨.refl _, h, rfl, rfl⟩

/-- No request of a callback touches the entries of instances. -/
theorem sameTopology_perform (owner : ComponentRef) (executionActive : Bool)
    (call : ContextCall) :
    SameTopology facilities (facilities.perform secrets owner executionActive call) := by
  cases call with
  | registerRuntimeEffect | revokeRuntimeEffect | revokeAllRuntimeEffects | registerTarget
  | revokeTargets => exact ⟨.refl _, .refl _, rfl, rfl⟩
  | callService caller contract allowInactiveCaller request =>
      exact facilities.sameTopology_whileActive (facilities.sameTopology_useServices
        (ServiceRuntimeState.sameComposition_call _ _ _ _ _ _))
  | listProviders caller contract allowInactiveCaller =>
      exact facilities.sameTopology_whileActive (facilities.sameTopology_useServices
        (ServiceRuntimeState.handlesOnly_list _ _ _ _ _).toSameComposition)
  | mountUiSurface surfaceOwner snapshot =>
      exact facilities.sameTopology_whileActive (facilities.sameTopology_useUi
        (facilities.ui.sameRegistrations_run (.mountSurface surfaceOwner snapshot) rfl))
  | patchUiSurface surfaceOwner batch =>
      exact facilities.sameTopology_whileActive (facilities.sameTopology_useUi
        (facilities.ui.sameRegistrations_run (.applyPatches surfaceOwner batch) rfl))
  | unmountUiSurface surfaceOwner surfaceId =>
      exact facilities.sameTopology_whileActive (facilities.sameTopology_useUi
        (facilities.ui.sameRegistrations_run (.unmountSurface surfaceOwner surfaceId) rfl))
  | requestWorldFocus layerOwner worldId =>
      exact facilities.sameTopology_whileActive (facilities.sameTopology_useUi
        (facilities.ui.sameRegistrations_run
          (.queueWorldFocusRequest layerOwner worldId) rfl))
  | queueAction layerOwner event =>
      exact facilities.sameTopology_whileActive (facilities.sameTopology_useUi
        (facilities.ui.sameRegistrations_run (.queueAction layerOwner event) rfl))

theorem sameTopology_performAll (owner : ComponentRef) (executionActive : Bool)
    (calls : List ContextCall) :
    SameTopology facilities (performAll secrets owner executionActive facilities calls) := by
  induction calls generalizing facilities with
  | nil => exact .refl facilities
  | cons call rest ih =>
      exact (facilities.sameTopology_perform secrets owner executionActive call).trans (ih _)

/-- No callback touches the entries of instances. -/
theorem sameTopology_runCallback (owner : ComponentRef) (kind : CallbackKind)
    (callback : Callback) :
    SameTopology facilities (facilities.runCallback secrets owner kind callback) :=
  let recorded : EngineFacilities :=
    { facilities with callbacks := facilities.callbacks ++ [⟨owner, kind⟩] }
  have hrecorded : SameTopology facilities recorded := ⟨.refl _, .refl _, rfl, rfl⟩
  hrecorded.trans (recorded.sameTopology_performAll secrets owner _ callback.calls)

theorem sameTopology_revokeInstance (instanceId : ExtensionInstanceId) :
    SameTopology facilities (facilities.revokeInstance instanceId) :=
  ⟨.refl _, .refl _, rfl, rfl⟩

end EngineFacilities

open EngineFacilities in
theorem sameTopology_stopComponents (secrets : SecretManager) (ext : ManagedExtension)
    (script : InstanceScript) (facilities : EngineFacilities)
    (components : List (ManagedComponent × Nat)) :
    SameTopology facilities
      (Engine.stopComponents secrets ext script facilities components).1 := by
  induction components generalizing facilities with
  | nil => exact .refl facilities
  | cons entry rest ih =>
      exact (facilities.sameTopology_runCallback secrets _ _ _).trans (ih _)

open EngineFacilities in
theorem sameTopology_startComponents (secrets : SecretManager) (ext : ManagedExtension)
    (script : InstanceScript) (facilities : EngineFacilities)
    (started components : List (ManagedComponent × Nat)) :
    SameTopology facilities
      (Engine.startComponents secrets ext script facilities started components).1 := by
  induction components generalizing facilities started with
  | nil => exact .refl facilities
  | cons entry rest ih =>
      have hran := facilities.sameTopology_runCallback secrets (ext.principal entry.1) .start
        (script.start entry.2)
      simp only [Engine.startComponents]
      split
      · exact hran.trans (ih _ _)
      · exact hran.trans (sameTopology_stopComponents secrets ext script _ _)

/-! ## Owners of effects and targets -/

namespace EngineFacilities

/-- Runtime effects and execution targets belong to some instances only. -/
structure OwnersIn (facilities : EngineFacilities) (allowed : ExtensionInstanceId → Prop) :
    Prop where
  effects : ∀ effectId owned, facilities.runtimeEffects.effects.lookup effectId = some owned →
    allowed owned.owner.instanceId
  targets : ∀ target owner, facilities.executionTargets.hosts.lookup target = some owner →
    allowed owner.instanceId

variable {facilities : EngineFacilities} {allowed : ExtensionInstanceId → Prop}

theorem OwnersIn.mono (h : facilities.OwnersIn allowed)
    {wider : ExtensionInstanceId → Prop} (hwider : ∀ instanceId, allowed instanceId →
      wider instanceId) : facilities.OwnersIn wider :=
  ⟨fun effectId owned hlookup => hwider _ (h.effects effectId owned hlookup),
    fun target owner hlookup => hwider _ (h.targets target owner hlookup)⟩

/-- Only the effects and the targets matter. -/
theorem OwnersIn.congr (h : facilities.OwnersIn allowed) {facilities' : EngineFacilities}
    (heffects : facilities'.runtimeEffects = facilities.runtimeEffects)
    (htargets : facilities'.executionTargets = facilities.executionTargets) :
    facilities'.OwnersIn allowed := by
  constructor
  · rw [heffects]
    exact h.effects
  · rw [htargets]
    exact h.targets

variable {owner : ComponentRef}

theorem OwnersIn.registerEffect (h : facilities.OwnersIn allowed)
    (howner : allowed owner.instanceId) (effect : RuntimeEffect) :
    ({ facilities with
      runtimeEffects := (facilities.runtimeEffects.register owner effect).1 } :
      EngineFacilities).OwnersIn allowed := by
  refine ⟨?_, h.targets⟩
  intro effectId owned hlookup
  simp only [RuntimeEffectRegistry.register] at hlookup
  split at hlookup
  · exact h.effects effectId owned hlookup
  · split at hlookup
    · rw [Dict.lookup_insert_ite] at hlookup
      split at hlookup
      · cases hlookup
        exact howner
      · exact h.effects effectId owned hlookup
    · exact h.effects effectId owned hlookup

theorem OwnersIn.registerTarget (h : facilities.OwnersIn allowed)
    (howner : allowed owner.instanceId) (target : String) :
    ({ facilities with
      executionTargets := (facilities.executionTargets.register owner target).1 } :
      EngineFacilities).OwnersIn allowed := by
  refine ⟨h.effects, ?_⟩
  intro other registered hlookup
  simp only [ExecutionTargetRegistry.register] at hlookup
  split at hlookup
  · exact h.targets other registered hlookup
  · split at hlookup
    · exact h.targets other registered hlookup
    · rw [Dict.lookup_insert_ite] at hlookup
      split at hlookup
      · cases hlookup
        exact howner
      · exact h.targets other registered hlookup

/-- A component only adds effects and targets of its own. -/
theorem OwnersIn.perform (h : facilities.OwnersIn allowed) (secrets : SecretManager)
    (howner : allowed owner.instanceId) (executionActive : Bool) (call : ContextCall) :
    (facilities.perform secrets owner executionActive call).OwnersIn allowed := by
  cases call with
  | registerRuntimeEffect effect => exact h.registerEffect howner effect
  | revokeRuntimeEffect effectId =>
      refine ⟨?_, h.targets⟩
      intro other owned hlookup
      simp only [EngineFacilities.perform, RuntimeEffectRegistry.revoke] at hlookup
      split at hlookup
      · rw [Dict.lookup_erase_ite] at hlookup
        split at hlookup
        · cases hlookup
        · exact h.effects other owned hlookup
      · exact h.effects other owned hlookup
  | revokeAllRuntimeEffects =>
      refine ⟨?_, h.targets⟩
      intro other owned hlookup
      simp only [EngineFacilities.perform, RuntimeEffectRegistry.revokeComponent,
        Dict.lookup_retain, Option.filter_eq_some_iff] at hlookup
      exact h.effects other owned hlookup.1
  | registerTarget target => exact h.registerTarget howner target
  | revokeTargets =>
      refine ⟨h.effects, ?_⟩
      intro target registered hlookup
      simp only [EngineFacilities.perform, ExecutionTargetRegistry.revokeComponent,
        Dict.lookup_retain, Option.filter_eq_some_iff] at hlookup
      exact h.targets target registered hlookup.1
  | callService | listProviders =>
      simp only [EngineFacilities.perform, whileActive, useServices]
      split
      · split
        · exact h
        · exact h.congr rfl rfl
      · exact h
  | mountUiSurface | patchUiSurface | unmountUiSurface | requestWorldFocus | queueAction =>
      simp only [EngineFacilities.perform, whileActive, useUi]
      split
      · split
        · exact h
        · exact h.congr rfl rfl
      · exact h

theorem OwnersIn.performAll (h : facilities.OwnersIn allowed) (secrets : SecretManager)
    (howner : allowed owner.instanceId) (executionActive : Bool) (calls : List ContextCall) :
    (EngineFacilities.performAll secrets owner executionActive facilities calls).OwnersIn
      allowed := by
  induction calls generalizing facilities with
  | nil => exact h
  | cons call rest ih => exact ih (h.perform secrets howner executionActive call)

theorem OwnersIn.runCallback (h : facilities.OwnersIn allowed) (secrets : SecretManager)
    {owner : ComponentRef} (howner : allowed owner.instanceId) (kind : CallbackKind)
    (callback : Callback) :
    (facilities.runCallback secrets owner kind callback).OwnersIn allowed :=
  let recorded : EngineFacilities :=
    { facilities with callbacks := facilities.callbacks ++ [⟨owner, kind⟩] }
  have hrecorded : recorded.OwnersIn allowed := h.congr rfl rfl
  hrecorded.performAll secrets howner _ callback.calls

/-- An instance loses all of its effects and targets. -/
theorem OwnersIn.revokeInstance (h : facilities.OwnersIn allowed)
    (instanceId : ExtensionInstanceId) :
    (facilities.revokeInstance instanceId).OwnersIn fun other =>
      allowed other ∧ other ≠ instanceId := by
  constructor
  · intro effectId owned hlookup
    simp only [EngineFacilities.revokeInstance, RuntimeEffectRegistry.revokeInstance,
      Dict.lookup_retain, Option.filter_eq_some_iff, bne_iff_ne] at hlookup
    exact ⟨h.effects effectId owned hlookup.1, hlookup.2⟩
  · intro target owner hlookup
    simp only [EngineFacilities.revokeInstance, ExecutionTargetRegistry.revokeInstance,
      Dict.lookup_retain, Option.filter_eq_some_iff, bne_iff_ne] at hlookup
    exact ⟨h.targets target owner hlookup.1, hlookup.2⟩

theorem OwnersIn.stopComponents (h : facilities.OwnersIn allowed) (secrets : SecretManager)
    {ext : ManagedExtension} (howner : allowed ext.instanceId) (script : InstanceScript)
    (components : List (ManagedComponent × Nat)) :
    (Engine.stopComponents secrets ext script facilities components).1.OwnersIn allowed := by
  induction components generalizing facilities with
  | nil => exact h
  | cons entry rest ih => exact ih (h.runCallback secrets howner _ _)

theorem OwnersIn.startComponents (h : facilities.OwnersIn allowed) (secrets : SecretManager)
    {ext : ManagedExtension} (howner : allowed ext.instanceId) (script : InstanceScript)
    (started components : List (ManagedComponent × Nat)) :
    (Engine.startComponents secrets ext script facilities started components).1.OwnersIn
      allowed := by
  induction components generalizing facilities started with
  | nil => exact h
  | cons entry rest ih =>
      have hran := @OwnersIn.runCallback facilities allowed h secrets (ext.principal entry.1)
        howner .start (script.start entry.2)
      simp only [Engine.startComponents]
      split
      · exact ih hran _
      · exact hran.stopComponents secrets howner script _

end EngineFacilities

/-! ## Entries of instances -/

/-- The instances of an engine, by identifier. -/
abbrev Instances := ExtensionInstanceId → Option ManagedExtension

/-- The instances after one of them changed. -/
theorem lookup_insert_eq_update (extensions : Dict ExtensionInstanceId ManagedExtension)
    (instanceId : ExtensionInstanceId) (ext : ManagedExtension) :
    (fun other => (extensions.insert instanceId ext).lookup other) =
      Function.update (fun other => extensions.lookup other) instanceId (some ext) := by
  funext other
  rw [Dict.lookup_insert_ite, Function.update_apply]

theorem lookup_erase_eq_update (extensions : Dict ExtensionInstanceId ManagedExtension)
    (instanceId : ExtensionInstanceId) :
    (fun other => (extensions.erase instanceId).lookup other) =
      Function.update (fun other => extensions.lookup other) instanceId none := by
  funext other
  rw [Dict.lookup_erase_ite, Function.update_apply]

/-- The entry that the service runtime has of an instance. -/
def ManagedExtension.serviceInstance (ext : ManagedExtension) : ServiceExtensionInstance where
  extensionId := ext.manifest.id
  scopeId := ext.scopeId
  isActive := ext.state == .active
  definitions := ext.contractDefinitions
  providers := ext.contractProviders
  consumers := ext.contractConsumers
  components := componentsById ext.components

/-- The service runtime has the entries of some instances. -/
def MirrorsServices (services : ServiceRuntimeState) (instances : Instances) : Prop :=
  ∀ instanceId, services.instances.lookup instanceId =
    (instances instanceId).map ManagedExtension.serviceInstance

/-- The UI runtime has the scopes and activations of some instances. -/
def MirrorsUi (ui : UiRuntimeState) (instances : Instances) : Prop :=
  ∀ instanceId,
    (ui.instances.lookup instanceId).map (fun inst => (inst.scopeId, inst.isActive)) =
      (instances instanceId).map fun ext => (ext.scopeId, ext.state == .active)

/-- Both registries have the entries of some instances. -/
structure Mirrors (facilities : EngineFacilities) (instances : Instances) : Prop where
  services : MirrorsServices facilities.services instances
  ui : MirrorsUi facilities.ui instances

theorem MirrorsServices.sameComposition {services services' : ServiceRuntimeState}
    {instances : Instances} (h : MirrorsServices services instances)
    (hsame : ServiceRuntimeState.SameComposition services services') :
    MirrorsServices services' instances := by
  intro instanceId
  rw [hsame.instances]
  exact h instanceId

theorem MirrorsUi.sameRegistrations {ui ui' : UiRuntimeState} {instances : Instances}
    (h : MirrorsUi ui instances) (hsame : ui.SameRegistrations ui') :
    MirrorsUi ui' instances := by
  intro instanceId
  rw [hsame.instances]
  exact h instanceId

theorem Mirrors.sameTopology {facilities facilities' : EngineFacilities} {instances : Instances}
    (h : Mirrors facilities instances) (hsame : facilities.SameTopology facilities') :
    Mirrors facilities' instances :=
  ⟨h.services.sameComposition hsame.services, h.ui.sameRegistrations hsame.ui⟩

namespace MirrorsServices

variable {services : ServiceRuntimeState} {instances : Instances}
  {instanceId : ExtensionInstanceId} {ext : ManagedExtension}

/-- The entries after one of them was put into the map. -/
theorem insert (h : MirrorsServices services instances) {services' : ServiceRuntimeState}
    (hinstances : services'.instances =
      services.instances.insert instanceId ext.serviceInstance) :
    MirrorsServices services' (Function.update instances instanceId (some ext)) := by
  intro other
  rw [hinstances, Dict.lookup_insert_ite, Function.update_apply]
  split
  · rfl
  · exact h other

/-- The entries after nothing changed. -/
theorem same (h : MirrorsServices services instances)
    (hentry : services.instances.lookup instanceId = some ext.serviceInstance) :
    MirrorsServices services (Function.update instances instanceId (some ext)) := by
  intro other
  rw [Function.update_apply]
  split
  · next heq => rw [heq, hentry]; rfl
  · exact h other

variable (h : MirrorsServices services instances) (hfound : instances instanceId = some ext)
include h hfound

theorem lookup : services.instances.lookup instanceId = some ext.serviceInstance := by
  rw [h instanceId, hfound]
  rfl

/-- Activation succeeds and is mirrored. -/
theorem activate : ∃ services', services.activateInstance instanceId = some services' ∧
    ServiceRuntimeState.platformDefinitions services' = services.platformDefinitions ∧
    services'.preferredProviders = services.preferredProviders ∧
    MirrorsServices services'
      (Function.update instances instanceId (some { ext with state := .active })) := by
  unfold ServiceRuntimeState.activateInstance
  rw [h.lookup hfound]
  dsimp only
  split
  · next hactive =>
      refine ⟨_, rfl, rfl, rfl, h.same ?_⟩
      rw [h.lookup hfound]
      simp only [ManagedExtension.serviceInstance, beq_iff_eq] at hactive ⊢
      simp [hactive]
  · exact ⟨_, rfl, rfl, rfl, h.insert rfl⟩

/-- Deactivation is mirrored. -/
theorem deactivate (state : ExtensionState) (hstate : state ≠ .active) :
    MirrorsServices (services.deactivateInstance instanceId)
      (Function.update instances instanceId (some { ext with state := state })) := by
  have hentry : ({ ext with state := state } : ManagedExtension).serviceInstance =
      { ext.serviceInstance with isActive := false } := by
    simp [ManagedExtension.serviceInstance, hstate]
  unfold ServiceRuntimeState.deactivateInstance
  rw [h.lookup hfound]
  dsimp only
  split
  · refine h.insert ?_
    rw [hentry]
    rfl
  · next hinactive =>
      refine h.same ?_
      rw [h.lookup hfound, hentry]
      simp only [Bool.not_eq_true] at hinactive
      rw [← hinactive]

end MirrorsServices

namespace MirrorsUi

variable {ui : UiRuntimeState} {instances : Instances} {instanceId : ExtensionInstanceId}
  {ext : ManagedExtension} (h : MirrorsUi ui instances) (hfound : instances instanceId = some ext)
include h hfound

/-- Changing the activation of an instance succeeds and is mirrored. -/
theorem setInstanceActive (isActive : Bool) (state : ExtensionState)
    (hstate : (state == .active) = isActive) :
    ∃ ui', ui.setInstanceActive instanceId isActive = (ui', .ok ()) ∧
      MirrorsUi ui' (Function.update instances instanceId (some { ext with state := state })) := by
  have hentry := h instanceId
  rw [hfound] at hentry
  cases hinst : ui.instances.lookup instanceId with
  | none =>
      rw [hinst] at hentry
      cases hentry
  | some inst =>
      rw [hinst] at hentry
      simp only [Option.map_some, Option.some.injEq, Prod.mk.injEq] at hentry
      have hmirrors : ∀ ui' : UiRuntimeState,
          ui'.instances = ui.instances.insert instanceId { inst with isActive := isActive } →
          MirrorsUi ui'
            (Function.update instances instanceId (some { ext with state := state })) := by
        intro ui' hinstances other
        rw [hinstances, Dict.lookup_insert_ite, Function.update_apply]
        split
        · simp [hentry.1, hstate]
        · exact h other
      unfold UiRuntimeState.setInstanceActive
      rw [hinst]
      dsimp only
      split
      · exact ⟨_, rfl, hmirrors _ rfl⟩
      · exact ⟨_, rfl, hmirrors _ rfl⟩

end MirrorsUi

end Rintawa.ExtensionEngine
