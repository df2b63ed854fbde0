/-
# Steps of the registries

Whatever the engine does, its registries change in a few ways only. The effects and the user
interface change by operations of their own; what becomes of the rest is left open. What each
of these steps keeps holds in every engine that is reached.
-/

import Rintawa.ExtensionEngine.EngineRuns
import Rintawa.ExtensionEngine.Enrolment

namespace Rintawa.ExtensionEngine

open Rintawa.Lib Rintawa.Sdk Rintawa.UiRuntime

/-- One step of the registries. -/
inductive FacilityStep (facilities : EngineFacilities) : EngineFacilities → Prop
  | registerEffect (owner : ComponentRef) (effect : RuntimeEffect) :
      FacilityStep facilities { facilities with
        runtimeEffects := (facilities.runtimeEffects.register owner effect).1 }
  | revokeEffect (effectId : RuntimeEffectId) (caller : ComponentRef) :
      FacilityStep facilities { facilities with
        runtimeEffects := (facilities.runtimeEffects.revoke effectId caller).1 }
  | revokeInstanceEffects (instanceId : ExtensionInstanceId) :
      FacilityStep facilities { facilities with
        runtimeEffects := facilities.runtimeEffects.revokeInstance instanceId }
  | revokeComponentEffects (owner : ComponentRef) :
      FacilityStep facilities { facilities with
        runtimeEffects := facilities.runtimeEffects.revokeComponent owner }
  | callUi (call : UiCall) :
      FacilityStep facilities { facilities with ui := (facilities.ui.run call).1 }
  | others {facilities' : EngineFacilities}
      (sameEffects : facilities'.runtimeEffects = facilities.runtimeEffects)
      (sameUi : facilities'.ui = facilities.ui) : FacilityStep facilities facilities'

/-- Steps of the registries, one after the other. -/
abbrev FacilitySteps : EngineFacilities → EngineFacilities → Prop :=
  Relation.ReflTransGen FacilityStep

/-- What every step keeps is kept. -/
theorem FacilitySteps.preserves {P : EngineFacilities → Prop}
    (hstep : ∀ facilities facilities', P facilities → FacilityStep facilities facilities' →
      P facilities')
    {facilities facilities' : EngineFacilities} (h : FacilitySteps facilities facilities')
    (hP : P facilities) : P facilities' := by
  induction h with
  | refl => exact hP
  | tail _ hlast ih => exact hstep _ _ ih hlast

/-! ## Callbacks -/

section Callbacks

variable (facilities : EngineFacilities)

theorem steps_others {facilities' : EngineFacilities}
    (sameEffects : facilities'.runtimeEffects = facilities.runtimeEffects)
    (sameUi : facilities'.ui = facilities.ui) : FacilitySteps facilities facilities' :=
  .single (.others sameEffects sameUi)

theorem steps_perform (secrets : SecretManager) (owner : ComponentRef) (executionActive : Bool)
    (call : ContextCall) :
    FacilitySteps facilities (facilities.perform secrets owner executionActive call) := by
  have hactive : ∀ used, FacilitySteps facilities used →
      FacilitySteps facilities (facilities.whileActive executionActive used) := by
    intro used hused
    unfold EngineFacilities.whileActive
    split
    · exact hused
    · exact .refl
  have hservices : ∀ change, FacilitySteps facilities (facilities.useServices change) := by
    intro change
    unfold EngineFacilities.useServices
    split
    · exact .refl
    · exact steps_others _ rfl rfl
  have hui : ∀ uiCall : UiCall,
      FacilitySteps facilities (facilities.useUi fun ui => ui.run uiCall) := by
    intro uiCall
    unfold EngineFacilities.useUi
    split
    · exact .refl
    · exact .single (.callUi uiCall)
  cases call with
  | registerRuntimeEffect effect => exact .single (.registerEffect owner effect)
  | revokeRuntimeEffect effectId => exact .single (.revokeEffect effectId owner)
  | revokeAllRuntimeEffects => exact .single (.revokeComponentEffects owner)
  | registerTarget | revokeTargets => exact steps_others _ rfl rfl
  | callService | listProviders => exact hactive _ (hservices _)
  | mountUiSurface surfaceOwner snapshot =>
      exact hactive _ (hui (.mountSurface surfaceOwner snapshot))
  | patchUiSurface surfaceOwner batch => exact hactive _ (hui (.applyPatches surfaceOwner batch))
  | unmountUiSurface surfaceOwner surfaceId =>
      exact hactive _ (hui (.unmountSurface surfaceOwner surfaceId))
  | requestWorldFocus layerOwner worldId =>
      exact hactive _ (hui (.queueWorldFocusRequest layerOwner worldId))
  | queueAction layerOwner event => exact hactive _ (hui (.queueAction layerOwner event))

theorem steps_runCallback (secrets : SecretManager) (owner : ComponentRef) (kind : CallbackKind)
    (callback : Callback) :
    FacilitySteps facilities (facilities.runCallback secrets owner kind callback) := by
  have hall : ∀ (calls : List ContextCall) (current : EngineFacilities),
      FacilitySteps current
        (EngineFacilities.performAll secrets owner (decide (kind ≠ .stop)) current calls) := by
    intro calls
    induction calls with
    | nil => exact fun current => .refl
    | cons call rest ih =>
        intro current
        exact Relation.ReflTransGen.trans (steps_perform current secrets owner _ call) (ih _)
  have hlogged : FacilityStep facilities
      { facilities with callbacks := facilities.callbacks ++ [⟨owner, kind⟩] } := .others rfl rfl
  have hrest : FacilitySteps
      { facilities with callbacks := facilities.callbacks ++ [⟨owner, kind⟩] }
      (facilities.runCallback secrets owner kind callback) := hall callback.calls _
  exact Relation.ReflTransGen.head hlogged hrest

theorem steps_stopComponents (secrets : SecretManager) (ext : ManagedExtension)
    (script : InstanceScript) (components : List (ManagedComponent × Nat)) :
    FacilitySteps facilities
      (Engine.stopComponents secrets ext script facilities components).1 := by
  induction components generalizing facilities with
  | nil => exact .refl
  | cons entry rest ih =>
      exact Relation.ReflTransGen.trans (steps_runCallback facilities secrets _ .stop _) (ih _)

theorem steps_startComponents (secrets : SecretManager) (ext : ManagedExtension)
    (script : InstanceScript) (started components : List (ManagedComponent × Nat)) :
    FacilitySteps facilities
      (Engine.startComponents secrets ext script facilities started components).1 := by
  induction components generalizing facilities started with
  | nil => exact .refl
  | cons entry rest ih =>
      have hran := steps_runCallback facilities secrets (ext.principal entry.1) .start
        (script.start entry.2)
      simp only [Engine.startComponents]
      split
      · exact Relation.ReflTransGen.trans hran (ih _ _)
      · exact Relation.ReflTransGen.trans hran (steps_stopComponents _ secrets ext script _)

theorem steps_setUiActive (instanceId : ExtensionInstanceId) (isActive : Bool) :
    FacilitySteps facilities (facilities.setUiActive instanceId isActive).1 := by
  unfold EngineFacilities.setUiActive
  split
  · exact .refl
  · exact .single (.callUi (.setInstanceActive instanceId isActive))

theorem steps_revokeInstance (instanceId : ExtensionInstanceId) :
    FacilitySteps facilities (facilities.revokeInstance instanceId) :=
  Relation.ReflTransGen.tail (.single (.revokeInstanceEffects instanceId)) (.others rfl rfl)

theorem steps_finalizeStart (instanceId : ExtensionInstanceId) :
    FacilitySteps facilities (Engine.finalizeStart instanceId facilities).1 := by
  have hset := steps_setUiActive facilities instanceId true
  unfold Engine.finalizeStart
  split
  · next heq =>
      rw [heq] at hset
      exact hset
  · next heq =>
      rw [heq] at hset
      split
      · exact hset
      · next activated hactivate =>
          unfold EngineFacilities.activateServices at hactivate
          split at hactivate
          · cases hactivate
          · obtain ⟨services, -, rfl⟩ := Option.map_eq_some_iff.mp hactivate
            exact Relation.ReflTransGen.tail hset (.others rfl rfl)

end Callbacks

/-! ## Operations -/

/-- The registries of two engines are some steps apart. -/
def Engine.Leads (engine engine' : Engine) : Prop :=
  FacilitySteps engine.toEngineFacilities engine'.toEngineFacilities

theorem Engine.Leads.refl (engine : Engine) : engine.Leads engine :=
  Relation.ReflTransGen.refl

theorem Engine.Leads.trans {engine engine' engine'' : Engine} (h : engine.Leads engine')
    (h' : engine'.Leads engine'') : engine.Leads engine'' :=
  Relation.ReflTransGen.trans h h'

section Operations

variable (engine : Engine)

theorem steps_presents (facilities : EngineFacilities)
    {added : List OwnedWorldPresentationDescriptor} {ui ui' : UiRuntimeState}
    (h : UiRuntimeState.Presents added ui ui') :
    FacilitySteps { facilities with ui := ui } { facilities with ui := ui' } := by
  induction h with
  | refl added ui => exact .refl
  | @cons owned rest ui ui' ui'' hregister hrest ih =>
      have hfirst : FacilityStep { facilities with ui := ui } { facilities with ui := ui' } := by
        have hcall := @FacilityStep.callUi { facilities with ui := ui }
          (.registerWorldPresentation owned)
        rw [show ui.run (.registerWorldPresentation owned) = (ui', .ok ()) from hregister] at hcall
        exact hcall
      exact Relation.ReflTransGen.head hfirst ih

theorem leads_enrolled {ext : ManagedExtension} {surfaces : List OwnedUiSurfaceContribution}
    {layers : List OwnedUiLayerDescriptor}
    {presentations : List OwnedWorldPresentationDescriptor} {outcome : EngineOutcome}
    (h : Enrolled engine ext surfaces layers presentations outcome) :
    engine.Leads outcome.1 := by
  have hpresented : ∀ (services : ServiceRuntimeState) (ui ui' : UiRuntimeState),
      engine.ui.registerInstance ext.instanceId ext.scopeId surfaces layers = (ui, .ok ()) →
      UiRuntimeState.Presents presentations ui ui' →
      FacilitySteps engine.toEngineFacilities
        { engine.toEngineFacilities with services := services, ui := ui' } := by
    intro services ui ui' hui hpresents
    have hservices : FacilityStep engine.toEngineFacilities
        { engine.toEngineFacilities with services := services } := .others rfl rfl
    have hcall := @FacilityStep.callUi { engine.toEngineFacilities with services := services }
      (.registerInstance ext.instanceId ext.scopeId surfaces layers)
    rw [show engine.ui.run (.registerInstance ext.instanceId ext.scopeId surfaces layers) =
      (ui, .ok ()) from hui] at hcall
    exact Relation.ReflTransGen.head hservices (Relation.ReflTransGen.head hcall
      (steps_presents { engine.toEngineFacilities with services := services } hpresents))
  cases h with
  | refused error => exact .refl engine
  | undone error hservices => exact Relation.ReflTransGen.single (.others rfl rfl)
  | withdrawn error hservices hui hpresents =>
      exact Relation.ReflTransGen.tail (hpresented _ _ _ hui hpresents)
        (.callUi (.unregisterInstance ext.instanceId))
  | admitted hservices hui hpresents => exact hpresented _ _ _ hui hpresents

theorem leads_registrationCase {instanceId : ExtensionInstanceId} {scopeId : RuntimeScopeId}
    {manifest : ExtensionManifest} {components : List Component}
    {dependencies : List ExecutionTargetDependency} {outcome : EngineOutcome}
    (h : RegistrationCase engine instanceId scopeId manifest components dependencies outcome) :
    engine.Leads outcome.1 := by
  cases h with
  | refused error => exact .refl engine
  | enrolled hvalid hfresh hregister hdefinitions henrolled => exact leads_enrolled engine henrolled

theorem leads_load (archive : RtwArchive) (instanceId : ExtensionInstanceId)
    (scopeId : RuntimeScopeId) :
    engine.Leads (engine.tryLoadArchive archive instanceId scopeId).1 := by
  have hcase := loadCase engine archive instanceId scopeId
  generalize engine.tryLoadArchive archive instanceId scopeId = outcome at hcase ⊢
  cases hcase with
  | refused error hcomplete => exact .refl engine
  | deferred hread hmissing => exact .refl engine
  | registered hread hcomplete hinstantiate hregister =>
      exact leads_registrationCase engine hregister

theorem leads_withdrawContributions (ext : ManagedExtension) :
    engine.Leads (engine.withdrawContributions ext) := by
  unfold Engine.withdrawContributions
  split <;> exact .refl engine

theorem leads_launch (ext : ManagedExtension) (script : InstanceScript) :
    engine.Leads (engine.launch ext script).1 := by
  have hran := steps_startComponents engine.toEngineFacilities engine.secrets ext script []
    ext.components.zipIdx
  unfold Engine.launch
  split
  · next facilities failure heq =>
      rw [heq] at hran
      have hrevoked := Relation.ReflTransGen.trans hran
        (steps_revokeInstance facilities ext.instanceId)
      have hset := Relation.ReflTransGen.trans hrevoked
        (steps_setUiActive (facilities.revokeInstance ext.instanceId) ext.instanceId false)
      unfold Engine.abandonStart
      split
      · next hdeactivated =>
          dsimp only at hdeactivated
          rw [hdeactivated] at hset
          exact hset
      · next deactivated hdeactivated =>
          dsimp only at hdeactivated
          rw [hdeactivated] at hset
          let closed : Engine := { engine with
            toEngineFacilities := deactivated.deactivateServices ext.instanceId }
          have hclosed : engine.Leads closed := Relation.ReflTransGen.tail hset (.others rfl rfl)
          exact hclosed.trans (leads_withdrawContributions closed ext)
  · next facilities heq =>
      rw [heq] at hran
      have hfinal := Relation.ReflTransGen.trans hran
        (steps_finalizeStart facilities ext.instanceId)
      split
      · next finalized error heq =>
          rw [heq] at hfinal
          have hclosed : FacilitySteps engine.toEngineFacilities
              (finalized.deactivateServices ext.instanceId) :=
            Relation.ReflTransGen.tail hfinal (.others rfl rfl)
          have hstopped := Relation.ReflTransGen.trans hclosed
            (steps_stopComponents _ engine.secrets ext script ext.components.zipIdx.reverse)
          have hset := Relation.ReflTransGen.trans hstopped
            (steps_setUiActive _ ext.instanceId false)
          let closed : Engine := { engine with
            toEngineFacilities := ((Engine.stopComponents engine.secrets ext script
              (finalized.deactivateServices ext.instanceId)
              ext.components.zipIdx.reverse).1.setUiActive ext.instanceId false).1.revokeInstance
                ext.instanceId }
          have hrevoked : engine.Leads closed :=
            Relation.ReflTransGen.trans hset (steps_revokeInstance _ ext.instanceId)
          exact hrevoked.trans (leads_withdrawContributions closed ext)
      · next heq =>
          rw [heq] at hfinal
          exact hfinal

theorem leads_start (instanceId : ExtensionInstanceId) (script : InstanceScript) :
    engine.Leads (engine.startExtensionInstance instanceId script).1 := by
  unfold Engine.startExtensionInstance
  split
  · exact .refl engine
  · split
    · exact .refl engine
    · split
      · exact .refl engine
      · split
        · exact .refl engine
        · next claimed hreclaim =>
            have hclaimed : engine.Leads claimed := by
              unfold Engine.reclaimContributions at hreclaim
              split at hreclaim
              · split at hreclaim
                · cases hreclaim
                · cases hreclaim
                  exact .refl engine
              · cases hreclaim
                exact .refl engine
            exact hclaimed.trans (leads_launch claimed _ script)

theorem leads_shutDown (ext : ManagedExtension) (script : InstanceScript) :
    engine.Leads (engine.shutDown ext script).1 := by
  have hset := steps_setUiActive engine.toEngineFacilities ext.instanceId false
  unfold Engine.shutDown
  split
  · next heq =>
      rw [heq] at hset
      exact hset
  · next facilities heq =>
      rw [heq] at hset
      have hclosed : FacilitySteps engine.toEngineFacilities
          (facilities.deactivateServices ext.instanceId) :=
        Relation.ReflTransGen.tail hset (.others rfl rfl)
      have hstopped := Relation.ReflTransGen.trans hclosed
        (steps_stopComponents _ engine.secrets ext script ext.components.zipIdx.reverse)
      exact Relation.ReflTransGen.trans hstopped (steps_revokeInstance _ ext.instanceId)

theorem leads_stopInner (instanceId : ExtensionInstanceId) (script : InstanceScript)
    (enforceProviderGuard : Bool) :
    engine.Leads
      (engine.stopExtensionInstanceInner instanceId script enforceProviderGuard).1 := by
  unfold Engine.stopExtensionInstanceInner
  split
  · exact .refl engine
  · split
    · exact .refl engine
    · split
      · split
        · exact .refl engine
        · exact leads_shutDown engine _ _
      · exact leads_shutDown engine _ _

theorem leads_quarantineRecursive (scripts : ExtensionInstanceId → InstanceScript) (depth : Nat)
    (visited : List ExtensionInstanceId) (instanceId : ExtensionInstanceId) :
    engine.Leads (Engine.quarantineRecursive scripts depth (engine, visited) instanceId).1.1 := by
  induction depth generalizing engine visited instanceId with
  | zero => exact .refl engine
  | succ depth ih =>
      have heach : ∀ (dependents : List ExtensionInstanceId) (state : Engine.QuarantineState),
          state.1.Leads (Engine.quarantineEach (Engine.quarantineRecursive scripts depth) state
            dependents).1.1 := by
        intro dependents
        induction dependents with
        | nil => exact fun state => .refl state.1
        | cons dependent rest ihRest =>
            rintro ⟨current, seen⟩
            have hfirst := ih current seen dependent
            simp only [Engine.quarantineEach]
            split
            · next heq =>
                rw [heq] at hfirst
                exact hfirst
            · next heq =>
                rw [heq] at hfirst
                exact hfirst.trans (ihRest _)
      have hdependents := heach (engine.activeDependentsOf instanceId)
        (engine, instanceId :: visited)
      simp only [Engine.quarantineRecursive]
      split
      · exact .refl engine
      · split
        · next heq =>
            rw [heq] at hdependents
            exact hdependents
        · next current seen heq =>
            rw [heq] at hdependents
            have hstopped := hdependents.trans
              (leads_stopInner current instanceId (scripts instanceId) false)
            unfold Engine.containStopFailure
            split <;> exact hstopped

theorem leads_runActive (owner : ComponentRef) (entry : RuntimeCallback) (callback : Callback)
    (scripts : ExtensionInstanceId → InstanceScript) :
    engine.Leads (engine.runActiveComponent owner entry callback scripts).1 := by
  unfold Engine.runActiveComponent
  split
  · exact .refl engine
  · split
    · let ran : Engine := { engine with
        toEngineFacilities := engine.runCallback engine.secrets owner (.runtime entry) callback }
      have hran : engine.Leads ran :=
        steps_runCallback engine.toEngineFacilities engine.secrets owner (.runtime entry) callback
      dsimp only
      split
      · exact hran.trans (leads_quarantineRecursive ran scripts _ [] owner.instanceId)
      · exact hran
    · exact .refl engine

theorem leads_unregister (instanceId : ExtensionInstanceId) (script : InstanceScript) :
    engine.Leads (engine.unregisterExtensionInstance instanceId script).1 := by
  have hforget : ∀ (current : Engine) (ext : ManagedExtension),
      current.Leads (current.forget ext) := by
    intro current ext
    exact Relation.ReflTransGen.tail (.single (.callUi (.unregisterInstance ext.instanceId)))
      (.others rfl rfl)
  have hstopped := leads_stopInner engine instanceId script true
  unfold Engine.unregisterExtensionInstance
  split
  · exact .refl engine
  · split
    · exact .refl engine
    · split
      · split
        · next heq =>
            unfold Engine.stopExtensionInstance at heq
            rw [heq] at hstopped
            exact hstopped
        · next heq =>
            unfold Engine.stopExtensionInstance at heq
            rw [heq] at hstopped
            exact hstopped.trans (hforget _ _)
      · exact hforget _ _

/-- Every operation of the engine leads to its registries by some steps. -/
theorem leads_run (op : EngineOp) : engine.Leads (engine.run op).1 := by
  have hothers : ∀ engine' : Engine, engine'.runtimeEffects = engine.runtimeEffects →
      engine'.ui = engine.ui → engine.Leads engine' :=
    fun _ heffects hui => steps_others _ heffects hui
  cases op with
  | registerExtensionInstance instanceId scopeId manifest components =>
      exact leads_registrationCase engine
        (registrationCase engine instanceId scopeId manifest components [])
  | tryLoadArchive archive instanceId scopeId => exact leads_load engine archive instanceId scopeId
  | startExtensionInstance instanceId script => exact leads_start engine instanceId script
  | stopExtensionInstance instanceId script => exact leads_stopInner engine instanceId script true
  | unregisterExtensionInstance instanceId script => exact leads_unregister engine instanceId script
  | runActiveComponent owner entry callback scripts =>
      exact leads_runActive engine owner entry callback scripts
  | registerExecutionTargetHost owner target =>
      simp only [Engine.run, Engine.registerExecutionTargetHost]
      split
      · exact .refl engine
      · split <;> exact hothers _ rfl rfl
  | definePlatformContractInScope scopeId definition =>
      simp only [Engine.run, Engine.definePlatformContractInScope]
      split
      · exact .refl engine
      · split
        · split
          · split <;> exact hothers _ rfl rfl
          · exact .refl engine
        · split <;> exact hothers _ rfl rfl
  | clearPlatformContractDefinitionsInScope | setPreferredContractProviderPolicyInScope
  | clearPreferredContractProviderInScope | clearPreferredContractProviderPoliciesInScope
  | revokeSecretReads | poisonServices | poisonUi => exact hothers _ rfl rfl
  | setPreferredContractProviderInScope scopeId contract provider =>
      simp only [Engine.run, Engine.setPreferredContractProviderInScope]
      split
      · exact .refl engine
      · split <;> exact hothers _ rfl rfl
  | grantRequestedSecretReadForInstance instanceId componentId pattern =>
      simp only [Engine.run, Engine.grantRequestedSecretReadForInstance]
      split
      · exact .refl engine
      · split
        · exact .refl engine
        · split <;> exact hothers _ rfl rfl
  | grantRequestedRuntimePermissionForInstance instanceId componentId permission =>
      simp only [Engine.run, Engine.grantRequestedRuntimePermissionForInstance]
      split
      · exact .refl engine
      · split
        · exact .refl engine
        · split <;> exact hothers _ rfl rfl
  | callService | listProviders =>
      simp only [Engine.run, EngineFacilities.useServices]
      split <;> exact hothers _ rfl rfl
  | presentUi call =>
      simp only [Engine.run, Engine.changeUi]
      split
      · exact .refl engine
      · exact Relation.ReflTransGen.single (.callUi call.1)

end Operations

/-- What holds of the registries at first, and is kept by every step, holds in every engine
that is reached. -/
theorem facilities_of_reachable {P : EngineFacilities → Prop} (hnew : P .new)
    (hstep : ∀ facilities facilities', P facilities → FacilityStep facilities facilities' →
      P facilities')
    {engine : Engine} (h : engineSystem.Reachable engine) : P engine.toEngineFacilities := by
  refine h.induction (P := fun engine => P engine.toEngineFacilities) ?_ ?_
  · rintro engine rfl
    exact hnew
  · intro engine event engine' _ hbefore hrun
    have hleads := leads_run engine event.op
    rw [show engine.run event.op = (engine', event.result) from hrun] at hleads
    exact FacilitySteps.preserves hstep hleads hbefore

end Rintawa.ExtensionEngine
