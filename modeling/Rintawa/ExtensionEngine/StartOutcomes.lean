/-
# How starts end

A start runs the start callbacks of the components in order. It ends with every component
started and the instance active, or every component whose start callback was run is
stopped again, last first. Meanwhile callbacks only change effects and targets of their
own instance, and what others present only when they act for them.
-/

import Rintawa.ExtensionEngine.EffectNumbers
import Rintawa.ExtensionEngine.EngineSteps

namespace Rintawa.ExtensionEngine

open Rintawa.Lib Rintawa.Sdk Rintawa.UiRuntime

/-! ## Callbacks in order -/

namespace Engine

variable (secrets : SecretManager) (ext : ManagedExtension) (script : InstanceScript)

/-- Run the start callbacks of some components, in the order given. -/
def startAll (facilities : EngineFacilities) (components : List (ManagedComponent × Nat)) :
    EngineFacilities :=
  components.foldl (fun facilities entry =>
    facilities.runCallback secrets (ext.principal entry.1) .start (script.start entry.2)) facilities

/-- The start callback of a component succeeds. -/
def Starts (entry : ManagedComponent × Nat) : Prop :=
  (script.start entry.2).failure = none

/-- The start callbacks of some components, as they are recorded. -/
def startLog (components : List (ManagedComponent × Nat)) : List ComponentCallback :=
  components.map fun entry => ⟨ext.principal entry.1, .start⟩

/-- The stop callbacks of some components, as they are recorded. -/
def stopLog (components : List (ManagedComponent × Nat)) : List ComponentCallback :=
  components.map fun entry => ⟨ext.principal entry.1, .stop⟩

/-- All start callbacks succeed, or one fails after those before it have succeeded. -/
theorem startComponents_cases (facilities : EngineFacilities)
    (started components : List (ManagedComponent × Nat)) :
    (∀ entry ∈ components, Starts script entry) ∧
        startComponents secrets ext script facilities started components =
          (startAll secrets ext script facilities components, none) ∨
      ∃ before entry after failure, components = before ++ entry :: after ∧
        (∀ other ∈ before, Starts script other) ∧ ¬ Starts script entry ∧
        startComponents secrets ext script facilities started components =
          ((stopComponents secrets ext script
            (startAll secrets ext script facilities (before ++ [entry]))
            (entry :: before.reverse ++ started)).1, some failure) := by
  induction components generalizing facilities started with
  | nil => exact .inl ⟨List.forall_mem_nil _, rfl⟩
  | cons first rest ih =>
      obtain ⟨component, index⟩ := first
      simp only [startComponents]
      cases hfailure : (script.start index).failure with
      | some failure =>
          refine .inr ⟨[], (component, index), rest, _, rfl, List.forall_mem_nil _, ?_, rfl⟩
          simp [Starts, hfailure]
      | none =>
          dsimp only
          rcases ih (facilities.runCallback secrets (ext.principal component) .start
              (script.start index)) ((component, index) :: started) with
            ⟨hall, hrest⟩ | ⟨before, entry, after, failure, rfl, hbefore, hfails, hrest⟩
          · refine .inl ⟨?_, hrest⟩
            intro entry hmem
            rcases List.mem_cons.mp hmem with rfl | hmem
            · exact hfailure
            · exact hall entry hmem
          · refine .inr ⟨(component, index) :: before, entry, after, failure, rfl, ?_, hfails, ?_⟩
            · intro other hmem
              rcases List.mem_cons.mp hmem with rfl | hmem
              · exact hfailure
              · exact hbefore other hmem
            · rw [hrest]
              simp [startAll]

end Engine

namespace EngineFacilities

/-- A callback is recorded once. -/
theorem runCallback_callbacks (facilities : EngineFacilities) (secrets : SecretManager)
    (owner : ComponentRef) (kind : CallbackKind) (callback : Callback) :
    (facilities.runCallback secrets owner kind callback).callbacks =
      facilities.callbacks ++ [⟨owner, kind⟩] := by
  have hperform : ∀ (current : EngineFacilities) (executionActive : Bool) (call : ContextCall),
      (current.perform secrets owner executionActive call).callbacks = current.callbacks := by
    intro current executionActive call
    cases call with
    | registerRuntimeEffect | revokeRuntimeEffect | revokeAllRuntimeEffects | registerTarget
    | revokeTargets => rfl
    | callService | listProviders =>
        simp only [perform, whileActive, useServices]
        split
        · split <;> rfl
        · rfl
    | mountUiSurface | patchUiSurface | unmountUiSurface | requestWorldFocus | queueAction =>
        simp only [perform, whileActive, useUi]
        split
        · split <;> rfl
        · rfl
  have hall : ∀ (calls : List ContextCall) (current : EngineFacilities),
      (performAll secrets owner (decide (kind ≠ .stop)) current calls).callbacks =
        current.callbacks := by
    intro calls
    induction calls with
    | nil => exact fun current => rfl
    | cons call rest ih => exact fun current => (ih _).trans (hperform current _ call)
  exact hall callback.calls _

end EngineFacilities

namespace Engine

variable (secrets : SecretManager) (ext : ManagedExtension) (script : InstanceScript)

theorem startAll_callbacks (facilities : EngineFacilities)
    (components : List (ManagedComponent × Nat)) :
    (startAll secrets ext script facilities components).callbacks =
      facilities.callbacks ++ startLog ext components := by
  induction components generalizing facilities with
  | nil => simp [startAll, startLog]
  | cons entry rest ih =>
      have hrest := ih (facilities.runCallback secrets (ext.principal entry.1) .start
        (script.start entry.2))
      rw [EngineFacilities.runCallback_callbacks] at hrest
      simp only [startLog, List.map_cons] at hrest ⊢
      rw [List.append_assoc] at hrest
      exact hrest

theorem stopComponents_callbacks (facilities : EngineFacilities)
    (components : List (ManagedComponent × Nat)) :
    (stopComponents secrets ext script facilities components).1.callbacks =
      facilities.callbacks ++ stopLog ext components := by
  induction components generalizing facilities with
  | nil => simp [stopComponents, stopLog]
  | cons entry rest ih =>
      have hrest := ih (facilities.runCallback secrets (ext.principal entry.1) .stop
        (script.stop entry.2))
      rw [EngineFacilities.runCallback_callbacks] at hrest
      simp only [stopLog, List.map_cons] at hrest ⊢
      rw [List.append_assoc] at hrest
      exact hrest

end Engine

/-! ## Effects and targets of the others -/

namespace EngineFacilities

/-- The effects and the targets of an instance are the same. -/
structure SameBelongings (other : ExtensionInstanceId) (facilities facilities' : EngineFacilities) :
    Prop where
  effects : ∀ effectId owned, owned.owner.instanceId = other →
    (facilities'.runtimeEffects.effects.lookup effectId = some owned ↔
      facilities.runtimeEffects.effects.lookup effectId = some owned)
  targets : ∀ target owner, owner.instanceId = other →
    (facilities'.executionTargets.hosts.lookup target = some owner ↔
      facilities.executionTargets.hosts.lookup target = some owner)

variable {other : ExtensionInstanceId} {facilities facilities' facilities'' : EngineFacilities}

theorem SameBelongings.of_eq (heffects : facilities'.runtimeEffects = facilities.runtimeEffects)
    (htargets : facilities'.executionTargets = facilities.executionTargets) :
    SameBelongings other facilities facilities' := by
  constructor
  · intro effectId owned _
    rw [heffects]
  · intro target owner _
    rw [htargets]

theorem SameBelongings.trans (h : SameBelongings other facilities facilities')
    (h' : SameBelongings other facilities' facilities'') :
    SameBelongings other facilities facilities'' :=
  ⟨fun effectId owned howner => (h'.effects effectId owned howner).trans
      (h.effects effectId owned howner),
    fun target owner howner => (h'.targets target owner howner).trans
      (h.targets target owner howner)⟩

/-- Effects of one owner are taken out. -/
theorem SameBelongings.of_retain {keepEffect : OwnedRuntimeEffect → Bool}
    {keepTarget : ComponentRef → Bool}
    (heffects : ∀ owned, owned.owner.instanceId = other → keepEffect owned = true)
    (htargets : ∀ owner : ComponentRef, owner.instanceId = other → keepTarget owner = true)
    (heffects' : ∀ effectId, facilities'.runtimeEffects.effects.lookup effectId =
      (facilities.runtimeEffects.effects.lookup effectId).filter keepEffect)
    (htargets' : ∀ target, facilities'.executionTargets.hosts.lookup target =
      (facilities.executionTargets.hosts.lookup target).filter keepTarget) :
    SameBelongings other facilities facilities' := by
  constructor
  · intro effectId owned howner
    rw [heffects', Option.filter_eq_some_iff]
    exact and_iff_left (heffects owned howner)
  · intro target owner howner
    rw [htargets', Option.filter_eq_some_iff]
    exact and_iff_left (htargets owner howner)

theorem sameBelongings_revokeInstance {instanceId : ExtensionInstanceId}
    (hother : other ≠ instanceId) :
    SameBelongings other facilities (facilities.revokeInstance instanceId) := by
  refine SameBelongings.of_retain ?_ ?_ (fun effectId => Dict.lookup_retain _ _ _)
    (fun target => Dict.lookup_retain _ _ _)
  · rintro owned rfl
    simpa using hother
  · rintro owner rfl
    simpa using hother

/-- A callback only changes effects and targets of its own component. -/
theorem sameBelongings_perform (hnumbered : Numbered facilities.runtimeEffects)
    (secrets : SecretManager) {owner : ComponentRef} (hother : owner.instanceId ≠ other)
    (executionActive : Bool) (call : ContextCall) :
    SameBelongings other facilities (facilities.perform secrets owner executionActive call) := by
  cases call with
  | registerRuntimeEffect effect =>
      refine ⟨?_, fun _ _ _ => Iff.rfl⟩
      intro effectId owned howner
      simp only [perform, RuntimeEffectRegistry.register]
      split
      · exact Iff.rfl
      · split
        · rw [Dict.lookup_insert_ite]
          split
          · next heq =>
              subst heq
              rw [hnumbered.fresh owner]
              constructor
              · intro hnew
                cases hnew
                exact absurd howner hother
              · intro hnone
                cases hnone
          · exact Iff.rfl
        · exact Iff.rfl
  | revokeRuntimeEffect effectId =>
      refine ⟨?_, fun _ _ _ => Iff.rfl⟩
      intro otherId owned howner
      simp only [perform, RuntimeEffectRegistry.revoke]
      split
      · next hown =>
          rw [Dict.lookup_erase_ite]
          split
          · next heq =>
              subst heq
              constructor
              · intro hnone
                cases hnone
              · intro hlookup
                rw [hlookup] at hown
                simp only [Option.any_some, beq_iff_eq] at hown
                rw [hown] at howner
                exact absurd howner hother
          · exact Iff.rfl
      · exact Iff.rfl
  | revokeAllRuntimeEffects =>
      refine ⟨?_, fun _ _ _ => Iff.rfl⟩
      intro effectId owned howner
      simp only [perform, RuntimeEffectRegistry.revokeComponent, Dict.lookup_retain,
        Option.filter_eq_some_iff, and_iff_left_iff_imp, bne_iff_ne]
      rintro - rfl
      exact hother howner
  | registerTarget target =>
      refine ⟨fun _ _ _ => Iff.rfl, ?_⟩
      intro otherTarget registered howner
      simp only [perform, ExecutionTargetRegistry.register]
      split
      · exact Iff.rfl
      · split
        · exact Iff.rfl
        · next hfree =>
            rw [Dict.lookup_insert_ite]
            split
            · next heq =>
                subst heq
                rw [Option.not_isSome_iff_eq_none.mp hfree]
                constructor
                · intro hnew
                  cases hnew
                  exact absurd howner hother
                · intro hnone
                  cases hnone
            · exact Iff.rfl
  | revokeTargets =>
      refine ⟨fun _ _ _ => Iff.rfl, ?_⟩
      intro target registered howner
      simp only [perform, ExecutionTargetRegistry.revokeComponent, Dict.lookup_retain,
        Option.filter_eq_some_iff, and_iff_left_iff_imp, bne_iff_ne]
      rintro - rfl
      exact hother howner
  | callService | listProviders =>
      simp only [perform, whileActive, useServices]
      split
      · split <;> exact .of_eq rfl rfl
      · exact .of_eq rfl rfl
  | mountUiSurface | patchUiSurface | unmountUiSurface | requestWorldFocus | queueAction =>
      simp only [perform, whileActive, useUi]
      split
      · split <;> exact .of_eq rfl rfl
      · exact .of_eq rfl rfl

theorem sameBelongings_runCallback (hnumbered : Numbered facilities.runtimeEffects)
    (secrets : SecretManager) {owner : ComponentRef} (hother : owner.instanceId ≠ other)
    (kind : CallbackKind) (callback : Callback) :
    SameBelongings other facilities (facilities.runCallback secrets owner kind callback) := by
  have hall : ∀ (calls : List ContextCall) (current : EngineFacilities),
      Numbered current.runtimeEffects →
      SameBelongings other current
        (performAll secrets owner (decide (kind ≠ .stop)) current calls) := by
    intro calls
    induction calls with
    | nil => exact fun current _ => .of_eq rfl rfl
    | cons call rest ih =>
        intro current hcurrent
        exact (sameBelongings_perform hcurrent secrets hother _ call).trans
          (ih _ (numbered_invariant.perform hcurrent secrets owner _ call))
  have hrecorded := hall callback.calls
    { facilities with callbacks := facilities.callbacks ++ [⟨owner, kind⟩] } hnumbered
  exact ⟨hrecorded.effects, hrecorded.targets⟩

/-- Stop callbacks only change effects and targets of their own instance. -/
theorem sameBelongings_stopComponents (hnumbered : Numbered facilities.runtimeEffects)
    (secrets : SecretManager) {ext : ManagedExtension} (hother : ext.instanceId ≠ other)
    (script : InstanceScript) (components : List (ManagedComponent × Nat)) :
    SameBelongings other facilities
      (Engine.stopComponents secrets ext script facilities components).1 := by
  induction components generalizing facilities with
  | nil => exact .of_eq rfl rfl
  | cons entry rest ih =>
      exact (sameBelongings_runCallback hnumbered secrets hother _ _).trans
        (ih (numbered_invariant.runCallback hnumbered secrets _ _ _))

/-- Start callbacks only change effects and targets of their own instance. -/
theorem sameBelongings_startAll (hnumbered : Numbered facilities.runtimeEffects)
    (secrets : SecretManager) {ext : ManagedExtension} (hother : ext.instanceId ≠ other)
    (script : InstanceScript) (components : List (ManagedComponent × Nat)) :
    SameBelongings other facilities (Engine.startAll secrets ext script facilities components) ∧
      Numbered (Engine.startAll secrets ext script facilities components).runtimeEffects := by
  induction components generalizing facilities with
  | nil => exact ⟨.of_eq rfl rfl, hnumbered⟩
  | cons entry rest ih =>
      have hran := numbered_invariant.runCallback hnumbered secrets (ext.principal entry.1) .start
        (script.start entry.2)
      obtain ⟨hsame, hrest⟩ := ih hran
      exact ⟨(sameBelongings_runCallback hnumbered secrets hother _ _).trans hsame, hrest⟩

end EngineFacilities

/-! ## What the others present -/

/-- What an instance presents is the same, but for actions on surfaces of the first
instance. -/
structure SamePresentation (instanceId other : ExtensionInstanceId) (ui ui' : UiRuntimeState) :
    Prop where
  surfaces : ∀ surfaceId, ui'.mountedSurfaces.lookup ⟨other, surfaceId⟩ =
    ui.mountedSurfaces.lookup ⟨other, surfaceId⟩
  layers : ∀ scopeId layer, layer.owner.instanceId = other →
    (ui'.layers.lookup scopeId = some layer ↔ ui.layers.lookup scopeId = some layer)
  actions : (ui'.queuedActions.filter fun queued =>
      queued.layerOwner.instanceId == other && queued.event.ownerInstanceId != instanceId) =
    ui.queuedActions.filter fun queued =>
      queued.layerOwner.instanceId == other && queued.event.ownerInstanceId != instanceId
  focusRequests : (ui'.queuedWorldFocusRequests.filter fun queued =>
      queued.layerOwner.instanceId == other) =
    ui.queuedWorldFocusRequests.filter fun queued => queued.layerOwner.instanceId == other

namespace SamePresentation

variable {instanceId other : ExtensionInstanceId} {ui ui' ui'' : UiRuntimeState}

theorem refl (ui : UiRuntimeState) : SamePresentation instanceId other ui ui :=
  ⟨fun _ => rfl, fun _ _ _ => Iff.rfl, rfl, rfl⟩

theorem trans (h : SamePresentation instanceId other ui ui')
    (h' : SamePresentation instanceId other ui' ui'') :
    SamePresentation instanceId other ui ui'' :=
  ⟨fun surfaceId => (h'.surfaces surfaceId).trans (h.surfaces surfaceId),
    fun scopeId layer howner =>
      (h'.layers scopeId layer howner).trans (h.layers scopeId layer howner),
    h'.actions.trans h.actions, h'.focusRequests.trans h.focusRequests⟩

/-- Only the mounted surfaces of another instance change. -/
theorem of_mounted (hsurfaces : ∀ surfaceId, ui'.mountedSurfaces.lookup ⟨other, surfaceId⟩ =
      ui.mountedSurfaces.lookup ⟨other, surfaceId⟩)
    (hlayers : ui'.layers = ui.layers) (hactions : ui'.queuedActions = ui.queuedActions)
    (hrequests : ui'.queuedWorldFocusRequests = ui.queuedWorldFocusRequests) :
    SamePresentation instanceId other ui ui' := by
  refine ⟨hsurfaces, ?_, ?_, ?_⟩
  · intro scopeId layer _
    rw [hlayers]
  · rw [hactions]
  · rw [hrequests]

/-- The queue of the others stays when a layer replaces its request. -/
theorem filter_replaceQueued {owner : ComponentRef} (hother : owner.instanceId ≠ other)
    (worldId : WorldId) (queue : List QueuedWorldFocusRequest) :
    ((UiRuntimeState.replaceQueued owner worldId queue).filter fun queued =>
        queued.layerOwner.instanceId == other) =
      queue.filter fun queued => queued.layerOwner.instanceId == other := by
  induction queue with
  | nil => rfl
  | cons queued rest ih =>
      simp only [UiRuntimeState.replaceQueued]
      split
      · next heq =>
          subst heq
          simp [hother]
      · simp only [List.filter_cons, ih]

/-- What one instance asks for does not change what another one presents. -/
theorem run {owner : ComponentRef} (hother : owner.instanceId ≠ other) {call : UiCall}
    (hcall : (∃ snapshot, call = .mountSurface owner snapshot) ∨
      (∃ batch, call = .applyPatches owner batch) ∨
      (∃ surfaceId, call = .unmountSurface owner surfaceId) ∨
      (∃ worldId, call = .queueWorldFocusRequest owner worldId) ∨
      ∃ event, call = .queueAction owner event) :
    SamePresentation instanceId other ui (ui.run call).1 := by
  cases hrun : ui.run call with
  | mk ui' result =>
      cases result with
      | error error =>
          rw [UiRuntimeState.run_error hrun]
          exact .refl ui
      | ok value =>
          have hkey : ∀ surfaceId mounted : UiSurfaceId,
              (⟨other, surfaceId⟩ : UiSurfaceKey) ≠ ⟨owner.instanceId, mounted⟩ := by
            intro surfaceId mounted heq
            cases heq
            exact hother rfl
          rcases hcall with ⟨snapshot, rfl⟩ | ⟨batch, rfl⟩ | ⟨surfaceId, rfl⟩ | ⟨worldId, rfl⟩ |
            ⟨event, rfl⟩
          · obtain ⟨-, rfl⟩ := UiRuntimeState.mountSurface_ok hrun
            exact .of_mounted (fun surfaceId => AList.lookup_insert_ne (hkey surfaceId _)) rfl rfl
              rfl
          · obtain ⟨next, -, rfl⟩ := UiRuntimeState.applyPatches_ok hrun
            exact .of_mounted (fun surfaceId => AList.lookup_insert_ne (hkey surfaceId _)) rfl rfl
              rfl
          · obtain rfl := UiRuntimeState.unmountSurface_ok hrun
            exact .of_mounted (fun surfaceId => AList.lookup_erase_ne (hkey surfaceId _)) rfl rfl
              rfl
          · obtain ⟨scopeId, layer, hfound, rfl⟩ := UiRuntimeState.queueWorldFocusRequest_ok hrun
            obtain ⟨hlayer, howner⟩ := UiRuntimeState.findLayer_some hfound
            refine ⟨fun _ => rfl, ?_, rfl, ?_⟩
            · intro otherScope otherLayer hotherOwner
              simp only [Dict.lookup_insert_ite]
              split
              · next heq =>
                  subst heq
                  rw [hlayer]
                  constructor
                  · intro hsame
                    cases hsame
                    rw [← howner] at hother
                    exact absurd hotherOwner hother
                  · intro hsame
                    cases hsame
                    rw [← howner] at hother
                    exact absurd hotherOwner hother
              · exact Iff.rfl
            · dsimp only
              split
              · exact filter_replaceQueued hother worldId _
              · simp [hother]
          · obtain rfl := UiRuntimeState.queueAction_ok hrun
            refine ⟨fun _ => rfl, fun _ _ _ => Iff.rfl, ?_, rfl⟩
            simp [hother]

/-- The activation of an instance leaves what the others present. -/
theorem setInstanceActive (hother : other ≠ instanceId) (isActive : Bool) :
    SamePresentation instanceId other ui (ui.setInstanceActive instanceId isActive).1 := by
  unfold UiRuntimeState.setInstanceActive
  split
  · exact .refl ui
  · next inst _ =>
      dsimp only
      split
      · exact ⟨fun _ => rfl, fun _ _ _ => Iff.rfl, rfl, rfl⟩
      · refine ⟨?_, ?_, ?_, ?_⟩
        · intro surfaceId
          rw [Dict.lookup_eraseAll, if_neg]
          intro hmem
          obtain ⟨mounted, -, heq⟩ := List.mem_map.mp hmem
          cases heq
          exact hother rfl
        · intro scopeId layer howner
          dsimp only [UiRuntimeState.layersWithout]
          split
          · next hown =>
              rw [Dict.lookup_erase_ite]
              split
              · next heq =>
                  subst heq
                  constructor
                  · intro hnone
                    cases hnone
                  · intro hlookup
                    rw [hlookup] at hown
                    simp only [Option.any_some, beq_iff_eq] at hown
                    exact absurd (howner.symm.trans hown) hother
              · exact Iff.rfl
          · exact Iff.rfl
        · dsimp only [UiRuntimeState.actionsWithout]
          rw [List.filter_filter]
          refine List.filter_congr fun queued _ => ?_
          by_cases hlayer : queued.layerOwner.instanceId = other
          · simp [hlayer, hother]
          · simp [hlayer]
        · dsimp only [UiRuntimeState.focusRequestsWithout]
          rw [List.filter_filter]
          refine List.filter_congr fun queued _ => ?_
          by_cases hlayer : queued.layerOwner.instanceId = other
          · simp [hlayer, hother]
          · simp [hlayer]

end SamePresentation

end Rintawa.ExtensionEngine
