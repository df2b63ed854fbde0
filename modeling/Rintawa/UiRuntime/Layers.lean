/-
# Attached layers

A layer is attached in the scope of the instance that owns it, so an owner has at
most one layer. What a layer sees changes only when it is attached or focused, and
both check what it would be shown.
-/

import Rintawa.UiRuntime.Operations

namespace Rintawa.UiRuntime

open Rintawa.Lib Rintawa.Sdk

namespace UiRuntimeState

variable {state state' : UiRuntimeState}

/-- Every attached layer belongs to an instance that is registered in its scope. -/
def LayersOwned (state : UiRuntimeState) : Prop :=
  ∀ layerScope layer, state.layers.lookup layerScope = some layer →
    ∃ inst, state.instances.lookup layer.owner.instanceId = some inst ∧
      inst.scopeId = layerScope

/-- Every attached layer belongs to an instance that is registered in its scope and meets
a condition. -/
def LayersMeet (P : UiExtensionInstance → Prop) (state : UiRuntimeState) : Prop :=
  ∀ layerScope layer, state.layers.lookup layerScope = some layer →
    ∃ inst, state.instances.lookup layer.owner.instanceId = some inst ∧
      inst.scopeId = layerScope ∧ P inst

/-! ## Layers keep to the scopes of their owners -/

theorem LayersMeet.owned {P : UiExtensionInstance → Prop} (h : LayersMeet P state) :
    state.LayersOwned := by
  intro layerScope layer hlayer
  obtain ⟨inst, hinst, hscope, -⟩ := h layerScope layer hlayer
  exact ⟨inst, hinst, hscope⟩

/-- Layers that a step leaves in place keep their owners. -/
theorem LayersMeet.of_layers {P : UiExtensionInstance → Prop} (h : LayersMeet P state)
    (hlayers : ∀ layerScope layer, state'.layers.lookup layerScope = some layer →
      ∃ before, state.layers.lookup layerScope = some before ∧ before.owner = layer.owner)
    (hinstances : state'.instances = state.instances) : LayersMeet P state' := by
  intro layerScope layer hlayer
  obtain ⟨before, hbefore, howner⟩ := hlayers layerScope layer hlayer
  obtain ⟨inst, hinst, hmeets⟩ := h layerScope before hbefore
  exact ⟨inst, by rw [hinstances, ← howner, hinst], hmeets⟩

variable {after before layer : ActiveUiLayer} {layerScope scopeId : RuntimeScopeId}
  {instanceId : ExtensionInstanceId}

/-- Replacing a layer by one of the same owner keeps the owners. -/
theorem lookup_layers_of_insert {layers : Dict RuntimeScopeId ActiveUiLayer}
    {other : RuntimeScopeId} (hbefore : layers.lookup layerScope = some before)
    (h : (layers.insert layerScope after).lookup other = some layer)
    (howner : after.owner = before.owner) :
    ∃ old, layers.lookup other = some old ∧ old.owner = layer.owner := by
  rw [Dict.lookup_insert_ite] at h
  split at h
  · next hsame =>
      cases h
      exact ⟨before, hsame ▸ hbefore, howner.symm⟩
  · exact ⟨layer, h, rfl⟩

/-- A layer that stays when an instance leaves was there before. -/
theorem lookup_of_layersWithout
    (h : (state.layersWithout instanceId scopeId).lookup layerScope = some layer) :
    state.layers.lookup layerScope = some layer := by
  unfold layersWithout at h
  split at h
  · rw [Dict.lookup_erase_ite] at h
    split at h
    · cases h
    · exact h
  · exact h

/-- The layers of other instances stay. -/
theorem lookup_layersWithout_of_ne (h : state.layers.lookup layerScope = some layer)
    (hne : layer.owner.instanceId ≠ instanceId) :
    (state.layersWithout instanceId scopeId).lookup layerScope = some layer := by
  unfold layersWithout
  split
  · next hany =>
      rw [Dict.lookup_erase_ite, if_neg, h]
      rintro rfl
      simp [h, hne] at hany
  · exact h

/-- A layer that stays when an instance leaves belongs to another instance. The layer of the
instance is in its scope, which has been cleared. -/
theorem lookup_layersWithout {inst : UiExtensionInstance} (howned : state.LayersOwned)
    (hinst : state.instances.lookup instanceId = some inst)
    (h : (state.layersWithout instanceId inst.scopeId).lookup layerScope = some layer) :
    state.layers.lookup layerScope = some layer ∧ layer.owner.instanceId ≠ instanceId := by
  have hlayer := lookup_of_layersWithout h
  refine ⟨hlayer, ?_⟩
  rintro rfl
  obtain ⟨owner, howner, hscope⟩ := howned layerScope layer hlayer
  cases hinst.symm.trans howner
  subst hscope
  simp [layersWithout, hlayer] at h

/-- What active instances meet, the owners of layers meet after every call. -/
theorem LayersMeet.run {P : UiExtensionInstance → Prop}
    (hactive : ∀ inst, inst.isActive = true → P inst) {call : UiCall}
    (hmeets : LayersMeet P state) (h : state.run call = (state', .ok ())) :
    LayersMeet P state' := by
  cases call with
  | registerInstance instanceId scopeId surfaces layers =>
      obtain ⟨hfresh, declared, registered, ids, -, -, rfl⟩ := registerInstance_ok h
      intro layerScope layer hlayer
      obtain ⟨inst, hinst, hscope⟩ := hmeets layerScope layer hlayer
      have hne : layer.owner.instanceId ≠ instanceId := by
        rintro rfl
        cases hfresh.symm.trans hinst
      exact ⟨inst, by rw [AList.lookup_insert_ne hne, hinst], hscope⟩
  | registerWorldPresentation owned =>
      obtain ⟨_, rfl⟩ := registerWorldPresentation_ok h
      exact hmeets
  | unregisterInstance instanceId =>
      simp only [UiRuntimeState.run, unregisterInstance] at h
      split at h
      · cases h
        exact hmeets
      · next inst hinst =>
          cases h
          intro layerScope layer hlayer
          obtain ⟨hbefore, hne⟩ := lookup_layersWithout hmeets.owned hinst hlayer
          obtain ⟨owner, howner, hscope⟩ := hmeets layerScope layer hbefore
          exact ⟨owner, by rw [AList.lookup_erase_ne hne, howner], hscope⟩
  | setInstanceActive instanceId isActive =>
      simp only [UiRuntimeState.run, setInstanceActive] at h
      split at h
      · cases h
      · next inst hinst =>
          cases isActive with
          | true =>
              cases h
              intro layerScope layer hlayer
              obtain ⟨owner, howner, hscope, hmeets⟩ := hmeets layerScope layer hlayer
              simp only [Dict.lookup_insert_ite]
              split
              · next hsame =>
                  rw [hsame, hinst] at howner
                  cases howner
                  exact ⟨_, rfl, hscope, hactive _ rfl⟩
              · exact ⟨owner, howner, hscope, hmeets⟩
          | false =>
              cases h
              intro layerScope layer hlayer
              obtain ⟨hbefore, hne⟩ := lookup_layersWithout hmeets.owned hinst hlayer
              obtain ⟨owner, howner, hscope⟩ := hmeets layerScope layer hbefore
              exact ⟨owner, by rw [AList.lookup_insert_ne hne, howner], hscope⟩
  | attachLayer owner descriptor =>
      obtain ⟨inst, hinst, hisActive, -, -, rfl⟩ := attachLayer_ok h
      exact attached hmeets hinst (hactive inst hisActive)
  | attachRegisteredLayer owner =>
      obtain ⟨descriptor, hattach⟩ := attachRegisteredLayer_ok h
      obtain ⟨inst, hinst, hisActive, -, -, rfl⟩ := attachLayer_ok hattach
      exact attached hmeets hinst (hactive inst hisActive)
  | detachLayer owner =>
      obtain ⟨inst, -, -, rfl⟩ := detachLayer_ok h
      refine hmeets.of_layers ?_ rfl
      intro layerScope layer hlayer
      rw [Dict.lookup_erase_ite] at hlayer
      split at hlayer
      · cases hlayer
      · exact ⟨layer, hlayer, rfl⟩
  | queueWorldFocusRequest owner worldId =>
      obtain ⟨scopeId, layer, hfound, rfl⟩ := queueWorldFocusRequest_ok h
      refine hmeets.of_layers ?_ rfl
      exact fun _ _ hlayer => lookup_layers_of_insert (findLayer_some hfound).1 hlayer rfl
  | drainWorldFocusRequests =>
      cases h
      exact hmeets
  | recordWorldFocusFailure owner worldId diagnostic =>
      obtain ⟨scopeId, layer, hfound, hstate⟩ := recordWorldFocusFailure_ok h
      split at hstate
      · subst hstate
        refine hmeets.of_layers ?_ rfl
        exact fun _ _ hlayer => lookup_layers_of_insert (findLayer_some hfound).1 hlayer rfl
      · subst hstate
        exact hmeets
  | setFocusedWorldScope owner worldId scopeId descriptor =>
      obtain ⟨layerScope, layer, hcheck, rfl⟩ := setFocusedWorldScope_ok h
      have hbefore := (findLayer_some (checkFocus_ok hcheck).1).1
      refine hmeets.of_layers ?_ rfl
      exact fun _ _ hlayer => lookup_layers_of_insert hbefore hlayer rfl
  | clearFocusedWorldScope owner =>
      obtain ⟨layerScope, layer, hfound, rfl⟩ := clearFocusedWorldScope_ok h
      refine hmeets.of_layers ?_ rfl
      exact fun _ _ hlayer => lookup_layers_of_insert (findLayer_some hfound).1 hlayer rfl
  | clearFocusedWorldScopeForAllLayers scopeId =>
      cases h
      refine hmeets.of_layers ?_ rfl
      intro layerScope layer hlayer
      simp only [Dict.lookup_mapValues, Option.map_eq_some_iff] at hlayer
      obtain ⟨before, hbefore, rfl⟩ := hlayer
      refine ⟨before, hbefore, ?_⟩
      split <;> rfl
  | mountSurface owner snapshot =>
      obtain ⟨-, rfl⟩ := mountSurface_ok h
      exact hmeets
  | applyPatches owner batch =>
      obtain ⟨_, -, rfl⟩ := applyPatches_ok h
      exact hmeets
  | unmountSurface owner surfaceId =>
      cases unmountSurface_ok h
      exact hmeets
  | queueAction layerOwner event =>
      cases queueAction_ok h
      exact hmeets
  | drainQueuedActions =>
      cases h
      exact hmeets
where
  /-- An attachment puts the layer into the scope of its owner. -/
  attached {P : UiExtensionInstance → Prop} {state : UiRuntimeState} {owner : ComponentRef}
      {descriptor : UiLayerDescriptor} {inst : UiExtensionInstance} (hmeets : LayersMeet P state)
      (hinst : state.instances.lookup owner.instanceId = some inst) (hnew : P inst) :
      LayersMeet P { state with
        layers := state.layers.insert inst.scopeId
          (state.attachedLayer inst.scopeId owner descriptor) } := by
    intro layerScope layer hlayer
    simp only [Dict.lookup_insert_ite] at hlayer
    split at hlayer
    · next hsame =>
        cases hlayer
        exact ⟨inst, hinst, hsame.symm, hnew⟩
    · exact hmeets layerScope layer hlayer

/-- The owners of layers survive every call. -/
theorem LayersOwned.run {call : UiCall} (howned : state.LayersOwned)
    (h : state.run call = (state', .ok ())) : state'.LayersOwned := by
  have hmeets : LayersMeet (fun _ => True) state := by
    intro layerScope layer hlayer
    obtain ⟨inst, hinst, hscope⟩ := howned layerScope layer hlayer
    exact ⟨inst, hinst, hscope, trivial⟩
  exact (hmeets.run (fun _ _ => trivial) h).owned

/-- A layer of the empty runtime belongs to anything. -/
theorem layersOwned_new : UiRuntimeState.new.LayersOwned := by
  intro layerScope layer hlayer
  cases hlayer

/-- An attached layer is found under its owner. -/
theorem LayersOwned.findLayer_eq (howned : state.LayersOwned)
    (hlayer : state.layers.lookup layerScope = some layer) :
    state.findLayer layer.owner = some (layerScope, layer) := by
  obtain ⟨⟨otherScope, other⟩, hfound⟩ := Option.isSome_iff_exists.mp (findLayer_isSome hlayer)
  obtain ⟨hother, howner⟩ := findLayer_some hfound
  obtain ⟨inst, hinst, hscope⟩ := howned layerScope layer hlayer
  obtain ⟨inst', hinst', hscope'⟩ := howned otherScope other hother
  rw [howner, hinst] at hinst'
  cases hinst'
  subst hscope hscope'
  cases hlayer.symm.trans hother
  exact hfound

/-! ## What a layer sees -/

/-- The ways in which a layer comes to see a scope after an accepted call: it saw the
scope before, or the surfaces shown there were checked. -/
inductive Sees (state state' : UiRuntimeState) (layerScope : RuntimeScopeId)
    (layer : ActiveUiLayer) (scopeId : RuntimeScopeId) : Prop
  | kept {before : ActiveUiLayer} (attached : state.layers.lookup layerScope = some before)
      (saw : before.sees layerScope scopeId = true)
      (same : before.capabilities = layer.capabilities)
  | checked {visible : RuntimeScopeId → Bool} (sees : visible scopeId = true)
      (supported : state.ensureMountedSupported layer.capabilities visible = .ok ())
      (frame : ∀ key snapshot registered inst,
        state'.Shown key snapshot registered inst → state.Shown key snapshot registered inst)

/-- Without its focus a layer sees less. -/
theorem sees_of_unfocused (h : after.sees layerScope scopeId = true)
    (hfocus : after.focusedScope = before.focusedScope ∨ after.focusedScope = none) :
    before.sees layerScope scopeId = true := by
  unfold ActiveUiLayer.sees at h ⊢
  rcases hfocus with hfocus | hfocus
  · rw [hfocus] at h
    exact h
  · rw [hfocus, Option.any_none, Bool.or_false] at h
    rw [h, Bool.true_or]

/-- A layer that is put back with the same capabilities and no new focus sees what it
saw. -/
theorem sees_of_insert {other : RuntimeScopeId}
    (hbefore : state.layers.lookup layerScope = some before)
    (h : (state.layers.insert layerScope after).lookup other = some layer)
    (hsees : layer.sees other scopeId = true)
    (hfocus : after.focusedScope = before.focusedScope ∨ after.focusedScope = none)
    (hcapabilities : after.capabilities = before.capabilities) :
    Sees state state' other layer scopeId := by
  rw [Dict.lookup_insert_ite] at h
  split at h
  · next hsame =>
      cases h
      subst hsame
      exact .kept hbefore (sees_of_unfocused hsees hfocus) hcapabilities.symm
  · exact .kept h hsees rfl

/-- An attachment checks all that the layer sees. -/
theorem sees_of_attachLayer {owner : ComponentRef} {descriptor : UiLayerDescriptor}
    (h : state.attachLayer owner descriptor = (state', .ok ()))
    (hlayer : state'.layers.lookup layerScope = some layer)
    (hsees : layer.sees layerScope scopeId = true) :
    Sees state state' layerScope layer scopeId := by
  obtain ⟨inst, -, -, -, hsupported, rfl⟩ := attachLayer_ok h
  simp only [Dict.lookup_insert_ite] at hlayer
  split at hlayer
  · next hsame =>
      cases hlayer
      subst hsame
      exact .checked hsees hsupported fun _ _ _ _ hshown => hshown.congr rfl rfl rfl
  · exact .kept hlayer hsees rfl

/-- A change of focus checks what is shown in the new scope. -/
theorem sees_of_setFocusedWorldScope {owner : ComponentRef} {worldId : WorldId}
    {focused : RuntimeScopeId} {descriptor : WorldPresentationDescriptor}
    (h : state.setFocusedWorldScope owner worldId focused descriptor = (state', .ok ()))
    (hlayer : state'.layers.lookup layerScope = some layer)
    (hsees : layer.sees layerScope scopeId = true) :
    Sees state state' layerScope layer scopeId := by
  obtain ⟨ownScope, before, hcheck, rfl⟩ := setFocusedWorldScope_ok h
  obtain ⟨hfound, hsupported⟩ := checkFocus_ok hcheck
  simp only [Dict.lookup_insert_ite] at hlayer
  split at hlayer
  · next hsame =>
      cases hlayer
      subst hsame
      by_cases hown : layerScope = scopeId
      · refine .kept (findLayer_some hfound).1 ?_ rfl
        simp [ActiveUiLayer.sees, hown]
      · have hfocused : focused = scopeId := by
          simpa [ActiveUiLayer.sees, hown] using hsees
        refine .checked ?_ hsupported fun _ _ _ _ hshown => hshown.congr rfl rfl rfl
        simp [hfocused]
  · exact .kept hlayer hsees rfl

/-- A layer that sees a scope after an accepted call sees it in one of these ways. -/
theorem sees_of_run {call : UiCall} (h : state.run call = (state', .ok ()))
    (hlayer : state'.layers.lookup layerScope = some layer)
    (hsees : layer.sees layerScope scopeId = true) :
    Sees state state' layerScope layer scopeId := by
  cases call with
  | registerInstance instanceId scope surfaces layers =>
      obtain ⟨-, declared, registered, ids, -, -, rfl⟩ := registerInstance_ok h
      exact .kept hlayer hsees rfl
  | registerWorldPresentation owned =>
      obtain ⟨_, rfl⟩ := registerWorldPresentation_ok h
      exact .kept hlayer hsees rfl
  | unregisterInstance instanceId =>
      simp only [run, unregisterInstance] at h
      split at h <;> cases h
      · exact .kept hlayer hsees rfl
      · exact .kept (lookup_of_layersWithout hlayer) hsees rfl
  | setInstanceActive instanceId isActive =>
      simp only [run, setInstanceActive] at h
      split at h
      · cases h
      · cases isActive <;> cases h
        · exact .kept (lookup_of_layersWithout hlayer) hsees rfl
        · exact .kept hlayer hsees rfl
  | attachLayer owner descriptor => exact sees_of_attachLayer h hlayer hsees
  | attachRegisteredLayer owner =>
      obtain ⟨descriptor, hattach⟩ := attachRegisteredLayer_ok h
      exact sees_of_attachLayer hattach hlayer hsees
  | detachLayer owner =>
      obtain ⟨inst, -, -, rfl⟩ := detachLayer_ok h
      simp only [Dict.lookup_erase_ite] at hlayer
      split at hlayer
      · cases hlayer
      · exact .kept hlayer hsees rfl
  | queueWorldFocusRequest owner worldId =>
      obtain ⟨_, _, hfound, rfl⟩ := queueWorldFocusRequest_ok h
      exact sees_of_insert (findLayer_some hfound).1 hlayer hsees (.inl rfl) rfl
  | drainWorldFocusRequests =>
      cases h
      exact .kept hlayer hsees rfl
  | recordWorldFocusFailure owner worldId diagnostic =>
      obtain ⟨_, _, hfound, hstate⟩ := recordWorldFocusFailure_ok h
      split at hstate <;> subst hstate
      · exact sees_of_insert (findLayer_some hfound).1 hlayer hsees (.inl rfl) rfl
      · exact .kept hlayer hsees rfl
  | setFocusedWorldScope owner worldId focused descriptor =>
      exact sees_of_setFocusedWorldScope h hlayer hsees
  | clearFocusedWorldScope owner =>
      obtain ⟨_, _, hfound, rfl⟩ := clearFocusedWorldScope_ok h
      exact sees_of_insert (findLayer_some hfound).1 hlayer hsees (.inr rfl) rfl
  | clearFocusedWorldScopeForAllLayers focused =>
      cases h
      simp only [Dict.lookup_mapValues, Option.map_eq_some_iff] at hlayer
      obtain ⟨before, hbefore, rfl⟩ := hlayer
      split at hsees
      · exact .kept hbefore (sees_of_unfocused hsees (.inr rfl)) (by simp [*])
      · exact .kept hbefore hsees (by simp [*])
  | mountSurface owner snapshot =>
      obtain ⟨-, rfl⟩ := mountSurface_ok h
      exact .kept hlayer hsees rfl
  | applyPatches owner batch =>
      obtain ⟨_, -, rfl⟩ := applyPatches_ok h
      exact .kept hlayer hsees rfl
  | unmountSurface owner surfaceId =>
      cases unmountSurface_ok h
      exact .kept hlayer hsees rfl
  | queueAction layerOwner event =>
      cases queueAction_ok h
      exact .kept hlayer hsees rfl
  | drainQueuedActions =>
      cases h
      exact .kept hlayer hsees rfl

end UiRuntimeState

end Rintawa.UiRuntime
