/-
# What layers are shown

A layer should only be shown surfaces whose capabilities it has. Mounting,
patching, attaching and focusing check this for what is active at that moment;
the activation of an instance does not check the surfaces that were mounted while
it was inactive. Runs keep to the rule exactly when no activation breaks it.
-/

import Rintawa.UiRuntime.Layers

namespace Rintawa.UiRuntime

open Rintawa.Lib Rintawa.Sdk

namespace UiRuntimeState

variable {state state' : UiRuntimeState}

/-- Every layer that sees a scope has what the surfaces shown in it need. -/
def LayersSupport (state : UiRuntimeState) : Prop :=
  ∀ layerScope layer key snapshot registered inst,
    state.layers.lookup layerScope = some layer →
    state.Shown key snapshot registered inst → layer.sees layerScope inst.scopeId = true →
    Supports layer.capabilities registered.contribution snapshot

/-- The surfaces that a layer gets need nothing that its descriptor lacks. -/
def PresentsSupported (state : UiRuntimeState) : Prop :=
  ∀ owner surfaces layerScope layer,
    state.presentationSurfacesForLayer owner = .ok surfaces →
    state.findLayer owner = some (layerScope, layer) →
    ∀ surface ∈ surfaces, ∀ capability ∈ surfaceCapabilities surface.contribution surface.snapshot,
      capability ∈ layer.descriptor.capabilities

/-! ## Steps -/

/-- The activation of an instance shows the layers only surfaces that they support. -/
def ActivatesSupported (_ : List UiLabel) (state : UiRuntimeState) (label : UiLabel)
    (_ : UiRuntimeState) : Prop :=
  ∀ instanceId, label.call = .setInstanceActive instanceId true →
    ∀ key snapshot registered inst layerScope layer, key.instanceId = instanceId →
      state.Placed key snapshot registered inst →
      state.layers.lookup layerScope = some layer → layer.sees layerScope inst.scopeId = true →
      Supports layer.capabilities registered.contribution snapshot

/-- A step keeps what layers see supported when its activation does. -/
theorem LayersSupport.run {call : UiCall} (hsupport : state.LayersSupport)
    (h : state.run call = (state', .ok ()))
    (hactivates : ∀ key snapshot registered inst layerScope layer,
      call = .setInstanceActive key.instanceId true →
      state.Placed key snapshot registered inst →
      state.layers.lookup layerScope = some layer → layer.sees layerScope inst.scopeId = true →
      Supports layer.capabilities registered.contribution snapshot) :
    state'.LayersSupport := by
  intro layerScope layer key snapshot registered inst hlayer hshown hsees
  cases sees_of_run h hlayer hsees with
  | checked hvisible hsupported hframe =>
      have hbefore := hframe key snapshot registered inst hshown
      exact ensureMountedSupported_ok hsupported hbefore.toPlaced hbefore.active hvisible
  | @kept before hbefore hsaw hsame =>
      rw [← hsame]
      cases reveals_of_run h hshown with
      | kept hshown => exact hsupport _ _ _ _ _ _ hbefore hshown hsaw
      | mounted hplace hcheck hdeclared howned hactive =>
          obtain ⟨-, -, registered', inst', hsurface, hinst, hlayers⟩ := checkMount_ok hcheck
          subst hplace
          cases hdeclared.symm.trans (ownedSurface_ok hsurface).1
          cases howned.symm.trans hinst
          exact ensureLayersSupport_ok hlayers hbefore hsaw
      | patched hplace hcheck hcurrent =>
          obtain ⟨registered', _, inst', hsurface, -, -, -, -, hinst, hlayers⟩ :=
            patchedSnapshot_ok hcheck
          subst hplace
          cases hcurrent.declared.symm.trans (ownedSurface_ok hsurface).1
          cases hcurrent.owned.symm.trans hinst
          exact ensureLayersSupport_ok hlayers hbefore hsaw
      | activated hplaced hinst =>
          subst hinst
          exact hactivates _ _ _ _ _ _ rfl hplaced hbefore hsaw

/-! ## Presentations -/

/-- A layer has a context for exactly the scopes that it sees. -/
theorem layerContexts_isSome {layerScope scopeId : RuntimeScopeId} {layer : ActiveUiLayer} :
    (layerContexts layerScope layer scopeId).isSome = true ↔
      layer.sees layerScope scopeId = true := by
  unfold layerContexts ActiveUiLayer.sees
  cases layer.focusedScope with
  | none =>
      simp only [Option.any_none, Bool.or_false, decide_eq_true_eq]
      split <;> simp_all [@eq_comm _ scopeId]
  | some focused =>
      simp only [Option.any_some, Bool.or_eq_true, decide_eq_true_eq, @eq_comm _ scopeId]
      split <;> rename_i hfocused
      · simp [hfocused]
      · split <;> simp_all

/-- The surfaces that a layer gets are those shown in the scopes it sees. -/
theorem mem_presentationSurfacesForLayer {owner : ComponentRef} {layerScope : RuntimeScopeId}
    {layer : ActiveUiLayer} {surfaces : List UiPresentationSurface}
    (hfound : state.findLayer owner = some (layerScope, layer))
    (h : state.presentationSurfacesForLayer owner = .ok surfaces)
    {contribution : UiSurfaceContribution} {snapshot : UiSurfaceSnapshot} :
    (∃ surface ∈ surfaces, surface.contribution = contribution ∧ surface.snapshot = snapshot) ↔
      ∃ key registered inst, state.Shown key snapshot registered inst ∧
        registered.contribution = contribution ∧ layer.sees layerScope inst.scopeId = true := by
  have hsurfaces : surfaces =
      state.collectPresentations (some (layerContexts layerScope layer)) := by
    simp only [presentationSurfacesForLayer, hfound, found, bind, Except.bind, pure, Except.pure,
      Except.ok.injEq] at h
    exact h.symm
  subst hsurfaces
  simp only [mem_collectPresentations, visibleContext, Option.map_eq_some_iff]
  constructor
  · rintro ⟨_, ⟨key, _, registered, inst, _, hshown, ⟨context, hcontext, -⟩, rfl⟩, rfl, rfl⟩
    refine ⟨key, registered, inst, hshown, rfl, ?_⟩
    exact layerContexts_isSome.mp (by rw [hcontext, Option.isSome_some])
  · rintro ⟨key, registered, inst, hshown, rfl, hsees⟩
    obtain ⟨context, hcontext⟩ := Option.isSome_iff_exists.mp (layerContexts_isSome.mpr hsees)
    exact ⟨_, ⟨key, snapshot, registered, inst, some context, hshown, ⟨context, hcontext, rfl⟩,
      rfl⟩, rfl, rfl⟩

/-- The surfaces of all layers are supported exactly when the layers support all that is
shown in the scopes they see. -/
theorem presentsSupported_iff (howned : state.LayersOwned) :
    state.PresentsSupported ↔ state.LayersSupport := by
  constructor
  · intro h layerScope layer key snapshot registered inst hlayer hshown hsees
    have hfound := howned.findLayer_eq hlayer
    have hpresents : state.presentationSurfacesForLayer layer.owner =
        .ok (state.collectPresentations (some (layerContexts layerScope layer))) := by
      simp [presentationSurfacesForLayer, hfound, found, bind, Except.bind, pure, Except.pure]
    obtain ⟨surface, hmem, hcontribution, hsnapshot⟩ :=
      (mem_presentationSurfacesForLayer hfound hpresents).mpr
        ⟨key, registered, inst, hshown, rfl, hsees⟩
    rw [← hcontribution, ← hsnapshot]
    intro capability hcapability
    rw [layer.capabilities_eq, List.mem_toFinset]
    exact h _ _ _ _ hpresents hfound surface hmem capability hcapability
  · intro h owner surfaces layerScope layer hpresents hfound surface hmem capability hcapability
    obtain ⟨key, registered, inst, hshown, hsame, hsees⟩ :=
      (mem_presentationSurfacesForLayer hfound hpresents).mp ⟨surface, hmem, rfl, rfl⟩
    have hsupported := h layerScope layer key _ registered inst (findLayer_some hfound).1
      hshown hsees
    rw [hsame] at hsupported
    rw [← List.mem_toFinset, ← layer.capabilities_eq]
    exact hsupported capability hcapability

/-! ## Runs -/

variable {labels : List UiLabel}

/-- The layers of every run belong to the instances of their scopes. -/
theorem layersOwned_run (h : uiSystem.Run .new labels state) : state.LayersOwned := by
  refine Lts.Run.preserves (P := LayersOwned) ?_ h layersOwned_new
  rintro state ⟨call, result, surfaces⟩ state' howned ⟨hrun, -⟩
  cases result with
  | ok value => exact howned.run hrun
  | error error => exact run_error hrun ▸ howned

/-- Layers only get surfaces that they support. -/
def KeepsSupported (_ : List UiLabel) (_ : UiRuntimeState) (_ : UiLabel)
    (state' : UiRuntimeState) : Prop :=
  state'.PresentsSupported

/-- The layers of the empty runtime support everything. -/
theorem layersSupport_new : UiRuntimeState.new.LayersSupport := by
  intro layerScope layer key snapshot registered inst hlayer
  cases hlayer

/-- One step keeps what layers get supported exactly when its activation does. -/
theorem keepsSupported_iff {label : UiLabel} (hrun : uiSystem.Run .new labels state)
    (hsupport : state.LayersSupport) (hstep : UiStep state label state') :
    KeepsSupported labels state label state' ↔ ActivatesSupported labels state label state' := by
  have howned' := layersOwned_run (hrun.snoc hstep)
  obtain ⟨call, result, surfaces⟩ := label
  obtain ⟨hcall, -⟩ := hstep
  rw [KeepsSupported, presentsSupported_iff howned']
  constructor
  · rintro hsupport' instanceId rfl key snapshot registered inst layerScope layer rfl hplaced
      hlayer hsees
    simp only [UiRuntimeState.run, setInstanceActive, hplaced.owned, if_true] at hcall
    cases hcall
    refine hsupport' layerScope layer key snapshot registered { inst with isActive := true }
      hlayer ⟨⟨hplaced.mounted, hplaced.declared, ?_⟩, rfl⟩ hsees
    exact AList.lookup_insert state.instances
  · intro hactivates
    cases result with
    | error error => exact run_error hcall ▸ hsupport
    | ok value =>
        refine hsupport.run hcall ?_
        intro key snapshot registered inst layerScope layer hactivation
        exact hactivates key.instanceId hactivation key snapshot registered inst
          layerScope layer rfl

/-- Layers only get supported surfaces in exactly those runs in which no activation shows
a layer a surface that it does not support. -/
theorem ui_capability_safety :
    uiSystem.RunWith KeepsSupported .new labels state ↔
      uiSystem.RunWith ActivatesSupported .new labels state := by
  refine Lts.runWith_congr ?_
  intro labels state label state' hbefore hstep
  refine keepsSupported_iff hbefore.run ?_ hstep
  cases hbefore with
  | refl => exact layersSupport_new
  | snoc hbefore hlast hkeeps =>
      exact (presentsSupported_iff (layersOwned_run (hbefore.run.snoc hlast))).mp hkeeps

/-! ## A surface that is mounted while its instance is inactive -/

/-- The component that owns the surface. -/
def sceneOwner : ComponentRef := ⟨⟨"scene"⟩, ⟨"main"⟩⟩

/-- The component that owns the layer. -/
def shellOwner : ComponentRef := ⟨⟨"shell"⟩, ⟨"main"⟩⟩

/-- A surface that needs a capability which the layer lacks. -/
def sceneContribution : UiSurfaceContribution :=
  ⟨⟨"scene"⟩, .primary, none, none, [], [⟨"scene.3d@1"⟩]⟩

/-- One text. -/
def sceneSnapshot (revision : Nat) (text : String) : UiSurfaceSnapshot :=
  ⟨⟨"scene"⟩, revision, ⟨"root"⟩, [⟨⟨"root"⟩, none, [], .text ⟨text⟩⟩]⟩

/-- The surface is mounted before its instance is activated, and the layer is attached in
between. -/
def hiddenMountCalls : List UiCall :=
  [.registerInstance ⟨"scene"⟩ ⟨"host"⟩ [⟨sceneOwner, sceneContribution⟩] [],
    .mountSurface sceneOwner (sceneSnapshot 0 "scene"),
    .registerInstance ⟨"shell"⟩ ⟨"host"⟩ [] [],
    .setInstanceActive ⟨"shell"⟩ true,
    .attachLayer shellOwner ⟨1, [uiCapabilityText]⟩,
    .setInstanceActive ⟨"scene"⟩ true]

/-- The state after these calls. -/
def hiddenMountState : UiRuntimeState :=
  (UiRuntimeState.new.runAll hiddenMountCalls).1

/-- The layer gets a surface that it does not support. -/
theorem presents_unsupported :
    uiSystem.Run .new (UiRuntimeState.new.runAll hiddenMountCalls).2 hiddenMountState ∧
      ¬ hiddenMountState.PresentsSupported := by
  have hrun : uiSystem.Run .new (UiRuntimeState.new.runAll hiddenMountCalls).2
      hiddenMountState := run_runAll .new hiddenMountCalls
  refine ⟨hrun, ?_⟩
  rw [presentsSupported_iff (layersOwned_run hrun)]
  intro hsupport
  have hscene : Supports _ sceneContribution (sceneSnapshot 0 "scene") :=
    hsupport ⟨"host"⟩ (hiddenMountState.attachedLayer ⟨"host"⟩ shellOwner ⟨1, [uiCapabilityText]⟩)
      ⟨⟨"scene"⟩, ⟨"scene"⟩⟩ (sceneSnapshot 0 "scene") ⟨sceneOwner, sceneContribution⟩
      ⟨⟨"host"⟩, true, [⟨"scene"⟩]⟩ rfl ⟨⟨rfl, rfl, rfl⟩, rfl⟩ rfl
  have hmem := hscene ⟨"scene.3d@1"⟩ (by simp [surfaceCapabilities, sceneContribution])
  revert hmem
  decide

end UiRuntimeState

end Rintawa.UiRuntime
