/-
# The structure of the runtime state

The maps of the state refer to each other: mounted surfaces are registered ones of
registered instances, attached layers belong to active instances of their scopes, and the
queued focus requests belong to attached layers. Every operation has its own clean-up, and
together they keep these references.
-/

import Rintawa.UiRuntime.Revisions
import Rintawa.UiRuntime.SnapshotTrees
import Rintawa.UiRuntime.WorldFocus

namespace Rintawa.UiRuntime

open Rintawa.Lib Rintawa.Sdk

namespace UiRuntimeState

variable {state state' : UiRuntimeState}

/-- What holds of every state. A mounted snapshot is an accepted tree of a surface that a
component of a registered instance registered. A layer belongs to a component of a
registered and active instance in its scope, and a scope has one layer. A queued focus
request belongs to an attached layer, and a layer has one. -/
structure Structured (state : UiRuntimeState) : Prop where
  mounted : ∀ key snapshot, state.mountedSurfaces.lookup key = some snapshot →
    validateSnapshot snapshot = .ok () ∧ SnapshotTree snapshot ∧
      snapshot.surfaceId = key.surfaceId ∧
      ∃ registered inst, state.Placed key snapshot registered inst ∧
        registered.owner.instanceId = key.instanceId
  layers : ∀ layerScope layer, state.layers.lookup layerScope = some layer →
    ∃ inst, state.instances.lookup layer.owner.instanceId = some inst ∧
      inst.scopeId = layerScope ∧ inst.isActive = true
  oneLayer : state.layers.keys.Nodup
  requests : ∀ request ∈ state.queuedWorldFocusRequests, ∃ layerScope layer,
    state.layers.lookup layerScope = some layer ∧ layer.owner = request.layerOwner
  oneRequest : (state.queuedWorldFocusRequests.map fun request => request.layerOwner).Nodup

/-! ## Surfaces belong to registered instances -/

/-- Registered surfaces are listed by their instances, and mounted snapshots are accepted
ones of registered surfaces. -/
structure Surfaced (state : UiRuntimeState) : Prop where
  declared : ∀ key registered, state.registeredSurfaces.lookup key = some registered →
    ∃ inst, state.instances.lookup key.instanceId = some inst ∧ key.surfaceId ∈ inst.surfaces
  mounted : ∀ key snapshot, state.mountedSurfaces.lookup key = some snapshot →
    validateSnapshot snapshot = .ok () ∧ (state.registeredSurfaces.lookup key).isSome = true

theorem surfaced_new : UiRuntimeState.new.Surfaced where
  declared key registered h := by cases h
  mounted key snapshot h := by cases h

namespace Surfaced

/-- Only the surfaces and their instances matter. -/
theorem congr (h : state.Surfaced) (hinstances : state'.instances = state.instances)
    (hdeclared : state'.registeredSurfaces = state.registeredSurfaces)
    (hmounted : state'.mountedSurfaces = state.mountedSurfaces) : state'.Surfaced where
  declared := by
    rw [hinstances, hdeclared]
    exact h.declared
  mounted := by
    rw [hdeclared, hmounted]
    exact h.mounted

/-- A surface whose key is not among those of an instance belongs to another instance. -/
theorem instanceId_ne (h : state.Surfaced) {instanceId : ExtensionInstanceId}
    {inst : UiExtensionInstance} (hinst : state.instances.lookup instanceId = some inst)
    {key : UiSurfaceKey} {registered : OwnedUiSurfaceContribution}
    (hkey : key ∉ surfaceKeys instanceId inst)
    (hregistered : state.registeredSurfaces.lookup key = some registered) :
    key.instanceId ≠ instanceId := by
  rintro rfl
  obtain ⟨owner, howner, hlisted⟩ := h.declared key registered hregistered
  rw [hinst] at howner
  cases howner
  exact hkey (List.mem_map_of_mem hlisted)

/-- A new snapshot of a registered surface. -/
theorem mount (h : state.Surfaced) {key : UiSurfaceKey} {snapshot : UiSurfaceSnapshot}
    (hvalid : validateSnapshot snapshot = .ok ())
    (hregistered : (state.registeredSurfaces.lookup key).isSome = true) :
    Surfaced { state with mountedSurfaces := state.mountedSurfaces.insert key snapshot } where
  declared := h.declared
  mounted other mounted hmounted := by
    simp only [Dict.lookup_insert_ite] at hmounted
    split at hmounted
    · next hsame =>
        cases hmounted
        exact ⟨hvalid, hsame ▸ hregistered⟩
    · exact h.mounted other mounted hmounted

/-- The surfaces stay with their instances after every accepted call. An instance that was not
registered had no surfaces. -/
theorem run {call : UiCall} (h : state.Surfaced) (hrun : state.run call = (state', .ok ())) :
    state'.Surfaced := by
  cases call with
  | registerInstance instanceId scopeId surfaces layers =>
      obtain ⟨hfresh, declared, _, ids, hdeclared, hothers, rfl⟩ := registerInstance_ok hrun
      have hne : ∀ key registered, state.registeredSurfaces.lookup key = some registered →
          key.instanceId ≠ instanceId := by
        rintro key registered hregistered rfl
        obtain ⟨inst, hinst, -⟩ := h.declared key registered hregistered
        rw [hfresh] at hinst
        cases hinst
      refine ⟨fun key registered hregistered => ?_, fun key snapshot hmounted => ?_⟩
      · rcases hdeclared key registered hregistered with hbefore | ⟨hkey, -, hlisted⟩
        · obtain ⟨inst, hinst, hlisted⟩ := h.declared key registered hbefore
          exact ⟨inst, by rw [AList.lookup_insert_ne (hne key registered hbefore), hinst],
            hlisted⟩
        · exact ⟨_, by rw [hkey, AList.lookup_insert], hlisted⟩
      · obtain ⟨hvalid, hregistered⟩ := h.mounted key snapshot hmounted
        obtain ⟨registered, hsome⟩ := Option.isSome_iff_exists.mp hregistered
        refine ⟨hvalid, ?_⟩
        rw [hothers key (hne key registered hsome)]
        exact hregistered
  | registerWorldPresentation owned =>
      obtain ⟨_, rfl⟩ := registerWorldPresentation_ok hrun
      exact h.congr rfl rfl rfl
  | unregisterInstance instanceId =>
      simp only [UiRuntimeState.run, unregisterInstance] at hrun
      split at hrun
      · cases hrun
        exact h
      · next inst hinst =>
          cases hrun
          refine ⟨fun key registered hregistered => ?_, fun key snapshot hmounted => ?_⟩
          · rw [Dict.lookup_eraseAll] at hregistered
            split at hregistered
            · cases hregistered
            · next hkey =>
                have hne := h.instanceId_ne hinst hkey hregistered
                obtain ⟨owner, howner, hlisted⟩ := h.declared key registered hregistered
                exact ⟨owner, by rw [AList.lookup_erase_ne hne, howner], hlisted⟩
          · rw [Dict.lookup_eraseAll] at hmounted
            split at hmounted
            · cases hmounted
            · next hkey =>
                obtain ⟨hvalid, hregistered⟩ := h.mounted key snapshot hmounted
                exact ⟨hvalid, by rwa [Dict.lookup_eraseAll, if_neg hkey]⟩
  | setInstanceActive instanceId isActive =>
      simp only [UiRuntimeState.run, setInstanceActive] at hrun
      split at hrun
      · cases hrun
      · next inst hinst =>
          have hdeclared : ∀ key registered,
              state.registeredSurfaces.lookup key = some registered →
              ∃ owner, (state.instances.insert instanceId
                { inst with isActive := isActive }).lookup key.instanceId = some owner ∧
                key.surfaceId ∈ owner.surfaces := by
            intro key registered hregistered
            obtain ⟨owner, howner, hlisted⟩ := h.declared key registered hregistered
            rw [Dict.lookup_insert_ite]
            split
            · next hsame =>
                rw [hsame, hinst] at howner
                cases howner
                exact ⟨_, rfl, hlisted⟩
            · exact ⟨owner, howner, hlisted⟩
          cases isActive with
          | true =>
              cases hrun
              exact ⟨hdeclared, h.mounted⟩
          | false =>
              cases hrun
              exact ⟨hdeclared, fun key snapshot hmounted =>
                h.mounted key snapshot (lookup_of_eraseAll hmounted)⟩
  | mountSurface owner snapshot =>
      obtain ⟨hcheck, rfl⟩ := mountSurface_ok hrun
      obtain ⟨hvalid, -, registered, _, howned, -, -⟩ := checkMount_ok hcheck
      refine h.mount hvalid ?_
      rw [(ownedSurface_ok howned).1]
      rfl
  | applyPatches owner batch =>
      obtain ⟨next, hpatched, rfl⟩ := applyPatches_ok hrun
      obtain ⟨registered, _, _, howned, -, -, -, hvalid, -, -⟩ := patchedSnapshot_ok hpatched
      refine h.mount hvalid ?_
      rw [(ownedSurface_ok howned).1]
      rfl
  | unmountSurface owner surfaceId =>
      cases unmountSurface_ok hrun
      refine ⟨h.declared, fun key snapshot hmounted => ?_⟩
      simp only [Dict.lookup_erase_ite] at hmounted
      split at hmounted
      · cases hmounted
      · exact h.mounted key snapshot hmounted
  | _ =>
      obtain ⟨hsame, hmounted⟩ := sameSurfaces_of_run hrun rfl
      exact h.congr hsame.instances hsame.registeredSurfaces hmounted

end Surfaced

/-! ## Runs -/

variable {labels : List UiLabel}

/-- A property that accepted calls preserve holds along every run. -/
theorem preserved_run {P : UiRuntimeState → Prop} (hnew : P .new)
    (hrun : ∀ {state state' : UiRuntimeState} {call : UiCall}, P state →
      state.run call = (state', .ok ()) → P state') (h : uiSystem.Run .new labels state) :
    P state := by
  refine Lts.Run.preserves (P := P) ?_ h hnew
  rintro state ⟨call, result, surfaces⟩ state' hbefore ⟨hcall, -⟩
  cases result with
  | ok value => exact hrun hbefore hcall
  | error error => exact run_error hcall ▸ hbefore

/-- Every run is one of the runtime with its open requests. -/
theorem exists_tracked (h : uiSystem.Run .new labels state) :
    ∃ focus : FocusState, focus.Tracked ∧ focus.ui = state := by
  refine preserved_run (P := fun state => ∃ focus : FocusState, focus.Tracked ∧ focus.ui = state)
    ⟨.new, FocusState.tracked_new, rfl⟩ ?_ h
  rintro _ state' call ⟨focus, htracked, rfl⟩ hrun
  have hstep : FocusStep focus ⟨call, .ok (), none⟩
      { focus.track call none with ui := state' } :=
    .accepted hrun rfl fun number hnone => by cases hnone
  exact ⟨_, htracked.step hstep, rfl⟩

/-- Every state that a run reaches is structured. -/
theorem structured_run (h : uiSystem.Run .new labels state) : state.Structured := by
  have hsurfaced : state.Surfaced := preserved_run surfaced_new Surfaced.run h
  have hkeyed : state.Keyed := preserved_run keyed_new Keyed.run h
  have hlayers : LayersMeet (fun inst => inst.isActive = true) state := by
    refine preserved_run (fun _ _ hnone => by cases hnone) ?_ h
    exact fun hmeets hrun => hmeets.run (fun _ hactive => hactive) hrun
  obtain ⟨focus, htracked, rfl⟩ := exists_tracked h
  refine ⟨fun key snapshot hmounted => ?_, hlayers, focus.ui.layers.nodupKeys,
    fun request hrequest => ?_, htracked.single⟩
  · obtain ⟨hvalid, hregistered⟩ := hsurfaced.mounted key snapshot hmounted
    obtain ⟨registered, hdeclared⟩ := Option.isSome_iff_exists.mp hregistered
    obtain ⟨inst, hinst, -⟩ := hsurfaced.declared key registered hdeclared
    exact ⟨hvalid, validateSnapshot_tree hvalid, hkeyed.mounted key snapshot hmounted,
      registered, inst, ⟨hmounted, hdeclared, hinst⟩, hkeyed.declared key registered hdeclared⟩
  · obtain ⟨ticket, hticket, -⟩ := htracked.queued request hrequest
    exact htracked.attached request.layerOwner ticket hticket

/-- What every call keeps: the state is structured after it, and a rejected call leaves the
state as it was. -/
structure KeepsStructure (_ : List UiLabel) (state : UiRuntimeState) (label : UiLabel)
    (state' : UiRuntimeState) : Prop where
  structured : state'.Structured
  rejected : ∀ error, label.result = .error error → state' = state

/-- Every run of the runtime keeps the structure of its state. -/
theorem ui_structure (h : uiSystem.Run .new labels state) :
    uiSystem.RunWith KeepsStructure .new labels state := by
  refine h.runWith fun history state label state' hbefore hstep => ?_
  refine ⟨structured_run (hbefore.snoc hstep), fun error hresult => ?_⟩
  exact run_error (hresult ▸ hstep.1)

/-- A scene that needs nothing special is registered and mounted next to a layer, which requests
the focus of a world. Two batches of patches are rejected: one takes the root away, and the other
one fails at its second patch. The last one is accepted. -/
def sceneCalls : List UiCall :=
  [.registerInstance ⟨"scene"⟩ ⟨"host"⟩
      [⟨sceneOwner, { sceneContribution with requiredCapabilities := [] }⟩] [],
    .setInstanceActive ⟨"scene"⟩ true,
    .mountSurface sceneOwner (sceneSnapshot 0 "scene"),
    .registerInstance ⟨"shell"⟩ ⟨"host"⟩ [] [],
    .setInstanceActive ⟨"shell"⟩ true,
    .attachLayer shellOwner ⟨1, [uiCapabilityText]⟩,
    .queueWorldFocusRequest shellOwner ⟨3⟩,
    .applyPatches sceneOwner ⟨⟨"scene"⟩, 0, 1, [.removeNode ⟨"root"⟩]⟩,
    .applyPatches sceneOwner ⟨⟨"scene"⟩, 0, 1,
      [.upsertNode ⟨⟨"root"⟩, none, [], .text ⟨"stage"⟩⟩, .removeNode ⟨"missing"⟩]⟩,
    .applyPatches sceneOwner ⟨⟨"scene"⟩, 0, 1,
      [.upsertNode ⟨⟨"root"⟩, none, [], .text ⟨"stage"⟩⟩]⟩]

/-- The request is queued, the two batches are rejected, and the structure is kept throughout. -/
theorem ui_structure_scene :
    uiSystem.RunWith KeepsStructure .new (UiRuntimeState.new.runAll sceneCalls).2
      (UiRuntimeState.new.runAll sceneCalls).1 ∧
    (UiRuntimeState.new.runAll sceneCalls).2.map (fun label => label.result.toBool) =
      [true, true, true, true, true, true, true, false, false, true] ∧
    (UiRuntimeState.new.runAll sceneCalls).1.queuedWorldFocusRequests =
      [⟨shellOwner, ⟨3⟩⟩] := by
  refine ⟨ui_structure (run_runAll .new sceneCalls), ?_, ?_⟩
  · decide +kernel
  · decide +kernel

end UiRuntimeState

end Rintawa.UiRuntime
