/-
# What accepted operations do

One lemma for each operation says which checks an accepted call has passed and
which state it leaves. From these follows which surfaces a step can show that were
not shown before, and which layers can come to see a scope.
-/

import Rintawa.UiRuntime.System

namespace Rintawa.UiRuntime

open Rintawa.Lib Rintawa.Sdk

/-! ## Calls -/

/-- The calls that change neither registrations nor mounted surfaces. They are about layers,
focus and actions. -/
def UiCall.leavesSurfaces : UiCall → Bool
  | .registerInstance _ _ _ _ | .registerWorldPresentation _ | .unregisterInstance _
  | .setInstanceActive _ _ | .mountSurface _ _ | .applyPatches _ _ | .unmountSurface _ _ => false
  | _ => true

/-! ## Capability checks -/

/-- A set of capabilities covers what a surface needs. -/
def Supports (capabilities : Finset UiCapabilityId) (contribution : UiSurfaceContribution)
    (snapshot : UiSurfaceSnapshot) : Prop :=
  ∀ capability ∈ surfaceCapabilities contribution snapshot, capability ∈ capabilities

variable {snapshot : UiSurfaceSnapshot}

theorem ensureSurfaceSupported_eq_ok_iff {capabilities : Finset UiCapabilityId}
    {contribution : UiSurfaceContribution} :
    ensureSurfaceSupported capabilities contribution snapshot = .ok () ↔
      Supports capabilities contribution snapshot := by
  rw [ensureSurfaceSupported, forM_eq_ok_iff]
  simp only [require_eq_ok_iff, decide_eq_true_eq]
  rfl

namespace UiRuntimeState

variable {state state' : UiRuntimeState}

/-- A surface is mounted and registered, and belongs to a registered instance. -/
structure Placed (state : UiRuntimeState) (key : UiSurfaceKey) (snapshot : UiSurfaceSnapshot)
    (registered : OwnedUiSurfaceContribution) (inst : UiExtensionInstance) : Prop where
  mounted : state.mountedSurfaces.lookup key = some snapshot
  declared : state.registeredSurfaces.lookup key = some registered
  owned : state.instances.lookup key.instanceId = some inst

variable {inst : UiExtensionInstance} {key : UiSurfaceKey} {registered : OwnedUiSurfaceContribution}
  {scopeId : RuntimeScopeId} {instanceId : ExtensionInstanceId} {owner : ComponentRef}
  {worldId : WorldId}

/-- The check of all mounted surfaces in the scopes given. -/
theorem ensureMountedSupported_ok {capabilities : Finset UiCapabilityId}
    {visible : RuntimeScopeId → Bool}
    (h : state.ensureMountedSupported capabilities visible = .ok ())
    (hplaced : state.Placed key snapshot registered inst) (hactive : inst.isActive = true)
    (hvisible : visible inst.scopeId = true) :
    Supports capabilities registered.contribution snapshot := by
  have hentry := forM_eq_ok_iff.mp h (key, snapshot) (Dict.mem_pairs_iff.mpr hplaced.mounted)
  simp only [hplaced.owned, hvisible, hactive, Bool.and_self, if_true, hplaced.declared,
    bind_eq_ok_iff, found_eq_ok_iff] at hentry
  obtain ⟨_, hdeclared, hsupported⟩ := hentry
  cases hdeclared
  exact ensureSurfaceSupported_eq_ok_iff.mp hsupported

/-- The check of one surface against all layers that see its scope. -/
theorem ensureLayersSupport_ok {contribution : UiSurfaceContribution}
    (h : state.ensureLayersSupport scopeId contribution snapshot = .ok ())
    {layerScope : RuntimeScopeId} {layer : ActiveUiLayer}
    (hlayer : state.layers.lookup layerScope = some layer)
    (hsees : layer.sees layerScope scopeId = true) :
    Supports layer.capabilities contribution snapshot := by
  have hentry := forM_eq_ok_iff.mp h (layerScope, layer) (Dict.mem_pairs_iff.mpr hlayer)
  simp only [hsees, if_true] at hentry
  exact ensureSurfaceSupported_eq_ok_iff.mp hentry

/-! ## Accepted calls -/

/-- The identifiers of a registration are those of all its surfaces. -/
theorem mem_surfaceIds {instanceId : ExtensionInstanceId}
    {surfaces : List OwnedUiSurfaceContribution} {seen ids : List UiSurfaceId}
    (hids : surfaceIds instanceId seen surfaces = .ok ids) {id : UiSurfaceId} :
    id ∈ ids ↔ id ∈ seen ∨ ∃ owned ∈ surfaces, owned.contribution.id = id := by
  induction surfaces generalizing seen with
  | nil =>
      cases hids
      simp
  | cons owned rest ih =>
      simp only [surfaceIds, bind_eq_ok_iff] at hids
      obtain ⟨-, -, -, -, hrest⟩ := hids
      rw [ih hrest, List.mem_cons, List.exists_mem_cons_iff, or_assoc, or_left_comm,
        @eq_comm _ id]

/-- Registration only declares surfaces of its own instance, under their owners. -/
theorem lookup_declared {surfaces : List OwnedUiSurfaceContribution} {seen ids : List UiSurfaceId}
    (hids : surfaceIds instanceId seen surfaces = .ok ids)
    {declared : Dict UiSurfaceKey OwnedUiSurfaceContribution}
    (h : AList.lookup key (surfaces.foldl (fun declared owned =>
      declared.insert ⟨instanceId, owned.contribution.id⟩ owned) declared) = some registered) :
    declared.lookup key = some registered ∨
      (key.instanceId = instanceId ∧ registered.owner.instanceId = instanceId ∧
        key.surfaceId ∈ ids) := by
  have hall := @mem_surfaceIds _ _ _ _ hids
  induction surfaces generalizing seen declared with
  | nil => exact .inl h
  | cons owned rest ih =>
      have hown : owned.contribution.id ∈ ids := hall.mpr (.inr ⟨owned, List.mem_cons_self, rfl⟩)
      simp only [surfaceIds, bind_eq_ok_iff, require_eq_ok_iff, beq_iff_eq] at hids
      obtain ⟨-, howner, -, -, hrest⟩ := hids
      rcases ih hrest h (@mem_surfaceIds _ _ _ _ hrest) with hinserted | hlater
      · rw [Dict.lookup_insert_ite] at hinserted
        split at hinserted
        · next hsame =>
            cases hinserted
            rw [hsame]
            exact .inr ⟨rfl, howner, hown⟩
        · exact .inl hinserted
      · exact .inr hlater

/-- Registration leaves the surfaces of other instances alone. -/
theorem lookup_declared_of_ne (surfaces : List OwnedUiSurfaceContribution)
    (declared : Dict UiSurfaceKey OwnedUiSurfaceContribution) (hne : key.instanceId ≠ instanceId) :
    AList.lookup key (surfaces.foldl (fun declared owned =>
      declared.insert ⟨instanceId, owned.contribution.id⟩ owned) declared) =
        declared.lookup key := by
  induction surfaces generalizing declared with
  | nil => rfl
  | cons owned rest ih =>
      rw [List.foldl_cons, ih, AList.lookup_insert_ne]
      rintro rfl
      exact hne rfl

theorem registerInstance_ok {surfaces : List OwnedUiSurfaceContribution}
    {layers : List OwnedUiLayerDescriptor}
    (h : state.registerInstance instanceId scopeId surfaces layers = (state', .ok ())) :
    state.instances.lookup instanceId = none ∧
      ∃ declared registered ids,
        (∀ key surface, AList.lookup key declared = some surface →
          state.registeredSurfaces.lookup key = some surface ∨
            (key.instanceId = instanceId ∧ surface.owner.instanceId = instanceId ∧
              key.surfaceId ∈ ids)) ∧
        (∀ key : UiSurfaceKey, key.instanceId ≠ instanceId →
          AList.lookup key declared = state.registeredSurfaces.lookup key) ∧
        state' = { state with
          registeredSurfaces := declared
          registeredLayers := registered
          instances := state.instances.insert instanceId ⟨scopeId, false, ids⟩ } := by
  have hnext := settle_ok_iff.mp h
  simp only [bind_eq_ok_iff, require_eq_ok_iff, Option.isNone_iff_eq_none] at hnext
  obtain ⟨-, hfresh, ids, hids, -, -, hstate⟩ := hnext
  cases hstate
  exact ⟨hfresh, _, _, ids, fun key surface => lookup_declared hids,
    fun key hne => lookup_declared_of_ne surfaces _ hne, rfl⟩

theorem registerWorldPresentation_ok {owned : OwnedWorldPresentationDescriptor}
    (h : state.registerWorldPresentation owned = (state', .ok ())) :
    ∃ presentations, state' = { state with registeredWorldPresentations := presentations } := by
  have hnext := settle_ok_iff.mp h
  simp only [bind_eq_ok_iff] at hnext
  obtain ⟨-, -, -, -, surface, -, -, -, hstate⟩ := hnext
  cases hstate
  exact ⟨_, rfl⟩

theorem attachLayer_ok {descriptor : UiLayerDescriptor}
    (h : state.attachLayer owner descriptor = (state', .ok ())) :
    ∃ inst, state.instances.lookup owner.instanceId = some inst ∧ inst.isActive = true ∧
      (∀ layer, state.layers.lookup inst.scopeId = some layer → layer.owner = owner) ∧
      state.ensureMountedSupported (state.attachedLayer inst.scopeId owner descriptor).capabilities
        ((state.attachedLayer inst.scopeId owner descriptor).sees inst.scopeId) = .ok () ∧
      state' = { state with
        layers := state.layers.insert inst.scopeId
          (state.attachedLayer inst.scopeId owner descriptor) } := by
  have hnext := settle_ok_iff.mp h
  simp only [bind_eq_ok_iff, require_eq_ok_iff, found_eq_ok_iff] at hnext
  obtain ⟨inst, hinst, -, hactive, -, -, -, hfree, _, hsupported, hstate⟩ := hnext
  cases hstate
  refine ⟨inst, hinst, hactive, ?_, hsupported, rfl⟩
  intro layer hlayer
  simpa [hlayer] using hfree

theorem attachRegisteredLayer_ok (h : state.attachRegisteredLayer owner = (state', .ok ())) :
    ∃ descriptor, state.attachLayer owner descriptor = (state', .ok ()) := by
  unfold attachRegisteredLayer at h
  split at h
  · cases h
  · next descriptor _ => exact ⟨descriptor, h⟩

theorem detachLayer_ok (h : state.detachLayer owner = (state', .ok ())) :
    ∃ inst, state.instances.lookup owner.instanceId = some inst ∧
      (∀ layer, state.layers.lookup inst.scopeId = some layer → layer.owner = owner) ∧
      state' = { state with
        layers := state.layers.erase inst.scopeId
        queuedWorldFocusRequests := state.queuedWorldFocusRequests.filter fun queued =>
          queued.layerOwner != owner } := by
  have hnext := settle_ok_iff.mp h
  simp only [bind_eq_ok_iff, require_eq_ok_iff, found_eq_ok_iff] at hnext
  obtain ⟨inst, hinst, -, howner, hstate⟩ := hnext
  cases hstate
  refine ⟨inst, hinst, ?_, rfl⟩
  intro layer hlayer
  simpa [hlayer] using howner

/-- An accepted focus request is queued and pending. -/
theorem queueWorldFocusRequest_ok
    (h : state.queueWorldFocusRequest owner worldId = (state', .ok ())) :
    ∃ scopeId layer, state.findLayer owner = some (scopeId, layer) ∧
      state' = { state with
        queuedWorldFocusRequests :=
          if state.queuedWorldFocusRequests.any (fun queued => queued.layerOwner == owner) then
            replaceQueued owner worldId state.queuedWorldFocusRequests
          else state.queuedWorldFocusRequests ++ [⟨owner, worldId⟩]
        layers := state.layers.insert scopeId
          { layer with pendingWorldId := some worldId, lastFocusError := none } } := by
  unfold queueWorldFocusRequest at h
  split at h
  · cases h
  · next scopeId layer hfound =>
      have hlayer := (findLayer_some hfound).1
      refine ⟨scopeId, layer, hfound, ?_⟩
      by_cases hqueued : state.queuedWorldFocusRequests.any
          (fun queued => queued.layerOwner == owner) = true
      · rw [if_pos hqueued] at h ⊢
        simp only [queueWorldFocusRequest.markPending, hlayer] at h
        cases h
        rfl
      · rw [if_neg hqueued] at h ⊢
        split at h
        · cases h
        · simp only [queueWorldFocusRequest.markPending, hlayer] at h
          cases h
          rfl

theorem recordWorldFocusFailure_ok {diagnostic : String}
    (h : state.recordWorldFocusFailure owner worldId diagnostic = (state', .ok ())) :
    ∃ scopeId layer, state.findLayer owner = some (scopeId, layer) ∧
      state' = if layer.pendingWorldId = some worldId then
        { state with
          layers := state.layers.insert scopeId
            { layer with
              pendingWorldId := none
              lastFocusError := some (boundedWorldFocusDiagnostic diagnostic) } }
        else state := by
  unfold recordWorldFocusFailure at h
  split at h
  · cases h
  · next scopeId layer hfound =>
      refine ⟨scopeId, layer, hfound, ?_⟩
      split at h <;> rename_i hpending
      · rw [if_pos hpending]
        cases h
        rfl
      · rw [if_neg hpending]
        cases h
        rfl

theorem checkFocus_ok {layerScope : RuntimeScopeId} {layer : ActiveUiLayer}
    (h : state.checkFocus owner scopeId = .ok (layerScope, layer)) :
    state.findLayer owner = some (layerScope, layer) ∧
      state.ensureMountedSupported layer.capabilities (fun visible => visible == scopeId) =
        .ok () := by
  simp only [checkFocus, bind_eq_ok_iff, found_eq_ok_iff] at h
  obtain ⟨_, hfound, -, -, _, hsupported, hresult⟩ := h
  cases hresult
  exact ⟨hfound, hsupported⟩

theorem setFocusedWorldScope_ok {descriptor : WorldPresentationDescriptor}
    (h : state.setFocusedWorldScope owner worldId scopeId descriptor = (state', .ok ())) :
    ∃ layerScope layer, state.checkFocus owner scopeId = .ok (layerScope, layer) ∧
      state' = { state with
        layers := state.layers.insert layerScope
          { layer with
            focusedScope := some ⟨scopeId, worldId, descriptor⟩
            pendingWorldId :=
              if layer.pendingWorldId = some worldId then none else layer.pendingWorldId
            lastFocusError := none } } := by
  have hnext := settle_ok_iff.mp h
  simp only [bind_eq_ok_iff] at hnext
  obtain ⟨⟨layerScope, layer⟩, hcheck, hstate⟩ := hnext
  cases hstate
  exact ⟨layerScope, layer, hcheck, rfl⟩

theorem clearFocusedWorldScope_ok (h : state.clearFocusedWorldScope owner = (state', .ok ())) :
    ∃ layerScope layer, state.findLayer owner = some (layerScope, layer) ∧
      state' = { state with
        layers := state.layers.insert layerScope
          { layer with focusedScope := none, pendingWorldId := none, lastFocusError := none }
        queuedWorldFocusRequests := state.queuedWorldFocusRequests.filter fun queued =>
          queued.layerOwner != owner } := by
  have hnext := settle_ok_iff.mp h
  simp only [bind_eq_ok_iff, found_eq_ok_iff] at hnext
  obtain ⟨⟨layerScope, layer⟩, hfound, hstate⟩ := hnext
  cases hstate
  exact ⟨layerScope, layer, hfound, rfl⟩

theorem ownedSurface_ok {surfaceId : UiSurfaceId}
    (h : state.ownedSurface owner surfaceId = .ok registered) :
    state.registeredSurfaces.lookup ⟨owner.instanceId, surfaceId⟩ = some registered ∧
      registered.owner = owner := by
  simp only [ownedSurface, bind_eq_ok_iff, require_eq_ok_iff, found_eq_ok_iff] at h
  obtain ⟨surface, hdeclared, -, howner, hsurface⟩ := h
  cases hsurface
  exact ⟨hdeclared, by simpa using howner⟩

theorem checkMount_ok (h : state.checkMount owner snapshot = .ok ()) :
    validateSnapshot snapshot = .ok () ∧
      state.mountedSurfaces.lookup ⟨owner.instanceId, snapshot.surfaceId⟩ = none ∧
      ∃ registered inst, state.ownedSurface owner snapshot.surfaceId = .ok registered ∧
        state.instances.lookup owner.instanceId = some inst ∧
        state.ensureLayersSupport inst.scopeId registered.contribution snapshot = .ok () := by
  simp only [checkMount, bind_eq_ok_iff, require_eq_ok_iff, found_eq_ok_iff,
    Option.isNone_iff_eq_none] at h
  obtain ⟨_, hvalid, registered, howned, -, hfree, inst, hinst, hsupport⟩ := h
  exact ⟨hvalid, hfree, registered, inst, howned, hinst, hsupport⟩

theorem mountSurface_ok (h : state.mountSurface owner snapshot = (state', .ok ())) :
    state.checkMount owner snapshot = .ok () ∧
      state' = { state with
        mountedSurfaces :=
          state.mountedSurfaces.insert ⟨owner.instanceId, snapshot.surfaceId⟩ snapshot } := by
  have hnext := settle_ok_iff.mp h
  simp only [bind_eq_ok_iff] at hnext
  obtain ⟨_, hcheck, hstate⟩ := hnext
  cases hstate
  exact ⟨hcheck, rfl⟩

/-- Patches do not rename a surface. -/
theorem applyPatchOperations_surfaceId {patched : UiSurfaceSnapshot} {patches : List UiPatch}
    (h : applyPatchOperations snapshot patches = .ok patched) :
    patched.surfaceId = snapshot.surfaceId := by
  simp only [applyPatchOperations, bind_eq_ok_iff] at h
  obtain ⟨_, -, _, -, hpatched⟩ := h
  cases hpatched
  rfl

theorem patchedSnapshot_ok {batch : UiPatchBatch} {next : UiSurfaceSnapshot}
    (h : state.patchedSnapshot owner batch = .ok next) :
    ∃ registered current inst,
      state.ownedSurface owner batch.surfaceId = .ok registered ∧
      state.mountedSurfaces.lookup ⟨owner.instanceId, batch.surfaceId⟩ = some current ∧
      next.revision = current.revision + 1 ∧ next.surfaceId = current.surfaceId ∧
      validateSnapshot next = .ok () ∧
      state.instances.lookup owner.instanceId = some inst ∧
      state.ensureLayersSupport inst.scopeId registered.contribution next = .ok () := by
  simp only [patchedSnapshot, bind_eq_ok_iff, require_eq_ok_iff, found_eq_ok_iff,
    Bool.and_eq_true, decide_eq_true_eq] at h
  obtain ⟨-, -, registered, howned, current, hmounted, -, hbase, -, ⟨hnext, -⟩, patched,
    hpatched, _, hvalid, inst, hinst, _, hsupport, hresult⟩ := h
  cases hresult
  refine ⟨registered, current, inst, howned, hmounted, ?_, ?_, hvalid, hinst, hsupport⟩
  · rw [hbase]
    exact hnext.symm
  · have hsame := applyPatchOperations_surfaceId hpatched
    exact hsame

theorem applyPatches_ok {batch : UiPatchBatch}
    (h : state.applyPatches owner batch = (state', .ok ())) :
    ∃ next, state.patchedSnapshot owner batch = .ok next ∧
      state' = { state with
        mountedSurfaces :=
          state.mountedSurfaces.insert ⟨owner.instanceId, batch.surfaceId⟩ next } := by
  have hnext := settle_ok_iff.mp h
  simp only [bind_eq_ok_iff] at hnext
  obtain ⟨next, hpatched, hstate⟩ := hnext
  cases hstate
  exact ⟨next, hpatched, rfl⟩

theorem unmountSurface_ok {surfaceId : UiSurfaceId}
    (h : state.unmountSurface owner surfaceId = (state', .ok ())) :
    state' = { state with
      mountedSurfaces := state.mountedSurfaces.erase ⟨owner.instanceId, surfaceId⟩ } := by
  have hnext := settle_ok_iff.mp h
  simp only [bind_eq_ok_iff] at hnext
  obtain ⟨_, -, -, -, hstate⟩ := hnext
  cases hstate
  rfl

theorem queueAction_ok {layerOwner : ComponentRef} {event : UiActionEvent}
    (h : state.queueAction layerOwner event = (state', .ok ())) :
    state' = { state with queuedActions := state.queuedActions ++ [⟨layerOwner, event⟩] } := by
  have hnext := settle_ok_iff.mp h
  simp only [bind_eq_ok_iff] at hnext
  obtain ⟨_, -, -, -, hstate⟩ := hnext
  cases hstate
  rfl

/-! ## What a call leaves -/

/-- States with the same registrations. -/
structure SameRegistrations (state state' : UiRuntimeState) : Prop where
  instances : state'.instances = state.instances
  registeredSurfaces : state'.registeredSurfaces = state.registeredSurfaces
  registeredLayers : state'.registeredLayers = state.registeredLayers
  registeredWorldPresentations :
    state'.registeredWorldPresentations = state.registeredWorldPresentations

theorem SameRegistrations.refl (state : UiRuntimeState) : SameRegistrations state state :=
  ⟨rfl, rfl, rfl, rfl⟩

theorem SameRegistrations.trans {state'' : UiRuntimeState} (h : SameRegistrations state state')
    (h' : SameRegistrations state' state'') : SameRegistrations state state'' :=
  ⟨h'.instances.trans h.instances, h'.registeredSurfaces.trans h.registeredSurfaces,
    h'.registeredLayers.trans h.registeredLayers,
    h'.registeredWorldPresentations.trans h.registeredWorldPresentations⟩

/-- A call about layers, focus and actions leaves the registrations and the mounted surfaces. -/
theorem sameSurfaces_of_run {call : UiCall} (h : state.run call = (state', .ok ()))
    (hcall : call.leavesSurfaces = true) :
    SameRegistrations state state' ∧ state'.mountedSurfaces = state.mountedSurfaces := by
  cases call with
  | attachLayer owner descriptor =>
      obtain ⟨_, -, -, -, -, rfl⟩ := attachLayer_ok h
      exact ⟨⟨rfl, rfl, rfl, rfl⟩, rfl⟩
  | attachRegisteredLayer owner =>
      obtain ⟨_, hattach⟩ := attachRegisteredLayer_ok h
      obtain ⟨_, -, -, -, -, rfl⟩ := attachLayer_ok hattach
      exact ⟨⟨rfl, rfl, rfl, rfl⟩, rfl⟩
  | detachLayer owner =>
      obtain ⟨_, -, -, rfl⟩ := detachLayer_ok h
      exact ⟨⟨rfl, rfl, rfl, rfl⟩, rfl⟩
  | queueWorldFocusRequest owner worldId =>
      obtain ⟨_, _, -, rfl⟩ := queueWorldFocusRequest_ok h
      exact ⟨⟨rfl, rfl, rfl, rfl⟩, rfl⟩
  | recordWorldFocusFailure owner worldId diagnostic =>
      obtain ⟨_, _, -, hstate⟩ := recordWorldFocusFailure_ok h
      split at hstate <;> subst hstate
      · exact ⟨⟨rfl, rfl, rfl, rfl⟩, rfl⟩
      · exact ⟨.refl _, rfl⟩
  | setFocusedWorldScope owner worldId scopeId descriptor =>
      obtain ⟨_, _, -, rfl⟩ := setFocusedWorldScope_ok h
      exact ⟨⟨rfl, rfl, rfl, rfl⟩, rfl⟩
  | clearFocusedWorldScope owner =>
      obtain ⟨_, _, -, rfl⟩ := clearFocusedWorldScope_ok h
      exact ⟨⟨rfl, rfl, rfl, rfl⟩, rfl⟩
  | queueAction layerOwner event =>
      cases queueAction_ok h
      exact ⟨⟨rfl, rfl, rfl, rfl⟩, rfl⟩
  | drainWorldFocusRequests | clearFocusedWorldScopeForAllLayers | drainQueuedActions =>
      cases h
      exact ⟨⟨rfl, rfl, rfl, rfl⟩, rfl⟩
  | _ => cases hcall

/-! ## What a step can show -/

/-- A placed surface of an active instance. -/
structure Shown (state : UiRuntimeState) (key : UiSurfaceKey) (snapshot : UiSurfaceSnapshot)
    (registered : OwnedUiSurfaceContribution) (inst : UiExtensionInstance) : Prop
    extends state.Placed key snapshot registered inst where
  active : inst.isActive = true

/-- The ways in which a surface is shown after an accepted call. -/
inductive Reveals (state : UiRuntimeState) (key : UiSurfaceKey) (snapshot : UiSurfaceSnapshot)
    (registered : OwnedUiSurfaceContribution) (inst : UiExtensionInstance) : UiCall → Prop
  | kept {call : UiCall} (shown : state.Shown key snapshot registered inst) :
      Reveals state key snapshot registered inst call
  | mounted {owner : ComponentRef} (place : key = ⟨owner.instanceId, snapshot.surfaceId⟩)
      (check : state.checkMount owner snapshot = .ok ())
      (declared : state.registeredSurfaces.lookup key = some registered)
      (owned : state.instances.lookup key.instanceId = some inst)
      (active : inst.isActive = true) :
      Reveals state key snapshot registered inst (.mountSurface owner snapshot)
  | patched {owner : ComponentRef} {batch : UiPatchBatch} {current : UiSurfaceSnapshot}
      (place : key = ⟨owner.instanceId, batch.surfaceId⟩)
      (check : state.patchedSnapshot owner batch = .ok snapshot)
      (shown : state.Shown key current registered inst) :
      Reveals state key snapshot registered inst (.applyPatches owner batch)
  | activated {before : UiExtensionInstance}
      (placed : state.Placed key snapshot registered before)
      (same : inst = { before with isActive := true }) :
      Reveals state key snapshot registered inst (.setInstanceActive key.instanceId true)

/-- Presented are the shown surfaces for whose scopes there is a context. -/
theorem mem_collectPresentations
    {contexts : Option (RuntimeScopeId → Option UiPresentationContext)}
    {surface : UiPresentationSurface} :
    surface ∈ state.collectPresentations contexts ↔
      ∃ key snapshot registered inst context, state.Shown key snapshot registered inst ∧
        visibleContext contexts inst.scopeId = some context ∧
        surface = ⟨registered.owner, context, registered.contribution, snapshot⟩ := by
  simp only [collectPresentations, List.mem_insertionSort, List.mem_filterMap, Prod.exists,
    Dict.mem_pairs_iff, presentation, Option.bind_eq_bind, Option.bind_eq_some_iff]
  constructor
  · rintro ⟨key, snapshot, hmounted, registered, hdeclared, inst, howned, _, hactive, context,
      hcontext, hsurface⟩
    cases hsurface
    exact ⟨key, snapshot, registered, inst, context,
      ⟨⟨hmounted, hdeclared, howned⟩, by simpa [guard] using hactive⟩, hcontext, rfl⟩
  · rintro ⟨key, snapshot, registered, inst, context, hshown, hcontext, rfl⟩
    exact ⟨key, snapshot, hshown.mounted, registered, hshown.declared, inst, hshown.owned, (),
      by simp [guard, hshown.active], context, hcontext, rfl⟩

/-- What is shown only depends on the surfaces and their instances. -/
theorem Shown.congr (h : state'.Shown key snapshot registered inst)
    (hmounted : state'.mountedSurfaces = state.mountedSurfaces)
    (hdeclared : state'.registeredSurfaces = state.registeredSurfaces)
    (hinstances : state'.instances = state.instances) : state.Shown key snapshot registered inst :=
  ⟨⟨hmounted ▸ h.mounted, hdeclared ▸ h.declared, hinstances ▸ h.owned⟩, h.active⟩

/-- A lookup that an erasure leaves was there before. -/
theorem lookup_of_eraseAll {K V : Type} [DecidableEq K] {entries : Dict K V} {keys : List K}
    {key : K} {value : V} (h : (entries.eraseAll keys).lookup key = some value) :
    entries.lookup key = some value := by
  rw [Dict.lookup_eraseAll] at h
  split at h
  · cases h
  · exact h

/-- A surface that is shown after an accepted call is revealed in one of these ways. -/
theorem reveals_of_run {call : UiCall} (h : state.run call = (state', .ok ()))
    (hshown : state'.Shown key snapshot registered inst) :
    Reveals state key snapshot registered inst call := by
  have hkept := hshown
  obtain ⟨⟨hmounted, hdeclared, howned⟩, hactive⟩ := hshown
  cases call with
  | registerInstance instanceId scopeId surfaces layers =>
      obtain ⟨-, declared, _, ids, hothers, -, rfl⟩ := registerInstance_ok h
      simp only [Dict.lookup_insert_ite] at howned
      split at howned
      · cases howned
        cases hactive
      · next hne =>
          have hbefore := (hothers key registered hdeclared).resolve_right fun h => hne h.1
          exact .kept ⟨⟨hmounted, hbefore, howned⟩, hactive⟩
  | registerWorldPresentation owned =>
      obtain ⟨_, rfl⟩ := registerWorldPresentation_ok h
      exact .kept ⟨⟨hmounted, hdeclared, howned⟩, hactive⟩
  | unregisterInstance instanceId =>
      simp only [run, unregisterInstance] at h
      split at h
      · cases h
        exact .kept ⟨⟨hmounted, hdeclared, howned⟩, hactive⟩
      · cases h
        simp only [Dict.lookup_erase_ite] at howned
        split at howned
        · cases howned
        · exact .kept ⟨⟨lookup_of_eraseAll hmounted, lookup_of_eraseAll hdeclared, howned⟩,
            hactive⟩
  | setInstanceActive instanceId isActive =>
      simp only [run, setInstanceActive] at h
      split at h
      · cases h
      · next before hbefore =>
          cases isActive with
          | false =>
              cases h
              simp only [Dict.lookup_insert_ite] at howned
              split at howned
              · cases howned
                cases hactive
              · exact .kept ⟨⟨lookup_of_eraseAll hmounted, hdeclared, howned⟩, hactive⟩
          | true =>
              cases h
              simp only [Dict.lookup_insert_ite] at howned
              split at howned
              · next heq =>
                  subst heq
                  exact .activated ⟨hmounted, hdeclared, hbefore⟩ (Option.some.inj howned).symm
              · exact .kept ⟨⟨hmounted, hdeclared, howned⟩, hactive⟩
  | mountSurface owner mountedSnapshot =>
      obtain ⟨hcheck, rfl⟩ := mountSurface_ok h
      simp only [Dict.lookup_insert_ite] at hmounted
      split at hmounted
      · next hplace =>
          cases hmounted
          exact .mounted hplace hcheck hdeclared howned hactive
      · exact .kept ⟨⟨hmounted, hdeclared, howned⟩, hactive⟩
  | applyPatches owner batch =>
      obtain ⟨next, hpatched, rfl⟩ := applyPatches_ok h
      simp only [Dict.lookup_insert_ite] at hmounted
      split at hmounted
      · next hplace =>
          cases hmounted
          obtain ⟨_, current, _, -, hcurrent, -⟩ := patchedSnapshot_ok hpatched
          exact .patched hplace hpatched ⟨⟨hplace ▸ hcurrent, hdeclared, howned⟩, hactive⟩
      · exact .kept ⟨⟨hmounted, hdeclared, howned⟩, hactive⟩
  | unmountSurface owner surfaceId =>
      cases unmountSurface_ok h
      simp only [Dict.lookup_erase_ite] at hmounted
      split at hmounted
      · cases hmounted
      · exact .kept ⟨⟨hmounted, hdeclared, howned⟩, hactive⟩
  | _ =>
      obtain ⟨hsame, hmountedSame⟩ := sameSurfaces_of_run h rfl
      exact .kept (hkept.congr hmountedSame hsame.registeredSurfaces hsame.instances)

end UiRuntimeState

end Rintawa.UiRuntime
