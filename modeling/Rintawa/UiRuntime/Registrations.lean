/-
# Registrations in the UI runtime

Surfaces, layers and presentations are registered by instances and go with them. An instance
that is not registered has none of them, so one that is registered and unregistered again
leaves the registrations as they were.
-/

import Rintawa.UiRuntime.Structure

namespace Rintawa.UiRuntime

open Rintawa.Lib Rintawa.Sdk

/-! ## What calls do to the registrations -/

/-- The calls that present what is registered. The others register and activate. -/
def UiCall.isPresentation : UiCall → Bool
  | .registerInstance _ _ _ _ => false
  | .registerWorldPresentation _ => false
  | .unregisterInstance _ => false
  | .setInstanceActive _ _ => false
  | _ => true

namespace UiRuntimeState

variable {state state' : UiRuntimeState}

/-- A call that presents leaves the registrations. -/
theorem sameRegistrations_run (state : UiRuntimeState) (call : UiCall)
    (hcall : call.isPresentation = true) : SameRegistrations state (state.run call).1 := by
  cases hrun : state.run call with
  | mk state' result =>
      cases result with
      | error error =>
          rw [run_error hrun]
          exact .refl state
      | ok value =>
          cases call with
          | registerInstance | registerWorldPresentation | unregisterInstance
          | setInstanceActive => cases hcall
          | mountSurface owner snapshot =>
              obtain ⟨-, rfl⟩ := mountSurface_ok hrun
              exact ⟨rfl, rfl, rfl, rfl⟩
          | applyPatches owner batch =>
              obtain ⟨-, -, rfl⟩ := applyPatches_ok hrun
              exact ⟨rfl, rfl, rfl, rfl⟩
          | unmountSurface owner surfaceId =>
              cases unmountSurface_ok hrun
              exact ⟨rfl, rfl, rfl, rfl⟩
          | _ => exact (sameSurfaces_of_run hrun rfl).1

variable {instanceId : ExtensionInstanceId}

variable {layers : List OwnedUiLayerDescriptor}

/-- The layers of a registration belong to its instance. -/
theorem owner_of_checkLayers {seen : List ComponentRef}
    (h : checkLayers instanceId seen layers = .ok ()) :
    ∀ layer ∈ layers, layer.owner.instanceId = instanceId := by
  induction layers generalizing seen with
  | nil => exact List.forall_mem_nil _
  | cons layer rest ih =>
      simp only [checkLayers, bind_eq_ok_iff, require_eq_ok_iff, beq_iff_eq] at h
      obtain ⟨-, howner, -, -, hrest⟩ := h
      exact List.forall_mem_cons.mpr ⟨howner, ih hrest⟩

/-- Registering layers leaves those of other components. -/
theorem lookup_layers_of_not_mem {registered : Dict ComponentRef UiLayerDescriptor}
    {owner : ComponentRef} (howner : ∀ layer ∈ layers, layer.owner ≠ owner) :
    (layers.foldl (fun registered layer => registered.insert layer.owner layer.descriptor)
      registered).lookup owner = registered.lookup owner := by
  induction layers generalizing registered with
  | nil => rfl
  | cons layer rest ih =>
      rw [List.forall_mem_cons] at howner
      rw [List.foldl_cons, ih howner.2, Dict.lookup_insert_ite, if_neg (Ne.symm howner.1)]

/-- What a registration adds belongs to its instance. -/
theorem registerInstance_others {scopeId : RuntimeScopeId}
    {surfaces : List OwnedUiSurfaceContribution}
    (h : state.registerInstance instanceId scopeId surfaces layers = (state', .ok ())) :
    (∀ owner : ComponentRef, owner.instanceId ≠ instanceId →
      state'.registeredLayers.lookup owner = state.registeredLayers.lookup owner) ∧
    state'.registeredWorldPresentations = state.registeredWorldPresentations := by
  have hnext := settle_ok_iff.mp h
  simp only [bind_eq_ok_iff] at hnext
  obtain ⟨-, -, ids, -, _, hlayers, hstate⟩ := hnext
  cases hstate
  refine ⟨fun owner hother => lookup_layers_of_not_mem ?_, rfl⟩
  rintro layer hlayer rfl
  exact hother (owner_of_checkLayers hlayers layer hlayer)

/-- A presentation is registered by a registered instance. -/
theorem registerWorldPresentation_inserts {owned : OwnedWorldPresentationDescriptor}
    (h : state.registerWorldPresentation owned = (state', .ok ())) :
    (state.instances.lookup owned.owner.instanceId).isSome = true ∧
    state' = { state with
      registeredWorldPresentations :=
        state.registeredWorldPresentations.insert owned.owner owned.descriptor } := by
  have hnext := settle_ok_iff.mp h
  simp only [bind_eq_ok_iff, require_eq_ok_iff] at hnext
  obtain ⟨-, hregistered, -, -, surface, -, -, -, hstate⟩ := hnext
  cases hstate
  exact ⟨hregistered, rfl⟩

/-! ## Layers and presentations belong to registered instances -/

/-- The owners of the registered layers and presentations are of registered instances. -/
structure Declared (state : UiRuntimeState) : Prop where
  layers : ∀ owner : ComponentRef, (state.registeredLayers.lookup owner).isSome = true →
    (state.instances.lookup owner.instanceId).isSome = true
  presentations : ∀ owner : ComponentRef,
    (state.registeredWorldPresentations.lookup owner).isSome = true →
    (state.instances.lookup owner.instanceId).isSome = true

theorem declared_new : UiRuntimeState.new.Declared where
  layers owner h := by cases h
  presentations owner h := by cases h

/-- What other instances have stays when one instance goes. -/
theorem lookup_retain_others {V : Type} (registered : Dict ComponentRef V) {owner : ComponentRef}
    (hother : owner.instanceId ≠ instanceId) :
    (registered.retain fun owner _ => owner.instanceId != instanceId).lookup owner =
      registered.lookup owner := by
  rw [Dict.lookup_retain, show (owner.instanceId != instanceId) = true by simpa using hother]
  cases registered.lookup owner <;> rfl

/-- More instances own what is registered. -/
theorem isSome_lookup_insert {instances : Dict ExtensionInstanceId UiExtensionInstance}
    {other : ExtensionInstanceId} (inst : UiExtensionInstance)
    (h : (instances.lookup other).isSome = true) :
    ((instances.insert instanceId inst).lookup other).isSome = true := by
  rw [Dict.lookup_insert_ite]
  split
  · rfl
  · exact h

/-- Layers and presentations stay with their instances after every accepted call. -/
theorem Declared.run {call : UiCall} (h : state.Declared)
    (hrun : state.run call = (state', .ok ())) : state'.Declared := by
  cases hpresents : call.isPresentation with
  | true =>
      have hsame := sameRegistrations_run state call hpresents
      rw [hrun] at hsame
      constructor
      · rw [hsame.registeredLayers, hsame.instances]
        exact h.layers
      · rw [hsame.registeredWorldPresentations, hsame.instances]
        exact h.presentations
  | false =>
      cases call with
      | registerInstance instanceId scopeId surfaces layers =>
          have hothers := registerInstance_others hrun
          obtain ⟨-, _, _, ids, -, -, rfl⟩ := registerInstance_ok hrun
          refine ⟨fun owner howner => ?_, fun owner howner => ?_⟩
          · by_cases hown : owner.instanceId = instanceId
            · rw [hown, AList.lookup_insert]
              rfl
            · rw [hothers.1 owner hown] at howner
              exact isSome_lookup_insert _ (h.layers owner howner)
          · exact isSome_lookup_insert _ (h.presentations owner howner)
      | registerWorldPresentation owned =>
          obtain ⟨hregistered, rfl⟩ := registerWorldPresentation_inserts hrun
          refine ⟨h.layers, fun owner howner => ?_⟩
          rw [Dict.lookup_insert_ite] at howner
          split at howner
          · next hsame => rwa [hsame]
          · exact h.presentations owner howner
      | unregisterInstance instanceId =>
          simp only [UiRuntimeState.run, unregisterInstance] at hrun
          split at hrun
          · cases hrun
            exact h
          · cases hrun
            refine ⟨fun owner howner => ?_, fun owner howner => ?_⟩
            all_goals
              have hother : owner.instanceId ≠ instanceId := by
                intro hsame
                simp [Dict.lookup_retain, hsame] at howner
              rw [lookup_retain_others _ hother] at howner
              rw [AList.lookup_erase_ne hother]
            · exact h.layers owner howner
            · exact h.presentations owner howner
      | setInstanceActive instanceId isActive =>
          simp only [UiRuntimeState.run, setInstanceActive] at hrun
          split at hrun
          · cases hrun
          · cases isActive with
            | true | false =>
                cases hrun
                exact ⟨fun owner howner => isSome_lookup_insert _ (h.layers owner howner),
                  fun owner howner => isSome_lookup_insert _ (h.presentations owner howner)⟩
      | _ => cases hpresents

/-! ## An instance that is registered and unregistered again -/

/-- The same instances, surfaces, layers and presentations are found. -/
structure RegisteredAlike (state state' : UiRuntimeState) : Prop where
  instances : ∀ instanceId, state'.instances.lookup instanceId = state.instances.lookup instanceId
  surfaces : ∀ key, state'.registeredSurfaces.lookup key = state.registeredSurfaces.lookup key
  layers : ∀ owner, state'.registeredLayers.lookup owner = state.registeredLayers.lookup owner
  presentations : ∀ owner, state'.registeredWorldPresentations.lookup owner =
    state.registeredWorldPresentations.lookup owner

theorem RegisteredAlike.refl (state : UiRuntimeState) : RegisteredAlike state state :=
  ⟨fun _ => rfl, fun _ => rfl, fun _ => rfl, fun _ => rfl⟩

/-- Presentations are registered in order, up to the first one that is refused. -/
inductive Presents : List OwnedWorldPresentationDescriptor → UiRuntimeState → UiRuntimeState → Prop
  | refl (added : List OwnedWorldPresentationDescriptor) (state : UiRuntimeState) :
      Presents added state state
  | cons {owned : OwnedWorldPresentationDescriptor}
      {rest : List OwnedWorldPresentationDescriptor} {state state' state'' : UiRuntimeState}
      (hregister : state.registerWorldPresentation owned = (state', .ok ()))
      (hrest : Presents rest state' state'') : Presents (owned :: rest) state state''

/-- What presentations leave of all other registrations. -/
structure OthersKept (added : List OwnedWorldPresentationDescriptor)
    (state state' : UiRuntimeState) : Prop where
  instances : state'.instances = state.instances
  surfaces : state'.registeredSurfaces = state.registeredSurfaces
  layers : state'.registeredLayers = state.registeredLayers
  presentations : ∀ owner, (∀ owned ∈ added, owned.owner ≠ owner) →
    state'.registeredWorldPresentations.lookup owner =
      state.registeredWorldPresentations.lookup owner

theorem Presents.othersKept {added : List OwnedWorldPresentationDescriptor}
    (h : Presents added state state') : OthersKept added state state' := by
  induction h with
  | refl added state => exact ⟨rfl, rfl, rfl, fun _ _ => rfl⟩
  | cons hregister hrest ih =>
      obtain ⟨-, rfl⟩ := registerWorldPresentation_inserts hregister
      refine ⟨ih.instances, ih.surfaces, ih.layers, fun owner howners => ?_⟩
      obtain ⟨hne, hothers⟩ := List.forall_mem_cons.mp howners
      rw [ih.presentations owner hothers]
      exact AList.lookup_insert_ne (Ne.symm hne)

/-- What was registered for a new instance goes with it, and nothing else does. -/
theorem unregister_restores (hsurfaced : state.Surfaced) (hdeclared : state.Declared)
    {scopeId : RuntimeScopeId} {surfaces : List OwnedUiSurfaceContribution}
    {added : List OwnedWorldPresentationDescriptor}
    (hregister : state.registerInstance instanceId scopeId surfaces layers = (state', .ok ()))
    (hpresented : Presents added state' state'')
    (howned : ∀ owned ∈ added, owned.owner.instanceId = instanceId) :
    RegisteredAlike state (state''.unregisterInstance instanceId).1 := by
  replace hpresented := hpresented.othersKept
  have hothers := registerInstance_others hregister
  obtain ⟨hfresh, declared, registered, ids, hlisted, hkept, rfl⟩ := registerInstance_ok hregister
  have hinst : state''.instances.lookup instanceId = some ⟨scopeId, false, ids⟩ := by
    rw [hpresented.instances]
    exact AList.lookup_insert _
  have hunregistered : ∀ owner : ComponentRef, owner.instanceId = instanceId →
      state.registeredLayers.lookup owner = none ∧
        state.registeredWorldPresentations.lookup owner = none := by
    rintro owner rfl
    constructor
    · by_contra hsome
      have hregistered := hdeclared.layers owner (Option.isSome_iff_ne_none.mpr hsome)
      rw [hfresh] at hregistered
      cases hregistered
    · by_contra hsome
      have hregistered := hdeclared.presentations owner (Option.isSome_iff_ne_none.mpr hsome)
      rw [hfresh] at hregistered
      cases hregistered
  simp only [unregisterInstance, hinst]
  refine ⟨fun other => ?_, fun key => ?_, fun owner => ?_, fun owner => ?_⟩
  · rw [hpresented.instances, Dict.erase_insert hfresh]
  · rw [Dict.lookup_eraseAll, hpresented.surfaces]
    split
    · next hkey =>
        obtain ⟨surfaceId, -, rfl⟩ := List.mem_map.mp hkey
        cases hbefore : state.registeredSurfaces.lookup ⟨instanceId, surfaceId⟩ with
        | none => rfl
        | some surface =>
            obtain ⟨inst, hfound, -⟩ := hsurfaced.declared _ surface hbefore
            rw [hfresh] at hfound
            cases hfound
    · next hkey =>
        by_cases hown : key.instanceId = instanceId
        · subst hown
          cases hafter : AList.lookup key declared with
          | none =>
              cases hbefore : state.registeredSurfaces.lookup key with
              | none => rfl
              | some surface =>
                  obtain ⟨inst, hfound, -⟩ := hsurfaced.declared _ surface hbefore
                  rw [hfresh] at hfound
                  cases hfound
          | some surface =>
              cases hlisted key surface hafter with
              | inl hbefore => exact hbefore.symm
              | inr hown => exact absurd (List.mem_map.mpr ⟨_, hown.2.2, rfl⟩) hkey
        · exact hkept key hown
  · by_cases hown : owner.instanceId = instanceId
    · simp [Dict.lookup_retain, hown, (hunregistered owner hown).1]
    · rw [lookup_retain_others _ hown, hpresented.layers, hothers.1 owner hown]
  · by_cases hown : owner.instanceId = instanceId
    · simp [Dict.lookup_retain, hown, (hunregistered owner hown).2]
    · have hnew : ∀ owned ∈ added, owned.owner ≠ owner := by
        rintro owned hmem rfl
        exact hown (howned owned hmem)
      rw [lookup_retain_others _ hown, hpresented.presentations owner hnew, hothers.2]

end UiRuntimeState

end Rintawa.UiRuntime
