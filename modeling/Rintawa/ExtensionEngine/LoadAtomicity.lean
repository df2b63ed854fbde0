/-
# Loading is atomic

An archive is loaded as a whole. As long as required targets have no host the load is
deferred, and then, as after every error, the registries are as they were. Otherwise one
instance is registered, with a component for every entry of the manifest that can run.
-/

import Rintawa.ExtensionEngine.EngineSteps
import Rintawa.ExtensionEngine.FacilitySteps
import Rintawa.ExtensionEngine.TargetDependencies

namespace Rintawa.ExtensionEngine

open Rintawa.Lib Rintawa.Sdk Rintawa.UiRuntime

/-! ## What is registered in the user interface -/

/-- All that is registered in the user interface belongs to registered instances. -/
theorem ui_owned_of_reachable {engine : Engine} (h : engineSystem.Reachable engine) :
    engine.ui.Surfaced ∧ engine.ui.Declared := by
  refine facilities_of_reachable (P := fun facilities => facilities.ui.Surfaced ∧
    facilities.ui.Declared) ⟨UiRuntimeState.surfaced_new, UiRuntimeState.declared_new⟩ ?_ h
  intro facilities facilities' howned hstep
  cases hstep with
  | registerEffect | revokeEffect | revokeInstanceEffects | revokeComponentEffects => exact howned
  | others sameEffects sameUi => exact sameUi ▸ howned
  | callUi call =>
      cases hrun : facilities.ui.run call with
      | mk ui' result =>
          cases result with
          | error error => exact UiRuntimeState.run_error hrun ▸ howned
          | ok value => exact ⟨howned.1.run hrun, howned.2.run hrun⟩

variable {instanceId : ExtensionInstanceId} {engine' : Engine}

/-- Components register the presentations of their own instance. -/
theorem presentations_owned_perform {componentIds : List ComponentId}
    {context : RegistrationBuffers.Context} (buffers : RegistrationBuffers instanceId componentIds)
    (component : {componentId : ComponentId // componentId ∈ componentIds})
    (call : RegistrationCall) (registered : RegistrationBuffers instanceId componentIds)
    (h : ∀ owned ∈ buffers.worldPresentations, owned.owner.instanceId = instanceId)
    (hperform : buffers.perform component context call = .ok registered) :
    ∀ owned ∈ registered.worldPresentations, owned.owner.instanceId = instanceId := by
  cases call with
  | registerWorldPresentation descriptor =>
      simp only [RegistrationBuffers.perform, RegistrationBuffers.registerWorldPresentation]
        at hperform
      split at hperform
      · cases hperform
      · cases hperform
        exact forall_mem_append_singleton h rfl
  | registerWorldSchema | defineContract | provideContract | registerUiSurface
  | registerUiLayer =>
      simp only [RegistrationBuffers.perform, RegistrationBuffers.registerWorldSchema,
        RegistrationBuffers.defineContract, RegistrationBuffers.provideContract,
        RegistrationBuffers.registerUiSurface, RegistrationBuffers.registerUiLayer] at hperform
      split at hperform
      · cases hperform
      · cases hperform
        exact h
  | register contribution =>
      simp only [RegistrationBuffers.perform, RegistrationBuffers.register] at hperform
      split at hperform
      · cases hperform
      · split at hperform
        · cases hperform
        · cases hperform
          exact h
  | consumeContract consumer =>
      simp only [RegistrationBuffers.perform, RegistrationBuffers.consumeContract] at hperform
      split at hperform
      · cases hperform
      · cases hperform
        exact h

/-! ## Registries that are as they were -/

/-- The same is registered everywhere. -/
structure RegistrationsKept (engine engine' : Engine) : Prop where
  extensions : engine'.extensions = engine.extensions
  contributions : engine'.activeContributions = engine.activeContributions
  platformContracts : engine'.platformContractDefinitions = engine.platformContractDefinitions
  preferredProviders : engine'.preferredContractProviders = engine.preferredContractProviders
  services : ServiceRuntimeState.SameComposition engine.services engine'.services
  ui : UiRuntimeState.RegisteredAlike engine.ui engine'.ui
  executionTargets : engine'.executionTargets = engine.executionTargets

theorem RegistrationsKept.refl (engine : Engine) : RegistrationsKept engine engine :=
  ⟨rfl, rfl, rfl, rfl, .refl _, .refl _, rfl⟩

/-- An instance that the services registered and unregistered again leaves no trace. -/
theorem Consistent.services_restored {engine : Engine} (h : Consistent engine)
    {ext : ManagedExtension} {services : ServiceRuntimeState}
    (hfresh : engine.extensions.lookup ext.instanceId = none)
    (hregistered : ext.state = .registered)
    (hservices : engine.registerServices ext = .ok { engine with services := services }) :
    ServiceRuntimeState.SameComposition engine.services
      (services.unregisterInstance ext.instanceId) := by
  obtain ⟨_, hsame, hinstances, hplatform, hpreferred⟩ :=
    h.registerServices_ok hfresh hregistered hservices
  cases hsame
  have hunregistered : services.unregisterInstance ext.instanceId =
      ServiceRuntimeState.topologyChanged { services with
        instances := services.instances.erase ext.instanceId } := by
    simp [ServiceRuntimeState.unregisterInstance, hinstances]
  rw [hunregistered]
  refine ⟨?_, hplatform, hpreferred⟩
  change services.instances.erase ext.instanceId = _
  rw [hinstances, Dict.erase_insert (h.services_fresh hfresh)]

/-- An enrolment that fails leaves all registries as they were. -/
theorem Consistent.enrolled_error {engine : Engine} (h : Consistent engine)
    (hsurfaced : engine.ui.Surfaced) (hdeclared : engine.ui.Declared) {ext : ManagedExtension}
    {surfaces : List OwnedUiSurfaceContribution} {layers : List OwnedUiLayerDescriptor}
    {presentations : List OwnedWorldPresentationDescriptor} {error : EngineError}
    (henrolled : Enrolled engine ext surfaces layers presentations (engine', .error error))
    (hfresh : engine.extensions.lookup ext.instanceId = none)
    (hregistered : ext.state = .registered)
    (howned : ∀ owned ∈ presentations, owned.owner.instanceId = ext.instanceId) :
    RegistrationsKept engine engine' := by
  cases henrolled with
  | refused => exact .refl _
  | undone _ hservices =>
      exact ⟨rfl, rfl, rfl, rfl, h.services_restored hfresh hregistered hservices, .refl _, rfl⟩
  | withdrawn _ hservices hui hpresents =>
      exact ⟨rfl, rfl, rfl, rfl, h.services_restored hfresh hregistered hservices,
        UiRuntimeState.unregister_restores hsurfaced hdeclared hui hpresents howned, rfl⟩

/-- A registration that fails leaves all registries as they were. -/
theorem Consistent.registration_error {engine : Engine} (h : Consistent engine)
    (hsurfaced : engine.ui.Surfaced) (hdeclared : engine.ui.Declared) {scopeId : RuntimeScopeId}
    {manifest : ExtensionManifest} {components : List Component}
    {dependencies : List ExecutionTargetDependency} {error : EngineError}
    (hcase : RegistrationCase engine instanceId scopeId manifest components dependencies
      (engine', .error error)) : RegistrationsKept engine engine' := by
  cases hcase with
  | refused => exact .refl _
  | enrolled hvalid hfresh hregister hdefinitions henrolled =>
      have howned := registerComponents_keeps
        (P := fun buffers => ∀ owned ∈ buffers.worldPresentations,
          owned.owner.instanceId = instanceId)
        presentations_owned_perform components _ (fun _ hmem => by cases hmem) hregister
      exact h.enrolled_error hsurfaced hdeclared henrolled hfresh rfl howned

/-! ## Components of the manifest -/

/-- What instantiating an entry of the manifest yields, by its position. -/
inductive Instantiates (archive : RtwArchive) : ComponentDescriptor × Nat → Component → Prop
  | wasm {descriptor : ComponentDescriptor} {index : Nat} {component : WasmComponent}
      (htarget : isWasmTarget descriptor = true)
      (hcompiled : archive.wasmComponent index = .ok component) :
      Instantiates archive (descriptor, index)
        ⟨descriptor.id, component.handle, component.registration, component.registrationFailure⟩
  | hosted {descriptor : ComponentDescriptor} {index : Nat} {component : Component}
      (htarget : isWasmTarget descriptor = false)
      (hloaded : archive.hostedComponent index = .ok component) :
      Instantiates archive (descriptor, index) component

namespace Engine

variable (engine : Engine)

/-- A component that has to wait for a host of its target. -/
def Awaits (descriptor : ComponentDescriptor) : Prop :=
  isWasmTarget descriptor = false ∧ descriptor.required = true ∧
    engine.executionTargets.owner descriptor.target.asStr = none

instance (descriptor : ComponentDescriptor) : Decidable (engine.Awaits descriptor) :=
  inferInstanceAs (Decidable (_ ∧ _ ∧ _))

/-- A component of the built-in target, or of one with a registered host. -/
def canRun (descriptor : ComponentDescriptor) : Bool :=
  isWasmTarget descriptor || (engine.executionTargets.owner descriptor.target.asStr).isSome

/-- The dependency of a hosted component on the owner of its target. -/
def targetDependency (descriptor : ComponentDescriptor) : Option ExecutionTargetDependency :=
  if isWasmTarget descriptor then none
  else
    (engine.executionTargets.owner descriptor.target.asStr).map fun owner =>
      ⟨descriptor.id, descriptor.target, owner⟩

/-- The targets that are missing are those of the components that wait. -/
theorem missingRequiredTargets_eq (components : List ComponentDescriptor) :
    engine.missingRequiredTargets components =
      (components.filter fun descriptor => engine.Awaits descriptor).map fun descriptor =>
        ⟨descriptor.id, descriptor.target⟩ := by
  unfold missingRequiredTargets
  congr 2
  funext descriptor
  apply Bool.eq_iff_iff.mpr
  rw [decide_eq_true_eq]
  simp [Awaits, and_assoc]

variable {engine}

/-- Every entry that can run adds its component, and its dependency when it is hosted. -/
theorem instantiateComponents_ok {archive : RtwArchive} {loaded loaded' : LoadedComponents}
    {entries : List (ComponentDescriptor × Nat)}
    (h : engine.instantiateComponents archive loaded entries = .ok loaded') :
    ∃ added, loaded'.components = loaded.components ++ added ∧
      List.Forall₂ (Instantiates archive)
        (entries.filter fun entry => engine.canRun entry.1) added ∧
      loaded'.dependencies =
        loaded.dependencies ++ entries.filterMap fun entry => engine.targetDependency entry.1 := by
  induction entries generalizing loaded with
  | nil =>
      cases h
      exact ⟨[], (List.append_nil _).symm, .nil, (List.append_nil _).symm⟩
  | cons entry rest ih =>
      obtain ⟨descriptor, index⟩ := entry
      simp only [instantiateComponents] at h
      split at h
      · next htarget =>
          have hruns : engine.canRun descriptor = true := by simp [canRun, htarget]
          have hnone : engine.targetDependency descriptor = none := by
            simp [targetDependency, htarget]
          split at h
          · cases h
          · next component hcompiled =>
              obtain ⟨added, hcomponents, hadded, hdependencies⟩ := ih h
              refine ⟨_ :: added, hcomponents.trans (List.append_assoc ..), ?_, ?_⟩
              · simp only [List.filter_cons, hruns, if_true]
                exact .cons (.wasm htarget hcompiled) hadded
              · simp only [List.filterMap_cons, hnone]
                exact hdependencies
      · next htarget =>
          split at h
          · next howner =>
              have hwaits : engine.canRun descriptor = false := by
                simp [canRun, htarget, howner]
              have hnone : engine.targetDependency descriptor = none := by
                simp [targetDependency, howner]
              obtain ⟨added, hcomponents, hadded, hdependencies⟩ := ih h
              refine ⟨added, hcomponents, ?_, ?_⟩
              · simp only [List.filter_cons, hwaits]
                exact hadded
              · simp only [List.filterMap_cons, hnone]
                exact hdependencies
          · next owner howner =>
              have hruns : engine.canRun descriptor = true := by simp [canRun, howner]
              have hsome : engine.targetDependency descriptor =
                  some ⟨descriptor.id, descriptor.target, owner⟩ := by
                simp [targetDependency, htarget, howner]
              split at h
              · cases h
              · next component hloaded =>
                  obtain ⟨added, hcomponents, hadded, hdependencies⟩ := ih h
                  refine ⟨_ :: added, hcomponents.trans (List.append_assoc ..), ?_, ?_⟩
                  · simp only [List.filter_cons, hruns, if_true]
                    exact .cons (.hosted (by simpa using htarget) hloaded) hadded
                  · simp only [List.filterMap_cons, hsome]
                    exact hdependencies.trans (List.append_assoc ..)

/-! ## Loading an archive -/

/-- What a load registers: one new instance of the manifest, with the components and the
dependencies of its entries. -/
structure Registers (engine engine' : Engine) (archive : RtwArchive)
    (instanceId : ExtensionInstanceId) (scopeId : RuntimeScopeId) (manifest : ExtensionManifest)
    (ext : ManagedExtension) : Prop where
  fresh : engine.extensions.lookup instanceId = none
  extensions : engine'.extensions = engine.extensions.insert instanceId ext
  instanceId_eq : ext.instanceId = instanceId
  scopeId_eq : ext.scopeId = scopeId
  manifest_eq : ext.manifest = manifest
  state_eq : ext.state = .registered
  components : ∃ components, ext.components = components.map Component.managed ∧
    List.Forall₂ (Instantiates archive)
      (manifest.components.zipIdx.filter fun entry => engine.canRun entry.1) components
  dependencies : ext.executionTargetDependencies =
    manifest.components.filterMap engine.targetDependency

/-- What every load guarantees. It is deferred if and only if a required component waits for
its target, and lists all that do; what is not loaded leaves the registries; what is loaded
is one instance. -/
structure LoadsAtomically (engine : Engine) (archive : RtwArchive)
    (instanceId : ExtensionInstanceId) (scopeId : RuntimeScopeId)
    (outcome : Engine × EngineResult RtwExtensionLoadOutcome) : Prop where
  defers : (∃ load, outcome.2 = .ok (.deferred load)) ↔
    ∃ manifest, archive.readManifest = .ok manifest ∧
      ∃ descriptor ∈ manifest.components, engine.Awaits descriptor
  deferred : ∀ load, outcome.2 = .ok (.deferred load) →
    ∃ manifest, archive.readManifest = .ok manifest ∧ load.extensionId = manifest.id ∧
      load.missingRequiredTargets =
        (manifest.components.filter fun descriptor => engine.Awaits descriptor).map
          fun descriptor => ⟨descriptor.id, descriptor.target⟩
  kept : (∀ load, outcome.2 ≠ .ok (.loaded load)) → RegistrationsKept engine outcome.1
  loaded : ∀ load, outcome.2 = .ok (.loaded load) →
    ∃ manifest ext, archive.readManifest = .ok manifest ∧ load.extensionId = manifest.id ∧
      Registers engine outcome.1 archive instanceId scopeId manifest ext

/-- Nothing is missing when no component waits. -/
theorem not_awaits {components : List ComponentDescriptor}
    (h : engine.missingRequiredTargets components = []) :
    ∀ descriptor ∈ components, ¬ engine.Awaits descriptor := by
  rw [missingRequiredTargets_eq, List.map_eq_nil_iff, List.filter_eq_nil_iff] at h
  intro descriptor hmem hawaits
  exact h descriptor hmem (decide_eq_true hawaits)

/-- A component waits when something is missing. -/
theorem exists_awaits {components : List ComponentDescriptor}
    (h : engine.missingRequiredTargets components ≠ []) :
    ∃ descriptor ∈ components, engine.Awaits descriptor := by
  by_contra hnone
  push Not at hnone
  apply h
  rw [missingRequiredTargets_eq, List.map_eq_nil_iff, List.filter_eq_nil_iff]
  intro descriptor hmem
  simpa using hnone descriptor hmem

/-- A load that registers its components adds one instance, or nothing when that fails. -/
theorem registers_of_case {archive : RtwArchive} {scopeId : RuntimeScopeId}
    {manifest : ExtensionManifest} {loaded : LoadedComponents}
    (hinstantiate : engine.instantiateComponents archive .empty manifest.components.zipIdx =
      .ok loaded) (hcase : RegistrationCase engine instanceId scopeId manifest loaded.components
      loaded.dependencies (engine', .ok ())) :
    ∃ ext, Registers engine engine' archive instanceId scopeId manifest ext := by
  obtain ⟨added, hcomponents, hadded, hdependencies⟩ := instantiateComponents_ok hinstantiate
  cases hcase with
  | @enrolled _ buffers hvalid hfresh hregister hdefinitions henrolled =>
      cases henrolled with
      | admitted hservices hui hpresents =>
          refine ⟨managedExtension instanceId scopeId manifest loaded.components
            loaded.dependencies buffers, hfresh, rfl, rfl, rfl, rfl, rfl, ⟨added, ?_, hadded⟩, ?_⟩
          · exact congrArg _ hcomponents
          · change loaded.dependencies = _
            have hfirsts := List.filterMap_map (f := Prod.fst) (g := engine.targetDependency)
              (l := manifest.components.zipIdx)
            rw [List.zipIdx_map_fst] at hfirsts
            exact hdependencies.trans hfirsts.symm

/-- Loading an archive is atomic in every engine that is reached. -/
theorem load_atomic (h : engineSystem.Reachable engine) (archive : RtwArchive)
    (instanceId : ExtensionInstanceId) (scopeId : RuntimeScopeId) :
    LoadsAtomically engine archive instanceId scopeId
      (engine.tryLoadArchive archive instanceId scopeId) := by
  have hconsistent := consistent_of_reachable h
  obtain ⟨hsurfaced, hdeclared⟩ := ui_owned_of_reachable h
  have hcase := loadCase engine archive instanceId scopeId
  generalize engine.tryLoadArchive archive instanceId scopeId = outcome at hcase ⊢
  cases hcase with
  | refused error hcomplete =>
      refine ⟨⟨?_, ?_⟩, ?_, fun _ => .refl engine, ?_⟩
      · rintro ⟨load, hload⟩
        cases hload
      · rintro ⟨manifest, hread, descriptor, hmem, hawaits⟩
        exact absurd hawaits (not_awaits (hcomplete manifest hread) descriptor hmem)
      · intro load hload
        cases hload
      · intro load hload
        cases hload
  | @deferred manifest first additional hread hmissing =>
      refine ⟨⟨?_, ?_⟩, ?_, fun _ => .refl engine, ?_⟩
      · intro _
        exact ⟨manifest, hread, exists_awaits (by simp [hmissing])⟩
      · intro _
        exact ⟨_, rfl⟩
      · intro load hload
        cases hload
        exact ⟨manifest, hread, rfl, hmissing.symm.trans (engine.missingRequiredTargets_eq _)⟩
      · intro load hload
        cases hload
  | @registered manifest loaded registered hread hcomplete hinstantiate hregister =>
      obtain ⟨engine', result⟩ := registered
      refine ⟨⟨?_, ?_⟩, ?_, ?_, ?_⟩
      · rintro ⟨load, hload⟩
        cases result <;> cases hload
      · rintro ⟨other, hother, descriptor, hmem, hawaits⟩
        rw [hread] at hother
        cases hother
        exact absurd hawaits (not_awaits hcomplete descriptor hmem)
      · intro load hload
        cases result <;> cases hload
      · intro hfails
        cases result with
        | ok value => exact absurd rfl (hfails _)
        | error error => exact hconsistent.registration_error hsurfaced hdeclared hregister
      · intro load hload
        cases result with
        | error error => cases hload
        | ok value =>
            cases hload
            obtain ⟨ext, hext⟩ := registers_of_case hinstantiate hregister
            exact ⟨manifest, ext, hread, rfl, hext⟩

/-- The script waits until its host has registered the target. -/
theorem load_atomic_script :
    LoadsAtomically (Engine.new.runAll hostedOps).1 scriptArchive ⟨"second"⟩ ⟨"default"⟩
      ((Engine.new.runAll hostedOps).1.tryLoadArchive scriptArchive ⟨"second"⟩ ⟨"default"⟩) :=
  load_atomic ⟨.new, (Engine.new.runAll hostedOps).2, rfl, run_runAll .new hostedOps⟩ _ _ _

end Engine

end Rintawa.ExtensionEngine
