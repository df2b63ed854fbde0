/-
# What a registration can do

A registration checks everything before it enrols the instance with the services and the user
interface. The enrolment is withdrawn when a later step of it fails. Loading an archive comes
before it all. The cases are listed once.
-/

import Rintawa.ExtensionEngine.ArtifactLoader
import Rintawa.UiRuntime.Registrations

namespace Rintawa.ExtensionEngine

open Rintawa.Lib Rintawa.Sdk Rintawa.UiRuntime

/-! ## Collected registrations -/

/-- What every accepted registration of a component keeps, all the register callbacks keep. -/
theorem registerComponents_keeps {instanceId : ExtensionInstanceId}
    {componentIds : List ComponentId} {context : RegistrationBuffers.Context}
    {P : RegistrationBuffers instanceId componentIds → Prop}
    (hperform : ∀ buffers component call registered, P buffers →
      RegistrationBuffers.perform buffers component context call = .ok registered → P registered)
    (components : List Component) (hids : ∀ component ∈ components, component.id ∈ componentIds)
    {buffers registered : RegistrationBuffers instanceId componentIds} (h : P buffers)
    (hregister : registerComponents context components hids buffers = .ok registered) :
    P registered := by
  have hall : ∀ (component : {componentId : ComponentId // componentId ∈ componentIds})
      (calls : List RegistrationCall) (buffers : RegistrationBuffers instanceId componentIds),
      P buffers → P (RegistrationBuffers.afterAll component context buffers calls) := by
    intro component calls
    induction calls with
    | nil => exact fun buffers hbuffers => hbuffers
    | cons call rest ih =>
        intro buffers hbuffers
        refine ih _ ?_
        unfold RegistrationBuffers.after
        split
        · next registered hok => exact hperform _ _ _ _ hbuffers hok
        · exact hbuffers
  induction components generalizing buffers with
  | nil =>
      cases hregister
      exact h
  | cons component rest ih =>
      simp only [registerComponents] at hregister
      split at hregister
      · cases hregister
      · exact ih _ (hall _ _ _ h) hregister

/-! ## Enrolment -/

/-- Registering presentations only changes the user interface. -/
theorem registerWorldPresentations_presents (engine : Engine)
    (presentations : List OwnedWorldPresentationDescriptor) : ∃ ui',
    (engine.registerWorldPresentations presentations).1 = { engine with ui := ui' } ∧
      UiRuntimeState.Presents presentations engine.ui ui' := by
  induction presentations generalizing engine with
  | nil => exact ⟨engine.ui, rfl, .refl _ _⟩
  | cons presentation rest ih =>
      simp only [Engine.registerWorldPresentations, Engine.changeUi]
      by_cases hpoisoned : engine.uiPoisoned = true
      · rw [if_pos hpoisoned]
        exact ⟨engine.ui, rfl, .refl _ _⟩
      · rw [if_neg hpoisoned]
        cases hregister : engine.ui.registerWorldPresentation presentation with
        | mk ui' result =>
            cases result with
            | error error =>
                have hrun := @UiRuntimeState.run_error engine.ui ui'
                  (.registerWorldPresentation presentation) error hregister
                subst hrun
                exact ⟨engine.ui, rfl, .refl _ _⟩
            | ok value =>
                obtain ⟨ui'', hrest, hpresents⟩ := ih { engine with ui := ui' }
                exact ⟨ui'', hrest, .cons hregister hpresents⟩

/-- Everything that an enrolment can do: it is refused at once, it is withdrawn from the
services and the user interface, or the instance is kept. -/
inductive Enrolled (engine : Engine) (ext : ManagedExtension)
    (surfaces : List OwnedUiSurfaceContribution) (layers : List OwnedUiLayerDescriptor)
    (presentations : List OwnedWorldPresentationDescriptor) : EngineOutcome → Prop
  | refused (error : EngineError) :
      Enrolled engine ext surfaces layers presentations (engine, .error error)
  | undone {services : ServiceRuntimeState} (error : EngineError)
      (hservices : engine.registerServices ext = .ok { engine with services := services }) :
      Enrolled engine ext surfaces layers presentations
        ({ engine with services := services.unregisterInstance ext.instanceId }, .error error)
  | withdrawn {services : ServiceRuntimeState} {ui ui' : UiRuntimeState} (error : EngineError)
      (hservices : engine.registerServices ext = .ok { engine with services := services })
      (hui : engine.ui.registerInstance ext.instanceId ext.scopeId surfaces layers = (ui, .ok ()))
      (hpresents : UiRuntimeState.Presents presentations ui ui') :
      Enrolled engine ext surfaces layers presentations
        ({ engine with
            services := services.unregisterInstance ext.instanceId
            ui := (ui'.unregisterInstance ext.instanceId).1 }, .error error)
  | admitted {services : ServiceRuntimeState} {ui ui' : UiRuntimeState}
      (hservices : engine.registerServices ext = .ok { engine with services := services })
      (hui : engine.ui.registerInstance ext.instanceId ext.scopeId surfaces layers = (ui, .ok ()))
      (hpresents : UiRuntimeState.Presents presentations ui ui') :
      Enrolled engine ext surfaces layers presentations
        (Engine.keep { engine with services := services, ui := ui' } ext, .ok ())

theorem registerServices_services {engine engine' : Engine} {ext : ManagedExtension}
    (h : engine.registerServices ext = .ok engine') :
    ∃ services, engine' = { engine with services := services } := by
  unfold Engine.registerServices at h
  split at h
  · cases h
  · split at h
    · cases h
    · next services _ =>
        cases h
        exact ⟨services, rfl⟩

theorem enrolled (engine : Engine) (ext : ManagedExtension)
    (surfaces : List OwnedUiSurfaceContribution) (layers : List OwnedUiLayerDescriptor)
    (presentations : List OwnedWorldPresentationDescriptor) :
    Enrolled engine ext surfaces layers presentations
      (engine.enroll ext surfaces layers presentations) := by
  unfold Engine.enroll
  cases hservices : engine.registerServices ext with
  | error error => exact .refused error
  | ok engine₁ =>
      obtain ⟨services, rfl⟩ := registerServices_services hservices
      dsimp only
      simp only [Engine.changeUi]
      by_cases hpoisoned : engine.uiPoisoned = true
      · rw [if_pos hpoisoned]
        exact .undone _ hservices
      · rw [if_neg hpoisoned]
        cases hui : engine.ui.registerInstance ext.instanceId ext.scopeId surfaces layers with
        | mk ui result =>
            cases result with
            | error error =>
                obtain rfl : ui = engine.ui := @UiRuntimeState.run_error engine.ui ui
                  (.registerInstance ext.instanceId ext.scopeId surfaces layers) error hui
                exact .undone _ hservices
            | ok value =>
                dsimp only
                obtain ⟨ui', hpresent, hpresents⟩ := registerWorldPresentations_presents
                  { engine with services := services, ui := ui } presentations
                cases hpresentations : Engine.registerWorldPresentations
                    { engine with services := services, ui := ui } presentations with
                | mk engine₂ result =>
                    rw [hpresentations] at hpresent
                    dsimp only at hpresent
                    cases hpresent
                    cases result with
                    | error error => exact .withdrawn _ hservices hui hpresents
                    | ok value => exact .admitted hservices hui hpresents

/-! ## Registration -/

/-- Everything that a registration can do: it is refused, or its instance is enrolled. -/
inductive RegistrationCase (engine : Engine) (instanceId : ExtensionInstanceId)
    (scopeId : RuntimeScopeId) (manifest : ExtensionManifest) (components : List Component)
    (dependencies : List ExecutionTargetDependency) : EngineOutcome → Prop
  | refused (error : EngineError) :
      RegistrationCase engine instanceId scopeId manifest components dependencies
        (engine, .error error)
  | enrolled {outcome : EngineOutcome}
      {buffers :
        RegistrationBuffers instanceId (components.map fun component => component.id)}
      (hvalid : manifest.validate = .ok ())
      (hfresh : engine.extensions.lookup instanceId = none)
      (hregister : registerComponents ⟨manifest.id, scopeId, engine.activeContributions⟩
        components (fun _ hmem => List.mem_map_of_mem hmem) (.empty instanceId _) = .ok buffers)
      (hdefinitions : engine.validateContractDefinitions scopeId buffers.contractDefinitions =
        .ok ())
      (henrolled : Enrolled engine
        (Engine.managedExtension instanceId scopeId manifest components dependencies buffers)
        buffers.uiSurfaces buffers.uiLayers buffers.worldPresentations outcome) :
      RegistrationCase engine instanceId scopeId manifest components dependencies outcome

theorem registrationCase (engine : Engine) (instanceId : ExtensionInstanceId)
    (scopeId : RuntimeScopeId) (manifest : ExtensionManifest) (components : List Component)
    (dependencies : List ExecutionTargetDependency) :
    RegistrationCase engine instanceId scopeId manifest components dependencies
      (engine.registerExtensionInstanceWithTargetDependencies instanceId scopeId manifest
        components dependencies) := by
  unfold Engine.registerExtensionInstanceWithTargetDependencies
  split
  · exact .refused _
  · next hvalid =>
      split
      · exact .refused _
      · next hfresh =>
          split
          · exact .refused _
          · next buffers hregister =>
              split
              · exact .refused _
              · next hdefinitions =>
                  exact .enrolled hvalid (Option.not_isSome_iff_eq_none.mp hfresh) hregister
                    hdefinitions (enrolled _ _ _ _ _)

/-! ## Loading -/

/-- Everything that loading an archive can do: it is refused or deferred before anything
happens, or the components that it instantiated are registered. -/
inductive LoadCase (engine : Engine) (archive : RtwArchive) (instanceId : ExtensionInstanceId)
    (scopeId : RuntimeScopeId) : Engine × EngineResult RtwExtensionLoadOutcome → Prop
  | refused (error : EngineError)
      (hcomplete : ∀ manifest, archive.readManifest = .ok manifest →
        engine.missingRequiredTargets manifest.components = []) :
      LoadCase engine archive instanceId scopeId (engine, .error error)
  | deferred {manifest : ExtensionManifest} {first : DeferredExecutionTarget}
      {additional : List DeferredExecutionTarget}
      (hread : archive.readManifest = .ok manifest)
      (hmissing : engine.missingRequiredTargets manifest.components = first :: additional) :
      LoadCase engine archive instanceId scopeId
        (engine, .ok (.deferred ⟨manifest.id, first, additional⟩))
  | registered {manifest : ExtensionManifest} {loaded : LoadedComponents}
      {outcome : EngineOutcome} (hread : archive.readManifest = .ok manifest)
      (hcomplete : engine.missingRequiredTargets manifest.components = [])
      (hinstantiate : engine.instantiateComponents archive .empty manifest.components.zipIdx =
        .ok loaded)
      (hregister : RegistrationCase engine instanceId scopeId manifest loaded.components
        loaded.dependencies outcome) :
      LoadCase engine archive instanceId scopeId
        (outcome.1, outcome.2.map fun _ =>
          .loaded ⟨manifest.id, loaded.canPublishExecutionTargets⟩)

theorem loadCase (engine : Engine) (archive : RtwArchive) (instanceId : ExtensionInstanceId)
    (scopeId : RuntimeScopeId) :
    LoadCase engine archive instanceId scopeId
      (engine.tryLoadArchive archive instanceId scopeId) := by
  unfold Engine.tryLoadArchive
  split
  · next hread =>
      refine .refused _ fun manifest hok => ?_
      rw [hread] at hok
      cases hok
  · next manifest hread =>
      split
      · next hmissing => exact .deferred hread hmissing
      · next hcomplete =>
          have honly : ∀ other, archive.readManifest = .ok other →
              engine.missingRequiredTargets other.components = [] := by
            intro other hother
            rw [hread] at hother
            cases hother
            exact hcomplete
          split
          · exact .refused _ honly
          · split
            · exact .refused _ honly
            · next loaded hinstantiate =>
                exact .registered hread hcomplete hinstantiate (registrationCase _ _ _ _ _ _)

end Rintawa.ExtensionEngine
