/-
# Every operation of the engine

Registrations, policies and grants change the engine in the ways that were listed. With
starts, stops and quarantines these are all of its operations, so an invariant that
survives every kind of change holds along every run.
-/

import Rintawa.ExtensionEngine.EngineChanges
import Rintawa.ExtensionEngine.Enrolment

namespace Rintawa.ExtensionEngine

open Rintawa.Lib Rintawa.Sdk Rintawa.UiRuntime

/-! ## Registration -/

/-- Contributions that no instance of the scope has. -/
def Unclaimed (context : RegistrationBuffers.Context) (contributions : List OwnedContribution) :
    Prop :=
  ∀ owned ∈ contributions, (context.scopeId, owned.descriptor.id) ∉ context.active

variable {instanceId : ExtensionInstanceId}

/-- A component registers contributions that are not active in its scope. -/
theorem unclaimed_perform {componentIds : List ComponentId} {context : RegistrationBuffers.Context}
    (buffers : RegistrationBuffers instanceId componentIds)
    (component : {componentId : ComponentId // componentId ∈ componentIds})
    (call : RegistrationCall) (registered : RegistrationBuffers instanceId componentIds)
    (h : Unclaimed context buffers.contributions)
    (hperform : buffers.perform component context call = .ok registered) :
    Unclaimed context registered.contributions := by
  cases call with
  | register contribution =>
      simp only [RegistrationBuffers.perform, RegistrationBuffers.register] at hperform
      split at hperform
      · cases hperform
      · next hfree =>
          split at hperform
          · cases hperform
          · cases hperform
            exact forall_mem_append_singleton h hfree
  | registerWorldSchema | defineContract | provideContract | registerUiSurface
  | registerUiLayer | registerWorldPresentation =>
      simp only [RegistrationBuffers.perform, RegistrationBuffers.registerWorldSchema,
        RegistrationBuffers.defineContract, RegistrationBuffers.provideContract,
        RegistrationBuffers.registerUiSurface, RegistrationBuffers.registerUiLayer,
        RegistrationBuffers.registerWorldPresentation] at hperform
      split at hperform
      · cases hperform
      · cases hperform
        exact h
  | consumeContract consumer =>
      simp only [RegistrationBuffers.perform, RegistrationBuffers.consumeContract] at hperform
      split at hperform
      · cases hperform
      · cases hperform
        exact h

section Admission

variable {op : EngineOp} {engine : Engine} (h : Consistent engine)
include h

/-- An instance that is registered nowhere yet. -/
theorem Consistent.services_fresh (hfresh : engine.extensions.lookup instanceId = none) :
    engine.services.instances.lookup instanceId = none := by
  have hentry := h.mirrors.services instanceId
  rw [show engine.instances instanceId = none from hfresh] at hentry
  exact hentry

variable {ext : ManagedExtension}

/-- The registration of an instance in the service runtime. -/
theorem Consistent.registerServices_ok {engine' : Engine}
    (hfresh : engine.extensions.lookup ext.instanceId = none)
    (hregistered : ext.state = .registered) (hok : engine.registerServices ext = .ok engine') :
    ∃ services', engine' = { engine with services := services' } ∧
      services'.instances =
        engine.services.instances.insert ext.instanceId ext.serviceInstance ∧
      services'.platformDefinitions = engine.services.platformDefinitions ∧
      services'.preferredProviders = engine.services.preferredProviders := by
  have hnew : engine.services.instances.lookup ext.serviceRegistration.instanceId = none :=
    h.services_fresh hfresh
  unfold Engine.registerServices at hok
  split at hok
  · cases hok
  · simp only [ServiceRuntimeState.registerInstance, hnew, Option.isSome_none,
      Bool.false_eq_true, if_false, Except.ok.injEq] at hok
    refine ⟨_, hok.symm, ?_, rfl, rfl⟩
    have hentry : ext.serviceInstance =
        { extensionId := ext.serviceRegistration.extensionId
          scopeId := ext.serviceRegistration.scopeId
          isActive := false
          definitions := ext.serviceRegistration.definitions
          providers := ext.serviceRegistration.providers
          consumers := ext.serviceRegistration.consumers
          components := ext.serviceRegistration.components } := by
      simp [ManagedExtension.serviceInstance, ManagedExtension.serviceRegistration, hregistered]
    rw [hentry]
    rfl

/-- The registries without an instance that was put into them. -/
theorem Consistent.withdrawn {ui' : UiRuntimeState} {services' : ServiceRuntimeState}
    {inst : UiExtensionInstance} (hfresh : engine.extensions.lookup ext.instanceId = none)
    (hui : ui'.instances = engine.ui.instances ∨
      ui'.instances = (engine.ui.instances.insert ext.instanceId inst).erase ext.instanceId)
    (hservices : services'.instances =
      engine.services.instances.insert ext.instanceId ext.serviceInstance)
    (hplatform : services'.platformDefinitions = engine.services.platformDefinitions)
    (hpreferred : services'.preferredProviders = engine.services.preferredProviders) :
    Consistent { engine with
      ui := ui'
      services := services'.unregisterInstance ext.instanceId } := by
  have hunregistered : services'.unregisterInstance ext.instanceId =
      ServiceRuntimeState.topologyChanged { services' with
        instances := services'.instances.erase ext.instanceId } := by
    simp [ServiceRuntimeState.unregisterInstance, hservices]
  have hmirrors : Mirrors { engine.toEngineFacilities with
      ui := ui'
      services := services'.unregisterInstance ext.instanceId } engine.instances := by
    constructor
    · intro other
      rw [hunregistered]
      simp only [ServiceRuntimeState.topologyChanged, hservices]
      rw [Dict.erase_insert (h.services_fresh hfresh)]
      exact h.mirrors.services other
    · intro other
      have hentry := h.mirrors.ui other
      rcases hui with hsame | herased
      · change (ui'.instances.lookup other).map _ = _
        rw [hsame]
        exact hentry
      · change (ui'.instances.lookup other).map _ = _
        rw [herased, Dict.lookup_erase_ite, Dict.lookup_insert_ite]
        split
        · next heq =>
            rw [heq, show engine.instances ext.instanceId = none from hfresh]
            rfl
        · exact hentry
  refine h.withFacilities hmirrors (h.owners.congr rfl rfl) ?_ ?_
  · rw [hunregistered]
    exact hplatform
  · rw [hunregistered]
    exact hpreferred

/-- A new instance is admitted everywhere, or the registries are as they were. -/
theorem Consistent.enroll {surfaces : List OwnedUiSurfaceContribution}
    {layers : List OwnedUiLayerDescriptor} {presentations : List OwnedWorldPresentationDescriptor}
    {outcome : EngineOutcome}
    (henrolled : Enrolled engine ext surfaces layers presentations outcome)
    (hpermitted : op.Admits ext.instanceId)
    (hfresh : engine.extensions.lookup ext.instanceId = none)
    (hregistered : ext.state = .registered) (hvalid : ext.manifest.validate = .ok ())
    (hunclaimed : Disjoint ext.contributionKeys engine.activeContributions)
    (hdefinitions : engine.validateContractDefinitions ext.scopeId ext.contractDefinitions =
      .ok ()) (hdependencies : ∀ dependency ∈ ext.executionTargetDependencies,
      ActiveIn engine.instances dependency.provider.instanceId) : Evolves op engine outcome.1 := by
  have hback : ∀ (services : ServiceRuntimeState) (ui' : UiRuntimeState)
      (inst : UiExtensionInstance),
      engine.registerServices ext = .ok { engine with services := services } →
      (ui'.instances = engine.ui.instances ∨ ui'.instances =
        (engine.ui.instances.insert ext.instanceId inst).erase ext.instanceId) →
      Evolves op engine { engine with
        services := services.unregisterInstance ext.instanceId
        ui := ui' } := by
    intro services ui' inst hservices hui
    obtain ⟨_, hsame, hinstances, hplatform, hpreferred⟩ :=
      h.registerServices_ok hfresh hregistered hservices
    cases hsame
    let facilities : EngineFacilities := { engine.toEngineFacilities with
      services := services.unregisterInstance ext.instanceId
      ui := ui' }
    exact .single (.facilities facilities)
      (h.withdrawn hfresh hui hinstances hplatform hpreferred)
  have hinserted : ∀ ui ui' : UiRuntimeState,
      engine.ui.registerInstance ext.instanceId ext.scopeId surfaces layers = (ui, .ok ()) →
      UiRuntimeState.Presents presentations ui ui' → ∃ ids, ui'.instances =
        engine.ui.instances.insert ext.instanceId ⟨ext.scopeId, false, ids⟩ := by
    intro ui ui' hui hpresents
    obtain ⟨-, _, _, ids, -, -, rfl⟩ := UiRuntimeState.registerInstance_ok hui
    exact ⟨ids, hpresents.othersKept.instances⟩
  cases henrolled with
  | refused error => exact .refl
  | undone error hservices =>
      exact hback _ engine.ui ⟨ext.scopeId, false, []⟩ hservices (.inl rfl)
  | withdrawn error hservices hui hpresents =>
      obtain ⟨ids, hids⟩ := hinserted _ _ hui hpresents
      refine hback _ _ ⟨ext.scopeId, false, ids⟩ hservices (.inr ?_)
      simp [UiRuntimeState.unregisterInstance, hids]
  | @admitted services ui ui' hservices hui hpresents =>
      obtain ⟨_, hsame, hinstances, hplatform, hpreferred⟩ :=
        h.registerServices_ok hfresh hregistered hservices
      cases hsame
      obtain ⟨ids, hids⟩ := hinserted _ _ hui hpresents
      let facilities : EngineFacilities := { engine.toEngineFacilities with
        services := services, ui := ui' }
      refine Evolves.single (.enroll facilities ext hpermitted hfresh hregistered hvalid
        hunclaimed hdefinitions hdependencies)
        (h.withInstance ext rfl rfl rfl ⟨?_, ?_⟩ ?_ hplatform hpreferred)
      · exact h.mirrors.services.insert hinstances
      · intro other
        change (ui'.instances.lookup other).map _ = _
        rw [hids, Dict.lookup_insert_ite, Function.update_apply]
        split
        · simp [hregistered]
        · exact h.mirrors.ui other
      · have howners : facilities.OwnersIn (ActiveIn engine.instances) :=
          h.owners.congr rfl rfl
        refine howners.mono ?_
        intro other hactive
        refine activeIn_update.mpr ?_
        split
        · next heq =>
            obtain ⟨found, hlookup, -⟩ := hactive
            rw [heq, show engine.instances ext.instanceId = none from hfresh] at hlookup
            cases hlookup
        · exact hactive

/-- Registering an instance that is instantiated through active ones admits it, or leaves
the registries as they were. -/
theorem Consistent.register {scopeId : RuntimeScopeId} {manifest : ExtensionManifest}
    {components : List Component} {dependencies : List ExecutionTargetDependency}
    {outcome : EngineOutcome}
    (hcase : RegistrationCase engine instanceId scopeId manifest components dependencies outcome)
    (hpermitted : op.Admits instanceId) (hdependencies : ∀ dependency ∈ dependencies,
      ActiveIn engine.instances dependency.provider.instanceId) : Evolves op engine outcome.1 := by
  cases hcase with
  | refused error => exact .refl
  | enrolled hvalid hfresh hregister hdefinitions henrolled =>
      have hunclaimed := registerComponents_keeps
        (P := fun buffers => Unclaimed ⟨manifest.id, scopeId, engine.activeContributions⟩
          buffers.contributions)
        unclaimed_perform components _ (fun _ hmem => by cases hmem) hregister
      refine h.enroll henrolled hpermitted hfresh rfl hvalid ?_ hdefinitions hdependencies
      rw [Finset.disjoint_left]
      intro key hkey
      obtain ⟨owned, howned, rfl⟩ := List.mem_map.mp (List.mem_toFinset.mp hkey)
      exact hunclaimed owned howned

/-- Hosted components depend on the owners of their targets. -/
theorem instantiateComponents_dependencies {archive : RtwArchive}
    {loaded loaded' : LoadedComponents} {components : List (ComponentDescriptor × Nat)}
    (hok : engine.instantiateComponents archive loaded components = .ok loaded')
    (hloaded : ∀ dependency ∈ loaded.dependencies,
      ActiveIn engine.instances dependency.provider.instanceId) :
    ∀ dependency ∈ loaded'.dependencies,
      ActiveIn engine.instances dependency.provider.instanceId := by
  induction components generalizing loaded with
  | nil =>
      cases hok
      exact hloaded
  | cons entry rest ih =>
      simp only [Engine.instantiateComponents] at hok
      split at hok
      · split at hok
        · cases hok
        · exact ih hok hloaded
      · split at hok
        · exact ih hok hloaded
        · next owner howner =>
            split at hok
            · cases hok
            · exact ih hok (forall_mem_append_singleton hloaded (h.owners.targets _ _ howner))

/-- Loading an archive admits its instance, or leaves the registries as they were. -/
theorem Consistent.load (archive : RtwArchive) (instanceId : ExtensionInstanceId)
    (scopeId : RuntimeScopeId) (hpermitted : op.Admits instanceId) :
    Evolves op engine (engine.tryLoadArchive archive instanceId scopeId).1 := by
  have hcase := loadCase engine archive instanceId scopeId
  generalize engine.tryLoadArchive archive instanceId scopeId = outcome at hcase ⊢
  cases hcase with
  | refused error hcomplete => exact .refl
  | deferred hread hmissing => exact .refl
  | registered hread hcomplete hinstantiate hregister =>
      exact h.register hregister hpermitted
        (instantiateComponents_dependencies h hinstantiate fun _ hmem => by cases hmem)

end Admission

/-! ## Policies -/

section Policies

variable {op : EngineOp} {engine : Engine} (h : Consistent engine)
include h

variable {services : ServiceRuntimeState}

/-- Other policies with the same copies in the service runtime. -/
theorem Consistent.withPolicies
    {platform : Dict RuntimeScopeId (Dict ContractKey ContractDefinition)}
    {preferred : Dict RuntimeScopeId (Dict ContractKey ComponentRef)}
    (hinstances : services.instances = engine.services.instances)
    (hplatform : services.platformDefinitions = platform)
    (hpreferred : Dict.SameNested services.preferredProviders preferred)
    (htidy : Dict.Tidy preferred) :
    Consistent { engine with
      services := services
      platformContractDefinitions := platform
      preferredContractProviders := preferred } where
  keyed := h.keyed
  mirrors := by
    refine ⟨?_, h.mirrors.ui⟩
    intro instanceId
    change services.instances.lookup instanceId = _
    rw [hinstances]
    exact h.mirrors.services instanceId
  owners := h.owners.congr rfl rfl
  platform := hplatform
  preferred := hpreferred
  preferred_tidy := htidy

theorem Consistent.definePlatformService_ok {scopeId : RuntimeScopeId}
    {definition : ContractDefinition}
    (hok : engine.definePlatformService scopeId definition = .ok services) :
    services.instances = engine.services.instances ∧
      services.preferredProviders = engine.services.preferredProviders ∧
      services.platformDefinitions =
        match (engine.platformDefinitionsIn scopeId).lookup definition.contract with
        | some _ => engine.platformContractDefinitions
        | none => engine.platformContractDefinitions.insert scopeId
            ((engine.platformDefinitionsIn scopeId).insert definition.contract definition) := by
  unfold Engine.definePlatformService ServiceRuntimeState.definePlatformContract
    Engine.platformDefinitionsIn at *
  rw [h.platform] at hok
  split at hok
  · cases hok
  · split at hok
    · next services' hdefine =>
        cases hok
        dsimp only at hdefine
        rcases Option.eq_none_or_eq_some (((engine.platformContractDefinitions.lookup scopeId).getD
            ∅).lookup definition.contract) with hnone | ⟨existing, hexisting⟩
        · rw [hnone] at hdefine ⊢
          cases hdefine
          exact ⟨rfl, rfl, rfl⟩
        · rw [hexisting] at hdefine ⊢
          dsimp only at hdefine
          split at hdefine
          · cases hdefine
            exact ⟨rfl, rfl, h.platform⟩
          · cases hdefine
    · cases hok

/-- Defining a platform contract. -/
theorem Consistent.definePlatform (scopeId : RuntimeScopeId) (definition : ContractDefinition) :
    Evolves op engine (engine.definePlatformContractInScope scopeId definition).1 := by
  unfold Engine.definePlatformContractInScope
  split
  · exact .refl
  · next hunused =>
      split
      · next existing hexisting =>
          split
          · split
            · exact .refl
            · next services hservices =>
                obtain ⟨hinstances, hpreferred, hplatform⟩ := h.definePlatformService_ok hservices
                rw [hexisting] at hplatform
                refine Evolves.single
                  (.facilities { engine.toEngineFacilities with services := services }) ?_
                refine h.withPolicies hinstances hplatform ?_ h.preferred_tidy
                rw [hpreferred]
                exact h.preferred
          · exact .refl
      · next hnone =>
          split
          · exact .refl
          · next services hservices =>
              obtain ⟨hinstances, hpreferred, hplatform⟩ := h.definePlatformService_ok hservices
              rw [hnone] at hplatform
              refine Evolves.single (.definePlatform
                { engine.toEngineFacilities with services := services } scopeId definition
                (by simpa using hunused)) ?_
              refine h.withPolicies hinstances hplatform ?_ h.preferred_tidy
              rw [hpreferred]
              exact h.preferred

/-- Removing the platform contracts of a scope. -/
theorem Consistent.clearPlatform (scopeId : RuntimeScopeId) :
    Evolves op engine (engine.clearPlatformContractDefinitionsInScope scopeId) := by
  refine Evolves.single (.clearPlatform scopeId) ?_
  have hcleared : (engine.services.clearPlatformContractsInScope scopeId).instances =
        engine.services.instances ∧
      (engine.services.clearPlatformContractsInScope scopeId).preferredProviders =
        engine.services.preferredProviders ∧
      (engine.services.clearPlatformContractsInScope scopeId).platformDefinitions =
        engine.platformContractDefinitions.erase scopeId := by
    unfold ServiceRuntimeState.clearPlatformContractsInScope
    rw [h.platform]
    split
    · exact ⟨rfl, rfl, rfl⟩
    · next habsent =>
        refine ⟨rfl, rfl, h.platform.trans ?_⟩
        rw [AList.lookup_isSome] at habsent
        apply AList.ext
        exact (List.kerase_of_notMem_keys habsent).symm
  refine h.withPolicies hcleared.1 hcleared.2.2 ?_ h.preferred_tidy
  rw [hcleared.2.1]
  exact h.preferred

/-- The preferences of a scope have the same entries. -/
theorem Consistent.preferencesOf (scopeId : RuntimeScopeId) (contract : ContractKey) :
    (engine.services.preferencesOf scopeId).lookup contract =
      (engine.preferencesIn scopeId).lookup contract :=
  h.preferred.inner scopeId contract

omit h in
/-- The preferences of the service runtime after one was set. -/
theorem preferencesOf_set (services : ServiceRuntimeState) (scopeId other : RuntimeScopeId)
    (contract key : ContractKey) (provider : ComponentRef) :
    ((services.setPreferredProvider scopeId contract provider).preferencesOf other).lookup key =
      if other = scopeId ∧ key = contract then some provider
      else (services.preferencesOf other).lookup key := by
  unfold ServiceRuntimeState.setPreferredProvider
  split
  · next hthere =>
      split
      · next heq => rw [heq.1, heq.2, hthere]
      · rfl
  · refine (Dict.inner_insert _ scopeId other _ key).trans ?_
    by_cases hscope : other = scopeId
    · rw [if_pos hscope, Dict.lookup_insert_ite]
      simp [hscope]
    · rw [if_neg hscope, if_neg (fun heq => hscope heq.1)]
      rfl

omit h in
/-- The inner maps after an entry was dropped, with its map when it was the last one. -/
theorem inner_drop {maps : Dict RuntimeScopeId (Dict ContractKey ComponentRef)}
    (scopeId other : RuntimeScopeId) (contract key : ContractKey) :
    let rest := ((maps.lookup scopeId).getD ∅).erase contract
    (((if rest.entries.isEmpty then maps.erase scopeId
        else maps.insert scopeId rest).lookup other).getD ∅).lookup key =
      if other = scopeId ∧ key = contract then none
      else ((maps.lookup other).getD ∅).lookup key := by
  intro rest
  have hrest : rest.lookup key = if key = contract then none
      else ((maps.lookup scopeId).getD ∅).lookup key := Dict.lookup_erase_ite _ _ _
  split
  · next hempty =>
      rw [Dict.inner_erase]
      rw [Dict.entries_eq_nil_iff.mp (List.isEmpty_iff.mp hempty) key] at hrest
      by_cases hscope : other = scopeId
      · rw [if_pos hscope, hscope]
        by_cases hkey : key = contract
        · simp [hkey]
        · simpa [hkey] using hrest
      · simp [hscope]
  · rw [Dict.inner_insert]
    by_cases hscope : other = scopeId
    · rw [if_pos hscope, hrest, hscope]
      simp
    · simp [hscope]

omit h in
/-- Dropping an entry that is not there changes nothing. -/
theorem drop_absent {maps : Dict RuntimeScopeId (Dict ContractKey ComponentRef)}
    {scopeId : RuntimeScopeId} {contract : ContractKey}
    (habsent : ((maps.lookup scopeId).getD ∅).lookup contract = none) (other : RuntimeScopeId)
    (key : ContractKey) :
    ((maps.lookup other).getD ∅).lookup key =
      if other = scopeId ∧ key = contract then none
      else ((maps.lookup other).getD ∅).lookup key := by
  split
  · next heq => rw [heq.1, heq.2, habsent]
  · rfl

omit h in
/-- The preferences of the service runtime after one was dropped. -/
theorem preferencesOf_clear (services : ServiceRuntimeState) (scopeId other : RuntimeScopeId)
    (contract key : ContractKey) :
    ((services.clearPreferredProvider scopeId contract).preferencesOf other).lookup key =
      if other = scopeId ∧ key = contract then none
      else (services.preferencesOf other).lookup key := by
  unfold ServiceRuntimeState.clearPreferredProvider
  split
  · exact inner_drop scopeId other contract key
  · next habsent =>
      exact drop_absent (Option.not_isSome_iff_eq_none.mp habsent) other key

omit h in
/-- The preferences of the engine after one was dropped. -/
theorem preferencesIn_clear (engine : Engine) (scopeId other : RuntimeScopeId)
    (contract key : ContractKey) :
    ((engine.clearPreferredContractProviderInScope scopeId contract).preferencesIn other).lookup
        key =
      if other = scopeId ∧ key = contract then none
      else (engine.preferencesIn other).lookup key := by
  unfold Engine.clearPreferredContractProviderInScope Engine.preferencesIn
  dsimp only
  cases hscope : engine.preferredContractProviders.lookup scopeId with
  | none => exact drop_absent (by rw [hscope]; rfl) other key
  | some providers =>
      have hdrop := @inner_drop engine.preferredContractProviders scopeId other contract key
      rw [hscope] at hdrop
      exact hdrop

omit h in
theorem clearPreferredProvider_rest (services : ServiceRuntimeState) (scopeId : RuntimeScopeId)
    (contract : ContractKey) :
    (services.clearPreferredProvider scopeId contract).instances = services.instances ∧
      (services.clearPreferredProvider scopeId contract).platformDefinitions =
        services.platformDefinitions := by
  unfold ServiceRuntimeState.clearPreferredProvider
  split <;> exact ⟨rfl, rfl⟩

omit h in
theorem clearPreferredProvider_tidy (scopeId : RuntimeScopeId) (contract : ContractKey)
    (htidy : Dict.Tidy services.preferredProviders) :
    Dict.Tidy (services.clearPreferredProvider scopeId contract).preferredProviders := by
  unfold ServiceRuntimeState.clearPreferredProvider
  split
  · simp only [ServiceRuntimeState.topologyChanged]
    split
    · exact htidy.erase scopeId
    · next hrest => exact htidy.insert scopeId (by simpa using hrest)
  · exact htidy

/-- Other preferences, with the same ones in the service runtime. -/
theorem Consistent.withPreferences {preferred : Dict RuntimeScopeId (Dict ContractKey ComponentRef)}
    (hinstances : services.instances = engine.services.instances)
    (hplatform : services.platformDefinitions = engine.services.platformDefinitions)
    (hservices : Dict.Tidy services.preferredProviders) (hpreferred : Dict.Tidy preferred)
    (hentries : ∀ scopeId contract, (services.preferencesOf scopeId).lookup contract =
      ((preferred.lookup scopeId).getD ∅).lookup contract) :
    Evolves op engine { engine with
      services := services
      preferredContractProviders := preferred } :=
  let facilities : EngineFacilities := { engine.toEngineFacilities with services := services }
  Evolves.single (.prefer facilities preferred)
    (h.withPolicies hinstances (hplatform.trans h.platform)
      (hservices.sameNested hpreferred hentries) hpreferred)

/-- Preferring a provider. -/
theorem Consistent.prefer (scopeId : RuntimeScopeId) (contract : ContractKey)
    (provider : ComponentRef) : Evolves op engine
      (engine.setPreferredContractProviderPolicyInScope scopeId contract provider) := by
  have htidy := h.preferred.tidy h.preferred_tidy
  have hadded : ∀ providers : Dict ContractKey ComponentRef,
      (providers.insert contract provider).entries ≠ [] := by
    intro providers
    simp [AList.insert, List.kinsert_def]
  refine h.withPreferences ?_ ?_ ?_ (h.preferred_tidy.insert scopeId (hadded _)) ?_
  · unfold ServiceRuntimeState.setPreferredProvider
    split <;> rfl
  · unfold ServiceRuntimeState.setPreferredProvider
    split <;> rfl
  · unfold ServiceRuntimeState.setPreferredProvider
    split
    · exact htidy
    · exact htidy.insert scopeId (hadded _)
  · intro other key
    rw [preferencesOf_set, Dict.inner_insert, h.preferencesOf]
    by_cases hscope : other = scopeId
    · rw [if_pos hscope, Dict.lookup_insert_ite, hscope]
      simp
    · rw [if_neg hscope, if_neg (fun heq => hscope heq.1)]
      rfl

/-- Dropping a preference. -/
theorem Consistent.clearPreferred (scopeId : RuntimeScopeId) (contract : ContractKey) :
    Evolves op engine (engine.clearPreferredContractProviderInScope scopeId contract) := by
  have htidy := h.preferred.tidy h.preferred_tidy
  refine h.withPreferences (clearPreferredProvider_rest _ _ _).1
    (clearPreferredProvider_rest _ _ _).2 (clearPreferredProvider_tidy _ _ htidy) ?_ ?_
  · split
    · exact h.preferred_tidy
    · dsimp only
      split
      · exact h.preferred_tidy.erase scopeId
      · next hrest => exact h.preferred_tidy.insert scopeId (by simpa using hrest)
  · intro other key
    rw [preferencesOf_clear, h.preferencesOf]
    exact (preferencesIn_clear engine scopeId other contract key).symm

omit h in
/-- Dropping several preferences in the service runtime. -/
theorem clearPreferredProviders_fold (scopeId : RuntimeScopeId) (contracts : List ContractKey)
    (services : ServiceRuntimeState) (htidy : Dict.Tidy services.preferredProviders) :
    let cleared := contracts.foldl
      (fun services contract => services.clearPreferredProvider scopeId contract) services
    cleared.instances = services.instances ∧
      cleared.platformDefinitions = services.platformDefinitions ∧
      Dict.Tidy cleared.preferredProviders ∧
      ∀ other key, (cleared.preferencesOf other).lookup key =
        if other = scopeId ∧ key ∈ contracts then none
        else (services.preferencesOf other).lookup key := by
  induction contracts generalizing services with
  | nil => exact ⟨rfl, rfl, htidy, fun other key => by simp⟩
  | cons contract rest ih =>
      obtain ⟨hinstances, hplatform, htidy', hlookup⟩ :=
        ih (services.clearPreferredProvider scopeId contract)
          (clearPreferredProvider_tidy scopeId contract htidy)
      obtain ⟨hsame, hsame'⟩ := clearPreferredProvider_rest services scopeId contract
      refine ⟨hinstances.trans hsame, hplatform.trans hsame', htidy', fun other key => ?_⟩
      refine (hlookup other key).trans ?_
      rw [preferencesOf_clear]
      by_cases hscope : other = scopeId
      · by_cases hkey : key ∈ rest
        · simp [hscope, hkey]
        · by_cases hfirst : key = contract
          · simp [hscope, hfirst]
          · simp [hscope, hkey, hfirst]
      · simp [hscope]

/-- Dropping every preference in a scope. -/
theorem Consistent.clearPolicies (scopeId : RuntimeScopeId) :
    Evolves op engine (engine.clearPreferredContractProviderPoliciesInScope scopeId) := by
  have htidy := h.preferred.tidy h.preferred_tidy
  obtain ⟨hinstances, hplatform, htidy', hlookup⟩ := clearPreferredProviders_fold scopeId
    (engine.preferencesIn scopeId).keys engine.services htidy
  refine h.withPreferences hinstances hplatform htidy' (h.preferred_tidy.erase scopeId) ?_
  intro other key
  refine (hlookup other key).trans ?_
  rw [Dict.inner_erase]
  by_cases hscope : other = scopeId
  · rw [if_pos hscope, hscope]
    split
    · rfl
    · next hkey =>
        rw [h.preferencesOf]
        have habsent : key ∉ engine.preferencesIn scopeId := fun hmem =>
          hkey ⟨rfl, AList.mem_keys.mp hmem⟩
        exact AList.lookup_eq_none.mpr habsent
  · rw [if_neg hscope, if_neg (fun heq => hscope heq.1)]
    exact h.preferencesOf other key

/-! ## Every operation -/

/-- Registering the host of a target for an active component. -/
theorem Consistent.registerHost (owner : ComponentRef) (target : String) :
    Evolves op engine (engine.registerExecutionTargetHost owner target).1 := by
  unfold Engine.registerExecutionTargetHost
  split
  · exact .refl
  · next ext hinstance =>
      split
      · next hactive =>
          let facilities : EngineFacilities := { engine.toEngineFacilities with
            executionTargets := (engine.executionTargets.register owner target).1 }
          refine Evolves.single (.facilities facilities) ?_
          exact h.withFacilities ⟨h.mirrors.services, h.mirrors.ui⟩
            (h.owners.registerTarget ⟨ext, instanceOf_ok hinstance, hactive.1⟩ target) rfl rfl
      · exact .refl

/-- Granting a secret pattern that a manifest requests. -/
theorem Consistent.grantSecret (instanceId : ExtensionInstanceId) (componentId : ComponentId)
    (pattern : SecretPathPattern)
    (hpermitted : op = .grantRequestedSecretReadForInstance instanceId componentId pattern) :
    Evolves op engine
      (engine.grantRequestedSecretReadForInstance instanceId componentId pattern).1 := by
  unfold Engine.grantRequestedSecretReadForInstance
  split
  · exact .refl
  · next ext hinstance =>
      obtain rfl := h.keyed _ _ (instanceOf_ok hinstance)
      split
      · exact .refl
      · next component hcomponent =>
          split
          · next hrequested =>
              have hid := List.find?_some hcomponent
              rw [beq_iff_eq] at hid
              subst hid
              exact Evolves.single (.grantSecret ext component pattern hpermitted
                (instanceOf_ok hinstance) (List.mem_of_find?_eq_some hcomponent)
                (List.any_eq_true.mp hrequested))
                ⟨h.keyed, h.mirrors, h.owners, h.platform, h.preferred, h.preferred_tidy⟩
          · exact .refl

/-- Granting a permission that a manifest requests. -/
theorem Consistent.grantPermission (instanceId : ExtensionInstanceId) (componentId : ComponentId)
    (permission : RuntimePermission)
    (hpermitted :
      op = .grantRequestedRuntimePermissionForInstance instanceId componentId permission) :
    Evolves op engine (engine.grantRequestedRuntimePermissionForInstance instanceId componentId
      permission).1 := by
  unfold Engine.grantRequestedRuntimePermissionForInstance
  split
  · exact .refl
  · next ext hinstance =>
      obtain rfl := h.keyed _ _ (instanceOf_ok hinstance)
      split
      · exact .refl
      · next component hcomponent =>
          split
          · next hrequested =>
              have hid := List.find?_some hcomponent
              rw [beq_iff_eq] at hid
              subst hid
              exact Evolves.single
                (.grantPermission ext component permission hpermitted (instanceOf_ok hinstance)
                  (List.mem_of_find?_eq_some hcomponent) hrequested)
                ⟨h.keyed, h.mirrors, h.owners, h.platform, h.preferred, h.preferred_tidy⟩
          · exact .refl

/-- Facilities with the same topology. -/
theorem Consistent.sameTopology {facilities : EngineFacilities}
    (hsame : engine.toEngineFacilities.SameTopology facilities)
    (heffects : facilities.runtimeEffects = engine.runtimeEffects)
    (htargets : facilities.executionTargets = engine.executionTargets) :
    Evolves op engine { engine with toEngineFacilities := facilities } :=
  Evolves.single (.facilities facilities)
    (h.withFacilities (h.mirrors.sameTopology hsame) (h.owners.congr heffects htargets)
      hsame.services.platformDefinitions hsame.services.preferredProviders)

/-- Every operation makes changes between which the registries are consistent. -/
theorem Consistent.run (op : EngineOp) : Evolves op engine (engine.run op).1 := by
  cases op with
  | registerExtensionInstance instanceId scopeId manifest components =>
      exact h.register (registrationCase engine instanceId scopeId manifest components []) rfl
        fun _ hmem => by cases hmem
  | tryLoadArchive archive instanceId scopeId => exact h.load archive instanceId scopeId rfl
  | startExtensionInstance instanceId script => exact h.start instanceId script ⟨script, rfl⟩
  | stopExtensionInstance instanceId script => exact h.stopInner instanceId script true
  | unregisterExtensionInstance instanceId script =>
      exact h.unregister instanceId script ⟨script, rfl⟩
  | runActiveComponent owner entry callback scripts =>
      exact h.runActive owner entry callback scripts
  | registerExecutionTargetHost owner target => exact h.registerHost owner target
  | definePlatformContractInScope scopeId definition => exact h.definePlatform scopeId definition
  | clearPlatformContractDefinitionsInScope scopeId => exact h.clearPlatform scopeId
  | setPreferredContractProviderPolicyInScope scopeId contract provider =>
      exact h.prefer scopeId contract provider
  | setPreferredContractProviderInScope scopeId contract provider =>
      simp only [Engine.run, Engine.setPreferredContractProviderInScope]
      split
      · exact .refl
      · split
        · exact h.prefer scopeId contract provider
        · exact .refl
  | clearPreferredContractProviderInScope scopeId contract =>
      exact h.clearPreferred scopeId contract
  | clearPreferredContractProviderPoliciesInScope scopeId => exact h.clearPolicies scopeId
  | grantRequestedSecretReadForInstance instanceId componentId pattern =>
      exact h.grantSecret instanceId componentId pattern rfl
  | grantRequestedRuntimePermissionForInstance instanceId componentId permission =>
      exact h.grantPermission instanceId componentId permission rfl
  | revokeSecretReads owner =>
      exact Evolves.single (.revokeSecrets owner)
        ⟨h.keyed, h.mirrors, h.owners, h.platform, h.preferred, h.preferred_tidy⟩
  | callService caller contract allowInactiveCaller request =>
      refine h.sameTopology (engine.sameTopology_useServices
        (ServiceRuntimeState.sameComposition_call _ _ _ _ _ _)) ?_ ?_ <;>
      · unfold EngineFacilities.useServices
        split <;> rfl
  | listProviders caller contract allowInactiveCaller =>
      refine h.sameTopology (engine.sameTopology_useServices
        (ServiceRuntimeState.handlesOnly_list _ _ _ _ _).toSameComposition) ?_ ?_ <;>
      · unfold EngineFacilities.useServices
        split <;> rfl
  | presentUi call =>
      simp only [Engine.run, Engine.changeUi]
      split
      · exact .refl
      · let facilities : EngineFacilities :=
          { engine.toEngineFacilities with ui := (engine.ui.run call.1).1 }
        have hsame : engine.toEngineFacilities.SameTopology facilities :=
          ⟨.refl _, engine.ui.sameRegistrations_run call.1 call.2, rfl, rfl⟩
        exact h.sameTopology hsame rfl rfl
  | poisonServices =>
      exact Evolves.single
        (.facilities { engine.toEngineFacilities with servicesPoisoned := true })
        (h.withFacilities ⟨h.mirrors.services, h.mirrors.ui⟩ (h.owners.congr rfl rfl) rfl rfl)
  | poisonUi =>
      exact Evolves.single
        (.facilities { engine.toEngineFacilities with uiPoisoned := true })
        (h.withFacilities ⟨h.mirrors.services, h.mirrors.ui⟩ (h.owners.congr rfl rfl) rfl rfl)

end Policies

/-! ## Runs -/

/-- Nothing is registered at first. -/
theorem consistent_new : Consistent Engine.new where
  keyed instanceId ext hlookup := by cases hlookup
  mirrors := ⟨fun _ => rfl, fun _ => rfl⟩
  owners := by
    constructor
    · intro effectId owned hlookup
      cases hlookup
    · intro target owner hlookup
      cases hlookup
  platform := rfl
  preferred := .refl _
  preferred_tidy := fun key inner hlookup => by cases hlookup

/-- A step is consistent when it starts consistent. -/
theorem evolves_of_step {engine engine' : Engine} {event : EngineEvent}
    (hstep : engineSystem.step engine event engine') (h : Consistent engine) :
    Evolves event.op engine engine' := by
  have hrun := h.run event.op
  rw [show engine.run event.op = (engine', event.result) from hstep] at hrun
  exact hrun

theorem consistent_of_reachable {engine : Engine} (h : engineSystem.Reachable engine) :
    Consistent engine := by
  refine h.induction ?_ ?_
  · rintro engine rfl
    exact consistent_new
  · intro engine event engine' _ hconsistent hstep
    exact (evolves_of_step hstep hconsistent).consistent hconsistent

/-- What holds at first and survives every change holds in every engine that is reached. -/
theorem reachable_induction {P : Engine → Prop} (hnew : P .new)
    (hchange : ∀ op engine engine', Consistent engine → P engine → Change op engine engine' →
      Consistent engine' → P engine')
    {engine : Engine} (h : engineSystem.Reachable engine) : P engine := by
  refine h.induction ?_ ?_
  · rintro engine rfl
    exact hnew
  · intro engine event engine' hreachable hP hstep
    have hconsistent := consistent_of_reachable hreachable
    exact (evolves_of_step hstep hconsistent).preserves (hchange event.op) hconsistent hP

end Rintawa.ExtensionEngine
