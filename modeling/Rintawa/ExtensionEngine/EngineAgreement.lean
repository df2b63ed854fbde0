/-
# Agreement of the engine and the service runtime

The engine and the service runtime keep the same facts twice: which instances are active,
what the platform defines and which providers are preferred. Both copies are changed
together, by operations that succeed and by those that fail, and so both resolve contracts
to the same providers.
-/

import Rintawa.ExtensionEngine.InstanceOrder

namespace Rintawa.ExtensionEngine

open Rintawa.Lib Rintawa.Sdk

/-! ## The same instances -/

/-- Elements that fail a test contribute nothing. -/
theorem flatMap_filter_eq {α β : Type} {keep : α → Bool} {f g : α → List β} {entries : List α}
    (hkept : ∀ entry ∈ entries, keep entry = true → f entry = g entry)
    (hdropped : ∀ entry ∈ entries, keep entry = false → f entry = []) :
    entries.flatMap f = (entries.filter keep).flatMap g := by
  induction entries with
  | nil => rfl
  | cons entry rest ih =>
      have hrest := ih (fun other hother => hkept other (List.mem_cons_of_mem entry hother))
        (fun other hother => hdropped other (List.mem_cons_of_mem entry hother))
      rw [List.flatMap_cons, hrest]
      cases hkeep : keep entry with
      | true =>
          rw [List.filter_cons_of_pos hkeep, List.flatMap_cons,
            hkept entry List.mem_cons_self hkeep]
      | false =>
          rw [List.filter_cons_of_neg (by simp [hkeep]), hdropped entry List.mem_cons_self hkeep]
          rfl

/-- Only components of an instance are found. -/
theorem mem_of_componentsById {components : List ManagedComponent} {componentId : ComponentId}
    (h : ((componentsById components).lookup componentId).isSome = true) :
    componentId ∈ components.map fun component => component.id := by
  have general : ∀ (rest : List ManagedComponent) (byId : Dict ComponentId ServiceComponent),
      ((rest.foldl (fun byId component => byId.insert component.id component.handle)
        byId).lookup componentId).isSome = true →
      (byId.lookup componentId).isSome = true ∨
        componentId ∈ (rest.map fun component => component.id) := by
    intro rest
    induction rest with
    | nil => exact fun byId hfound => .inl hfound
    | cons component rest ih =>
        intro byId hfound
        rcases ih _ hfound with hinserted | hrest
        · rw [Dict.lookup_insert_ite] at hinserted
          by_cases heq : componentId = component.id
          · exact .inr (by simp [heq])
          · exact .inl (by simpa [heq] using hinserted)
        · exact .inr (List.mem_cons_of_mem _ hrest)
  rcases general components ∅ h with hempty | hmem
  · cases hempty
  · exact hmem

section Instances

variable {engine : Engine} (h : Consistent engine)
include h

/-- The entries of the service runtime are those of the engine, in some order. -/
theorem Consistent.pairs_perm :
    engine.services.instances.pairs.Perm
      (engine.extensions.values.map fun ext => (ext.instanceId, ext.serviceInstance)) := by
  have hentries : engine.services.instances.entries.Perm
      (engine.extensions.mapValues fun _ ext => ext.serviceInstance).entries := by
    refine List.lookup_ext engine.services.instances.nodupKeys
      (engine.extensions.mapValues fun _ ext => ext.serviceInstance).nodupKeys ?_
    intro instanceId inst
    have hlookup : engine.services.instances.lookup instanceId =
        (engine.extensions.mapValues fun _ ext => ext.serviceInstance).lookup instanceId := by
      rw [Dict.lookup_mapValues]
      exact h.mirrors.services instanceId
    change inst ∈ engine.services.instances.lookup instanceId ↔
      inst ∈ (engine.extensions.mapValues fun _ ext => ext.serviceInstance).lookup instanceId
    rw [hlookup]
  refine (hentries.map fun entry => (entry.1, entry.2)).trans (List.Perm.of_eq ?_)
  unfold Dict.values Dict.mapValues
  rw [List.map_map, List.map_map]
  refine List.map_congr_left fun entry hentry => ?_
  have hid := h.keyed entry.1 entry.2 (Dict.mem_pairs_iff.mp (List.mem_map_of_mem hentry))
  simp only [Function.comp_apply, hid]

/-- What an active caller, or any caller that has to be active, finds of its scope is what
the active instances have. -/
theorem Consistent.participants_active {β : Type} {caller : ComponentRef}
    {allowInactiveCaller : Bool}
    (hcaller : allowInactiveCaller = true → ActiveIn engine.instances caller.instanceId)
    (scopeId : RuntimeScopeId) {f : ServiceRuntimeState.Participation → List β}
    (hnone : f ⟨[], [], []⟩ = []) :
    ((engine.services.participants caller scopeId allowInactiveCaller).flatMap f).Perm
      (((engine.extensionsIn scopeId).filter fun ext => ext.state == .active).flatMap fun ext =>
        f ⟨ext.contractDefinitions.map fun owned => owned.definition, ext.contractProviders,
          ext.contractConsumers⟩) := by
  have hparts := ((h.pairs_perm.filter fun entry => entry.2.scopeId == scopeId).map fun entry =>
    ServiceRuntimeState.participation caller allowInactiveCaller entry.1 entry.2).flatMap_right f
  refine hparts.trans (List.Perm.of_eq ?_)
  rw [List.filter_map, List.map_map, List.flatMap_map]
  refine flatMap_filter_eq ?_ ?_
  · intro ext _ hactive
    simp [ServiceRuntimeState.participation, ManagedExtension.serviceInstance, hactive]
  · intro ext hext hinactive
    have hother : ¬ (allowInactiveCaller = true ∧ ext.instanceId = caller.instanceId) := by
      rintro ⟨hallow, hsame⟩
      obtain ⟨active, hlookup, hstate⟩ := hcaller hallow
      obtain ⟨instanceId, hfound⟩ := Dict.mem_values_iff.mp (List.mem_filter.mp hext).1
      obtain rfl := h.keyed _ _ hfound
      have hactive : some active = some ext := by rw [← hlookup, ← hsame]; exact hfound
      cases hactive
      simp [hstate] at hinactive
    simp [ServiceRuntimeState.participation, ManagedExtension.serviceInstance, hinactive, hother,
      hnone]

/-- The service runtime calls a component active just when its instance is. -/
theorem Consistent.active_iff (owner : ComponentRef) :
    (∃ inst, engine.services.instances.lookup owner.instanceId = some inst ∧
        inst.isActive = true ∧ (inst.components.lookup owner.componentId).isSome = true) ↔
      ∃ ext, engine.extensions.lookup owner.instanceId = some ext ∧ ext.state = .active ∧
        owner.componentId ∈ ext.components.map fun component => component.id := by
  constructor
  · rintro ⟨inst, hlookup, hactive, hcomponent⟩
    obtain ⟨ext, hfound, -, rfl⟩ := h.serviceEntry hlookup
    exact ⟨ext, hfound, by simpa [ManagedExtension.serviceInstance] using hactive,
      mem_of_componentsById hcomponent⟩
  · rintro ⟨ext, hfound, hactive, hcomponent⟩
    exact ⟨ext.serviceInstance, h.mirrors.services.lookup hfound,
      by simpa [ManagedExtension.serviceInstance] using hactive,
      isSome_componentsById hcomponent⟩

end Instances

/-! ## The same providers -/

variable {contract : ContractKey}

/-- A binding from what is found belongs to a service contract that the caller consumes, once, and
has the grants for, and has the providers that the contract is resolved to. -/
theorem bindingFrom_ok_iff {secrets : SecretManager} {preferred : Dict ContractKey ComponentRef}
    {caller : ComponentRef} {definitions : List ContractDefinition}
    {providers : List OwnedContractProvider} {consumers : List OwnedContractConsumer}
    (hnodup : (consumers.map fun owned => (owned.owner, owned.consumer.contract)).Nodup)
    {binding : ResolvedServiceBinding} :
    bindingFrom secrets preferred caller contract definitions providers consumers = .ok binding ↔
      ∃ entry ∈ consumers, entry.owner = caller ∧ entry.consumer.contract = contract ∧
        requirementsSatisfied secrets caller entry.consumer.requiredGrants = true ∧
        definedTermsOf definitions contract = some (binding.resolution, .service) ∧
        resolveContractProviders secrets contract binding.resolution providers
          (preferred.lookup contract) = .ok binding.providers := by
  have hresolve : ∀ (entry : OwnedContractConsumer) (definition : ContractDefinition)
      (selected : List ComponentRef), entry.consumer.contract = contract →
      definitionOf definitions contract = some definition →
      (resolveConsumer secrets definitions providers preferred entry = .ok selected ↔
        requirementsSatisfied secrets entry.owner entry.consumer.requiredGrants = true ∧
        resolveContractProviders secrets contract definition.resolution providers
          (preferred.lookup contract) = .ok selected) := by
    intro entry definition selected hcontract hdefinition
    unfold resolveConsumer
    rw [hcontract, hdefinition]
    dsimp only
    split
    · next hsatisfied => simp [hsatisfied]
    · next hunsatisfied => simp [hunsatisfied]
  constructor
  · intro hok
    simp only [bindingFrom, bind_eq_ok_iff, ensure_eq_ok_iff, orError_eq_ok_iff, beq_iff_eq] at hok
    obtain ⟨-, -, definition, hdefinition, -, hprotocol, found, hfound, hbinding⟩ := hok
    cases hbinding
    have htest := List.find?_some hfound
    simp only [Bool.and_eq_true, beq_iff_eq] at htest
    obtain ⟨owned, hmem, howner, hcontract, -, hselected⟩ :=
      mem_bindings.mp (List.mem_of_find?_eq_some hfound)
    have hcontract' : owned.consumer.contract = contract := hcontract.symm.trans htest.2
    have howner' : owned.owner = caller := howner.symm.trans htest.1
    obtain ⟨hsatisfied, hproviders⟩ :=
      (hresolve owned definition _ hcontract' hdefinition).mp hselected
    refine ⟨owned, hmem, howner', hcontract', howner' ▸ hsatisfied, ?_, hproviders⟩
    rw [definedTermsOf, hdefinition, Option.map_some, hprotocol]
  · rintro ⟨entry, hmem, howner, hcontract, hsatisfied, hterms, hproviders⟩
    obtain ⟨definition, hdefinition, hdefined⟩ := Option.map_eq_some_iff.mp hterms
    obtain ⟨hresolution, hprotocol⟩ := Prod.mk.inj hdefined
    have hselected : resolveConsumer secrets definitions providers preferred entry =
        .ok binding.providers :=
      (hresolve entry definition _ hcontract hdefinition).mpr
        ⟨howner ▸ hsatisfied, hresolution ▸ hproviders⟩
    have hthere : (⟨caller, contract, entry.consumer.required, binding.providers⟩ :
        ContractBinding) ∈
        (resolveContracts secrets definitions providers preferred consumers).bindings :=
      mem_bindings.mpr ⟨entry, hmem, howner.symm, hcontract.symm, rfl, hselected⟩
    obtain ⟨found, hfound⟩ := Option.isSome_iff_exists.mp (List.find?_isSome.mpr
      (⟨_, hthere, by simp⟩ : ∃ other ∈
        (resolveContracts secrets definitions providers preferred consumers).bindings,
        (other.consumer == caller && other.contract == contract) = true))
    have htest := List.find?_some hfound
    simp only [Bool.and_eq_true, beq_iff_eq] at htest
    obtain ⟨owned, hmem', howner', hcontract', -, hselected'⟩ :=
      mem_bindings.mp (List.mem_of_find?_eq_some hfound)
    have hsame : owned = entry := by
      refine List.inj_on_of_nodup_map hnodup hmem' hmem ?_
      rw [← howner', ← hcontract', htest.1, htest.2, howner, hcontract]
    rw [hsame, hselected] at hselected'
    have hfoundProviders : found.providers = binding.providers := (Except.ok.inj hselected').symm
    simp only [bindingFrom, bind_eq_ok_iff, ensure_eq_ok_iff, orError_eq_ok_iff, beq_iff_eq]
    refine ⟨(), ?_, definition, hdefinition, (), hprotocol, found, hfound, ?_⟩
    · exact List.any_eq_true.mpr ⟨entry, hmem, by simp [howner, hcontract]⟩
    · rw [hresolution, hfoundProviders]
      rfl

section Routing

variable {engine : Engine} (h : Consistent engine) (hagree : DefinitionsAgree engine)
include h

theorem Consistent.platformDefinitionsOf (scopeId : RuntimeScopeId) :
    engine.services.platformDefinitionsOf scopeId = engine.platformDefinitionsIn scopeId := by
  unfold ServiceRuntimeState.platformDefinitionsOf Engine.platformDefinitionsIn
  rw [h.platform]

include hagree

/-- The binding of a caller that is active, or has to be, is resolved from what the engine resolves
contracts from. The consumer belongs to the instance of the caller. -/
theorem Consistent.binding_iff {caller : ComponentRef} {allowInactiveCaller : Bool}
    {ext : ManagedExtension} {binding : ResolvedServiceBinding}
    (hfound : engine.extensions.lookup caller.instanceId = some ext)
    (hcaller : allowInactiveCaller = true → ActiveIn engine.instances caller.instanceId) :
    engine.services.resolveBindingUncached engine.secrets caller contract allowInactiveCaller =
        .ok binding ↔
      ext.state = .active ∧
        (∃ entry ∈ ext.contractConsumers, entry.owner = caller ∧
          entry.consumer.contract = contract ∧
          requirementsSatisfied engine.secrets caller entry.consumer.requiredGrants = true) ∧
        definedTermsOf (definitionsFor engine ext.scopeId fun ext => ext.state == .active)
          contract = some (binding.resolution, .service) ∧
        engine.resolveActiveContractProvidersInScope ext.scopeId contract =
          .ok binding.providers := by
  have hinst := h.mirrors.services.lookup hfound
  have hdefinitions := h.participants_active hcaller ext.scopeId
    (f := fun part => part.definitions) rfl
  have hproviders := h.participants_active hcaller ext.scopeId
    (f := fun part => part.providers) rfl
  have hconsumers := h.participants_active hcaller ext.scopeId
    (f := fun part => part.consumers) rfl
  have hterms : ∀ other, definedTermsOf
      ((engine.services.platformDefinitionsOf ext.scopeId).values ++
        (engine.services.participants caller ext.scopeId allowInactiveCaller).flatMap fun part =>
          part.definitions) other =
      definedTermsOf (definitionsFor engine ext.scopeId fun ext => ext.state == .active) other := by
    intro other
    refine definedTermsOf_congr (h.participants_agree hagree caller ext.scopeId
      allowInactiveCaller) ?_ other
    intro definition
    rw [h.platformDefinitionsOf]
    exact (hdefinitions.append_left _).mem_iff
  have hbinding := bindingFrom_perm engine.secrets (engine.services.preferencesOf ext.scopeId)
    caller contract hterms hproviders hconsumers
    (h.participants_nodup caller ext.scopeId allowInactiveCaller)
  rw [resolveBindingUncached_eq, hinst]
  change bindingFrom _ _ _ _ _ _ _ = _ ↔ _
  change bindingFrom _ (engine.services.preferencesOf ext.scopeId) _ _
    ((engine.services.platformDefinitionsOf ext.scopeId).values ++ _) _ _ = _ ↔ _
  refine (Eq.congr_left hbinding).trans ?_
  rw [bindingFrom_ok_iff (h.consumers_nodup ext.scopeId fun ext => ext.state == .active),
    h.preferencesOf, hagree.resolveActive]
  constructor
  · rintro ⟨entry, hmem, howner, hcontract, hsatisfied, hdefined, hselected⟩
    obtain ⟨other, hother, hentry⟩ := List.mem_flatMap.mp hmem
    obtain ⟨hin, hactive⟩ := List.mem_filter.mp hother
    obtain ⟨⟨instanceId, hlookup⟩, -⟩ := mem_extensionsIn.mp hin
    obtain rfl := h.keyed _ _ hlookup
    have hsame : some other = some ext := by
      rw [← hfound, ← howner, (other.consumers_owned entry hentry).1]
      exact hlookup.symm
    cases hsame
    rw [hdefined]
    exact ⟨beq_iff_eq.mp hactive, ⟨entry, hentry, howner, hcontract, hsatisfied⟩, rfl, hselected⟩
  · rintro ⟨hactive, ⟨entry, hentry, howner, hcontract, hsatisfied⟩, hdefined, hselected⟩
    rw [hdefined] at hselected
    refine ⟨entry, List.mem_flatMap.mpr ⟨ext, ?_, hentry⟩, howner, hcontract, hsatisfied,
      hdefined, hselected⟩
    exact List.mem_filter.mpr
      ⟨mem_extensionsIn.mpr ⟨⟨_, hfound⟩, rfl⟩, beq_iff_eq.mpr hactive⟩

omit hagree in
/-- The provider of a platform call is the one provider that the engine resolves. -/
theorem Consistent.platformProvider_eq {scopeId : RuntimeScopeId} {definition : ContractDefinition}
    (hdefinition : (engine.platformDefinitionsIn scopeId).lookup contract = some definition)
    (hservice : definition.protocol = .service) :
    engine.services.resolvePlatformProvider engine.secrets scopeId none contract =
      (engine.resolveActiveContractProvidersInScope scopeId contract).mapError
          (fun _ => .unavailable) >>= fun providers =>
        ServiceRuntimeState.exactlyOne providers >>= engine.services.locate := by
  have hvalues : engine.services.instances.values.Perm
      (engine.extensions.values.map fun ext => ext.serviceInstance) := by
    have hpairs := h.pairs_perm.map Prod.snd
    rw [List.map_map] at hpairs
    unfold Dict.pairs at hpairs
    rw [List.map_map] at hpairs
    exact hpairs
  have hproviders : ((engine.services.instances.values.filter fun inst =>
        inst.isActive && inst.scopeId == scopeId && (none : Option ExtensionId).all fun expected =>
          inst.extensionId == expected).flatMap fun inst => inst.providers).Perm
      (((engine.extensionsIn scopeId).filter fun ext => ext.state == .active).flatMap fun ext =>
        ext.contractProviders) := by
    refine ((hvalues.filter _).flatMap_right _).trans (List.Perm.of_eq ?_)
    rw [List.filter_map, List.flatMap_map, Engine.extensionsIn, List.filter_filter]
    refine congrArg (fun exts => List.flatMap _ exts) (List.filter_congr fun ext _ => ?_)
    simp [ManagedExtension.serviceInstance]
  have hresolve := resolveContractProviders_perm engine.secrets hproviders contract
    definition.resolution ((engine.preferencesIn scopeId).lookup contract)
  unfold ServiceRuntimeState.resolvePlatformProvider Engine.resolveActiveContractProvidersInScope
  rw [h.platformDefinitionsOf, hdefinition]
  dsimp only [orError, Option.or]
  rw [← hresolve, ← h.preferencesOf]
  have hensured : ensure (definition.protocol == .service) .notServiceContract = .ok () := by
    rw [hservice]
    rfl
  change (ensure (definition.protocol == .service) .notServiceContract >>= _) = _
  rw [hensured]
  rfl

end Routing

/-! ## Every engine that is reached -/

/-- Both copies are equal, and both resolvers select the same providers. -/
structure EngineServicesAgree (engine : Engine) : Prop where
  active : ∀ owner : ComponentRef,
    (∃ inst, engine.services.instances.lookup owner.instanceId = some inst ∧
        inst.isActive = true ∧ (inst.components.lookup owner.componentId).isSome = true) ↔
      ∃ ext, engine.extensions.lookup owner.instanceId = some ext ∧ ext.state = .active ∧
        owner.componentId ∈ ext.components.map fun component => component.id
  platform : engine.services.platformDefinitions = engine.platformContractDefinitions
  preferred : Dict.SameNested engine.services.preferredProviders engine.preferredContractProviders
  binding : ∀ (caller : ComponentRef) (contract : ContractKey) (allowInactiveCaller : Bool)
      (ext : ManagedExtension) (binding : ResolvedServiceBinding),
    engine.extensions.lookup caller.instanceId = some ext →
    (allowInactiveCaller = true → ActiveIn engine.instances caller.instanceId) →
    (engine.services.resolveBindingUncached engine.secrets caller contract allowInactiveCaller =
        .ok binding ↔
      ext.state = .active ∧
        (∃ entry ∈ ext.contractConsumers, entry.owner = caller ∧
          entry.consumer.contract = contract ∧
          requirementsSatisfied engine.secrets caller entry.consumer.requiredGrants = true) ∧
        definedTermsOf (definitionsFor engine ext.scopeId fun ext => ext.state == .active)
          contract = some (binding.resolution, .service) ∧
        engine.resolveActiveContractProvidersInScope ext.scopeId contract =
          .ok binding.providers)
  platformProvider : ∀ (scopeId : RuntimeScopeId) (contract : ContractKey)
      (definition : ContractDefinition),
    (engine.platformDefinitionsIn scopeId).lookup contract = some definition →
    definition.protocol = .service →
    engine.services.resolvePlatformProvider engine.secrets scopeId none contract =
      (engine.resolveActiveContractProvidersInScope scopeId contract).mapError
          (fun _ => .unavailable) >>= fun providers =>
        ServiceRuntimeState.exactlyOne providers >>= engine.services.locate

/-- After every operation, whether it succeeded or failed, the engine and the service runtime
agree. -/
theorem engine_services_agree {engine : Engine} (h : engineSystem.Reachable engine) :
    EngineServicesAgree engine := by
  have hconsistent := consistent_of_reachable h
  have hagree := definitionsAgree_of_reachable h
  constructor
  · exact hconsistent.active_iff
  · exact hconsistent.platform
  · exact hconsistent.preferred
  · intro caller contract allowInactiveCaller ext binding hfound hcaller
    exact hconsistent.binding_iff hagree hfound hcaller
  · intro scopeId contract definition hdefinition hservice
    exact hconsistent.platformProvider_eq hdefinition hservice

/-- Two instances that were started, with a preference for the second one. -/
theorem engine_services_agree_echo :
    EngineServicesAgree (Engine.new.runAll (echoOps ++
      [.startExtensionInstance ⟨"first"⟩ .quiet,
        .startExtensionInstance ⟨"second"⟩ .quiet,
        .setPreferredContractProviderInScope ⟨"default"⟩ ⟨⟨"echo"⟩, 1⟩
          ⟨⟨"second"⟩, ⟨"main"⟩⟩])).1 :=
  engine_services_agree ⟨.new, _, rfl, Engine.run_runAll .new _⟩

end Rintawa.ExtensionEngine
