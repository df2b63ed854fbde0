/-
# The order of instances

The instances are kept in maps without an order, one in the engine and one in the service
runtime. Compositions, activation plans, active providers and service bindings come out the
same, in whatever order the maps give their instances.
-/

import Rintawa.ExtensionEngine.DefinitionAgreement

namespace Rintawa.ExtensionEngine

open Rintawa.Lib Rintawa.Sdk

/-! ## Maps and lists -/

/-- Values that name their keys are found by them. -/
theorem find?_values {K V : Type} [DecidableEq K] {entries : Dict K V} (key : V → K)
    (hkeyed : ∀ k value, entries.lookup k = some value → key value = k) (k : K) :
    (entries.values.find? fun value => key value == k) = entries.lookup k := by
  cases hfound : entries.values.find? fun value => key value == k with
  | none =>
      cases hlookup : entries.lookup k with
      | none => rfl
      | some value =>
          have htest := List.find?_eq_none.mp hfound value
            (Dict.mem_values_iff.mpr ⟨k, hlookup⟩)
          simp [hkeyed k value hlookup] at htest
  | some value =>
      obtain ⟨k', hlookup⟩ := Dict.mem_values_iff.mp (List.mem_of_find?_eq_some hfound)
      have htest := List.find?_some hfound
      simp only [beq_iff_eq] at htest
      rw [← htest, hkeyed k' value hlookup, hlookup]

/-- Consumers of different instances, each with its own contracts. -/
theorem nodup_consumers {α : Type} (instanceOf : α → ExtensionInstanceId) {entries : List α}
    {consumers : α → List OwnedContractConsumer} (hnodup : (entries.map instanceOf).Nodup)
    (howned : ∀ entry ∈ entries, ∀ owned ∈ consumers entry,
      owned.owner.instanceId = instanceOf entry)
    (hdistinct : ∀ entry ∈ entries, ((consumers entry).map fun owned =>
      (owned.owner, owned.consumer.contract)).Nodup) :
    ((entries.flatMap consumers).map fun owned =>
      (owned.owner, owned.consumer.contract)).Nodup := by
  induction entries with
  | nil => exact .nil
  | cons entry rest ih =>
      rw [List.map_cons, List.nodup_cons] at hnodup
      rw [List.flatMap_cons, List.map_append, List.nodup_append]
      refine ⟨hdistinct entry List.mem_cons_self,
        ih hnodup.2 (fun other hother => howned other (List.mem_cons_of_mem entry hother))
          (fun other hother => hdistinct other (List.mem_cons_of_mem entry hother)), ?_⟩
      intro key hkey other hother heq
      obtain ⟨owned, hmem, rfl⟩ := List.mem_map.mp hkey
      obtain ⟨owned', hmem', rfl⟩ := List.mem_map.mp hother
      obtain ⟨entry', hentry', hmem'⟩ := List.mem_flatMap.mp hmem'
      refine hnodup.1 ?_
      rw [← howned entry List.mem_cons_self owned hmem, (Prod.mk.inj heq).1,
        howned entry' (List.mem_cons_of_mem entry hentry') owned' hmem']
      exact List.mem_map_of_mem hentry'

/-! ## The engine -/

/-- The same engine with its instances in another order. -/
structure Reordered (engine engine' : Engine) : Prop where
  extensions : engine.extensions.entries.Perm engine'.extensions.entries
  secrets : engine'.secrets = engine.secrets
  preferred : engine'.preferredContractProviders = engine.preferredContractProviders
  platform : engine'.platformContractDefinitions = engine.platformContractDefinitions

section Engines

variable {engine engine' : Engine} (hconsistent : Consistent engine)
  (hagree : DefinitionsAgree engine)

include hconsistent in
/-- Different values of the map of instances are different instances. -/
theorem Consistent.values_nodup :
    (engine.extensions.values.map fun ext => ext.instanceId).Nodup := by
  have hkeys : (engine.extensions.values.map fun ext => ext.instanceId) =
      engine.extensions.entries.map Sigma.fst := by
    unfold Dict.values
    rw [List.map_map]
    refine List.map_congr_left fun entry hentry => ?_
    exact hconsistent.keyed entry.1 entry.2
      (Dict.mem_pairs_iff.mp (List.mem_map_of_mem hentry))
  rw [hkeys]
  exact engine.extensions.nodupKeys

include hconsistent in
/-- The consumers of some instances of a scope are different. -/
theorem Consistent.consumers_nodup (scopeId : RuntimeScopeId)
    (included : ManagedExtension → Bool) :
    ((((engine.extensionsIn scopeId).filter included).flatMap fun ext =>
      ext.contractConsumers).map fun owned => (owned.owner, owned.consumer.contract)).Nodup := by
  refine nodup_consumers (fun ext => ext.instanceId) ?_
    (fun ext _ owned howned => (ext.consumers_owned owned howned).1)
    fun ext _ => ext.consumers_nodup
  exact hconsistent.values_nodup.sublist ((List.filter_sublist.trans List.filter_sublist).map _)

/-- The definitions that a composition of a scope is resolved from. -/
def definitionsFor (engine : Engine) (scopeId : RuntimeScopeId)
    (included : ManagedExtension → Bool) : List ContractDefinition :=
  (engine.platformDefinitionsIn scopeId).values ++
    ((engine.extensionsIn scopeId).filter included).flatMap fun ext =>
      ext.contractDefinitions.map fun owned => owned.definition

theorem mem_definitionsFor {scopeId : RuntimeScopeId} {included : ManagedExtension → Bool}
    {definition : ContractDefinition}
    (h : definition ∈ definitionsFor engine scopeId included) :
    (∃ contract, (engine.platformDefinitionsIn scopeId).lookup contract = some definition) ∨
      Defines engine scopeId definition := by
  rcases List.mem_append.mp h with hplatform | hdefines
  · exact .inl (Dict.mem_values_iff.mp hplatform)
  · obtain ⟨ext, hext, hmem⟩ := List.mem_flatMap.mp hdefines
    obtain ⟨owned, howned, rfl⟩ := List.mem_map.mp hmem
    refine .inr (defines_iff.mpr ⟨owned, List.mem_flatMap.mpr ⟨ext, ?_, howned⟩, rfl⟩)
    exact (List.mem_filter.mp hext).1

include hagree in
/-- They agree on their terms. -/
theorem DefinitionsAgree.agreeOnTerms (scopeId : RuntimeScopeId)
    (included : ManagedExtension → Bool) :
    AgreeOnTerms (definitionsFor engine scopeId included) := by
  intro definition hdefinition other hother hcontract
  rcases mem_definitionsFor hdefinition with ⟨contract, hlookup⟩ | hdefines
  · obtain rfl := hagree.platform scopeId contract definition hlookup
    rcases mem_definitionsFor hother with ⟨contract', hlookup'⟩ | hdefines'
    · obtain rfl := hagree.platform scopeId contract' other hlookup'
      rw [hcontract, hlookup'] at hlookup
      cases hlookup
      exact ⟨rfl, rfl⟩
    · rw [hcontract, hagree.reserved scopeId other hdefines'] at hlookup
      cases hlookup
  · rcases mem_definitionsFor hother with ⟨contract', hlookup'⟩ | hdefines'
    · obtain rfl := hagree.platform scopeId contract' other hlookup'
      rw [← hcontract, hagree.reserved scopeId definition hdefines] at hlookup'
      cases hlookup'
    · exact Prod.mk.inj (hagree.terms scopeId definition other hdefines hdefines' hcontract)

variable (hreordered : Reordered engine engine')
include hreordered

theorem Reordered.lookup (instanceId : ExtensionInstanceId) :
    engine'.extensions.lookup instanceId = engine.extensions.lookup instanceId :=
  (AList.perm_lookup hreordered.extensions).symm

theorem Reordered.platformDefinitionsIn (scopeId : RuntimeScopeId) :
    engine'.platformDefinitionsIn scopeId = engine.platformDefinitionsIn scopeId := by
  unfold Engine.platformDefinitionsIn
  rw [hreordered.platform]

theorem Reordered.preferencesIn (scopeId : RuntimeScopeId) :
    engine'.preferencesIn scopeId = engine.preferencesIn scopeId := by
  unfold Engine.preferencesIn
  rw [hreordered.preferred]

theorem Reordered.extensionsIn (scopeId : RuntimeScopeId) :
    (engine.extensionsIn scopeId).Perm (engine'.extensionsIn scopeId) :=
  (hreordered.extensions.map _).filter _

theorem Reordered.parts (scopeId : RuntimeScopeId) (included : ManagedExtension → Bool) :
    ((engine.extensionsIn scopeId).filter included).Perm
      ((engine'.extensionsIn scopeId).filter included) :=
  (hreordered.extensionsIn scopeId).filter _

include hagree in
/-- The terms of a contract are found in both orders. -/
theorem Reordered.definedTermsOf (scopeId : RuntimeScopeId) (included : ManagedExtension → Bool)
    (contract : ContractKey) :
    definedTermsOf (definitionsFor engine scopeId included) contract =
      definedTermsOf (definitionsFor engine' scopeId included) contract := by
  refine definedTermsOf_congr (hagree.agreeOnTerms scopeId included) ?_ contract
  intro definition
  unfold definitionsFor
  rw [hreordered.platformDefinitionsIn]
  exact (((hreordered.parts scopeId included).flatMap_right _).append_left _).mem_iff

include hconsistent hagree in
/-- The composition of a scope comes out the same. -/
theorem Reordered.composition (scopeId : RuntimeScopeId) (included : ManagedExtension → Bool) :
    engine'.resolveCompositionForScope scopeId included =
      engine.resolveCompositionForScope scopeId included := by
  have hparts := hreordered.parts scopeId included
  unfold Engine.resolveCompositionForScope
  dsimp only
  rw [hreordered.secrets, hreordered.preferencesIn]
  exact (resolveContracts_perm engine.secrets (engine.preferencesIn scopeId)
    (hreordered.definedTermsOf hagree scopeId included) (hparts.flatMap_right _)
    (hparts.flatMap_right _) (hconsistent.consumers_nodup scopeId included)).symm

/-- The component that defines a contract comes out the same. -/
theorem Reordered.definitionOwner (scopeId : RuntimeScopeId) (contract : ContractKey)
    (included : ManagedExtension → Bool) :
    Engine.definitionOwnerAmong contract ((engine'.extensionsIn scopeId).filter included) =
      Engine.definitionOwnerAmong contract ((engine.extensionsIn scopeId).filter included) := by
  unfold Engine.definitionOwnerAmong
  rw [insertionSort_perm componentRefLe
    ((((hreordered.parts scopeId included).flatMap_right _).filter _).map _)]

theorem Reordered.scopesOf (seen : List RuntimeScopeId) (instances : List ExtensionInstanceId) :
    engine'.scopesOf seen instances = engine.scopesOf seen instances := by
  have hinstance : ∀ instanceId, engine'.instanceOf instanceId = engine.instanceOf instanceId := by
    intro instanceId
    unfold Engine.instanceOf
    rw [hreordered.lookup]
  induction instances generalizing seen with
  | nil => rfl
  | cons instanceId rest ih => simp only [Engine.scopesOf, hinstance, ih]

include hconsistent hagree in
/-- Activation plans come out the same. -/
theorem Reordered.plan (instances : List ExtensionInstanceId) :
    engine'.planExtensionActivation instances = engine.planExtensionActivation instances := by
  have hdependencies : ∀ scopeId eligible resolved,
      engine'.definitionDependencies scopeId eligible resolved =
        engine.definitionDependencies scopeId eligible resolved := by
    intro scopeId eligible resolved
    unfold Engine.definitionDependencies
    simp only [hreordered.platformDefinitionsIn, hreordered.definitionOwner]
  unfold Engine.planExtensionActivation
  simp only [hreordered.scopesOf, hreordered.composition hconsistent hagree, hdependencies]

omit hreordered in
include hagree in
/-- The active providers of a contract, by the terms of its definitions. -/
theorem DefinitionsAgree.resolveActive (scopeId : RuntimeScopeId) (contract : ContractKey) :
    engine.resolveActiveContractProvidersInScope scopeId contract =
      match definedTermsOf (definitionsFor engine scopeId fun ext => ext.state == .active)
          contract with
      | none => .error .undefinedContract
      | some terms => resolveContractProviders engine.secrets contract terms.1
          (((engine.extensionsIn scopeId).filter fun ext => ext.state == .active).flatMap fun ext =>
            ext.contractProviders) ((engine.preferencesIn scopeId).lookup contract) := by
  have hplatform := find?_values (fun definition : ContractDefinition => definition.contract)
    (hagree.platform scopeId) contract
  have hdefinition : definitionOf (definitionsFor engine scopeId fun ext => ext.state == .active)
        contract =
      ((engine.platformDefinitionsIn scopeId).lookup contract).or
        (((((engine.extensionsIn scopeId).filter fun ext => ext.state == .active).flatMap fun ext =>
          ext.contractDefinitions).find? fun owned =>
            owned.definition.contract == contract).map fun owned => owned.definition) := by
    unfold definitionOf definitionsFor
    rw [List.find?_append, hplatform, ← List.map_flatMap, List.find?_map]
    rfl
  unfold Engine.resolveActiveContractProvidersInScope definedTermsOf
  dsimp only
  rw [hdefinition]
  split
  · next hnone => rw [hnone]; rfl
  · next definition hsome => rw [hsome]; rfl

include hagree in
/-- The definitions agree in both orders. -/
theorem Reordered.agree : DefinitionsAgree engine' := by
  refine hagree.mono ?_ hreordered.platform
  rintro scopeId definition ⟨instanceId, ext, owned, hlookup, hrest⟩
  rw [hreordered.lookup] at hlookup
  exact ⟨instanceId, ext, owned, hlookup, hrest⟩

include hagree in
/-- The active providers of a contract come out the same. -/
theorem Reordered.activeProviders (scopeId : RuntimeScopeId) (contract : ContractKey) :
    engine'.resolveActiveContractProvidersInScope scopeId contract =
      engine.resolveActiveContractProvidersInScope scopeId contract := by
  have hproviders := (hreordered.parts scopeId fun ext => ext.state == .active).flatMap_right
    fun ext => ext.contractProviders
  rw [hagree.resolveActive, (hreordered.agree hagree).resolveActive, hreordered.secrets,
    hreordered.preferencesIn, hreordered.definedTermsOf hagree]
  split
  · rfl
  · exact (resolveContractProviders_perm engine.secrets hproviders _ _ _).symm

end Engines

/-! ## The service runtime -/

/-- The binding of a caller, from what is found in its scope. -/
def bindingFrom (secrets : SecretManager) (preferred : Dict ContractKey ComponentRef)
    (caller : ComponentRef) (contract : ContractKey) (definitions : List ContractDefinition)
    (providers : List OwnedContractProvider) (consumers : List OwnedContractConsumer) :
    ServiceCallResult ResolvedServiceBinding := do
  ensure (consumers.any fun entry => entry.owner == caller && entry.consumer.contract == contract)
    .notConsumer
  let definition ← orError (definitionOf definitions contract) .unavailable
  ensure (definition.protocol == .service) .notServiceContract
  let snapshot := resolveContracts secrets definitions providers preferred consumers
  let binding ← orError
    (snapshot.bindings.find? fun entry => entry.consumer == caller && entry.contract == contract)
    .unavailable
  return ⟨definition.resolution, binding.providers⟩

/-- Bindings are resolved from the parts that instances take. -/
theorem resolveBindingUncached_eq (services : ServiceRuntimeState) (secrets : SecretManager)
    (caller : ComponentRef) (contract : ContractKey) (allowInactiveCaller : Bool) :
    services.resolveBindingUncached secrets caller contract allowInactiveCaller =
      (orError (services.instances.lookup caller.instanceId) .unavailable >>= fun inst =>
        let parts := services.participants caller inst.scopeId allowInactiveCaller
        bindingFrom secrets (services.preferencesOf inst.scopeId) caller contract
          ((services.platformDefinitionsOf inst.scopeId).values ++
            parts.flatMap fun part => part.definitions)
          (parts.flatMap fun part => part.providers)
          (parts.flatMap fun part => part.consumers)) :=
  rfl

/-- The binding of a caller does not depend on the order of what is found. -/
theorem bindingFrom_perm (secrets : SecretManager) (preferred : Dict ContractKey ComponentRef)
    (caller : ComponentRef) (contract : ContractKey)
    {definitions definitions' : List ContractDefinition}
    {providers providers' : List OwnedContractProvider}
    {consumers consumers' : List OwnedContractConsumer}
    (hterms : ∀ contract, definedTermsOf definitions contract =
      definedTermsOf definitions' contract)
    (hproviders : providers.Perm providers') (hconsumers : consumers.Perm consumers')
    (hnodup : (consumers.map fun owned => (owned.owner, owned.consumer.contract)).Nodup) :
    bindingFrom secrets preferred caller contract definitions providers consumers =
      bindingFrom secrets preferred caller contract definitions' providers' consumers' := by
  have hsnapshot := resolveContracts_perm secrets preferred hterms hproviders hconsumers hnodup
  have hany : (consumers.any fun entry =>
        entry.owner == caller && entry.consumer.contract == contract) =
      consumers'.any fun entry => entry.owner == caller && entry.consumer.contract == contract := by
    rw [Bool.eq_iff_iff, List.any_eq_true, List.any_eq_true]
    simp only [hconsumers.mem_iff]
  have hdefined := hterms contract
  unfold definedTermsOf at hdefined
  unfold bindingFrom
  rw [hany, hsnapshot]
  cases hfirst : definitionOf definitions contract with
  | none =>
      rw [hfirst] at hdefined
      cases hfirst' : definitionOf definitions' contract with
      | none => rfl
      | some definition' =>
          rw [hfirst'] at hdefined
          cases hdefined
  | some definition =>
      rw [hfirst] at hdefined
      cases hfirst' : definitionOf definitions' contract with
      | none =>
          rw [hfirst'] at hdefined
          cases hdefined
      | some definition' =>
          rw [hfirst'] at hdefined
          obtain ⟨hresolution, hprotocol⟩ := Prod.mk.inj (Option.some.inj hdefined)
          simp only [orError, bind, Except.bind, hresolution, hprotocol]

/-- The same service runtime with its instances in another order. -/
structure ServicesReordered (services services' : ServiceRuntimeState) : Prop where
  instances : services.instances.entries.Perm services'.instances.entries
  platform : services'.platformDefinitions = services.platformDefinitions
  preferred : services'.preferredProviders = services.preferredProviders

section Services

variable {engine : Engine} (hconsistent : Consistent engine) (hagree : DefinitionsAgree engine)
include hconsistent

/-- The entries of the service runtime are those of the engine. -/
theorem Consistent.serviceEntry {instanceId : ExtensionInstanceId}
    {inst : ServiceExtensionInstance}
    (hlookup : engine.services.instances.lookup instanceId = some inst) :
    ∃ ext, engine.extensions.lookup instanceId = some ext ∧ ext.instanceId = instanceId ∧
      inst = ext.serviceInstance := by
  rw [hconsistent.mirrors.services instanceId, Option.map_eq_some_iff] at hlookup
  obtain ⟨ext, hfound, rfl⟩ := hlookup
  exact ⟨ext, hfound, hconsistent.keyed _ _ hfound, rfl⟩

/-- The definitions that a caller sees are those of the platform and of instances of its
scope. -/
theorem Consistent.mem_participants {caller : ComponentRef} {scopeId : RuntimeScopeId}
    {allowInactiveCaller : Bool} {definition : ContractDefinition}
    (hmem : definition ∈ (engine.services.participants caller scopeId
      allowInactiveCaller).flatMap fun part => part.definitions) :
    Defines engine scopeId definition := by
  obtain ⟨part, hpart, hdefinition⟩ := List.mem_flatMap.mp hmem
  obtain ⟨entry, hentry, rfl⟩ := List.mem_map.mp hpart
  obtain ⟨hpair, hscope⟩ := List.mem_filter.mp hentry
  obtain ⟨ext, hfound, -, hinst⟩ := hconsistent.serviceEntry (Dict.mem_pairs_iff.mp hpair)
  have hdefines : definition ∈ ext.contractDefinitions.map fun owned => owned.definition := by
    rw [hinst] at hdefinition
    unfold ServiceRuntimeState.participation at hdefinition
    split at hdefinition
    · exact hdefinition
    · split at hdefinition
      · exact hdefinition
      · cases hdefinition
  obtain ⟨owned, howned, rfl⟩ := List.mem_map.mp hdefines
  refine ⟨entry.1, ext, owned, hfound, ?_, howned, rfl⟩
  rw [hinst] at hscope
  exact beq_iff_eq.mp hscope

include hagree in
/-- What a caller sees agrees on the terms of contracts, as it is among the definitions of all
instances of the scope. -/
theorem Consistent.participants_agree (caller : ComponentRef) (scopeId : RuntimeScopeId)
    (allowInactiveCaller : Bool) :
    AgreeOnTerms ((engine.services.platformDefinitionsOf scopeId).values ++
      (engine.services.participants caller scopeId allowInactiveCaller).flatMap fun part =>
        part.definitions) := by
  have hplatform : engine.services.platformDefinitionsOf scopeId =
      engine.platformDefinitionsIn scopeId := by
    unfold ServiceRuntimeState.platformDefinitionsOf Engine.platformDefinitionsIn
    rw [hconsistent.platform]
  have hamong : ∀ definition, definition ∈
      (engine.services.platformDefinitionsOf scopeId).values ++
        (engine.services.participants caller scopeId allowInactiveCaller).flatMap (fun part =>
          part.definitions) → definition ∈ definitionsFor engine scopeId fun _ => true := by
    intro definition hmem
    rcases List.mem_append.mp hmem with hvalue | hpart
    · rw [hplatform] at hvalue
      exact List.mem_append_left _ hvalue
    · obtain ⟨owned, howned, rfl⟩ := defines_iff.mp (hconsistent.mem_participants hpart)
      obtain ⟨ext, hext, hmem⟩ := List.mem_flatMap.mp howned
      refine List.mem_append_right _ (List.mem_flatMap.mpr ⟨ext, ?_, List.mem_map_of_mem hmem⟩)
      exact List.mem_filter.mpr ⟨hext, rfl⟩
  intro definition hdefinition other hother
  exact hagree.agreeOnTerms scopeId (fun _ => true) definition (hamong definition hdefinition)
    other (hamong other hother)

/-- The consumers that a caller sees are different. -/
theorem Consistent.participants_nodup (caller : ComponentRef) (scopeId : RuntimeScopeId)
    (allowInactiveCaller : Bool) :
    (((engine.services.participants caller scopeId allowInactiveCaller).flatMap fun part =>
      part.consumers).map fun owned => (owned.owner, owned.consumer.contract)).Nodup := by
  unfold ServiceRuntimeState.participants
  rw [List.flatMap_map]
  have hkeys : (engine.services.instances.pairs.map Prod.fst).Nodup := by
    unfold Dict.pairs
    rw [List.map_map]
    exact engine.services.instances.nodupKeys
  refine nodup_consumers Prod.fst (hkeys.sublist (List.filter_sublist.map _)) ?_ ?_
  · intro entry hentry owned howned
    obtain ⟨ext, -, hid, hinst⟩ :=
      hconsistent.serviceEntry (Dict.mem_pairs_iff.mp (List.mem_filter.mp hentry).1)
    have hmem : owned ∈ ext.contractConsumers := by
      rw [hinst] at howned
      unfold ServiceRuntimeState.participation at howned
      split at howned
      · exact howned
      · split at howned
        · exact (List.mem_filter.mp howned).1
        · cases howned
    rw [(ext.consumers_owned owned hmem).1, hid]
  · intro entry hentry
    obtain ⟨ext, -, -, hinst⟩ :=
      hconsistent.serviceEntry (Dict.mem_pairs_iff.mp (List.mem_filter.mp hentry).1)
    rw [hinst]
    unfold ServiceRuntimeState.participation
    split
    · exact ext.consumers_nodup
    · split
      · exact ext.consumers_nodup.sublist (List.filter_sublist.map _)
      · exact .nil

variable {services' : ServiceRuntimeState}
  (hreordered : ServicesReordered engine.services services')
include hagree hreordered

/-- Service bindings come out the same. -/
theorem ServicesReordered.binding (secrets : SecretManager) (caller : ComponentRef)
    (contract : ContractKey) (allowInactiveCaller : Bool) :
    services'.resolveBindingUncached secrets caller contract allowInactiveCaller =
      engine.services.resolveBindingUncached secrets caller contract allowInactiveCaller := by
  have hparts : ∀ scopeId, (engine.services.participants caller scopeId
      allowInactiveCaller).Perm (services'.participants caller scopeId allowInactiveCaller) :=
    fun scopeId => ((hreordered.instances.map _).filter _).map _
  have hplatform : ∀ scopeId, services'.platformDefinitionsOf scopeId =
      engine.services.platformDefinitionsOf scopeId := by
    intro scopeId
    unfold ServiceRuntimeState.platformDefinitionsOf
    rw [hreordered.platform]
  have hpreferred : ∀ scopeId, services'.preferencesOf scopeId =
      engine.services.preferencesOf scopeId := by
    intro scopeId
    unfold ServiceRuntimeState.preferencesOf
    rw [hreordered.preferred]
  rw [resolveBindingUncached_eq, resolveBindingUncached_eq,
    ← AList.perm_lookup hreordered.instances]
  refine bind_congr fun inst => ?_
  dsimp only
  rw [hplatform, hpreferred]
  refine (bindingFrom_perm secrets _ caller contract ?_ ((hparts inst.scopeId).flatMap_right _)
    ((hparts inst.scopeId).flatMap_right _)
    (hconsistent.participants_nodup caller inst.scopeId allowInactiveCaller)).symm
  intro other
  refine definedTermsOf_congr (hconsistent.participants_agree hagree caller inst.scopeId
    allowInactiveCaller) ?_ other
  intro definition
  exact (((hparts inst.scopeId).flatMap_right _).append_left _).mem_iff

omit hagree hconsistent in
/-- Providers that the platform calls come out the same. -/
theorem ServicesReordered.platformProvider (secrets : SecretManager) (scopeId : RuntimeScopeId)
    (providerExtensionId : Option ExtensionId) (contract : ContractKey) :
    services'.resolvePlatformProvider secrets scopeId providerExtensionId contract =
      engine.services.resolvePlatformProvider secrets scopeId providerExtensionId contract := by
  have hlookup : ∀ instanceId, services'.instances.lookup instanceId =
      engine.services.instances.lookup instanceId :=
    fun instanceId => (AList.perm_lookup hreordered.instances).symm
  have hlocate : services'.locate = engine.services.locate := by
    funext provider
    unfold ServiceRuntimeState.locate ServiceRuntimeState.component
      ServiceRuntimeState.componentIdentity
    rw [hlookup]
  have hcandidates := ((hreordered.instances.map fun entry => entry.2).filter fun inst =>
    inst.isActive && inst.scopeId == scopeId &&
      providerExtensionId.all fun expected => inst.extensionId == expected).flatMap_right
        fun inst => inst.providers
  unfold ServiceRuntimeState.resolvePlatformProvider ServiceRuntimeState.platformDefinitionsOf
    ServiceRuntimeState.preferencesOf
  rw [hreordered.platform, hreordered.preferred, hlocate]
  refine bind_congr fun definition => bind_congr fun _ => ?_
  have hresolve := resolveContractProviders_perm secrets hcandidates contract
    definition.resolution (((engine.services.preferredProviders.lookup scopeId).getD ∅).lookup
      contract)
  unfold Dict.values
  dsimp only
  rw [hresolve]

end Services

/-! ## Every order -/

/-- Nothing that the engine or the service runtime resolves depends on the order in which
their maps give the instances. -/
structure OrderIndependent (engine : Engine) : Prop where
  composition : ∀ engine', Reordered engine engine' → ∀ scopeId included,
    engine'.resolveCompositionForScope scopeId included =
      engine.resolveCompositionForScope scopeId included
  activeProviders : ∀ engine', Reordered engine engine' → ∀ scopeId contract,
    engine'.resolveActiveContractProvidersInScope scopeId contract =
      engine.resolveActiveContractProvidersInScope scopeId contract
  plan : ∀ engine', Reordered engine engine' → ∀ instances,
    engine'.planExtensionActivation instances = engine.planExtensionActivation instances
  binding : ∀ services', ServicesReordered engine.services services' →
    ∀ secrets caller contract allowInactiveCaller,
      services'.resolveBindingUncached secrets caller contract allowInactiveCaller =
        engine.services.resolveBindingUncached secrets caller contract allowInactiveCaller
  platformProvider : ∀ services', ServicesReordered engine.services services' →
    ∀ secrets scopeId providerExtensionId contract,
      services'.resolvePlatformProvider secrets scopeId providerExtensionId contract =
        engine.services.resolvePlatformProvider secrets scopeId providerExtensionId contract

/-- In every engine that is reached the definitions of contracts agree, and so nothing
depends on the order of the instances. -/
theorem resolution_order_independent {engine : Engine} (h : engineSystem.Reachable engine) :
    DefinitionsAgree engine ∧ OrderIndependent engine := by
  have hconsistent := consistent_of_reachable h
  have hagree := definitionsAgree_of_reachable h
  refine ⟨hagree, ?_⟩
  constructor
  · exact fun _ hreordered => hreordered.composition hconsistent hagree
  · exact fun _ hreordered => hreordered.activeProviders hagree
  · exact fun _ hreordered => hreordered.plan hconsistent hagree
  · exact fun _ hreordered => hreordered.binding hconsistent hagree
  · exact fun _ hreordered => hreordered.platformProvider

/-- An instance that defines a contract and provides it, and one that only provides it. -/
def echoOps : List EngineOp :=
  [.registerExtensionInstance ⟨"first"⟩ ⟨"default"⟩ ⟨⟨"echo"⟩, []⟩
      [⟨⟨"main"⟩, ⟨none⟩,
        [.defineContract ⟨⟨⟨"echo"⟩, 1⟩, .multiple, .service⟩,
         .provideContract ⟨⟨⟨"echo"⟩, 1⟩, []⟩],
        none⟩],
    .registerExtensionInstance ⟨"second"⟩ ⟨"default"⟩ ⟨⟨"echo"⟩, []⟩
      [⟨⟨"main"⟩, ⟨none⟩, [.provideContract ⟨⟨⟨"echo"⟩, 1⟩, []⟩], none⟩]]

/-- Both instances are started. -/
def startedEcho : Engine :=
  (Engine.new.runAll (echoOps ++
    [.startExtensionInstance ⟨"first"⟩ .quiet, .startExtensionInstance ⟨"second"⟩ .quiet])).1

/-- The same engine with its instances in the opposite order. -/
def turnedEcho : Engine :=
  { startedEcho with
    extensions := ⟨startedEcho.extensions.entries.reverse,
      (List.perm_nodupKeys (List.reverse_perm _)).mpr startedEcho.extensions.nodupKeys⟩ }

/-- The engine gives the instances in another order and resolves the same providers. -/
theorem resolution_order_independent_echo :
    DefinitionsAgree startedEcho ∧ OrderIndependent startedEcho ∧
      turnedEcho.extensions.keys ≠ startedEcho.extensions.keys ∧
      turnedEcho.resolveActiveContractProvidersInScope ⟨"default"⟩ ⟨⟨"echo"⟩, 1⟩ =
        .ok [⟨⟨"first"⟩, ⟨"main"⟩⟩, ⟨⟨"second"⟩, ⟨"main"⟩⟩] := by
  obtain ⟨hagree, hindependent⟩ :=
    @resolution_order_independent startedEcho ⟨.new, _, rfl, Engine.run_runAll .new _⟩
  have hturned : Reordered startedEcho turnedEcho := ⟨(List.reverse_perm _).symm, rfl, rfl, rfl⟩
  refine ⟨hagree, hindependent, by decide +kernel, ?_⟩
  rw [hindependent.activeProviders turnedEcho hturned]
  decide +kernel

end Rintawa.ExtensionEngine
