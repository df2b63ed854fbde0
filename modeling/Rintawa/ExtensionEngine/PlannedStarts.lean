/-
# Planned starts

A start is planned when every required contract of the instance is bound among the active
instances and itself. The composition of these instances stays the same while the engine grows:
when instances are added, or change their states.
-/

import Rintawa.ExtensionEngine.InstanceOrder
import Rintawa.ExtensionEngine.OperationCases

namespace Rintawa.ExtensionEngine

open Rintawa.Lib Rintawa.Sdk

/-! ## Engines that grow -/

/-- Instances stay up to their states, and what their composition depends on stays too. -/
structure Grows (engine engine' : Engine) : Prop where
  beside : SameBeside engine engine'
  instances : ∀ instanceId ext, engine.extensions.lookup instanceId = some ext →
    ∃ state, engine'.extensions.lookup instanceId = some { ext with state := state }

theorem Grows.of_same {engine engine' : Engine} (hbeside : SameBeside engine engine')
    (hextensions : engine'.extensions = engine.extensions) : Grows engine engine' :=
  ⟨hbeside, fun _ ext hfound => ⟨ext.state, hextensions ▸ hfound⟩⟩

theorem Grows.trans {engine engine' engine'' : Engine} (h : Grows engine engine')
    (h' : Grows engine' engine'') : Grows engine engine'' := by
  refine ⟨h.beside.trans h'.beside, fun instanceId ext hfound => ?_⟩
  obtain ⟨state, hfound'⟩ := h.instances instanceId ext hfound
  obtain ⟨state', hfound''⟩ := h'.instances instanceId _ hfound'
  exact ⟨state', hfound''⟩

variable {ext : ManagedExtension} {instanceId : ExtensionInstanceId} {plan : ActivationPlan}

/-- A new instance makes an engine grow. -/
theorem Grows.of_fresh {engine engine' : Engine} (hbeside : SameBeside engine engine')
    (hfresh : engine.extensions.lookup instanceId = none)
    (hextensions : engine'.extensions = engine.extensions.insert instanceId ext) :
    Grows engine engine' := by
  refine ⟨hbeside, fun other otherExt hfound => ⟨otherExt.state, ?_⟩⟩
  rw [hextensions, AList.lookup_insert_ne]
  · exact hfound
  · rintro rfl
    rw [hfresh] at hfound
    cases hfound

/-- A start makes an engine grow. -/
theorem Grows.of_started {engine engine' : Engine} (hbeside : SameBeside engine engine')
    (hfound : engine.extensions.lookup instanceId = some ext) (hextensions :
      engine'.extensions = engine.extensions.insert instanceId { ext with state := .active }) :
    Grows engine engine' := by
  refine ⟨hbeside, fun other otherExt hother => ?_⟩
  rw [hextensions, Dict.lookup_insert_ite]
  split
  · next hsame =>
      rw [hsame, hfound] at hother
      cases hother
      exact ⟨.active, rfl⟩
  · exact ⟨otherExt.state, hother⟩

/-! ## Plans -/

/-- A plan orders a batch without repetitions, all of whose required contracts are bound. -/
theorem of_buildActivationPlan {snapshot : CompositionSnapshot}
    {scheduled : List ExtensionInstanceId}
    {requiredInstanceDependencies : List (ExtensionInstanceId × ExtensionInstanceId)}
    (h : buildActivationPlan snapshot scheduled requiredInstanceDependencies = .ok plan) :
    ¬ RequiredUnresolved snapshot scheduled ∧
      ProvidersFirst snapshot scheduled requiredInstanceDependencies plan.orderedInstances := by
  obtain ⟨hduplicate, hunresolved, hcycle, hplan⟩ :=
    build_activation_plan_correct snapshot scheduled requiredInstanceDependencies
  have hnot : ∀ error,
      buildActivationPlan snapshot scheduled requiredInstanceDependencies ≠ .error error := by
    intro error herror
    rw [h] at herror
    cases herror
  have hnodup : scheduled.Nodup := by
    by_contra hrepeated
    obtain ⟨instanceId, herror⟩ := hduplicate.mpr hrepeated
    exact hnot _ herror
  have hbound : ¬ RequiredUnresolved snapshot scheduled := by
    intro hmissing
    obtain ⟨_, _, _, _, herror⟩ := (hunresolved hnodup).mpr hmissing
    exact hnot _ herror
  have hacyclic : ¬ HasCycle snapshot scheduled requiredInstanceDependencies := by
    intro hcyclic
    obtain ⟨_, herror⟩ := (hcycle hnodup hbound).mpr hcyclic
    exact hnot _ herror
  obtain ⟨plan', hplan', hfirst, -⟩ := hplan hnodup hbound hacyclic
  rw [h] at hplan'
  cases hplan'
  exact ⟨hbound, hfirst⟩

theorem of_planExtensionActivation {engine : Engine} {instances : List ExtensionInstanceId}
    (h : engine.planExtensionActivation instances = .ok plan) :
    plan.orderedInstances.Perm instances := by
  unfold Engine.planExtensionActivation at h
  split at h
  · cases h
  · dsimp only at h
    exact (of_buildActivationPlan (eq_ok_of_mapError h)).2.perm

/-- The plan of one instance is made when its required contracts are bound. -/
theorem bound_of_planned {engine : Engine} (hfound : engine.extensions.lookup instanceId = some ext)
    (h : engine.planExtensionActivation [instanceId] = .ok plan) :
    ¬ RequiredUnresolved (engine.resolveCompositionForScope ext.scopeId fun other =>
      other.state == .active || [instanceId].contains other.instanceId) [instanceId] := by
  have hscopes : engine.scopesOf [] [instanceId] = .ok [ext.scopeId] := by
    rw [Engine.scopesOf, Engine.instanceOf, hfound]
    dsimp only
    rw [if_neg List.not_mem_nil, Engine.scopesOf]
  unfold Engine.planExtensionActivation at h
  rw [hscopes] at h
  dsimp only at h
  have hbound := (of_buildActivationPlan (eq_ok_of_mapError h)).1
  intro hmissing
  refine hbound ?_
  obtain ⟨entry, hentry, hrest⟩ := hmissing
  refine ⟨entry, ?_, hrest⟩
  simpa using hentry

/-! ## Bound consumers -/

/-- A consumer is bound in the composition of some instances, to providers among these. -/
structure BoundAmong (engine : Engine) (scopeId : RuntimeScopeId)
    (included : ManagedExtension → Bool) (owned : OwnedContractConsumer)
    (binding : ContractBinding) : Prop where
  resolved : binding ∈ (engine.resolveCompositionForScope scopeId included).bindings
  consumer : binding.consumer = owned.owner
  contract : binding.contract = owned.consumer.contract
  required : binding.required = owned.consumer.required
  provided : binding.providers ≠ []
  included : ∀ provider ∈ binding.providers, ∃ ext,
    engine.extensions.lookup provider.instanceId = some ext ∧ included ext = true

/-- What is selected is not empty. -/
theorem resolveContractProviders_ne_nil {secrets : SecretManager} {contract : ContractKey}
    {resolution : ContractResolutionPolicy} {providers : List OwnedContractProvider}
    {preferred : Option ComponentRef} {selected : List ComponentRef}
    (h : resolveContractProviders secrets contract resolution providers preferred =
      .ok selected) : selected ≠ [] := by
  have hranked : ∀ ranked, selectRanked resolution ranked = .ok selected → selected ≠ [] := by
    intro ranked hselect
    cases ranked with
    | nil => cases hselect
    | cons first rest =>
        cases resolution <;> cases hselect <;> exact List.cons_ne_nil _ _
  unfold resolveContractProviders at h
  dsimp only at h
  split at h
  · unfold selectPreferred at h
    split at h
    · cases h
      exact List.cons_ne_nil _ _
    · cases h
  · split at h
    · cases h
    · exact hranked _ h

/-- A required consumer of an instance that takes part is bound, when none is unresolved. -/
theorem exists_boundAmong {engine : Engine} (hconsistent : Consistent engine)
    {included : ManagedExtension → Bool} (hfound : engine.extensions.lookup instanceId = some ext)
    (hincluded : included ext = true)
    (hbound : ¬ RequiredUnresolved (engine.resolveCompositionForScope ext.scopeId included)
      [instanceId]) {owned : OwnedContractConsumer} (howned : owned ∈ ext.contractConsumers)
    (hrequired : owned.consumer.required = true) :
    ∃ binding, BoundAmong engine ext.scopeId included owned binding := by
  have hpart : ext ∈ (engine.extensionsIn ext.scopeId).filter included :=
    List.mem_filter.mpr ⟨mem_extensionsIn.mpr ⟨⟨instanceId, hfound⟩, rfl⟩, hincluded⟩
  have hconsumer : owned ∈ ((engine.extensionsIn ext.scopeId).filter included).flatMap
      fun ext => ext.contractConsumers := List.mem_flatMap.mpr ⟨ext, hpart, howned⟩
  cases hresolve : resolveConsumer engine.secrets (definitionsFor engine ext.scopeId included)
      (((engine.extensionsIn ext.scopeId).filter included).flatMap fun ext =>
        ext.contractProviders) (engine.preferencesIn ext.scopeId) owned with
  | error reason =>
      refine absurd ⟨⟨owned.owner, owned.consumer.contract, owned.consumer.required, reason⟩,
        ?_, hrequired, ?_⟩ hbound
      · unfold Engine.resolveCompositionForScope resolveContracts
        dsimp only
        rw [List.mem_insertionSort, List.mem_filterMap]
        refine ⟨owned, hconsumer, ?_⟩
        rw [definitionsFor] at hresolve
        rw [hresolve]
      · rw [(ext.consumers_owned owned howned).1, hconsistent.keyed _ _ hfound]
        exact List.mem_singleton_self _
  | ok selected =>
      refine ⟨⟨owned.owner, owned.consumer.contract, owned.consumer.required, selected⟩,
        mem_bindings.mpr ⟨owned, hconsumer, rfl, rfl, rfl, hresolve⟩, rfl, rfl, rfl, ?_, ?_⟩
      · unfold resolveConsumer at hresolve
        split at hresolve
        · cases hresolve
        · split at hresolve
          · exact resolveContractProviders_ne_nil hresolve
          · cases hresolve
      · intro provider hprovider
        obtain ⟨candidate, hcandidate, howner, -, -⟩ :=
          eligible_of_resolveConsumer hresolve hprovider
        obtain ⟨other, hother, hmem⟩ := List.mem_flatMap.mp hcandidate
        obtain ⟨hthere, hmeant⟩ := List.mem_filter.mp hother
        obtain ⟨⟨otherId, hlookup⟩, -⟩ := mem_extensionsIn.mp hthere
        refine ⟨other, ?_, hmeant⟩
        rw [← howner, (other.providers_owned candidate hmem).1,
          hconsistent.keyed _ _ hlookup]
        exact hlookup

/-! ## Compositions of growing engines -/

/-- An instance without its state. -/
def ManagedExtension.core (ext : ManagedExtension) : ManagedExtension :=
  { ext with state := .registered }

section Growing

variable {engine engine' : Engine} (hconsistent : Consistent engine)
  (hconsistent' : Consistent engine') (hagree : DefinitionsAgree engine)
  (hgrows : Grows engine engine') {scopeId : RuntimeScopeId}
  {included included' : ManagedExtension → Bool} {isThere : ExtensionInstanceId → Bool}
  (hincluded : ∀ instanceId ext, engine.extensions.lookup instanceId = some ext →
    included ext = isThere instanceId)
  (hincluded' : ∀ instanceId ext, engine'.extensions.lookup instanceId = some ext →
    included' ext = isThere instanceId)
  (hthere : ∀ instanceId, isThere instanceId = true →
    (engine.extensions.lookup instanceId).isSome = true)

theorem mem_parts (hincluded : ∀ instanceId ext, engine.extensions.lookup instanceId = some ext →
      included ext = isThere instanceId) :
    ext ∈ (engine.extensionsIn scopeId).filter included ↔
      ∃ instanceId, engine.extensions.lookup instanceId = some ext ∧ ext.scopeId = scopeId ∧
        isThere instanceId = true := by
  rw [List.mem_filter, mem_extensionsIn]
  constructor
  · rintro ⟨⟨⟨instanceId, hfound⟩, hscope⟩, hmeant⟩
    exact ⟨instanceId, hfound, hscope, (hincluded instanceId ext hfound) ▸ hmeant⟩
  · rintro ⟨instanceId, hfound, hscope, hmeant⟩
    exact ⟨⟨⟨instanceId, hfound⟩, hscope⟩, (hincluded instanceId ext hfound).trans hmeant⟩

theorem nodup_cores (hconsistent : Consistent engine) (included : ManagedExtension → Bool) :
    (((engine.extensionsIn scopeId).filter included).map ManagedExtension.core).Nodup := by
  refine List.Nodup.of_map (fun ext => ext.instanceId) ?_
  rw [List.map_map]
  exact hconsistent.values_nodup.sublist
    ((List.filter_sublist.trans List.filter_sublist).map _)

include hconsistent hconsistent' hgrows hincluded hincluded' hthere

/-- The same instances take part, up to their states. -/
theorem Grows.cores_perm :
    (((engine.extensionsIn scopeId).filter included).map ManagedExtension.core).Perm
      (((engine'.extensionsIn scopeId).filter included').map ManagedExtension.core) := by
  refine (List.perm_ext_iff_of_nodup (nodup_cores hconsistent _)
    (nodup_cores hconsistent' _)).mpr fun core => ?_
  rw [List.mem_map, List.mem_map]
  constructor
  · rintro ⟨ext, hmem, rfl⟩
    obtain ⟨instanceId, hfound, hscope, hmeant⟩ := (mem_parts hincluded).mp hmem
    obtain ⟨state, hfound'⟩ := hgrows.instances instanceId ext hfound
    exact ⟨_, (mem_parts hincluded').mpr ⟨instanceId, hfound', hscope, hmeant⟩, rfl⟩
  · rintro ⟨ext', hmem, rfl⟩
    obtain ⟨instanceId, hfound', hscope, hmeant⟩ := (mem_parts hincluded').mp hmem
    obtain ⟨ext, hfound⟩ := Option.isSome_iff_exists.mp (hthere instanceId hmeant)
    obtain ⟨state, hgrown⟩ := hgrows.instances instanceId ext hfound
    rw [hfound'] at hgrown
    cases hgrown
    exact ⟨ext, (mem_parts hincluded).mpr ⟨instanceId, hfound, hscope, hmeant⟩, rfl⟩

include hagree

/-- Their composition stays the same. -/
theorem Grows.composition :
    engine'.resolveCompositionForScope scopeId included' =
      engine.resolveCompositionForScope scopeId included := by
  have hcores : (((engine.extensionsIn scopeId).filter included).map ManagedExtension.core).Perm
      (((engine'.extensionsIn scopeId).filter included').map ManagedExtension.core) :=
    hgrows.cores_perm hconsistent hconsistent' hincluded hincluded' hthere
  have hparts : ∀ {α : Type} (contracts : ManagedExtension → List α),
      (∀ ext : ManagedExtension, contracts ext.core = contracts ext) →
      (((engine.extensionsIn scopeId).filter included).flatMap contracts).Perm
        (((engine'.extensionsIn scopeId).filter included').flatMap contracts) := by
    intro α contracts hcore
    have hflat : ∀ parts : List ManagedExtension,
        parts.flatMap contracts = (parts.map ManagedExtension.core).flatMap contracts := by
      intro parts
      rw [List.flatMap_map]
      exact List.flatMap_congr fun ext _ => (hcore ext).symm
    rw [hflat, hflat ((engine'.extensionsIn scopeId).filter included')]
    exact hcores.flatMap_right contracts
  have hplatform : engine'.platformDefinitionsIn scopeId =
      engine.platformDefinitionsIn scopeId := by
    rw [Engine.platformDefinitionsIn, hgrows.beside.platform, Engine.platformDefinitionsIn]
  have hpreferences : engine'.preferencesIn scopeId = engine.preferencesIn scopeId := by
    rw [Engine.preferencesIn, hgrows.beside.preferred, Engine.preferencesIn]
  have hterms : ∀ contract, definedTermsOf (definitionsFor engine scopeId included) contract =
      definedTermsOf (definitionsFor engine' scopeId included') contract := by
    refine definedTermsOf_congr (hagree.agreeOnTerms scopeId included) fun definition => ?_
    rw [definitionsFor, definitionsFor, hplatform]
    exact ((hparts _ fun _ => rfl).append_left _).mem_iff
  unfold Engine.resolveCompositionForScope
  dsimp only
  rw [hgrows.beside.secrets, hpreferences]
  exact (resolveContracts_perm engine.secrets (engine.preferencesIn scopeId) hterms
    (hparts _ fun _ => rfl) (hparts _ fun _ => rfl)
    (hconsistent.consumers_nodup scopeId included)).symm

end Growing

end Rintawa.ExtensionEngine
