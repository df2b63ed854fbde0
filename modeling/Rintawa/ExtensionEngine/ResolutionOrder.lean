/-
# Resolution and the order of its inputs

The engine and the service runtime keep instances in maps without an order. What contracts
are resolved to does not depend on the order in which definitions, providers and consumers
come, as long as the definitions of one contract agree on their terms.
-/

import Rintawa.Lib.Order
import Rintawa.ExtensionEngine.Composition
import Rintawa.Sdk.VersionedTexts

namespace Rintawa.ExtensionEngine

open Rintawa.Lib Rintawa.Sdk

/-! ## Orders of components and consumers -/

/-- Identifiers are their texts. -/
theorem asStr_injective {kind : StringIdKind} : Function.Injective (@StringId.asStr kind) := by
  rintro ⟨text⟩ ⟨text'⟩ heq
  exact congrArg _ heq

/-- The displayed key names its contract. Versions are displayed as digits. -/
theorem display_injective : Function.Injective ContractKey.display := by
  rintro ⟨⟨id⟩, version⟩ ⟨⟨id'⟩, version'⟩ heq
  obtain ⟨rfl, rfl⟩ := append_version_inj.mp heq
  rfl

instance : Std.Total componentRefLe where
  total a b := by
    unfold componentRefLe
    rcases lt_trichotomy a.instanceId.asStr b.instanceId.asStr with hlt | heq | hgt
    · exact .inl (.inl hlt)
    · have hsame : a.instanceId = b.instanceId := asStr_injective heq
      rcases le_total a.componentId.asStr b.componentId.asStr with hle | hge
      · exact .inl (.inr ⟨hsame, hle⟩)
      · exact .inr (.inr ⟨hsame.symm, hge⟩)
    · exact .inr (.inl hgt)

instance : IsTrans ComponentRef componentRefLe where
  trans a b c := by
    rintro (hab | ⟨hab, hab'⟩) (hbc | ⟨hbc, hbc'⟩)
    · exact .inl (hab.trans hbc)
    · exact .inl (hbc ▸ hab)
    · exact .inl (hab ▸ hbc)
    · exact .inr ⟨hab.trans hbc, hab'.trans hbc'⟩

instance : Std.Antisymm componentRefLe where
  antisymm a b := by
    rintro (hab | ⟨hab, hab'⟩) (hba | ⟨hba, hba'⟩)
    · exact absurd (hab.trans hba) (lt_irrefl _)
    · exact absurd hab (by rw [hba]; exact lt_irrefl _)
    · exact absurd hba (by rw [hab]; exact lt_irrefl _)
    · obtain ⟨instanceId, componentId⟩ := a
      obtain ⟨instanceId', componentId'⟩ := b
      dsimp only at hab hab' hba'
      rw [hab, asStr_injective (le_antisymm hab' hba')]

instance : Std.Total consumerLe where
  total a b := by
    unfold consumerLe
    by_cases hsame : a.1 = b.1
    · rw [if_pos hsame, if_pos hsame.symm]
      exact le_total a.2.display b.2.display
    · rw [if_neg hsame, if_neg (Ne.symm hsame)]
      exact total_of componentRefLe a.1 b.1

instance : Std.Antisymm consumerLe where
  antisymm a b := by
    unfold consumerLe
    by_cases hsame : a.1 = b.1
    · rw [if_pos hsame, if_pos hsame.symm]
      intro hab hba
      exact Prod.ext hsame (display_injective (le_antisymm hab hba))
    · rw [if_neg hsame, if_neg (Ne.symm hsame)]
      exact fun hab hba => absurd (antisymm hab hba) hsame

instance : IsTrans (ComponentRef × ContractKey) consumerLe where
  trans a b c := by
    unfold consumerLe
    by_cases hab : a.1 = b.1
    · rw [if_pos hab, hab]
      by_cases hbc : b.1 = c.1
      · rw [if_pos hbc, if_pos hbc]
        exact le_trans
      · rw [if_neg hbc, if_neg hbc]
        exact fun _ hle => hle
    · rw [if_neg hab]
      by_cases hbc : b.1 = c.1
      · rw [if_pos hbc, ← hbc, if_neg hab]
        exact fun hle _ => hle
      · rw [if_neg hbc]
        intro hle hle'
        by_cases hac : a.1 = c.1
        · rw [hac] at hle
          exact absurd (antisymm hle' hle) hbc
        · rw [if_neg hac]
          exact trans_of componentRefLe hle hle'

/-! ## Providers of one contract -/

section Providers

variable (secrets : SecretManager) {providers providers' : List OwnedContractProvider}
  (hproviders : providers.Perm providers')
include hproviders

/-- The ranked owners only depend on which providers there are. -/
theorem rankedOwners_perm :
    (rankedProviders secrets providers).map (fun candidate => candidate.owner) =
      (rankedProviders secrets providers').map fun candidate => candidate.owner :=
  map_insertionSort_perm componentRefLe _ (hproviders.filter _)

omit hproviders in
/-- What the policy selects only depends on the owners. -/
theorem selectRanked_congr {ranked ranked' : List OwnedContractProvider}
    (resolution : ContractResolutionPolicy)
    (howners : ranked.map (fun candidate => candidate.owner) =
      ranked'.map fun candidate => candidate.owner) :
    selectRanked resolution ranked = selectRanked resolution ranked' := by
  cases ranked with
  | nil =>
      cases ranked' with
      | nil => rfl
      | cons first rest => cases howners
  | cons first rest =>
      cases ranked' with
      | nil => cases howners
      | cons first' rest' =>
          cases resolution with
          | single => simpa [selectRanked] using (List.cons.inj howners).1
          | multiple => simpa [selectRanked] using howners

/-- The preferred provider is selected wherever it comes. -/
theorem selectPreferred_perm (preferred : ComponentRef) :
    selectPreferred secrets preferred providers = selectPreferred secrets preferred providers' := by
  have hfound : ∀ list : List OwnedContractProvider, selectPreferred secrets preferred list =
      if ∃ candidate ∈ list, candidate.owner = preferred ∧ candidate.eligible secrets = true
      then .ok [preferred] else .error .preferredProviderUnavailable := by
    intro list
    unfold selectPreferred
    split
    · next candidate hcandidate =>
        have htest := List.find?_some hcandidate
        simp only [Bool.and_eq_true, beq_iff_eq] at htest
        rw [if_pos ⟨candidate, List.mem_of_find?_eq_some hcandidate, htest⟩, htest.1]
    · next hnone =>
        rw [if_neg]
        rintro ⟨candidate, hmem, howner, heligible⟩
        simpa [howner, heligible] using List.find?_eq_none.mp hnone candidate hmem
  rw [hfound, hfound]
  simp only [hproviders.mem_iff]

/-- The providers of a contract are resolved in the same way. -/
theorem resolveContractProviders_perm (contract : ContractKey)
    (resolution : ContractResolutionPolicy) (preferred : Option ComponentRef) :
    resolveContractProviders secrets contract resolution providers preferred =
      resolveContractProviders secrets contract resolution providers' preferred := by
  have hmatching := hproviders.filter fun candidate => candidate.provider.contract == contract
  have hempty : (providers.filter fun candidate =>
        candidate.provider.contract == contract).isEmpty =
      (providers'.filter fun candidate => candidate.provider.contract == contract).isEmpty := by
    rw [Bool.eq_iff_iff, List.isEmpty_iff, List.isEmpty_iff]
    exact ⟨fun h => (h ▸ hmatching).symm.eq_nil, fun h => (h ▸ hmatching).eq_nil⟩
  have hranked := selectRanked_congr resolution (rankedOwners_perm secrets hmatching)
  unfold resolveContractProviders
  dsimp only
  split
  · exact selectPreferred_perm secrets hmatching _
  · rw [hempty, hranked]

end Providers

/-! ## Definitions -/

/-- The definitions of one contract agree on their terms. -/
def AgreeOnTerms (definitions : List ContractDefinition) : Prop :=
  ∀ definition ∈ definitions, ∀ other ∈ definitions, definition.contract = other.contract →
    definition.resolution = other.resolution ∧ definition.protocol = other.protocol

/-- The terms of the first definition of a contract. -/
def definedTermsOf (definitions : List ContractDefinition) (contract : ContractKey) :
    Option (ContractResolutionPolicy × ContractProtocol) :=
  (definitionOf definitions contract).map fun definition =>
    (definition.resolution, definition.protocol)

/-- A definition that is found is one of the contract. -/
theorem mem_of_definitionOf {definitions : List ContractDefinition} {contract : ContractKey}
    {definition : ContractDefinition} (h : definitionOf definitions contract = some definition) :
    definition ∈ definitions ∧ definition.contract = contract := by
  unfold definitionOf at h
  have htest := List.find?_some h
  exact ⟨List.mem_of_find?_eq_some h, by simpa using htest⟩

/-- A contract that is defined has a first definition. -/
theorem exists_definitionOf {definitions : List ContractDefinition}
    {definition : ContractDefinition} (h : definition ∈ definitions) :
    ∃ first, definitionOf definitions definition.contract = some first := by
  rw [← Option.isSome_iff_exists]
  unfold definitionOf
  rw [List.find?_isSome]
  exact ⟨definition, h, beq_self_eq_true _⟩

/-- Agreeing definitions give the same terms, whichever comes first. -/
theorem definedTermsOf_congr {definitions definitions' : List ContractDefinition}
    (hagree : AgreeOnTerms definitions)
    (hsame : ∀ definition, definition ∈ definitions ↔ definition ∈ definitions')
    (contract : ContractKey) :
    definedTermsOf definitions contract = definedTermsOf definitions' contract := by
  unfold definedTermsOf
  cases hfirst : definitionOf definitions contract with
  | none =>
      cases hfirst' : definitionOf definitions' contract with
      | none => rfl
      | some definition =>
          obtain ⟨hmem, rfl⟩ := mem_of_definitionOf hfirst'
          obtain ⟨first, hfound⟩ := exists_definitionOf ((hsame definition).mpr hmem)
          rw [hfirst] at hfound
          cases hfound
  | some definition =>
      obtain ⟨hmem, rfl⟩ := mem_of_definitionOf hfirst
      obtain ⟨first, hfound⟩ := exists_definitionOf ((hsame definition).mp hmem)
      obtain ⟨hmem', hcontract⟩ := mem_of_definitionOf hfound
      obtain ⟨hresolution, hprotocol⟩ :=
        hagree definition hmem first ((hsame first).mpr hmem') hcontract.symm
      rw [hfound, Option.map_some, Option.map_some, hresolution, hprotocol]

/-! ## Bindings -/

/-- Results that keep the keys of what they come from have some of these keys, in order. -/
theorem map_filterMap_sublist {α β γ : Type} {f : α → Option β} {key : α → γ} {key' : β → γ}
    {entries : List α} (hkey : ∀ entry result, f entry = some result → key' result = key entry) :
    ((entries.filterMap f).map key').Sublist (entries.map key) := by
  induction entries with
  | nil => exact .slnil
  | cons entry rest ih =>
      rw [List.filterMap_cons, List.map_cons]
      split
      · exact ih.cons (key entry)
      · next result hresult =>
          rw [List.map_cons, hkey entry result hresult]
          exact ih.cons_cons (key entry)

section Bindings

variable (secrets : SecretManager) {definitions definitions' : List ContractDefinition}
  {providers providers' : List OwnedContractProvider}
  {consumers consumers' : List OwnedContractConsumer}
  (preferred : Dict ContractKey ComponentRef)
  (hterms : ∀ contract, definedTermsOf definitions contract = definedTermsOf definitions' contract)
  (hproviders : providers.Perm providers')
include hterms hproviders

/-- A consumer is resolved in the same way. -/
theorem resolveConsumer_congr (owned : OwnedContractConsumer) :
    resolveConsumer secrets definitions providers preferred owned =
      resolveConsumer secrets definitions' providers' preferred owned := by
  have hdefined := hterms owned.consumer.contract
  unfold definedTermsOf at hdefined
  unfold resolveConsumer
  cases hfirst : definitionOf definitions owned.consumer.contract with
  | none =>
      rw [hfirst] at hdefined
      cases hfirst' : definitionOf definitions' owned.consumer.contract with
      | none => rfl
      | some definition' =>
          rw [hfirst'] at hdefined
          cases hdefined
  | some definition =>
      rw [hfirst] at hdefined
      cases hfirst' : definitionOf definitions' owned.consumer.contract with
      | none =>
          rw [hfirst'] at hdefined
          cases hdefined
      | some definition' =>
          rw [hfirst'] at hdefined
          have hresolution : definition.resolution = definition'.resolution :=
            congrArg Prod.fst (Option.some.inj hdefined)
          dsimp only
          rw [hresolution, resolveContractProviders_perm secrets hproviders]

variable (hconsumers : consumers.Perm consumers')
  (hnodup : (consumers.map fun owned => (owned.owner, owned.consumer.contract)).Nodup)
include hconsumers hnodup

/-- All consumers are resolved in the same way, with bindings in the same order. -/
theorem resolveContracts_perm :
    resolveContracts secrets definitions providers preferred consumers =
      resolveContracts secrets definitions' providers' preferred consumers' := by
  have hresolve := resolveConsumer_congr secrets preferred hterms hproviders
  unfold resolveContracts
  simp only [hresolve]
  congr 1
  · refine insertionSort_key_perm consumerLe
      (fun binding : ContractBinding => (binding.consumer, binding.contract))
      (hconsumers.filterMap _) (hnodup.sublist (map_filterMap_sublist ?_))
    intro owned binding hbinding
    split at hbinding
    · cases hbinding
      rfl
    · cases hbinding
  · refine insertionSort_key_perm consumerLe
      (fun unresolved : UnresolvedContract => (unresolved.consumer, unresolved.contract))
      (hconsumers.filterMap _) (hnodup.sublist (map_filterMap_sublist ?_))
    intro owned unresolved hunresolved
    split at hunresolved
    · cases hunresolved
    · cases hunresolved
      rfl

end Bindings

end Rintawa.ExtensionEngine
