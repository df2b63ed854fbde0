/-
# Contract resolution

Consumers are bound to providers contract by contract. A single contract takes its
preferred provider, or else the first eligible one in the order of instances and
components; a multiple contract takes all eligible ones in that order.
-/

import Mathlib.Data.List.Sort
import Rintawa.ExtensionEngine.Secrets

namespace Rintawa.ExtensionEngine

open Rintawa.Lib Rintawa.Sdk

/-! ## Endpoints -/

/-- A definition with the component that registered it. -/
structure OwnedContractDefinition where
  owner : ComponentRef
  definition : ContractDefinition
  deriving DecidableEq

/-- A provided contract with its component. -/
structure OwnedContractProvider where
  owner : ComponentRef
  provider : ContractProvider
  deriving DecidableEq

/-- A consumed contract with its component. -/
structure OwnedContractConsumer where
  owner : ComponentRef
  consumer : ContractConsumer
  deriving DecidableEq

/-- A consumer with the providers that it is bound to. -/
structure ContractBinding where
  consumer : ComponentRef
  contract : ContractKey
  required : Bool
  providers : List ComponentRef
  deriving DecidableEq

/-- The reasons for which a consumer has no binding. -/
inductive UnresolvedContractReason
  | undefinedContract
  | consumerIneligible
  | noProvider
  | noEligibleProvider
  | preferredProviderUnavailable
  deriving DecidableEq, Repr

/-- The displayed reason. -/
def UnresolvedContractReason.display : UnresolvedContractReason → String
  | .undefinedContract => "undefined contract"
  | .consumerIneligible => "consumer is ineligible"
  | .noProvider => "no provider"
  | .noEligibleProvider => "no eligible provider"
  | .preferredProviderUnavailable => "preferred provider is unavailable"

/-- A consumer without a binding. -/
structure UnresolvedContract where
  consumer : ComponentRef
  contract : ContractKey
  required : Bool
  reason : UnresolvedContractReason
  deriving DecidableEq

/-- The consumers of a composition with and without bindings. -/
structure CompositionSnapshot where
  bindings : List ContractBinding
  unresolved : List UnresolvedContract
  deriving DecidableEq

/-! ## Order -/

/-- Components are ordered by the texts of their instances, then by their own. -/
def componentRefLe (a b : ComponentRef) : Prop :=
  a.instanceId.asStr < b.instanceId.asStr ∨
    (a.instanceId = b.instanceId ∧ a.componentId.asStr ≤ b.componentId.asStr)

instance : DecidableRel componentRefLe := fun a b => by
  unfold componentRefLe
  infer_instance

/-- Consumers are ordered by their components, then by the displayed contracts. -/
def consumerLe (a b : ComponentRef × ContractKey) : Prop :=
  if a.1 = b.1 then a.2.display ≤ b.2.display else componentRefLe a.1 b.1

instance : DecidableRel consumerLe := fun a b => by
  unfold consumerLe
  infer_instance

/-! ## Providers of one contract -/

section Resolution

variable (secrets : SecretManager)

/-- Whether a component holds every grant that an endpoint requires. -/
def requirementsSatisfied (owner : ComponentRef) (requirements : List ContractGrantRequirement) :
    Bool :=
  requirements.all fun
    | .secretRead pattern => secrets.hasReadGrant owner pattern

/-- Whether a provider holds the grants that it requires. -/
def OwnedContractProvider.eligible (candidate : OwnedContractProvider) : Bool :=
  requirementsSatisfied secrets candidate.owner candidate.provider.requiredGrants

/-- The eligible ones of some providers, in order. -/
def rankedProviders (matching : List OwnedContractProvider) : List OwnedContractProvider :=
  (matching.filter fun candidate => candidate.eligible secrets).insertionSort fun left right =>
    componentRefLe left.owner right.owner

/-- Select by the resolution policy from the eligible providers. -/
def selectRanked (resolution : ContractResolutionPolicy) :
    List OwnedContractProvider → Except UnresolvedContractReason (List ComponentRef)
  | [] => .error .noEligibleProvider
  | first :: rest =>
      match resolution with
      | .single => .ok [first.owner]
      | .multiple => .ok ((first :: rest).map fun provider => provider.owner)

/-- The preferred provider, if it is there and eligible. -/
def selectPreferred (preferred : ComponentRef) (matching : List OwnedContractProvider) :
    Except UnresolvedContractReason (List ComponentRef) :=
  match matching.find? fun candidate =>
      candidate.owner == preferred && candidate.eligible secrets with
  | some provider => .ok [provider.owner]
  | none => .error .preferredProviderUnavailable

/-- The providers that one contract is bound to. -/
def resolveContractProviders (contract : ContractKey) (resolution : ContractResolutionPolicy)
    (providers : List OwnedContractProvider) (preferredProvider : Option ComponentRef) :
    Except UnresolvedContractReason (List ComponentRef) :=
  let matching := providers.filter fun candidate => candidate.provider.contract == contract
  match resolution, preferredProvider with
  | .single, some preferred => selectPreferred secrets preferred matching
  | _, _ =>
      if matching.isEmpty then .error .noProvider
      else selectRanked resolution (rankedProviders secrets matching)

/-! ## Bindings of all consumers -/

variable (definitions : List ContractDefinition) (providers : List OwnedContractProvider)
  (preferredProviders : Dict ContractKey ComponentRef)

/-- The first definition of a contract. -/
def definitionOf (contract : ContractKey) : Option ContractDefinition :=
  definitions.find? fun candidate => candidate.contract == contract

/-- The providers that one consumer is bound to. -/
def resolveConsumer (owned : OwnedContractConsumer) :
    Except UnresolvedContractReason (List ComponentRef) :=
  match definitionOf definitions owned.consumer.contract with
  | none => .error .undefinedContract
  | some definition =>
      if requirementsSatisfied secrets owned.owner owned.consumer.requiredGrants then
        resolveContractProviders secrets owned.consumer.contract definition.resolution providers
          (preferredProviders.lookup owned.consumer.contract)
      else .error .consumerIneligible

/-- Resolve every consumer. -/
def resolveContracts (consumers : List OwnedContractConsumer) : CompositionSnapshot where
  bindings :=
    (consumers.filterMap fun owned =>
      match resolveConsumer secrets definitions providers preferredProviders owned with
      | .ok selected =>
          some ⟨owned.owner, owned.consumer.contract, owned.consumer.required, selected⟩
      | .error _ => none).insertionSort fun left right =>
        consumerLe (left.consumer, left.contract) (right.consumer, right.contract)
  unresolved :=
    (consumers.filterMap fun owned =>
      match resolveConsumer secrets definitions providers preferredProviders owned with
      | .ok _ => none
      | .error reason =>
          some ⟨owned.owner, owned.consumer.contract, owned.consumer.required, reason⟩
      ).insertionSort fun left right =>
        consumerLe (left.consumer, left.contract) (right.consumer, right.contract)

end Resolution

/-! ## What is selected -/

section Selection

variable {secrets : SecretManager} {contract : ContractKey}
  {resolution : ContractResolutionPolicy} {providers : List OwnedContractProvider}

theorem mem_rankedProviders {matching : List OwnedContractProvider}
    {candidate : OwnedContractProvider} :
    candidate ∈ rankedProviders secrets matching ↔
      candidate ∈ matching ∧ candidate.eligible secrets = true := by
  rw [rankedProviders, List.mem_insertionSort, List.mem_filter]

variable {selected : List ComponentRef}

variable {provider : ComponentRef}

/-- What the policy selects is among the candidates. -/
theorem mem_of_selectRanked {ranked : List OwnedContractProvider}
    (h : selectRanked resolution ranked = .ok selected) (hmem : provider ∈ selected) :
    ∃ candidate ∈ ranked, candidate.owner = provider := by
  cases ranked with
  | nil => cases h
  | cons first rest =>
      cases resolution with
      | single =>
          cases h
          exact ⟨first, List.mem_cons_self, (List.mem_singleton.mp hmem).symm⟩
      | multiple =>
          cases h
          exact List.mem_map.mp hmem

/-- Every selected provider is an eligible provider of the contract. -/
theorem eligible_of_resolveContractProviders {preferred : Option ComponentRef}
    (h : resolveContractProviders secrets contract resolution providers preferred = .ok selected)
    (hmem : provider ∈ selected) :
    ∃ candidate ∈ providers, candidate.owner = provider ∧
      candidate.provider.contract = contract ∧ candidate.eligible secrets = true := by
  have ranked : ∀ matching : List OwnedContractProvider,
      matching = providers.filter (fun candidate => candidate.provider.contract == contract) →
      selectRanked resolution (rankedProviders secrets matching) = .ok selected →
      ∃ candidate ∈ providers, candidate.owner = provider ∧
        candidate.provider.contract = contract ∧ candidate.eligible secrets = true := by
    rintro matching rfl hselect
    obtain ⟨candidate, hranked, howner⟩ := mem_of_selectRanked hselect hmem
    obtain ⟨hmatching, heligible⟩ := mem_rankedProviders.mp hranked
    obtain ⟨hprovider, hcontract⟩ := List.mem_filter.mp hmatching
    exact ⟨candidate, hprovider, howner, by simpa using hcontract, heligible⟩
  unfold resolveContractProviders at h
  dsimp only at h
  split at h
  · next owner =>
      unfold selectPreferred at h
      split at h
      · next candidate hfound =>
          cases h
          obtain ⟨hprovider, hcontract⟩ := List.mem_filter.mp (List.mem_of_find?_eq_some hfound)
          have hpreferred := List.find?_some hfound
          rw [Bool.and_eq_true] at hpreferred
          exact ⟨candidate, hprovider, (List.mem_singleton.mp hmem).symm, by simpa using hcontract,
            hpreferred.2⟩
      · cases h
  · split at h
    · cases h
    · exact ranked _ rfl h

variable {definitions : List ContractDefinition} {preferred : Dict ContractKey ComponentRef}
  {consumers : List OwnedContractConsumer}

/-- A binding belongs to a consumer that was resolved. -/
theorem mem_bindings {binding : ContractBinding} :
    binding ∈ (resolveContracts secrets definitions providers preferred consumers).bindings ↔
      ∃ owned ∈ consumers, binding.consumer = owned.owner ∧
        binding.contract = owned.consumer.contract ∧
        binding.required = owned.consumer.required ∧
        resolveConsumer secrets definitions providers preferred owned =
          .ok binding.providers := by
  simp only [resolveContracts, List.mem_insertionSort, List.mem_filterMap]
  constructor
  · rintro ⟨owned, hmem, hbinding⟩
    split at hbinding
    · next selected hresolve =>
        cases hbinding
        exact ⟨owned, hmem, rfl, rfl, rfl, hresolve⟩
    · cases hbinding
  · rintro ⟨owned, hmem, hconsumer, hcontract, hrequired, hresolve⟩
    refine ⟨owned, hmem, ?_⟩
    obtain ⟨consumer, key, required, selected⟩ := binding
    dsimp only at hconsumer hcontract hrequired hresolve
    rw [hresolve, hconsumer, hcontract, hrequired]

/-- A consumer is bound to eligible providers of its contract. -/
theorem eligible_of_resolveConsumer {owned : OwnedContractConsumer}
    (h : resolveConsumer secrets definitions providers preferred owned = .ok selected)
    (hmem : provider ∈ selected) :
    ∃ candidate ∈ providers, candidate.owner = provider ∧
      candidate.provider.contract = owned.consumer.contract ∧
      candidate.eligible secrets = true := by
  unfold resolveConsumer at h
  split at h
  · cases h
  · split at h
    · exact eligible_of_resolveContractProviders h hmem
    · cases h

end Selection

end Rintawa.ExtensionEngine
