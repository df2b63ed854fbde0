/-
# Registration of components

While an instance is registered, the callback of each of its components may register
contributions, contracts and portable UI. What the components of the instance have
registered is collected; a repetition is refused and leaves the collection as it is.
-/

import Rintawa.ExtensionEngine.Services
import Rintawa.Lib.Lists
import Rintawa.Sdk.Contributions
import Rintawa.UiRuntime.Runtime

namespace Rintawa.ExtensionEngine

open Rintawa.Lib Rintawa.Sdk Rintawa.UiRuntime

/-! ## Collected registrations -/

/-- A contribution with the component that registered it. -/
structure OwnedContribution where
  componentId : ComponentId
  descriptor : ContributionDescriptor
  deriving DecidableEq

/-- A schema with the component that registered it. -/
structure OwnedWorldSchemaContribution where
  extensionId : ExtensionId
  componentId : ComponentId
  contribution : WorldSchemaContribution
  deriving DecidableEq

/-- A component of one instance. -/
def BelongsTo (instanceId : ExtensionInstanceId) (componentIds : List ComponentId)
    (owner : ComponentRef) : Prop :=
  owner.instanceId = instanceId ∧ owner.componentId ∈ componentIds

/-- What the components of one instance have registered. Contributions are registered
once, endpoints belong to the components and a component consumes a contract once. -/
structure RegistrationBuffers (instanceId : ExtensionInstanceId)
    (componentIds : List ComponentId) where
  contributions : List OwnedContribution
  worldSchemas : List OwnedWorldSchemaContribution
  contractDefinitions : List OwnedContractDefinition
  contractProviders : List OwnedContractProvider
  contractConsumers : List OwnedContractConsumer
  uiSurfaces : List OwnedUiSurfaceContribution
  uiLayers : List OwnedUiLayerDescriptor
  worldPresentations : List OwnedWorldPresentationDescriptor
  contributions_nodup : (contributions.map fun owned => owned.descriptor.id).Nodup
  definitions_owned : ∀ entry ∈ contractDefinitions, BelongsTo instanceId componentIds entry.owner
  providers_owned : ∀ entry ∈ contractProviders, BelongsTo instanceId componentIds entry.owner
  consumers_owned : ∀ entry ∈ contractConsumers, BelongsTo instanceId componentIds entry.owner
  consumers_nodup :
    (contractConsumers.map fun entry => (entry.owner, entry.consumer.contract)).Nodup

/-- Nothing is registered at first. -/
def RegistrationBuffers.empty (instanceId : ExtensionInstanceId)
    (componentIds : List ComponentId) : RegistrationBuffers instanceId componentIds where
  contributions := []
  worldSchemas := []
  contractDefinitions := []
  contractProviders := []
  contractConsumers := []
  uiSurfaces := []
  uiLayers := []
  worldPresentations := []
  contributions_nodup := .nil
  definitions_owned := by simp
  providers_owned := by simp
  consumers_owned := by simp
  consumers_nodup := .nil

/-- The registrations that a component can ask for. -/
inductive RegistrationCall
  | register (contribution : ContributionDescriptor)
  | registerWorldSchema (schema : WorldSchemaContribution)
  | defineContract (definition : ContractDefinition)
  | provideContract (provider : ContractProvider)
  | consumeContract (consumer : ContractConsumer)
  | registerUiSurface (surface : UiSurfaceContribution)
  | registerUiLayer (descriptor : UiLayerDescriptor)
  | registerWorldPresentation (descriptor : WorldPresentationDescriptor)

/-- What a registration is refused with. -/
inductive ExtensionError
  | duplicateContribution (contribution : String)
  | duplicateWorldSchema (schema : String)
  | duplicateContractDefinition (contract : String)
  | duplicateContractProvider (contract : String)
  | duplicateContractConsumer (contract : String)
  | duplicateUiSurface (surface : String)
  | duplicateUiLayerDescriptor
  | duplicateWorldPresentationDescriptor
  deriving DecidableEq, Repr

theorem forall_mem_append_singleton {α : Type} {P : α → Prop} {entries : List α}
    (h : ∀ entry ∈ entries, P entry) {added : α} (hadded : P added) :
    ∀ entry ∈ entries ++ [added], P entry := by
  intro entry hentry
  rcases List.mem_append.mp hentry with hold | hnew
  · exact h entry hold
  · rw [List.mem_singleton.mp hnew]
    exact hadded

/-! ## The context of one component -/

namespace RegistrationBuffers

variable {instanceId : ExtensionInstanceId} {componentIds : List ComponentId}
  (buffers : RegistrationBuffers instanceId componentIds)
  (component : {componentId : ComponentId // componentId ∈ componentIds})

/-- The principal of a component of the instance. -/
def principal (instanceId : ExtensionInstanceId)
    (component : {componentId : ComponentId // componentId ∈ componentIds}) : ComponentRef :=
  ⟨instanceId, component.1⟩

theorem principal_belongs : BelongsTo instanceId componentIds (principal instanceId component) :=
  ⟨rfl, component.2⟩

/-- Register a contribution that is neither active in the scope nor registered here. -/
def register (active : Finset (RuntimeScopeId × ContributionId)) (scopeId : RuntimeScopeId)
    (contribution : ContributionDescriptor) :
    Except ExtensionError (RegistrationBuffers instanceId componentIds) :=
  if (scopeId, contribution.id) ∈ active then
    .error (.duplicateContribution contribution.id.asStr)
  else
    match hnew : buffers.contributions.any
        fun owned => owned.descriptor.id == contribution.id with
    | true => .error (.duplicateContribution contribution.id.asStr)
    | false =>
        .ok { buffers with
          contributions := buffers.contributions ++ [⟨component.1, contribution⟩]
          contributions_nodup := nodup_map_append buffers.contributions_nodup hnew }

def registerWorldSchema (extensionId : ExtensionId) (schema : WorldSchemaContribution) :
    Except ExtensionError (RegistrationBuffers instanceId componentIds) :=
  if buffers.worldSchemas.any fun registered => registered.contribution.key == schema.key then
    .error (.duplicateWorldSchema schema.key.display)
  else
    .ok { buffers with
      worldSchemas := buffers.worldSchemas ++ [⟨extensionId, component.1, schema⟩] }

def defineContract (definition : ContractDefinition) :
    Except ExtensionError (RegistrationBuffers instanceId componentIds) :=
  let owner := principal instanceId component
  if buffers.contractDefinitions.any fun registered =>
      registered.owner == owner && registered.definition.contract == definition.contract then
    .error (.duplicateContractDefinition definition.contract.display)
  else
    .ok { buffers with
      contractDefinitions := buffers.contractDefinitions ++ [⟨owner, definition⟩]
      definitions_owned :=
        forall_mem_append_singleton buffers.definitions_owned (principal_belongs component) }

def provideContract (provider : ContractProvider) :
    Except ExtensionError (RegistrationBuffers instanceId componentIds) :=
  let owner := principal instanceId component
  if buffers.contractProviders.any fun registered =>
      registered.owner == owner && registered.provider.contract == provider.contract then
    .error (.duplicateContractProvider provider.contract.display)
  else
    .ok { buffers with
      contractProviders := buffers.contractProviders ++ [⟨owner, provider⟩]
      providers_owned :=
        forall_mem_append_singleton buffers.providers_owned (principal_belongs component) }

def consumeContract (consumer : ContractConsumer) :
    Except ExtensionError (RegistrationBuffers instanceId componentIds) :=
  let owner := principal instanceId component
  match hnew : buffers.contractConsumers.any fun registered =>
      (registered.owner, registered.consumer.contract) == (owner, consumer.contract) with
  | true => .error (.duplicateContractConsumer consumer.contract.display)
  | false =>
      .ok { buffers with
        contractConsumers := buffers.contractConsumers ++ [⟨owner, consumer⟩]
        consumers_owned :=
          forall_mem_append_singleton buffers.consumers_owned (principal_belongs component)
        consumers_nodup := nodup_map_append buffers.consumers_nodup hnew }

def registerUiSurface (surface : UiSurfaceContribution) :
    Except ExtensionError (RegistrationBuffers instanceId componentIds) :=
  if buffers.uiSurfaces.any fun registered => registered.contribution.id == surface.id then
    .error (.duplicateUiSurface surface.id.asStr)
  else
    .ok { buffers with
      uiSurfaces := buffers.uiSurfaces ++ [⟨principal instanceId component, surface⟩] }

def registerUiLayer (descriptor : UiLayerDescriptor) :
    Except ExtensionError (RegistrationBuffers instanceId componentIds) :=
  let owner := principal instanceId component
  if buffers.uiLayers.any fun registered => registered.owner == owner then
    .error .duplicateUiLayerDescriptor
  else .ok { buffers with uiLayers := buffers.uiLayers ++ [⟨owner, descriptor⟩] }

def registerWorldPresentation (descriptor : WorldPresentationDescriptor) :
    Except ExtensionError (RegistrationBuffers instanceId componentIds) :=
  let owner := principal instanceId component
  if buffers.worldPresentations.any fun registered => registered.owner == owner then
    .error .duplicateWorldPresentationDescriptor
  else
    .ok { buffers with
      worldPresentations := buffers.worldPresentations ++ [⟨owner, descriptor⟩] }

/-- What the registrations of one instance are checked against. -/
structure Context where
  extensionId : ExtensionId
  scopeId : RuntimeScopeId
  active : Finset (RuntimeScopeId × ContributionId)

/-- Carry out one registration of a component. -/
def perform (context : Context) :
    RegistrationCall → Except ExtensionError (RegistrationBuffers instanceId componentIds)
  | .register contribution =>
      buffers.register component context.active context.scopeId contribution
  | .registerWorldSchema schema =>
      buffers.registerWorldSchema component context.extensionId schema
  | .defineContract definition => buffers.defineContract component definition
  | .provideContract provider => buffers.provideContract component provider
  | .consumeContract consumer => buffers.consumeContract component consumer
  | .registerUiSurface surface => buffers.registerUiSurface component surface
  | .registerUiLayer descriptor => buffers.registerUiLayer component descriptor
  | .registerWorldPresentation descriptor => buffers.registerWorldPresentation component descriptor

/-- The collection after a registration. A refused one leaves it as it is. -/
def after (context : Context) (call : RegistrationCall) :
    RegistrationBuffers instanceId componentIds :=
  match buffers.perform component context call with
  | .ok registered => registered
  | .error _ => buffers

/-- The collection after the callback of a component. The component sees the refusals and
goes on as it likes. -/
def afterAll (context : Context) :
    RegistrationBuffers instanceId componentIds → List RegistrationCall →
      RegistrationBuffers instanceId componentIds
  | buffers, [] => buffers
  | buffers, call :: rest => afterAll context (buffers.after component context call) rest

end RegistrationBuffers

end Rintawa.ExtensionEngine
