/-
# Changes of the engine

Every operation changes the instances, and what the engine keeps beside them, by a few
kinds of changes. Between the changes the registries are consistent with the instances.
An invariant of the instances has to be checked for each kind of change, and holds then
along every run.
-/

import Mathlib.Data.Finset.Disjoint
import Mathlib.Logic.Relation
import Rintawa.ExtensionEngine.EngineRuns

namespace Rintawa.ExtensionEngine

open Rintawa.Lib Rintawa.Sdk Rintawa.UiRuntime

/-! ## Consistency -/

/-- The instances of the engine. -/
def Engine.instances (engine : Engine) : Instances :=
  fun instanceId => engine.extensions.lookup instanceId

/-- An instance that is there and active. -/
def ActiveIn (instances : Instances) (instanceId : ExtensionInstanceId) : Prop :=
  ∃ ext, instances instanceId = some ext ∧ ext.state = .active

/-- The registries are consistent with the instances and with what is kept beside them. -/
structure Consistent (engine : Engine) : Prop where
  keyed : ∀ instanceId ext, engine.extensions.lookup instanceId = some ext →
    ext.instanceId = instanceId
  mirrors : Mirrors engine.toEngineFacilities engine.instances
  owners : engine.toEngineFacilities.OwnersIn (ActiveIn engine.instances)
  platform : engine.services.platformDefinitions = engine.platformContractDefinitions
  preferred : Dict.SameNested engine.services.preferredProviders engine.preferredContractProviders
  preferred_tidy : Dict.Tidy engine.preferredContractProviders

/-- The instance that an operation may register. -/
def EngineOp.Admits (op : EngineOp) (instanceId : ExtensionInstanceId) : Prop :=
  match op with
  | .registerExtensionInstance admitted _ _ _ => admitted = instanceId
  | .tryLoadArchive _ admitted _ => admitted = instanceId
  | _ => False

/-- The instance that an operation may start. -/
def EngineOp.Starts (op : EngineOp) (instanceId : ExtensionInstanceId) : Prop :=
  ∃ script, op = .startExtensionInstance instanceId script

/-- The instance that an operation may unregister. -/
def EngineOp.Forgets (op : EngineOp) (instanceId : ExtensionInstanceId) : Prop :=
  ∃ script, op = .unregisterExtensionInstance instanceId script

/-- The kinds of changes that an operation makes. What the registries become is left
open. -/
inductive Change (op : EngineOp) (engine : Engine) : Engine → Prop
  | facilities (facilities : EngineFacilities) :
      Change op engine { engine with toEngineFacilities := facilities }
  | enroll (facilities : EngineFacilities) (ext : ManagedExtension)
      (permitted : op.Admits ext.instanceId)
      (fresh : engine.extensions.lookup ext.instanceId = none)
      (registered : ext.state = .registered)
      (valid : ext.manifest.validate = .ok ())
      (unclaimed : Disjoint ext.contributionKeys engine.activeContributions)
      (definitions : engine.validateContractDefinitions ext.scopeId ext.contractDefinitions =
        .ok ())
      (dependencies : ∀ dependency ∈ ext.executionTargetDependencies,
        ActiveIn engine.instances dependency.provider.instanceId) :
      Change op engine (Engine.keep { engine with toEngineFacilities := facilities } ext)
  | activate (facilities : EngineFacilities) (ext : ManagedExtension)
      (permitted : op.Starts ext.instanceId)
      (found : engine.extensions.lookup ext.instanceId = some ext)
      (inactive : ext.state ≠ .active)
      (unclaimed : ext.state = .stopped →
        Disjoint ext.contributionKeys engine.activeContributions) :
      Change op engine { engine with
        toEngineFacilities := facilities
        activeContributions :=
          if ext.state = .stopped then engine.activeContributions ∪ ext.contributionKeys
          else engine.activeContributions
        extensions := engine.extensions.insert ext.instanceId { ext with state := .active } }
  | halt (facilities : EngineFacilities) (ext : ManagedExtension)
      (found : engine.extensions.lookup ext.instanceId = some ext)
      (running : ext.state ≠ .stopped) :
      Change op engine { engine with
        toEngineFacilities := facilities
        activeContributions := engine.activeContributions \ ext.contributionKeys
        extensions := engine.extensions.insert ext.instanceId { ext with state := .stopped } }
  | forget (ext : ManagedExtension)
      (permitted : op.Forgets ext.instanceId)
      (found : engine.extensions.lookup ext.instanceId = some ext)
      (inactive : ext.state ≠ .active)
      (unused : ∀ instanceId other, engine.extensions.lookup instanceId = some other →
        instanceId ≠ ext.instanceId → other.dependsOn ext.instanceId = false) :
      Change op engine (engine.forget ext)
  | definePlatform (facilities : EngineFacilities) (scopeId : RuntimeScopeId)
      (definition : ContractDefinition)
      (unused : ((engine.extensionsIn scopeId).any fun ext =>
        ext.contractDefinitions.any fun owned =>
          owned.definition.contract == definition.contract) = false) :
      Change op engine { engine with
        toEngineFacilities := facilities
        platformContractDefinitions := engine.platformContractDefinitions.insert scopeId
          ((engine.platformDefinitionsIn scopeId).insert definition.contract definition) }
  | clearPlatform (scopeId : RuntimeScopeId) :
      Change op engine (engine.clearPlatformContractDefinitionsInScope scopeId)
  | prefer (facilities : EngineFacilities)
      (providers : Dict RuntimeScopeId (Dict ContractKey ComponentRef)) :
      Change op engine { engine with
        toEngineFacilities := facilities
        preferredContractProviders := providers }
  | grantSecret (ext : ManagedExtension) (component : ComponentDescriptor)
      (pattern : SecretPathPattern)
      (permitted : op =
        .grantRequestedSecretReadForInstance ext.instanceId component.id pattern)
      (found : engine.extensions.lookup ext.instanceId = some ext)
      (described : component ∈ ext.manifest.components)
      (requested : ∃ requested ∈ component.permissions.secretRead,
        requested.allowsPattern pattern = true) :
      Change op engine { engine with
        secrets := engine.secrets.grantRead ⟨ext.instanceId, component.id⟩ pattern }
  | grantPermission (ext : ManagedExtension) (component : ComponentDescriptor)
      (permission : RuntimePermission)
      (permitted : op =
        .grantRequestedRuntimePermissionForInstance ext.instanceId component.id permission)
      (found : engine.extensions.lookup ext.instanceId = some ext)
      (described : component ∈ ext.manifest.components)
      (requested : permission ∈ component.permissions.runtime) :
      Change op engine { engine with
        runtimePermissions :=
          engine.runtimePermissions.grant ⟨ext.instanceId, component.id⟩ permission }
  | revokeSecrets (owner : ComponentRef) :
      Change op engine { engine with secrets := engine.secrets.revokeComponent owner }

/-- A change that leaves the registries consistent. -/
def Move (op : EngineOp) (engine engine' : Engine) : Prop :=
  Change op engine engine' ∧ Consistent engine'

/-- Changes that follow each other. -/
abbrev Evolves (op : EngineOp) : Engine → Engine → Prop :=
  Relation.ReflTransGen (Move op)

variable {engine' : Engine}

theorem Evolves.single {op : EngineOp} {engine : Engine} (h : Change op engine engine')
    (hconsistent : Consistent engine') : Evolves op engine engine' :=
  Relation.ReflTransGen.single ⟨h, hconsistent⟩

theorem Evolves.consistent {op : EngineOp} {engine : Engine} (h : Evolves op engine engine')
    (hconsistent : Consistent engine) : Consistent engine' := by
  induction h with
  | refl => exact hconsistent
  | tail _ hmove _ => exact hmove.2

/-- What every change of a consistent engine preserves is preserved. -/
theorem Evolves.preserves {op : EngineOp} {P : Engine → Prop}
    (hstep : ∀ engine engine', Consistent engine → P engine → Change op engine engine' →
      Consistent engine' → P engine') {engine : Engine} (h : Evolves op engine engine')
    (hconsistent : Consistent engine) (hP : P engine) : P engine' := by
  induction h with
  | refl => exact hP
  | tail hbefore hmove ih =>
      exact hstep _ _ (Evolves.consistent hbefore hconsistent) ih hmove.1 hmove.2

/-! ## Activation in both registries -/

namespace Mirrors

variable {facilities : EngineFacilities} {instances : Instances}
  {instanceId : ExtensionInstanceId} {ext : ManagedExtension}

/-- An entry that is put in again changes nothing. -/
theorem update_self (hfound : instances instanceId = some ext) :
    Function.update instances instanceId (some ext) = instances := by
  rw [← hfound]
  exact Function.update_eq_self instanceId instances

/-- Deactivation in the user interface succeeds, whatever is poisoned. -/
theorem setUiActive_false (h : MirrorsUi facilities.ui instances)
    (hfound : instances instanceId = some ext) {state : ExtensionState} (hstate : state ≠ .active) :
    ∃ ui', facilities.setUiActive instanceId false = ({ facilities with ui := ui' }, .ok ()) ∧
      MirrorsUi ui' (Function.update instances instanceId (some { ext with state := state })) := by
  obtain ⟨ui', hset, hmirrors⟩ :=
    h.setInstanceActive hfound false state (by simpa using hstate)
  refine ⟨ui', ?_, hmirrors⟩
  simp [EngineFacilities.setUiActive, hset]

end Mirrors

/-- Other instances only gain and lose nothing when one instance changes. -/
theorem activeIn_update {instances : Instances} {instanceId other : ExtensionInstanceId}
    {ext : ManagedExtension} :
    ActiveIn (Function.update instances instanceId (some ext)) other ↔
      if other = instanceId then ext.state = .active else ActiveIn instances other := by
  unfold ActiveIn
  rw [Function.update_apply]
  split <;> simp

/-- The facilities of an engine that is consistent but for its facilities. -/
theorem Consistent.withFacilities {engine : Engine} (h : Consistent engine)
    {facilities : EngineFacilities} (hmirrors : Mirrors facilities engine.instances)
    (howners : facilities.OwnersIn (ActiveIn engine.instances))
    (hplatform : facilities.services.platformDefinitions = engine.services.platformDefinitions)
    (hpreferred : facilities.services.preferredProviders = engine.services.preferredProviders) :
    Consistent { engine with toEngineFacilities := facilities } where
  keyed := h.keyed
  mirrors := hmirrors
  owners := howners
  platform := hplatform.trans h.platform
  preferred := by
    change Dict.SameNested facilities.services.preferredProviders _
    rw [hpreferred]
    exact h.preferred
  preferred_tidy := h.preferred_tidy

/-- One instance changes, with its entries in the registries. -/
theorem Consistent.withInstance {engine : Engine} (h : Consistent engine) (ext : ManagedExtension)
    (hextensions : engine'.extensions = engine.extensions.insert ext.instanceId ext)
    (hplatform : engine'.platformContractDefinitions = engine.platformContractDefinitions)
    (hpreferred : engine'.preferredContractProviders = engine.preferredContractProviders)
    (hmirrors : Mirrors engine'.toEngineFacilities
      (Function.update engine.instances ext.instanceId (some ext)))
    (howners : engine'.toEngineFacilities.OwnersIn
      (ActiveIn (Function.update engine.instances ext.instanceId (some ext)))) (hservicePlatform :
      engine'.services.platformDefinitions = engine.services.platformDefinitions)
    (hservicePreferred :
      engine'.services.preferredProviders = engine.services.preferredProviders) :
    Consistent engine' := by
  have hinstances : engine'.instances =
      Function.update engine.instances ext.instanceId (some ext) := by
    unfold Engine.instances
    rw [hextensions]
    exact lookup_insert_eq_update _ _ _
  constructor
  · intro instanceId other hlookup
    rw [hextensions, Dict.lookup_insert_ite] at hlookup
    split at hlookup
    · next heq =>
        cases hlookup
        exact heq.symm
    · exact h.keyed instanceId other hlookup
  · rw [hinstances]
    exact hmirrors
  · rw [hinstances]
    exact howners
  · rw [hservicePlatform, hplatform]
    exact h.platform
  · rw [hservicePreferred, hpreferred]
    exact h.preferred
  · rw [hpreferred]
    exact h.preferred_tidy

theorem instanceOf_ok {engine : Engine} {instanceId : ExtensionInstanceId}
    {ext : ManagedExtension} (h : engine.instanceOf instanceId = .ok ext) :
    engine.extensions.lookup instanceId = some ext := by
  unfold Engine.instanceOf at h
  split at h
  · next hfound =>
      cases h
      exact hfound
  · cases h

/-! ## Start -/

/-- Facilities that mirror some instances, with the policies of others. -/
structure Settled (instances : Instances) (facilities facilities' : EngineFacilities) : Prop where
  mirrors : Mirrors facilities' instances
  owners : facilities'.OwnersIn (ActiveIn instances)
  platform : facilities'.services.platformDefinitions = facilities.services.platformDefinitions
  preferred : facilities'.services.preferredProviders = facilities.services.preferredProviders

theorem deactivateInstance_platformDefinitions (services : ServiceRuntimeState)
    (instanceId : ExtensionInstanceId) :
    (services.deactivateInstance instanceId).platformDefinitions =
      services.platformDefinitions := by
  unfold ServiceRuntimeState.deactivateInstance
  split
  · rfl
  · split <;> rfl

theorem deactivateInstance_preferredProviders (services : ServiceRuntimeState)
    (instanceId : ExtensionInstanceId) :
    (services.deactivateInstance instanceId).preferredProviders =
      services.preferredProviders := by
  unfold ServiceRuntimeState.deactivateInstance
  split
  · rfl
  · split <;> rfl

/-- The owners of effects and targets while an instance is started or stopped. -/
def ActiveOr (instances : Instances) (instanceId other : ExtensionInstanceId) : Prop :=
  ActiveIn instances other ∨ other = instanceId

/-- Without those of the instance itself. -/
theorem OwnersIn.settle {facilities : EngineFacilities} {instances : Instances}
    {instanceId : ExtensionInstanceId}
    (h : facilities.OwnersIn (ActiveOr instances instanceId)) (ext : ManagedExtension) :
    (facilities.revokeInstance instanceId).OwnersIn
      (ActiveIn (Function.update instances instanceId (some ext))) := by
  refine (h.revokeInstance instanceId).mono ?_
  rintro other ⟨hactive | hself, hother⟩
  · exact activeIn_update.mpr (by rwa [if_neg hother])
  · exact absurd hself hother

section Start

variable {facilities : EngineFacilities} {instances : Instances} {ext : ManagedExtension}
  (hservices : MirrorsServices facilities.services instances)
  (howners : facilities.OwnersIn (ActiveOr instances ext.instanceId))
  (hfound : instances ext.instanceId = some ext)
include hservices howners hfound

/-- A start that fails in a callback leaves the registries as they were. -/
theorem settled_abandonStart (hui : MirrorsUi facilities.ui instances)
    (hinactive : ext.state ≠ .active) : ∃ facilities',
    (facilities.revokeInstance ext.instanceId).setUiActive ext.instanceId false =
      (facilities', .ok ()) ∧
    Settled instances facilities (facilities'.deactivateServices ext.instanceId) := by
  obtain ⟨ui', hset, hmirrorsUi⟩ := @Mirrors.setUiActive_false
    (facilities.revokeInstance ext.instanceId) instances ext.instanceId ext hui hfound
    ext.state hinactive
  have hmirrorsServices := hservices.deactivate hfound ext.state hinactive
  have hsettled := OwnersIn.settle howners ext
  rw [Mirrors.update_self hfound] at hmirrorsUi hmirrorsServices hsettled
  exact ⟨_, hset, ⟨hmirrorsServices, hmirrorsUi⟩, hsettled.congr rfl rfl,
    deactivateInstance_platformDefinitions _ _, deactivateInstance_preferredProviders _ _⟩

/-- The activation in both registries is mirrored. When it fails, at most the user
interface was activated. -/
theorem finalizeStart_cases (hui : MirrorsUi facilities.ui instances) :
    (∃ facilities', Engine.finalizeStart ext.instanceId facilities = (facilities', none) ∧
      Settled (Function.update instances ext.instanceId (some { ext with state := .active }))
        facilities facilities') ∨
    (∃ ui' error, Engine.finalizeStart ext.instanceId facilities =
        ({ facilities with ui := ui' }, some error) ∧
      ∃ state, MirrorsUi ui'
        (Function.update instances ext.instanceId (some { ext with state := state }))) := by
  unfold Engine.finalizeStart
  by_cases hpoisoned : facilities.uiPoisoned = true
  · have hrefused : facilities.setUiActive ext.instanceId true =
        (facilities, .error .runtimeUnavailable) := by
      simp [EngineFacilities.setUiActive, hpoisoned]
    rw [hrefused]
    refine .inr ⟨facilities.ui, .ui .runtimeUnavailable, rfl, ext.state, ?_⟩
    rw [Mirrors.update_self hfound]
    exact hui
  · obtain ⟨ui', hset, hmirrorsUi⟩ := hui.setInstanceActive hfound true .active (by simp)
    have hactive : facilities.setUiActive ext.instanceId true =
        ({ facilities with ui := ui' }, .ok ()) := by
      simp [EngineFacilities.setUiActive, hpoisoned, hset]
    rw [hactive]
    dsimp only
    by_cases hlocked : facilities.servicesPoisoned = true
    · exact .inr ⟨ui', .serviceRuntimeUnavailable,
        by simp [EngineFacilities.activateServices, hlocked], .active, hmirrorsUi⟩
    · obtain ⟨services', hactivate, hplatform, hpreferred, hmirrorsServices⟩ :=
        hservices.activate hfound
      let activated : EngineFacilities := { facilities with ui := ui', services := services' }
      have hactivated : activated.OwnersIn (ActiveOr instances ext.instanceId) :=
        howners.congr rfl rfl
      refine .inl ⟨activated,
        by simp [EngineFacilities.activateServices, hlocked, hactivate, activated],
        ⟨hmirrorsServices, hmirrorsUi⟩, hactivated.mono ?_, hplatform, hpreferred⟩
      rintro other (hother | hself)
      · rw [activeIn_update]
        split
        · rfl
        · exact hother
      · rw [activeIn_update, if_pos hself]

end Start

/-- Taking contributions back that were not there before gives the set back. -/
theorem union_sdiff_of_disjoint {α : Type} [DecidableEq α] {added kept : Finset α}
    (h : Disjoint added kept) : (kept ∪ added) \ added = kept := by
  rw [Finset.union_sdiff_right]
  exact Finset.sdiff_eq_self_of_disjoint h.symm

/-- The contributions that are active once an instance is to be started. -/
def Engine.claimed (engine : Engine) (ext : ManagedExtension) :
    Finset (RuntimeScopeId × ContributionId) :=
  if ext.state = .stopped then engine.activeContributions ∪ ext.contributionKeys
  else engine.activeContributions

/-- A start claims the contributions of a stopped instance, if nothing else has. -/
theorem reclaimContributions_ok {engine : Engine} {ext : ManagedExtension}
    (h : engine.reclaimContributions ext = .ok engine') :
    (ext.state = .stopped → Disjoint ext.contributionKeys engine.activeContributions) ∧
      engine' = { engine with activeContributions := engine.claimed ext } := by
  unfold Engine.reclaimContributions at h
  unfold Engine.claimed
  split at h
  · next hstopped =>
      split at h
      · cases h
      · next hnone =>
          cases h
          refine ⟨fun _ => ?_, by rw [if_pos hstopped]⟩
          rw [Finset.disjoint_left]
          intro key hkey hactive
          obtain ⟨owned, howned, rfl⟩ := List.mem_map.mp (List.mem_toFinset.mp hkey)
          simpa [hactive] using List.find?_eq_none.mp hnone owned howned
  · next hstopped =>
      cases h
      exact ⟨fun h => absurd h hstopped, by rw [if_neg hstopped]⟩

/-- A start that is rolled back gives the claims up. -/
theorem withdraw_claimed {engine : Engine} {ext : ManagedExtension}
    (hunclaimed : ext.state = .stopped → Disjoint ext.contributionKeys engine.activeContributions)
    (facilities : EngineFacilities) :
    Engine.withdrawContributions
      { engine with
        toEngineFacilities := facilities
        activeContributions := engine.claimed ext } ext =
      { engine with toEngineFacilities := facilities } := by
  unfold Engine.withdrawContributions Engine.claimed
  split
  · next hstopped => rw [union_sdiff_of_disjoint (hunclaimed hstopped)]
  · rfl

/-- Rolling back a start whose callbacks succeeded leaves the registries as they were. -/
theorem settled_abandonFinalization {engine : Engine} {ext : ManagedExtension}
    {facilities : EngineFacilities} {ui' : UiRuntimeState} {state : ExtensionState}
    (script : InstanceScript) (error : FinalizationError)
    (hfound : engine.extensions.lookup ext.instanceId = some ext) (hinactive : ext.state ≠ .active)
    (hservices : MirrorsServices facilities.services engine.instances)
    (howners : facilities.OwnersIn (ActiveOr engine.instances ext.instanceId))
    (hui : MirrorsUi ui' (Function.update engine.instances ext.instanceId
      (some { ext with state := state })))
    (hunclaimed : ext.state = .stopped →
      Disjoint ext.contributionKeys engine.activeContributions) : ∃ facilities',
    (∃ failure, Engine.abandonFinalization
        { engine with
          toEngineFacilities := { facilities with ui := ui' }
          activeContributions := engine.claimed ext } ext script error =
      ({ engine with toEngineFacilities := facilities' }, .error failure)) ∧
    Settled engine.instances facilities facilities' := by
  let deactivated : EngineFacilities :=
    EngineFacilities.deactivateServices { facilities with ui := ui' } ext.instanceId
  let stopped := Engine.stopComponents engine.secrets ext script deactivated
    ext.components.zipIdx.reverse
  have hsame : deactivated.SameTopology stopped.1 :=
    sameTopology_stopComponents engine.secrets ext script deactivated _
  have hdeactivated : deactivated.OwnersIn (ActiveOr engine.instances ext.instanceId) :=
    howners.congr rfl rfl
  have hstopped : stopped.1.OwnersIn (ActiveOr engine.instances ext.instanceId) :=
    hdeactivated.stopComponents engine.secrets (.inr rfl) script _
  have hmirrorsServices := hservices.deactivate hfound ext.state hinactive
  rw [Mirrors.update_self hfound] at hmirrorsServices
  obtain ⟨ui'', hset, hmirrorsUi⟩ := Mirrors.setUiActive_false (hui.sameRegistrations hsame.ui)
    (Function.update_self _ _ _) hinactive
  rw [Function.update_idem] at hmirrorsUi
  have hsettled := OwnersIn.settle hstopped ext
  rw [Mirrors.update_self hfound] at hmirrorsUi hsettled
  refine ⟨EngineFacilities.revokeInstance { stopped.1 with ui := ui'' } ext.instanceId, ?_,
    ⟨hmirrorsServices.sameComposition hsame.services, hmirrorsUi⟩, hsettled.congr rfl rfl,
    hsame.services.platformDefinitions.trans (deactivateInstance_platformDefinitions _ _),
    hsame.services.preferredProviders.trans (deactivateInstance_preferredProviders _ _)⟩
  unfold Engine.abandonFinalization
  dsimp only
  rw [hset]
  dsimp only
  rw [withdraw_claimed hunclaimed]
  exact ⟨_, rfl⟩

/-- The ways in which unregistering an instance ends. -/
theorem unregister_cases (engine : Engine) (instanceId : ExtensionInstanceId)
    (script : InstanceScript) :
    (∃ error, engine.unregisterExtensionInstance instanceId script = (engine, .error error)) ∨
    ∃ ext, engine.extensions.lookup instanceId = some ext ∧
      engine.ensureExecutionTargetProviderNotInUse instanceId = .ok () ∧
      (ext.state ≠ .active ∧
          engine.unregisterExtensionInstance instanceId script = (engine.forget ext, .ok ()) ∨
        ext.state = .active ∧
          ((∃ error, engine.unregisterExtensionInstance instanceId script =
              ((engine.shutDown ext script).1, .error error)) ∨
            engine.unregisterExtensionInstance instanceId script =
              ((engine.shutDown ext script).1.forget ext, .ok ()))) := by
  unfold Engine.unregisterExtensionInstance
  split
  · exact .inl ⟨_, rfl⟩
  · next hguard =>
      split
      · exact .inl ⟨_, rfl⟩
      · next ext hinstance =>
          refine .inr ⟨ext, instanceOf_ok hinstance, hguard, ?_⟩
          split
          · next hactive =>
              have hstop : engine.stopExtensionInstance instanceId script =
                  engine.shutDown ext script := by
                simp [Engine.stopExtensionInstance, Engine.stopExtensionInstanceInner, hinstance,
                  hactive, hguard]
              rw [hstop]
              refine .inr ⟨hactive, ?_⟩
              split
              · next heq => exact .inl ⟨_, by rw [heq]⟩
              · next heq => exact .inr (by rw [heq])
          · next hinactive => exact .inl ⟨hinactive, rfl⟩

section Launch

variable {op : EngineOp} {engine : Engine} (h : Consistent engine)
include h

/-- The callbacks of a start leave the entries and own effects and targets. -/
theorem Consistent.startComponents (ext : ManagedExtension) (script : InstanceScript)
    (components : List (ManagedComponent × Nat)) :
    let started := Engine.startComponents engine.secrets ext script engine.toEngineFacilities []
      components
    Mirrors started.1 engine.instances ∧
      started.1.OwnersIn (ActiveOr engine.instances ext.instanceId) ∧
      started.1.services.platformDefinitions = engine.services.platformDefinitions ∧
      started.1.services.preferredProviders = engine.services.preferredProviders :=
  have hsame := sameTopology_startComponents engine.secrets ext script engine.toEngineFacilities []
    components
  have howners : engine.toEngineFacilities.OwnersIn
      (ActiveOr engine.instances ext.instanceId) := h.owners.mono fun _ => .inl
  ⟨h.mirrors.sameTopology hsame, howners.startComponents engine.secrets (.inr rfl) script [] _,
    hsame.services.platformDefinitions, hsame.services.preferredProviders⟩

/-- The ways in which the launch of an instance ends. -/
theorem Consistent.launch_cases {ext : ManagedExtension} (script : InstanceScript)
    (hfound : engine.extensions.lookup ext.instanceId = some ext) (hinactive : ext.state ≠ .active)
    (hunclaimed : ext.state = .stopped →
      Disjoint ext.contributionKeys engine.activeContributions) :
    (∃ facilities', Engine.launch { engine with activeContributions := engine.claimed ext } ext
        script =
        ({ engine with
            toEngineFacilities := facilities'
            activeContributions := engine.claimed ext
            extensions := engine.extensions.insert ext.instanceId
              { ext with state := .active } }, .ok ()) ∧
      Settled (Function.update engine.instances ext.instanceId
        (some { ext with state := .active })) engine.toEngineFacilities facilities') ∨
    (∃ facilities' error,
      Engine.launch { engine with activeContributions := engine.claimed ext } ext script =
        ({ engine with toEngineFacilities := facilities' }, .error error) ∧
      Settled engine.instances engine.toEngineFacilities facilities') := by
  obtain ⟨hmirrors, howners, hplatform, hpreferred⟩ :=
    h.startComponents ext script ext.components.zipIdx
  unfold Engine.launch
  dsimp only
  cases hran : Engine.startComponents engine.secrets ext script engine.toEngineFacilities []
      ext.components.zipIdx with
  | mk facilities outcome =>
      rw [hran] at hmirrors howners hplatform hpreferred
      dsimp only at hmirrors howners hplatform hpreferred
      cases outcome with
      | some failure =>
          obtain ⟨facilities', hset, hsettled⟩ :=
            settled_abandonStart hmirrors.services howners hfound hmirrors.ui hinactive
          refine .inr ⟨facilities'.deactivateServices ext.instanceId, failure.toError ext, ?_,
            hsettled.mirrors, hsettled.owners, hsettled.platform.trans hplatform,
            hsettled.preferred.trans hpreferred⟩
          simp only [Engine.abandonStart]
          rw [hset]
          dsimp only
          rw [withdraw_claimed hunclaimed]
      | none =>
          dsimp only
          rcases finalizeStart_cases hmirrors.services howners hfound hmirrors.ui with
            ⟨facilities', hfinal, hsettled⟩ | ⟨ui', error, hfinal, state, hui⟩
          · rw [hfinal]
            exact .inl ⟨facilities', rfl, hsettled.mirrors, hsettled.owners,
              hsettled.platform.trans hplatform, hsettled.preferred.trans hpreferred⟩
          · rw [hfinal]
            obtain ⟨facilities', ⟨failure, habandon⟩, hsettled⟩ :=
              settled_abandonFinalization script error hfound hinactive hmirrors.services howners
                hui hunclaimed
            exact .inr ⟨facilities', failure, habandon, hsettled.mirrors, hsettled.owners,
              hsettled.platform.trans hplatform, hsettled.preferred.trans hpreferred⟩

/-- Starting an instance activates it, or only leaves traces in the registries. -/
theorem Consistent.start (instanceId : ExtensionInstanceId) (script : InstanceScript)
    (hpermitted : op.Starts instanceId) :
    Evolves op engine (engine.startExtensionInstance instanceId script).1 := by
  unfold Engine.startExtensionInstance
  split
  · exact .refl
  · next ext hinstance =>
      obtain rfl := h.keyed _ _ (instanceOf_ok hinstance)
      have hfound := instanceOf_ok hinstance
      split
      · exact .refl
      · next hinactive =>
          split
          · exact .refl
          · split
            · exact .refl
            · next engine' hreclaim =>
                obtain ⟨hunclaimed, rfl⟩ := reclaimContributions_ok hreclaim
                rcases h.launch_cases script hfound hinactive hunclaimed with
                  ⟨facilities', hlaunch, hsettled⟩ | ⟨facilities', error, hlaunch, hsettled⟩
                · rw [hlaunch]
                  exact .single (.activate facilities' ext hpermitted hfound hinactive hunclaimed)
                    (h.withInstance { ext with state := .active } rfl rfl rfl hsettled.mirrors
                      hsettled.owners hsettled.platform hsettled.preferred)
                · rw [hlaunch]
                  exact .single (.facilities facilities')
                    (h.withFacilities hsettled.mirrors hsettled.owners hsettled.platform
                      hsettled.preferred)

/-- Stopping a running instance halts it, whatever its callbacks do. -/
theorem Consistent.shutDown_cases {ext : ManagedExtension} (script : InstanceScript)
    (hfound : engine.extensions.lookup ext.instanceId = some ext) : ∃ facilities',
    (engine.shutDown ext script).1 =
      { engine with
        toEngineFacilities := facilities'
        activeContributions := engine.activeContributions \ ext.contributionKeys
        extensions := engine.extensions.insert ext.instanceId { ext with state := .stopped } } ∧
    (∀ error, (engine.shutDown ext script).2 = .error error →
      ∃ extensionId failures, error = .stopFailed extensionId failures) ∧
    Settled (Function.update engine.instances ext.instanceId
      (some { ext with state := .stopped })) engine.toEngineFacilities facilities' := by
  obtain ⟨ui', hset, hmirrorsUi⟩ := @Mirrors.setUiActive_false engine.toEngineFacilities
    engine.instances ext.instanceId ext h.mirrors.ui hfound .stopped (by simp)
  let deactivated : EngineFacilities :=
    EngineFacilities.deactivateServices { engine.toEngineFacilities with ui := ui' } ext.instanceId
  let stopped := Engine.stopComponents engine.secrets ext script deactivated
    ext.components.zipIdx.reverse
  have hsame : deactivated.SameTopology stopped.1 :=
    sameTopology_stopComponents engine.secrets ext script deactivated _
  have howners : engine.toEngineFacilities.OwnersIn
      (ActiveOr engine.instances ext.instanceId) := h.owners.mono fun _ => .inl
  have hdeactivated : deactivated.OwnersIn (ActiveOr engine.instances ext.instanceId) :=
    howners.congr rfl rfl
  have hstopped : stopped.1.OwnersIn (ActiveOr engine.instances ext.instanceId) :=
    hdeactivated.stopComponents engine.secrets (.inr rfl) script _
  have hmirrorsServices := h.mirrors.services.deactivate hfound .stopped (by simp)
  have hmirrors : Mirrors stopped.1 _ :=
    Mirrors.sameTopology ⟨hmirrorsServices, hmirrorsUi⟩ hsame
  refine ⟨stopped.1.revokeInstance ext.instanceId, ?_, ?_, ⟨hmirrors.services, hmirrors.ui⟩,
    OwnersIn.settle hstopped _,
    hsame.services.platformDefinitions.trans (deactivateInstance_platformDefinitions _ _),
    hsame.services.preferredProviders.trans (deactivateInstance_preferredProviders _ _)⟩
  · unfold Engine.shutDown
    rw [hset]
  · unfold Engine.shutDown
    rw [hset]
    intro error herror
    dsimp only at herror
    split at herror
    · cases herror
    · cases herror
      exact ⟨_, _, rfl⟩

/-- Stopping an instance, with or without the guard, halts it or does nothing. -/
theorem Consistent.stopInner (instanceId : ExtensionInstanceId) (script : InstanceScript)
    (enforceProviderGuard : Bool) :
    Evolves op engine
      (engine.stopExtensionInstanceInner instanceId script enforceProviderGuard).1 := by
  unfold Engine.stopExtensionInstanceInner
  split
  · exact .refl
  · next ext hinstance =>
      obtain rfl := h.keyed _ _ (instanceOf_ok hinstance)
      have hfound := instanceOf_ok hinstance
      split
      · exact .refl
      · next hrunning =>
          have hhalt : Evolves op engine (engine.shutDown ext script).1 := by
            obtain ⟨facilities', hshut, -, hsettled⟩ := h.shutDown_cases script hfound
            rw [hshut]
            exact .single (.halt facilities' ext hfound hrunning)
              (h.withInstance { ext with state := .stopped } rfl rfl rfl hsettled.mirrors
                hsettled.owners hsettled.platform hsettled.preferred)
          split
          · split
            · exact .refl
            · exact hhalt
          · exact hhalt

/-- A quarantine halts instances. -/
theorem Consistent.quarantineRecursive (scripts : ExtensionInstanceId → InstanceScript)
    (depth : Nat) (visited : List ExtensionInstanceId) (instanceId : ExtensionInstanceId) :
    Evolves op engine
      (Engine.quarantineRecursive scripts depth (engine, visited) instanceId).1.1 := by
  induction depth generalizing engine visited instanceId with
  | zero => exact .refl
  | succ depth ih =>
      have heach : ∀ (dependents : List ExtensionInstanceId) (engine : Engine)
          (visited : List ExtensionInstanceId), Consistent engine →
          Evolves op engine (Engine.quarantineEach (Engine.quarantineRecursive scripts depth)
            (engine, visited) dependents).1.1 := by
        intro dependents
        induction dependents with
        | nil => exact fun engine visited _ => .refl
        | cons dependent rest ihRest =>
            intro engine visited hconsistent
            have hfirst := ih hconsistent visited dependent
            simp only [Engine.quarantineEach]
            cases hquarantine : Engine.quarantineRecursive scripts depth (engine, visited)
                dependent with
            | mk state result =>
                rw [hquarantine] at hfirst
                cases result with
                | error error => exact hfirst
                | ok value =>
                    exact Relation.ReflTransGen.trans hfirst
                      (ihRest state.1 state.2 (Evolves.consistent hfirst hconsistent))
      simp only [Engine.quarantineRecursive]
      split
      · exact .refl
      · have hdependents := heach (engine.activeDependentsOf instanceId) engine
          (instanceId :: visited) h
        cases heach : Engine.quarantineEach (Engine.quarantineRecursive scripts depth)
            (engine, instanceId :: visited) (engine.activeDependentsOf instanceId) with
        | mk state result =>
            rw [heach] at hdependents
            cases result with
            | error error => exact hdependents
            | ok value =>
                refine Relation.ReflTransGen.trans hdependents ?_
                have hstop := @Consistent.stopInner op _ (Evolves.consistent hdependents h)
                  instanceId (scripts instanceId) false
                dsimp only
                unfold Engine.containStopFailure
                split
                · exact hstop
                · exact hstop

/-- Running a callback leaves traces in the registries, and halts instances when it
fails. -/
theorem Consistent.runActive (owner : ComponentRef) (entry : RuntimeCallback)
    (callback : Callback) (scripts : ExtensionInstanceId → InstanceScript) :
    Evolves op engine (engine.runActiveComponent owner entry callback scripts).1 := by
  unfold Engine.runActiveComponent
  split
  · exact .refl
  · next ext hfound =>
      split
      · next hactive =>
          let ran := engine.runCallback engine.secrets owner (.runtime entry) callback
          have hsame : engine.toEngineFacilities.SameTopology ran :=
            engine.sameTopology_runCallback engine.secrets owner _ callback
          have hconsistent : Consistent { engine with toEngineFacilities := ran } :=
            h.withFacilities (h.mirrors.sameTopology hsame)
              (h.owners.runCallback engine.secrets ⟨ext, hfound, hactive.1⟩ _ callback)
              hsame.services.platformDefinitions hsame.services.preferredProviders
          have hran : Evolves op engine { engine with toEngineFacilities := ran } :=
            .single (.facilities ran) hconsistent
          dsimp only
          split
          · exact Relation.ReflTransGen.trans hran
              (hconsistent.quarantineRecursive scripts _ [] owner.instanceId)
          · exact hran
      · exact .refl

/-- The instances that were instantiated through another one. -/
theorem Consistent.mem_dependents {providerId instanceId : ExtensionInstanceId} :
    instanceId ∈ engine.executionTargetDependentsOf providerId ↔
      ∃ ext, engine.extensions.lookup instanceId = some ext ∧ instanceId ≠ providerId ∧
        ext.dependsOn providerId = true := by
  unfold Engine.executionTargetDependentsOf
  rw [List.mem_insertionSort, List.mem_dedup, List.mem_map]
  constructor
  · rintro ⟨ext, hmem, rfl⟩
    obtain ⟨hvalue, htest⟩ := List.mem_filter.mp hmem
    obtain ⟨key, hlookup⟩ := Dict.mem_values_iff.mp hvalue
    obtain rfl := h.keyed key ext hlookup
    simp only [Bool.and_eq_true, bne_iff_ne] at htest
    exact ⟨ext, hlookup, htest.1, htest.2⟩
  · rintro ⟨ext, hlookup, hother, hdepends⟩
    obtain rfl := h.keyed instanceId ext hlookup
    refine ⟨ext, List.mem_filter.mpr ⟨Dict.mem_values_iff.mpr ⟨_, hlookup⟩, ?_⟩, rfl⟩
    simp [hother, hdepends]

/-- An instance that passes the guard has no dependents. -/
theorem Consistent.unused_of_guard {instanceId : ExtensionInstanceId}
    (hguard : engine.ensureExecutionTargetProviderNotInUse instanceId = .ok ())
    (other : ExtensionInstanceId) (ext : ManagedExtension)
    (hlookup : engine.extensions.lookup other = some ext) (hother : other ≠ instanceId) :
    ext.dependsOn instanceId = false := by
  by_contra hdepends
  rw [Bool.not_eq_false] at hdepends
  have hmem := h.mem_dependents.mpr ⟨ext, hlookup, hother, hdepends⟩
  unfold Engine.ensureExecutionTargetProviderNotInUse at hguard
  dsimp only at hguard
  split at hguard
  · next hempty =>
      rw [List.isEmpty_iff] at hempty
      rw [hempty] at hmem
      cases hmem
  · cases hguard

/-- Forgetting an instance keeps the registries consistent. -/
theorem Consistent.forgotten (ext : ManagedExtension)
    (hfound : engine.extensions.lookup ext.instanceId = some ext)
    (hinactive : ext.state ≠ .active) : Consistent (engine.forget ext) := by
  have hinstances : (engine.forget ext).instances =
      Function.update engine.instances ext.instanceId none :=
    lookup_erase_eq_update _ _
  have hservices : engine.services.instances.lookup ext.instanceId = some ext.serviceInstance :=
    h.mirrors.services.lookup hfound
  have hunregistered : (engine.forget ext).services =
      ServiceRuntimeState.topologyChanged { engine.services with
        instances := engine.services.instances.erase ext.instanceId } := by
    simp only [Engine.forget, ServiceRuntimeState.unregisterInstance, hservices,
      Option.isSome_some, if_true]
  constructor
  · intro instanceId other hlookup
    have herased : (engine.extensions.erase ext.instanceId).lookup instanceId = some other :=
      hlookup
    rw [Dict.lookup_erase_ite] at herased
    split at herased
    · cases herased
    · exact h.keyed instanceId other herased
  · rw [hinstances]
    constructor
    · intro other
      rw [hunregistered, Function.update_apply]
      simp only [ServiceRuntimeState.topologyChanged, Dict.lookup_erase_ite]
      split
      · rfl
      · exact h.mirrors.services other
    · intro other
      have hentry := h.mirrors.ui ext.instanceId
      cases hinst : engine.ui.instances.lookup ext.instanceId with
      | none =>
          have hnone : engine.instances ext.instanceId = some ext := hfound
          rw [hinst, hnone] at hentry
          cases hentry
      | some inst =>
          simp only [Engine.forget, UiRuntimeState.unregisterInstance, hinst,
            Function.update_apply, Dict.lookup_erase_ite]
          split
          · rfl
          · exact h.mirrors.ui other
  · rw [hinstances]
    have hkept : ∀ other, ActiveIn engine.instances other → other ≠ ext.instanceId →
        ActiveIn (Function.update engine.instances ext.instanceId none) other := by
      intro other hactive hother
      unfold ActiveIn
      rw [Function.update_of_ne hother]
      exact hactive
    have hother : ∀ other, ActiveIn engine.instances other → other ≠ ext.instanceId := by
      rintro other ⟨found, hlookup, hactive⟩ rfl
      have hsame : some ext = some found := hfound.symm.trans hlookup
      cases hsame
      exact hinactive hactive
    constructor
    · intro effectId owned hlookup
      have hactive := h.owners.effects effectId owned hlookup
      exact hkept _ hactive (hother _ hactive)
    · intro target owner hlookup
      simp only [Engine.forget, ExecutionTargetRegistry.revokeInstance, Dict.lookup_retain,
        Option.filter_eq_some_iff] at hlookup
      have hactive := h.owners.targets target owner hlookup.1
      exact hkept _ hactive (hother _ hactive)
  · rw [hunregistered]
    exact h.platform
  · rw [hunregistered]
    exact h.preferred
  · exact h.preferred_tidy

/-- Unregistering an instance halts it when it is active, and then forgets it. -/
theorem Consistent.unregister (instanceId : ExtensionInstanceId) (script : InstanceScript)
    (hpermitted : op.Forgets instanceId) :
    Evolves op engine (engine.unregisterExtensionInstance instanceId script).1 := by
  rcases unregister_cases engine instanceId script with ⟨error, hsame⟩ |
    ⟨ext, hfound, hguard, ⟨hinactive, hforget⟩ | ⟨hactive, hended⟩⟩
  · rw [hsame]
  · obtain rfl := h.keyed _ _ hfound
    rw [hforget]
    exact Evolves.single (.forget ext hpermitted hfound hinactive (h.unused_of_guard hguard))
      (h.forgotten ext hfound hinactive)
  · obtain rfl := h.keyed _ _ hfound
    obtain ⟨facilities', hshut, -, hsettled⟩ := h.shutDown_cases script hfound
    have hhalted : Consistent (engine.shutDown ext script).1 := by
      rw [hshut]
      exact h.withInstance { ext with state := .stopped } rfl rfl rfl hsettled.mirrors
        hsettled.owners hsettled.platform hsettled.preferred
    have hhalt : Evolves op engine (engine.shutDown ext script).1 := by
      refine Evolves.single ?_ hhalted
      rw [hshut]
      exact .halt facilities' ext hfound (by simp [hactive])
    rcases hended with ⟨error, hstopped⟩ | hforgot
    · rw [hstopped]
      exact hhalt
    · let halted : ManagedExtension := { ext with state := .stopped }
      have hlookup : (engine.shutDown ext script).1.extensions.lookup ext.instanceId =
          some halted := by
        rw [hshut]
        exact AList.lookup_insert _
      rw [hforgot]
      refine Relation.ReflTransGen.trans hhalt (Evolves.single
        (.forget halted hpermitted hlookup (by simp [halted]) ?_)
        (hhalted.forgotten halted hlookup (by simp [halted])))
      intro other otherExt hother hne
      rw [hshut] at hother
      dsimp only at hother
      rw [AList.lookup_insert_ne hne] at hother
      exact h.unused_of_guard hguard other otherExt hother hne

end Launch

end Rintawa.ExtensionEngine
