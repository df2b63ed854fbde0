/-
# What operations do to instances

Loading registers one instance or none, a start activates the instance or leaves the instances
alone, a stop halts it or not, and what is unregistered is gone. Apart from that the operations
leave the instances as they are, and what their composition depends on.
-/

import Rintawa.ExtensionEngine.ActivationOrder
import Rintawa.ExtensionEngine.EngineSteps
import Rintawa.ExtensionEngine.Enrolment

namespace Rintawa.ExtensionEngine

open Rintawa.Lib Rintawa.Sdk

/-- What a composition depends on beside the instances. -/
structure SameBeside (engine engine' : Engine) : Prop where
  secrets : engine'.secrets = engine.secrets
  platform : engine'.platformContractDefinitions = engine.platformContractDefinitions
  preferred : engine'.preferredContractProviders = engine.preferredContractProviders

theorem SameBeside.refl (engine : Engine) : SameBeside engine engine :=
  ⟨rfl, rfl, rfl⟩

theorem SameBeside.trans {engine engine' engine'' : Engine} (h : SameBeside engine engine')
    (h' : SameBeside engine' engine'') : SameBeside engine engine'' :=
  ⟨h'.secrets.trans h.secrets, h'.platform.trans h.platform, h'.preferred.trans h.preferred⟩

/-- An operation keeps a reachable engine reachable. -/
theorem reachable_run {engine : Engine} (h : engineSystem.Reachable engine) (op : EngineOp) :
    engineSystem.Reachable (engine.run op).1 :=
  h.step (show engineSystem.step engine ⟨op, (engine.run op).2⟩ (engine.run op).1 from rfl)

/-! ## Loading -/

/-- Loading registers an instance, or leaves everything alone. -/
inductive LoadsInstance (engine : Engine) (instanceId : ExtensionInstanceId)
    (scopeId : RuntimeScopeId) : Engine × EngineResult RtwExtensionLoadOutcome → Prop
  | kept {engine' : Engine} {result : EngineResult RtwExtensionLoadOutcome}
      (hresult : ∀ load, result ≠ .ok (.loaded load))
      (hextensions : engine'.extensions = engine.extensions) (hbeside : SameBeside engine engine') :
      LoadsInstance engine instanceId scopeId (engine', result)
  | loaded {engine' : Engine} {load : RegisteredExtensionLoad} (ext : ManagedExtension)
      (hfresh : engine.extensions.lookup instanceId = none)
      (hinstance : ext.instanceId = instanceId) (hscope : ext.scopeId = scopeId)
      (hstate : ext.state = .registered)
      (hextensions : engine'.extensions = engine.extensions.insert instanceId ext)
      (hbeside : SameBeside engine engine') :
      LoadsInstance engine instanceId scopeId (engine', .ok (.loaded load))

theorem loadsInstance (engine : Engine) (archive : RtwArchive) (instanceId : ExtensionInstanceId)
    (scopeId : RuntimeScopeId) :
    LoadsInstance engine instanceId scopeId
      (engine.tryLoadArchive archive instanceId scopeId) := by
  have hcase := loadCase engine archive instanceId scopeId
  generalize engine.tryLoadArchive archive instanceId scopeId = outcome at hcase ⊢
  cases hcase with
  | refused error hcomplete => exact .kept (fun load h => by cases h) rfl (.refl _)
  | deferred hread hmissing => exact .kept (fun load h => by cases h) rfl (.refl _)
  | @registered manifest loaded outcome hread hcomplete hinstantiate hregister =>
      cases hregister with
      | refused error => exact .kept (fun load h => by cases h) rfl (.refl _)
      | enrolled hvalid hfresh hregister hdefinitions henrolled =>
          cases henrolled with
          | refused | undone | withdrawn =>
              exact .kept (fun load h => by cases h) rfl ⟨rfl, rfl, rfl⟩
          | admitted hservices hui hpresents =>
              exact .loaded _ hfresh rfl rfl rfl rfl ⟨rfl, rfl, rfl⟩

/-- A grant leaves the instances alone. -/
theorem grantPermission_kept (engine : Engine) (instanceId : ExtensionInstanceId)
    (componentId : ComponentId) (permission : RuntimePermission) :
    let engine' := (engine.grantRequestedRuntimePermissionForInstance instanceId componentId
      permission).1
    engine'.extensions = engine.extensions ∧ SameBeside engine engine' := by
  unfold Engine.grantRequestedRuntimePermissionForInstance
  split
  · exact ⟨rfl, .refl _⟩
  · split
    · exact ⟨rfl, .refl _⟩
    · split
      · exact ⟨rfl, rfl, rfl, rfl⟩
      · exact ⟨rfl, .refl _⟩

/-! ## Starting and stopping -/

/-- A start activates an instance that is planned, or leaves the instances alone. -/
inductive StartsInstance (engine : Engine) (instanceId : ExtensionInstanceId) :
    EngineOutcome → Prop
  | refused {engine' : Engine} (error : EngineError)
      (hextensions : engine'.extensions = engine.extensions) (hbeside : SameBeside engine engine') :
      StartsInstance engine instanceId (engine', .error error)
  | active (hactive : engine.isActive instanceId = true) :
      StartsInstance engine instanceId (engine, .ok ())
  | started {engine' : Engine} (ext : ManagedExtension) (plan : ActivationPlan)
      (hfound : engine.extensions.lookup instanceId = some ext)
      (hplan : engine.planExtensionActivation [instanceId] = .ok plan)
      (hextensions :
        engine'.extensions = engine.extensions.insert instanceId { ext with state := .active })
      (hbeside : SameBeside engine engine') :
      StartsInstance engine instanceId (engine', .ok ())

section Starting

variable {engine : Engine} (h : Consistent engine)
include h

theorem startsInstance (instanceId : ExtensionInstanceId) (script : InstanceScript) :
    StartsInstance engine instanceId (engine.startExtensionInstance instanceId script) := by
  unfold Engine.startExtensionInstance
  split
  · exact .refused _ rfl (.refl _)
  · next ext hinstance =>
      have hfound := instanceOf_ok hinstance
      obtain rfl := h.keyed _ _ hfound
      split
      · next hactive =>
          refine .active ?_
          rw [Engine.isActive, hfound]
          exact beq_iff_eq.mpr hactive
      · next hinactive =>
          split
          · exact .refused _ rfl (.refl _)
          · next plan hplan =>
              split
              · exact .refused _ rfl (.refl _)
              · next engine' hreclaim =>
                  obtain ⟨hunclaimed, rfl⟩ := reclaimContributions_ok hreclaim
                  rcases h.launch_cases script hfound hinactive hunclaimed with
                    ⟨facilities', hlaunch, -⟩ | ⟨facilities', error, hlaunch, -⟩
                  · rw [hlaunch]
                    exact .started ext plan hfound hplan rfl ⟨rfl, rfl, rfl⟩
                  · rw [hlaunch]
                    exact .refused _ rfl ⟨rfl, rfl, rfl⟩

/-- A change of one instance that is there. -/
structure ChangesInstance (engine engine' : Engine) (instanceId : ExtensionInstanceId) : Prop where
  others : ∀ other, other ≠ instanceId →
    engine'.extensions.lookup other = engine.extensions.lookup other
  present : (engine'.extensions.lookup instanceId).isSome =
    (engine.extensions.lookup instanceId).isSome
  preferred : engine'.preferredContractProviders = engine.preferredContractProviders

omit h in
theorem ChangesInstance.refl (engine : Engine) (instanceId : ExtensionInstanceId) :
    ChangesInstance engine engine instanceId :=
  ⟨fun _ _ => rfl, rfl, rfl⟩

theorem changesInstance_shutDown {ext : ManagedExtension} (script : InstanceScript)
    (hfound : engine.extensions.lookup ext.instanceId = some ext) :
    ChangesInstance engine (engine.shutDown ext script).1 ext.instanceId := by
  obtain ⟨facilities', hshut, -, -⟩ := h.shutDown_cases script hfound
  rw [hshut]
  refine ⟨fun other hother => AList.lookup_insert_ne hother, ?_, rfl⟩
  dsimp only
  rw [hfound, AList.lookup_insert]
  rfl

/-- A stop at most changes the instance. -/
theorem changesInstance_stop (instanceId : ExtensionInstanceId) (script : InstanceScript) :
    ChangesInstance engine (engine.stopExtensionInstance instanceId script).1 instanceId := by
  unfold Engine.stopExtensionInstance Engine.stopExtensionInstanceInner
  split
  · exact .refl _ _
  · next ext hinstance =>
      have hfound := instanceOf_ok hinstance
      obtain rfl := h.keyed _ _ hfound
      split
      · exact .refl _ _
      · rw [if_pos rfl]
        split
        · exact .refl _ _
        · exact changesInstance_shutDown h script hfound

/-- An instance that is unregistered is gone. After an error it is still there. -/
theorem unregister_outcome (instanceId : ExtensionInstanceId) (script : InstanceScript) :
    let outcome := engine.unregisterExtensionInstance instanceId script
    (∃ error, outcome.2 = .error error) ∧ ChangesInstance engine outcome.1 instanceId ∨
      outcome.2 = .ok () ∧ outcome.1.extensions.lookup instanceId = none ∧
        (∀ other, other ≠ instanceId →
          outcome.1.extensions.lookup other = engine.extensions.lookup other) ∧
        outcome.1.preferredContractProviders = engine.preferredContractProviders := by
  rcases unregister_cases engine instanceId script with ⟨error, hsame⟩ |
    ⟨ext, hfound, -, ⟨-, hforget⟩ | ⟨-, ⟨error, hstopped⟩ | hforgot⟩⟩
  · rw [hsame]
    exact .inl ⟨⟨error, rfl⟩, .refl _ _⟩
  · obtain rfl := h.keyed _ _ hfound
    rw [hforget]
    exact .inr ⟨rfl, AList.lookup_erase _ _, fun other hother => AList.lookup_erase_ne hother, rfl⟩
  · obtain rfl := h.keyed _ _ hfound
    rw [hstopped]
    exact .inl ⟨⟨error, rfl⟩, changesInstance_shutDown h script hfound⟩
  · obtain rfl := h.keyed _ _ hfound
    have hchanges := changesInstance_shutDown h script hfound
    rw [hforgot]
    refine .inr ⟨rfl, AList.lookup_erase _ _, fun other hother => ?_, hchanges.preferred⟩
    exact (AList.lookup_erase_ne hother).trans (hchanges.others other hother)

end Starting

end Rintawa.ExtensionEngine
