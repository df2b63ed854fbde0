/-
# Failed starts

A start that fails is undone. Its instance stays as it was, in the engine and in the
registries; it owns no effects and no targets, and every component whose start callback
was run is stopped once, last first. Nothing that belongs to another instance changes,
except for what a start callback has other components present through services.
-/

import Rintawa.ExtensionEngine.StartOutcomes

namespace Rintawa.ExtensionEngine

open Rintawa.Lib Rintawa.Sdk Rintawa.UiRuntime

/-! ## User interface during a start -/

/-- The component that a request presents something for. -/
def ContextCall.presentsFor : ContextCall → Option ComponentRef
  | .mountUiSurface owner _ => some owner
  | .patchUiSurface owner _ => some owner
  | .unmountUiSurface owner _ => some owner
  | .requestWorldFocus layerOwner _ => some layerOwner
  | .queueAction layerOwner _ => some layerOwner
  | _ => none

/-- A callback presents nothing for an instance. -/
def Callback.PresentsNothingFor (callback : Callback) (other : ExtensionInstanceId) : Prop :=
  ∀ call ∈ callback.calls, ∀ owner, call.presentsFor = some owner → owner.instanceId ≠ other

namespace EngineFacilities

variable {instanceId other : ExtensionInstanceId}

theorem samePresentation_perform (facilities : EngineFacilities) (secrets : SecretManager)
    (owner : ComponentRef) (executionActive : Bool) {call : ContextCall}
    (hcall : ∀ presenter, call.presentsFor = some presenter → presenter.instanceId ≠ other) :
    SamePresentation instanceId other facilities.ui
      (facilities.perform secrets owner executionActive call).ui := by
  have hused : ∀ change, SamePresentation instanceId other facilities.ui (change facilities.ui).1 →
      SamePresentation instanceId other facilities.ui
        (facilities.whileActive executionActive (facilities.useUi change)).ui := by
    intro change hchange
    unfold whileActive useUi
    split
    · split
      · exact .refl _
      · exact hchange
    · exact .refl _
  cases call with
  | registerRuntimeEffect | revokeRuntimeEffect | revokeAllRuntimeEffects | registerTarget
  | revokeTargets => exact .refl _
  | callService | listProviders =>
      simp only [perform, whileActive, useServices]
      split
      · split <;> exact .refl _
      · exact .refl _
  | mountUiSurface presenter snapshot =>
      exact hused _ (SamePresentation.run (hcall presenter rfl) (.inl ⟨snapshot, rfl⟩))
  | patchUiSurface presenter batch =>
      exact hused _ (SamePresentation.run (hcall presenter rfl) (.inr (.inl ⟨batch, rfl⟩)))
  | unmountUiSurface presenter surfaceId =>
      exact hused _ (SamePresentation.run (hcall presenter rfl)
        (.inr (.inr (.inl ⟨surfaceId, rfl⟩))))
  | requestWorldFocus presenter worldId =>
      exact hused _ (SamePresentation.run (hcall presenter rfl)
        (.inr (.inr (.inr (.inl ⟨worldId, rfl⟩)))))
  | queueAction presenter event =>
      exact hused _ (SamePresentation.run (hcall presenter rfl)
        (.inr (.inr (.inr (.inr ⟨event, rfl⟩)))))

theorem samePresentation_runCallback (facilities : EngineFacilities) (secrets : SecretManager)
    (owner : ComponentRef) (kind : CallbackKind) {callback : Callback}
    (hcallback : callback.PresentsNothingFor other) :
    SamePresentation instanceId other facilities.ui
      (facilities.runCallback secrets owner kind callback).ui := by
  have hall : ∀ (calls : List ContextCall) (current : EngineFacilities),
      (∀ call ∈ calls, ∀ presenter, call.presentsFor = some presenter →
        presenter.instanceId ≠ other) →
      SamePresentation instanceId other current.ui
        (performAll secrets owner (decide (kind ≠ .stop)) current calls).ui := by
    intro calls
    induction calls with
    | nil => exact fun current _ => .refl _
    | cons call rest ih =>
        intro current hcalls
        exact (current.samePresentation_perform secrets owner _
          (hcalls call List.mem_cons_self)).trans
            (ih _ fun other hother => hcalls other (List.mem_cons_of_mem call hother))
  exact hall callback.calls { facilities with callbacks := facilities.callbacks ++ [⟨owner, kind⟩] }
    hcallback

theorem samePresentation_startAll (facilities : EngineFacilities) (secrets : SecretManager)
    (ext : ManagedExtension) (script : InstanceScript)
    {components : List (ManagedComponent × Nat)}
    (hnothing : ∀ entry ∈ components, (script.start entry.2).PresentsNothingFor other) :
    SamePresentation instanceId other facilities.ui
      (Engine.startAll secrets ext script facilities components).ui := by
  induction components generalizing facilities with
  | nil => exact .refl _
  | cons entry rest ih =>
      exact (facilities.samePresentation_runCallback secrets _ _
        (hnothing entry List.mem_cons_self)).trans
          (ih _ fun other hother => hnothing other (List.mem_cons_of_mem entry hother))

/-- Components that are being stopped reach neither services nor the user interface. -/
theorem runCallback_stop (facilities : EngineFacilities) (secrets : SecretManager)
    (owner : ComponentRef) (callback : Callback) :
    (facilities.runCallback secrets owner .stop callback).ui = facilities.ui ∧
      (facilities.runCallback secrets owner .stop callback).services = facilities.services := by
  have hperform : ∀ (current : EngineFacilities) (call : ContextCall),
      (current.perform secrets owner false call).ui = current.ui ∧
        (current.perform secrets owner false call).services = current.services := by
    intro current call
    cases call <;> exact ⟨rfl, rfl⟩
  have hall : ∀ (calls : List ContextCall) (current : EngineFacilities),
      (performAll secrets owner false current calls).ui = current.ui ∧
        (performAll secrets owner false current calls).services = current.services := by
    intro calls
    induction calls with
    | nil => exact fun current => ⟨rfl, rfl⟩
    | cons call rest ih =>
        intro current
        obtain ⟨hui, hservices⟩ := hperform current call
        obtain ⟨huiRest, hservicesRest⟩ := ih (current.perform secrets owner false call)
        exact ⟨huiRest.trans hui, hservicesRest.trans hservices⟩
  exact hall callback.calls
      { facilities with callbacks := facilities.callbacks ++ [⟨owner, .stop⟩] }

theorem stopComponents_ui (facilities : EngineFacilities) (secrets : SecretManager)
    (ext : ManagedExtension) (script : InstanceScript)
    (components : List (ManagedComponent × Nat)) :
    (Engine.stopComponents secrets ext script facilities components).1.ui = facilities.ui ∧
      (Engine.stopComponents secrets ext script facilities components).1.services =
        facilities.services := by
  induction components generalizing facilities with
  | nil => exact ⟨rfl, rfl⟩
  | cons entry rest ih =>
      obtain ⟨hui, hservices⟩ :=
        facilities.runCallback_stop secrets (ext.principal entry.1) (script.stop entry.2)
      obtain ⟨huiRest, hservicesRest⟩ := ih (facilities.runCallback secrets
        (ext.principal entry.1) .stop (script.stop entry.2))
      exact ⟨huiRest.trans hui, hservicesRest.trans hservices⟩

end EngineFacilities

/-- The user interface has the same entries, but for the activation of one instance. -/
structure SameEntries (instanceId : ExtensionInstanceId) (ui ui' : UiRuntimeState) : Prop where
  registeredSurfaces : ui'.registeredSurfaces = ui.registeredSurfaces
  registeredLayers : ui'.registeredLayers = ui.registeredLayers
  registeredWorldPresentations :
    ui'.registeredWorldPresentations = ui.registeredWorldPresentations
  others : ∀ other, other ≠ instanceId →
    ui'.instances.lookup other = ui.instances.lookup other
  own : (ui'.instances.lookup instanceId).map (fun inst => (inst.scopeId, inst.surfaces)) =
    (ui.instances.lookup instanceId).map fun inst => (inst.scopeId, inst.surfaces)

namespace SameEntries

variable {instanceId : ExtensionInstanceId} {ui ui' ui'' : UiRuntimeState}

theorem of_sameRegistrations (h : ui.SameRegistrations ui') : SameEntries instanceId ui ui' := by
  refine ⟨h.registeredSurfaces, h.registeredLayers, h.registeredWorldPresentations, ?_, ?_⟩
  · intro other _
    rw [h.instances]
  · rw [h.instances]

theorem trans (h : SameEntries instanceId ui ui') (h' : SameEntries instanceId ui' ui'') :
    SameEntries instanceId ui ui'' :=
  ⟨h'.registeredSurfaces.trans h.registeredSurfaces,
    h'.registeredLayers.trans h.registeredLayers,
    h'.registeredWorldPresentations.trans h.registeredWorldPresentations,
    fun other hother => (h'.others other hother).trans (h.others other hother),
    h'.own.trans h.own⟩

theorem setInstanceActive (isActive : Bool) :
    SameEntries instanceId ui (ui.setInstanceActive instanceId isActive).1 := by
  unfold UiRuntimeState.setInstanceActive
  cases hinst : ui.instances.lookup instanceId with
  | none => exact .of_sameRegistrations (.refl ui)
  | some inst =>
      have hothers : ∀ other, other ≠ instanceId →
          AList.lookup other (ui.instances.insert instanceId { inst with isActive := isActive }) =
            ui.instances.lookup other := fun other hother => AList.lookup_insert_ne hother
      dsimp only
      split
      · exact ⟨rfl, rfl, rfl, hothers, by simp [AList.lookup_insert, hinst]⟩
      · exact ⟨rfl, rfl, rfl, hothers, by simp [AList.lookup_insert, hinst]⟩

/-- An instance that is inactive before and after has the same entry. -/
theorem lookup_eq (h : SameEntries instanceId ui ui')
    (hbefore : ∀ inst, ui.instances.lookup instanceId = some inst → inst.isActive = false)
    (hafter : ∀ inst, ui'.instances.lookup instanceId = some inst → inst.isActive = false)
    (other : ExtensionInstanceId) : ui'.instances.lookup other = ui.instances.lookup other := by
  by_cases hother : other = instanceId
  · subst hother
    have hown := h.own
    cases hleft : ui.instances.lookup other with
    | none =>
        rw [hleft] at hown
        exact Option.map_eq_none_iff.mp hown
    | some inst =>
        rw [hleft] at hown
        cases hright : ui'.instances.lookup other with
        | none =>
            rw [hright] at hown
            cases hown
        | some inst' =>
            rw [hright] at hown
            simp only [Option.map_some, Option.some.injEq, Prod.mk.injEq] at hown
            have hinactive := hbefore inst hleft
            have hinactive' := hafter inst' hright
            cases inst
            cases inst'
            simp_all
  · exact h.others other hother

end SameEntries

/-! ## What a failed start leaves -/

/-- The components whose start callbacks a failed start has run: those up to the first
one that failed, or all of them when none failed. -/
inductive StartedBefore (ext : ManagedExtension) (script : InstanceScript) :
    List (ManagedComponent × Nat) → Prop
  | callback {before after : List (ManagedComponent × Nat)} {entry : ManagedComponent × Nat}
      (components : ext.components.zipIdx = before ++ entry :: after)
      (succeeded : ∀ other ∈ before, Engine.Starts script other)
      (failed : ¬ Engine.Starts script entry) :
      StartedBefore ext script (before ++ [entry])
  | finalization (succeeded : ∀ entry ∈ ext.components.zipIdx, Engine.Starts script entry) :
      StartedBefore ext script ext.components.zipIdx

/-- A start was undone in the registries. Some start callbacks were run. -/
structure Undone (engine : Engine) (ext : ManagedExtension) (script : InstanceScript)
    (started : List (ManagedComponent × Nat)) (facilities : EngineFacilities) : Prop where
  services : ServiceRuntimeState.SameComposition engine.services facilities.services
  uiInstances : ∀ instanceId,
    facilities.ui.instances.lookup instanceId = engine.ui.instances.lookup instanceId
  registeredSurfaces : facilities.ui.registeredSurfaces = engine.ui.registeredSurfaces
  registeredLayers : facilities.ui.registeredLayers = engine.ui.registeredLayers
  registeredWorldPresentations :
    facilities.ui.registeredWorldPresentations = engine.ui.registeredWorldPresentations
  servicesInactive : ∀ inst, facilities.services.instances.lookup ext.instanceId = some inst →
    inst.isActive = false
  uiInactive : ∀ inst, facilities.ui.instances.lookup ext.instanceId = some inst →
    inst.isActive = false
  effects : ∀ effectId owned, facilities.runtimeEffects.effects.lookup effectId = some owned →
    owned.owner.instanceId ≠ ext.instanceId
  targets : ∀ target owner, facilities.executionTargets.hosts.lookup target = some owner →
    owner.instanceId ≠ ext.instanceId
  callbacks : facilities.callbacks =
    engine.callbacks ++ Engine.startLog ext started ++ Engine.stopLog ext started.reverse
  belongings : ∀ other, other ≠ ext.instanceId →
    engine.toEngineFacilities.SameBelongings other facilities
  presentations : ∀ other, other ≠ ext.instanceId →
    (∀ entry ∈ started, (script.start entry.2).PresentsNothingFor other) →
    SamePresentation ext.instanceId other engine.ui facilities.ui

theorem sameTopology_startAll (secrets : SecretManager) (ext : ManagedExtension)
    (script : InstanceScript) (facilities : EngineFacilities)
    (components : List (ManagedComponent × Nat)) :
    facilities.SameTopology (Engine.startAll secrets ext script facilities components) := by
  induction components generalizing facilities with
  | nil => exact .refl facilities
  | cons entry rest ih => exact (facilities.sameTopology_runCallback secrets _ _ _).trans (ih _)

/-- What the activation in the user interface touches. -/
theorem setUiActive_parts (facilities : EngineFacilities) (instanceId : ExtensionInstanceId)
    (isActive : Bool) :
    let outcome := facilities.setUiActive instanceId isActive
    outcome.1.services = facilities.services ∧
      outcome.1.runtimeEffects = facilities.runtimeEffects ∧
      outcome.1.executionTargets = facilities.executionTargets ∧
      outcome.1.callbacks = facilities.callbacks ∧
      (outcome.1.ui = facilities.ui ∨
        outcome.1.ui = (facilities.ui.setInstanceActive instanceId isActive).1) := by
  unfold EngineFacilities.setUiActive
  split
  · exact ⟨rfl, rfl, rfl, rfl, .inl rfl⟩
  · exact ⟨rfl, rfl, rfl, rfl, .inr rfl⟩

theorem setInstanceActive_false_inactive (ui : UiRuntimeState)
    (instanceId : ExtensionInstanceId) (inst : UiExtensionInstance)
    (hlookup : (ui.setInstanceActive instanceId false).1.instances.lookup instanceId =
      some inst) : inst.isActive = false := by
  unfold UiRuntimeState.setInstanceActive at hlookup
  split at hlookup
  · next hnone =>
      dsimp only at hlookup
      rw [hnone] at hlookup
      cases hlookup
  · simp only [Bool.false_eq_true, if_false, AList.lookup_insert, Option.some.injEq] at hlookup
    rw [← hlookup]

section Undoing

variable {engine : Engine} {ext : ManagedExtension} {script : InstanceScript}
  (hconsistent : Consistent engine) (hnumbered : Numbered engine.runtimeEffects)
  (hfound : engine.extensions.lookup ext.instanceId = some ext) (hinactive : ext.state ≠ .active)
include hconsistent hfound hinactive

/-- An instance that is not active is inactive in the service runtime. -/
theorem services_inactive (inst : ServiceExtensionInstance)
    (hlookup : engine.services.instances.lookup ext.instanceId = some inst) :
    inst.isActive = false := by
  have hentry : engine.services.instances.lookup ext.instanceId = some ext.serviceInstance :=
    hconsistent.mirrors.services.lookup hfound
  rw [hentry] at hlookup
  cases hlookup
  simpa [ManagedExtension.serviceInstance] using hinactive

/-- An instance that is not active is inactive in the user interface. -/
theorem ui_inactive (inst : UiExtensionInstance)
    (hlookup : engine.ui.instances.lookup ext.instanceId = some inst) :
    inst.isActive = false := by
  have hentry := hconsistent.mirrors.ui ext.instanceId
  rw [show engine.instances ext.instanceId = some ext from hfound, hlookup] at hentry
  simp only [Option.map_some, Option.some.injEq, Prod.mk.injEq] at hentry
  rw [hentry.2]
  simpa using hinactive

/-- Deactivating an inactive instance changes nothing. -/
theorem deactivate_inactive {services : ServiceRuntimeState}
    (hsame : services.instances = engine.services.instances) :
    services.deactivateInstance ext.instanceId = services := by
  unfold ServiceRuntimeState.deactivateInstance
  cases hlookup : services.instances.lookup ext.instanceId with
  | none => rfl
  | some inst =>
      rw [hsame] at hlookup
      dsimp only
      rw [if_neg]
      rw [services_inactive hconsistent hfound hinactive inst hlookup]
      exact Bool.false_ne_true

include hnumbered

/-- Whatever is undone passes through the same steps: callbacks, the activation in the
user interface, and what the instance owns. -/
theorem undone_of_steps {started : List (ManagedComponent × Nat)} (ran : EngineFacilities)
    {facilities : EngineFacilities} {secrets : SecretManager}
    (hran : ran = Engine.startAll secrets ext script engine.toEngineFacilities started)
    (hservices : facilities.services = ran.services)
    (hui : SameEntries ext.instanceId ran.ui facilities.ui)
    (huiInactive : ∀ inst, facilities.ui.instances.lookup ext.instanceId = some inst →
      inst.isActive = false)
    (hpresented : ∀ other, other ≠ ext.instanceId →
      SamePresentation ext.instanceId other ran.ui facilities.ui)
    (hbelongings : ∀ other, other ≠ ext.instanceId → Numbered ran.runtimeEffects →
      ran.SameBelongings other facilities)
    (howned : facilities.OwnersIn fun other => other ≠ ext.instanceId)
    (hcallbacks : facilities.callbacks =
      ran.callbacks ++ Engine.stopLog ext started.reverse) :
    Undone engine ext script started facilities := by
  subst hran
  have htopology := sameTopology_startAll secrets ext script engine.toEngineFacilities started
  have hcomposition : ServiceRuntimeState.SameComposition engine.services facilities.services :=
    hservices ▸ htopology.services
  have hentries : SameEntries ext.instanceId engine.ui facilities.ui :=
    (SameEntries.of_sameRegistrations htopology.ui).trans hui
  exact
    { services := hcomposition
      uiInstances := hentries.lookup_eq (ui_inactive hconsistent hfound hinactive) huiInactive
      registeredSurfaces := hentries.registeredSurfaces
      registeredLayers := hentries.registeredLayers
      registeredWorldPresentations := hentries.registeredWorldPresentations
      servicesInactive := by
        rw [hcomposition.instances]
        exact services_inactive hconsistent hfound hinactive
      uiInactive := huiInactive
      effects := howned.effects
      targets := howned.targets
      callbacks := by rw [hcallbacks, Engine.startAll_callbacks]
      belongings := by
        intro other hother
        obtain ⟨hstarted, hnumberedAfter⟩ := EngineFacilities.sameBelongings_startAll hnumbered
          secrets (Ne.symm hother) script started
        exact hstarted.trans (hbelongings other hother hnumberedAfter)
      presentations := by
        intro other hother hnothing
        exact (engine.samePresentation_startAll secrets ext script hnothing).trans
          (hpresented other hother) }

/-- Rolling back after a start callback that failed. -/
theorem undone_abandonStart {started : List (ManagedComponent × Nat)} {secrets : SecretManager} :
    let ran := Engine.startAll secrets ext script engine.toEngineFacilities started
    let stopped := (Engine.stopComponents secrets ext script ran started.reverse).1
    Undone engine ext script started
      (((stopped.revokeInstance ext.instanceId).setUiActive ext.instanceId
        false).1.deactivateServices ext.instanceId) := by
  intro ran stopped
  obtain ⟨hui, hservices⟩ := ran.stopComponents_ui secrets ext script started.reverse
  have hcallbacks := Engine.stopComponents_callbacks secrets ext script ran started.reverse
  have hset : (stopped.revokeInstance ext.instanceId).setUiActive ext.instanceId false =
      ({ stopped.revokeInstance ext.instanceId with
          ui := (stopped.ui.setInstanceActive ext.instanceId false).1 },
        (stopped.ui.setInstanceActive ext.instanceId false).2) := by
    simp [EngineFacilities.setUiActive, EngineFacilities.revokeInstance]
  have hstopped : stopped.ui = ran.ui := hui
  have htopology := sameTopology_startAll secrets ext script engine.toEngineFacilities started
  rw [hset]
  refine undone_of_steps hconsistent hnumbered hfound hinactive ran rfl ?_ ?_ ?_ ?_ ?_ ?_
    hcallbacks
  · change stopped.services.deactivateInstance ext.instanceId = ran.services
    rw [show stopped.services = ran.services from hservices]
    exact deactivate_inactive hconsistent hfound hinactive htopology.services.instances
  · rw [← hstopped]
    exact .setInstanceActive false
  · exact setInstanceActive_false_inactive stopped.ui ext.instanceId
  · intro other hother
    rw [← hstopped]
    exact .setInstanceActive hother false
  · intro other hother hran
    have hafter := EngineFacilities.sameBelongings_stopComponents hran secrets (Ne.symm hother)
      script started.reverse
    have hrevoked := @EngineFacilities.sameBelongings_revokeInstance other stopped ext.instanceId
      hother
    have hall := hafter.trans hrevoked
    exact ⟨hall.effects, hall.targets⟩
  · have howners : stopped.OwnersIn fun _ => True := ⟨fun _ _ _ => trivial, fun _ _ _ => trivial⟩
    have hrevoked := (howners.revokeInstance ext.instanceId).mono fun _ h => h.2
    exact hrevoked.congr rfl rfl

/-- Rolling back after the activation failed. -/
theorem undone_abandonFinalization {started : List (ManagedComponent × Nat)}
    {secrets : SecretManager} :
    let ran := Engine.startAll secrets ext script engine.toEngineFacilities started
    let shown := (ran.setUiActive ext.instanceId true).1
    let stopped := (Engine.stopComponents secrets ext script
      (shown.deactivateServices ext.instanceId) started.reverse).1
    Undone engine ext script started
      ((stopped.setUiActive ext.instanceId false).1.revokeInstance ext.instanceId) := by
  intro ran shown stopped
  let closed := shown.deactivateServices ext.instanceId
  obtain ⟨hui, hservices⟩ := closed.stopComponents_ui secrets ext script started.reverse
  have hcallbacks := Engine.stopComponents_callbacks secrets ext script closed started.reverse
  have hset : stopped.setUiActive ext.instanceId false =
      ({ stopped with ui := (stopped.ui.setInstanceActive ext.instanceId false).1 },
        (stopped.ui.setInstanceActive ext.instanceId false).2) := by
    simp [EngineFacilities.setUiActive]
  have hstopped : stopped.ui = shown.ui := hui
  have htopology := sameTopology_startAll secrets ext script engine.toEngineFacilities started
  obtain ⟨hshownServices, hshownEffects, hshownTargets, hshownCallbacks, hshownUi⟩ :=
    setUiActive_parts ran ext.instanceId true
  rw [hset]
  refine undone_of_steps hconsistent hnumbered hfound hinactive ran rfl ?_ ?_ ?_ ?_ ?_ ?_ ?_
  · change stopped.services = ran.services
    rw [show stopped.services = closed.services from hservices]
    change shown.services.deactivateInstance ext.instanceId = ran.services
    rw [hshownServices]
    exact deactivate_inactive hconsistent hfound hinactive htopology.services.instances
  · change SameEntries ext.instanceId ran.ui (stopped.ui.setInstanceActive ext.instanceId false).1
    rw [hstopped]
    refine SameEntries.trans ?_ (.setInstanceActive false)
    rcases hshownUi with hsame | hsame
    · rw [hsame]
      exact .of_sameRegistrations (.refl _)
    · rw [hsame]
      exact .setInstanceActive true
  · exact setInstanceActive_false_inactive stopped.ui ext.instanceId
  · intro other hother
    change SamePresentation ext.instanceId other ran.ui
      (stopped.ui.setInstanceActive ext.instanceId false).1
    rw [hstopped]
    refine SamePresentation.trans ?_ (.setInstanceActive hother false)
    rcases hshownUi with hsame | hsame
    · rw [hsame]
      exact .refl _
    · rw [hsame]
      exact .setInstanceActive hother true
  · intro other hother hran
    have hclosed : ran.SameBelongings other closed := .of_eq hshownEffects hshownTargets
    have hclosedNumbered : Numbered closed.runtimeEffects := by
      rw [show closed.runtimeEffects = ran.runtimeEffects from hshownEffects]
      exact hran
    have hafter := EngineFacilities.sameBelongings_stopComponents hclosedNumbered secrets
      (Ne.symm hother) script started.reverse
    have hrevoked := @EngineFacilities.sameBelongings_revokeInstance other stopped ext.instanceId
      hother
    have hall := (hclosed.trans hafter).trans hrevoked
    exact ⟨hall.effects, hall.targets⟩
  · have howners : stopped.OwnersIn fun _ => True := ⟨fun _ _ _ => trivial, fun _ _ _ => trivial⟩
    have hrevoked := (howners.revokeInstance ext.instanceId).mono fun _ h => h.2
    exact hrevoked.congr rfl rfl
  · change stopped.callbacks = _
    rw [hcallbacks]
    change shown.callbacks ++ _ = _
    rw [hshownCallbacks]

/-- Why a launch fails: a start callback does, or a lock is poisoned when the instance is
to be activated. -/
def LaunchFails (engine : Engine) (ext : ManagedExtension) (script : InstanceScript) : Prop :=
  (∃ entry ∈ ext.components.zipIdx, ¬ Engine.Starts script entry) ∨ engine.uiPoisoned = true ∨
    engine.servicesPoisoned = true

/-- A launch succeeds or is undone. -/
theorem launch_outcome
    (hunclaimed : ext.state = .stopped →
      Disjoint ext.contributionKeys engine.activeContributions) :
    let launched := Engine.launch { engine with activeContributions := engine.claimed ext } ext
      script
    ¬ LaunchFails engine ext script ∧ launched.2 = .ok () ∨
      LaunchFails engine ext script ∧ ∃ error started facilities,
        StartedBefore ext script started ∧
        launched = ({ engine with toEngineFacilities := facilities }, .error error) ∧
        Undone engine ext script started facilities := by
  intro launched
  rcases Engine.startComponents_cases engine.secrets ext script engine.toEngineFacilities []
      ext.components.zipIdx with
    ⟨hall, hran⟩ | ⟨before, entry, after, failure, hcomponents, hbefore, hfails, hran⟩
  · let ran := Engine.startAll engine.secrets ext script engine.toEngineFacilities
      ext.components.zipIdx
    have htopology : engine.toEngineFacilities.SameTopology ran :=
      sameTopology_startAll engine.secrets ext script engine.toEngineFacilities
        ext.components.zipIdx
    have hmirrors : Mirrors ran engine.instances := hconsistent.mirrors.sameTopology htopology
    have hundo : ∀ error, Engine.finalizeStart ext.instanceId ran =
        ((ran.setUiActive ext.instanceId true).1, some error) →
        ∃ failure started facilities, StartedBefore ext script started ∧
          launched = ({ engine with toEngineFacilities := facilities }, .error failure) ∧
          Undone engine ext script started facilities := by
      intro error hfinal
      have hundone := @undone_abandonFinalization engine ext script hconsistent hnumbered hfound
        hinactive ext.components.zipIdx engine.secrets
      have habandoned : ∃ failure, launched = ({ engine with
          toEngineFacilities :=
            ((Engine.stopComponents engine.secrets ext script
              ((ran.setUiActive ext.instanceId true).1.deactivateServices ext.instanceId)
              ext.components.zipIdx.reverse).1.setUiActive ext.instanceId false).1.revokeInstance
                ext.instanceId }, .error failure) := by
        simp only [launched, Engine.launch, hran]
        rw [show Engine.finalizeStart ext.instanceId (Engine.startAll engine.secrets ext script
          engine.toEngineFacilities ext.components.zipIdx) = _ from hfinal]
        simp only [Engine.abandonFinalization, withdraw_claimed hunclaimed]
        exact ⟨_, rfl⟩
      obtain ⟨failure, hlaunched⟩ := habandoned
      exact ⟨failure, ext.components.zipIdx, _, .finalization hall, hlaunched, hundone⟩
    by_cases hpoisoned : engine.uiPoisoned = true
    · refine .inr ⟨.inr (.inl hpoisoned), hundo (.ui .runtimeUnavailable) ?_⟩
      have hrefused : ran.uiPoisoned = true := htopology.uiPoisoned.trans hpoisoned
      simp [Engine.finalizeStart, EngineFacilities.setUiActive, hrefused]
    · obtain ⟨ui', hset, -⟩ := hmirrors.ui.setInstanceActive hfound true .active (by simp)
      have hopen : ran.uiPoisoned = false := by
        rw [htopology.uiPoisoned]
        simpa using hpoisoned
      have hshown : ran.setUiActive ext.instanceId true = ({ ran with ui := ui' }, .ok ()) := by
        simp [EngineFacilities.setUiActive, hopen, hset]
      by_cases hlocked : engine.servicesPoisoned = true
      · refine .inr ⟨.inr (.inr hlocked), hundo .serviceRuntimeUnavailable ?_⟩
        have hrefused : ran.servicesPoisoned = true := htopology.servicesPoisoned.trans hlocked
        simp [Engine.finalizeStart, hshown, EngineFacilities.activateServices, hrefused]
      · refine .inl ⟨?_, ?_⟩
        · rintro (⟨entry, hmem, hfails⟩ | hui | hservices)
          · exact hfails (hall entry hmem)
          · exact hpoisoned hui
          · exact hlocked hservices
        · obtain ⟨services', hactivate, -⟩ := hmirrors.services.activate hfound
          have hfree : ran.servicesPoisoned = false := by
            rw [htopology.servicesPoisoned]
            simpa using hlocked
          simp only [launched, Engine.launch, hran]
          have hfinal : Engine.finalizeStart ext.instanceId ran =
              ({ ran with ui := ui', services := services' }, none) := by
            simp [Engine.finalizeStart, hshown, EngineFacilities.activateServices, hfree,
              hactivate]
          rw [show Engine.finalizeStart ext.instanceId (Engine.startAll engine.secrets ext script
            engine.toEngineFacilities ext.components.zipIdx) = _ from hfinal]
  · have hentry : entry ∈ ext.components.zipIdx := by
      rw [hcomponents]
      exact List.mem_append_right before List.mem_cons_self
    refine .inr ⟨.inl ⟨entry, hentry, hfails⟩, ?_⟩
    have hreverse : entry :: before.reverse ++ [] = (before ++ [entry]).reverse := by simp
    rw [hreverse] at hran
    have hundone := @undone_abandonStart engine ext script hconsistent hnumbered hfound hinactive
      (before ++ [entry]) engine.secrets
    let ran := Engine.startAll engine.secrets ext script engine.toEngineFacilities
      (before ++ [entry])
    let stopped := (Engine.stopComponents engine.secrets ext script ran
      (before ++ [entry]).reverse).1
    have htopology : engine.toEngineFacilities.SameTopology stopped :=
      (sameTopology_startAll engine.secrets ext script engine.toEngineFacilities _).trans
        (sameTopology_stopComponents engine.secrets ext script ran _)
    have hmirrors : Mirrors (stopped.revokeInstance ext.instanceId) engine.instances :=
      hconsistent.mirrors.sameTopology
        (htopology.trans (stopped.sameTopology_revokeInstance ext.instanceId))
    obtain ⟨ui', hset, -⟩ := Mirrors.setUiActive_false hmirrors.ui hfound hinactive
    have hset' : ((stopped.revokeInstance ext.instanceId).setUiActive ext.instanceId false) =
      (((stopped.revokeInstance ext.instanceId).setUiActive ext.instanceId false).1, .ok ()) := by
      rw [hset]
    refine ⟨failure.toError ext, before ++ [entry], _,
      .callback hcomponents hbefore hfails, ?_, hundone⟩
    simp only [launched, Engine.launch, hran, Engine.abandonStart]
    rw [show (EngineFacilities.revokeInstance (Engine.stopComponents engine.secrets ext script
      (Engine.startAll engine.secrets ext script engine.toEngineFacilities (before ++ [entry]))
      (before ++ [entry]).reverse).1 ext.instanceId).setUiActive ext.instanceId false = _
      from hset']
    simp only [withdraw_claimed hunclaimed]

end Undoing

/-! ## Failed starts of a reachable engine -/

/-- A start that is refused before any callback is run has nothing to undo. -/
theorem undone_nothing {engine : Engine} {ext : ManagedExtension} (script : InstanceScript)
    (hconsistent : Consistent engine)
    (hfound : engine.extensions.lookup ext.instanceId = some ext)
    (hinactive : ext.state ≠ .active) :
    Undone engine ext script [] engine.toEngineFacilities := by
  have hother : ∀ instanceId, ActiveIn engine.instances instanceId →
      instanceId ≠ ext.instanceId := by
    rintro instanceId ⟨found, hlookup, hactive⟩ rfl
    have hsame : some ext = some found := hfound.symm.trans hlookup
    cases hsame
    exact hinactive hactive
  exact
    { services := .refl _
      uiInstances := fun _ => rfl
      registeredSurfaces := rfl
      registeredLayers := rfl
      registeredWorldPresentations := rfl
      servicesInactive := services_inactive hconsistent hfound hinactive
      uiInactive := ui_inactive hconsistent hfound hinactive
      effects := fun effectId owned hlookup =>
        hother _ (hconsistent.owners.effects effectId owned hlookup)
      targets := fun target owner hlookup =>
        hother _ (hconsistent.owners.targets target owner hlookup)
      callbacks := by simp [Engine.startLog, Engine.stopLog]
      belongings := fun _ _ => .of_eq rfl rfl
      presentations := fun _ _ _ => .refl _ }

/-- A start that fails in a callback or in the activation returns an error. Whenever a
start returns an error, the instance stays as it was, with the contributions, the grants
and the policies of the engine; it is inactive in the registries and owns nothing there;
the components whose start callbacks were run are stopped once, last first; and what the
others have is the same, but for what start callbacks have presented for them. -/
theorem failed_start_undone {engine : Engine} {ext : ManagedExtension} {script : InstanceScript}
    (h : engineSystem.Reachable engine)
    (hfound : engine.extensions.lookup ext.instanceId = some ext)
    (hinactive : ext.state ≠ .active) :
    (LaunchFails engine ext script →
      ∃ error, (engine.startExtensionInstance ext.instanceId script).2 = .error error) ∧
    ∀ error, (engine.startExtensionInstance ext.instanceId script).2 = .error error →
      ∃ started facilities, (started = [] ∨ StartedBefore ext script started) ∧
        (engine.startExtensionInstance ext.instanceId script).1 =
          { engine with toEngineFacilities := facilities } ∧
        Undone engine ext script started facilities := by
  have hconsistent := consistent_of_reachable h
  have hnumbered := numbered_of_reachable h
  have hinstance : engine.instanceOf ext.instanceId = .ok ext := by
    simp [Engine.instanceOf, hfound]
  have hrefused : ∀ outcome : EngineOutcome, (∃ error, outcome = (engine, .error error)) →
      (LaunchFails engine ext script → ∃ error, outcome.2 = .error error) ∧
      ∀ error, outcome.2 = .error error →
        ∃ started facilities, (started = [] ∨ StartedBefore ext script started) ∧
          outcome.1 = { engine with toEngineFacilities := facilities } ∧
          Undone engine ext script started facilities := by
    rintro outcome ⟨error, rfl⟩
    exact ⟨fun _ => ⟨error, rfl⟩, fun _ _ => ⟨[], engine.toEngineFacilities, .inl rfl, rfl,
      undone_nothing script hconsistent hfound hinactive⟩⟩
  unfold Engine.startExtensionInstance
  rw [hinstance]
  dsimp only
  rw [if_neg hinactive]
  split
  · exact hrefused _ ⟨_, rfl⟩
  · split
    · exact hrefused _ ⟨_, rfl⟩
    · next claimed hreclaim =>
        obtain ⟨hunclaimed, rfl⟩ := reclaimContributions_ok hreclaim
        rcases launch_outcome hconsistent hnumbered hfound hinactive hunclaimed with
          ⟨hsucceeds, hok⟩ | ⟨-, error, started, facilities, hstarted, hlaunch, hundone⟩
        · refine ⟨fun hfails => absurd hfails hsucceeds, ?_⟩
          intro error herror
          rw [hok] at herror
          cases herror
        · rw [hlaunch]
          exact ⟨fun _ => ⟨error, rfl⟩,
            fun _ _ => ⟨started, facilities, .inr hstarted, rfl, hundone⟩⟩

/-! ## A service that presents during a failed start -/

def noticeContract : ContractKey := ⟨⟨"notice"⟩, 1⟩

def noticeSnapshot : UiSurfaceSnapshot :=
  ⟨⟨"panel"⟩, 0, ⟨"root"⟩, [⟨⟨"root"⟩, none, [], .text ⟨"starting"⟩⟩]⟩

/-- One instance shows notices for the others, and another one uses it. -/
def noticeOps : List EngineOp :=
  [.registerExtensionInstance ⟨"notices"⟩ ⟨"default"⟩ ⟨⟨"notices"⟩, []⟩
      [⟨⟨"main"⟩, ⟨none⟩,
        [.defineContract ⟨noticeContract, .single, .service⟩,
          .provideContract ⟨noticeContract, []⟩,
          .registerUiSurface ⟨⟨"panel"⟩, .status, none, none, [], []⟩], none⟩],
    .startExtensionInstance ⟨"notices"⟩ .quiet,
    .registerExtensionInstance ⟨"chat"⟩ ⟨"default"⟩ ⟨⟨"chat"⟩, []⟩
      [⟨⟨"main"⟩, ⟨none⟩, [.consumeContract ⟨noticeContract, true, []⟩], none⟩]]

/-- The start callback calls the service, whose provider mounts a surface, and fails. -/
def noticeScript : InstanceScript where
  start _ :=
    ⟨[.callService ⟨⟨"chat"⟩, ⟨"main"⟩⟩ noticeContract true ⟨[], [], .free⟩,
        .mountUiSurface ⟨⟨"notices"⟩, ⟨"main"⟩⟩ noticeSnapshot], some ⟨"no network", false⟩⟩
  stop _ := ⟨[], none⟩

/-- The instance whose start fails is left as it was. -/
theorem failed_start_undone_chat :
    ∃ ext error started facilities,
      (Engine.new.runAll noticeOps).1.extensions.lookup ⟨"chat"⟩ = some ext ∧
      (Engine.new.runAll noticeOps).1.startExtensionInstance ext.instanceId noticeScript =
        ({ (Engine.new.runAll noticeOps).1 with toEngineFacilities := facilities },
          .error error) ∧
      Undone (Engine.new.runAll noticeOps).1 ext noticeScript started facilities := by
  have hthere : ((Engine.new.runAll noticeOps).1.extensions.lookup ⟨"chat"⟩).any (fun ext =>
      ext.instanceId == ⟨"chat"⟩ && ext.state != .active && !ext.components.isEmpty) = true := by
    decide +kernel
  obtain ⟨ext, hfound, htest⟩ := (Option.any_eq_true _ _).mp hthere
  simp only [Bool.and_eq_true, beq_iff_eq, bne_iff_ne, Bool.not_eq_true',
    List.isEmpty_eq_false_iff] at htest
  obtain ⟨⟨hid, hinactive⟩, hcomponents⟩ := htest
  have hfound' : (Engine.new.runAll noticeOps).1.extensions.lookup ext.instanceId = some ext :=
    hid ▸ hfound
  obtain ⟨hfails, hundone⟩ := @failed_start_undone _ ext noticeScript
    ⟨.new, _, rfl, Engine.run_runAll .new noticeOps⟩ hfound' hinactive
  have hentry : ∃ entry, entry ∈ ext.components.zipIdx := by
    obtain ⟨component, rest, hcons⟩ := List.exists_cons_of_ne_nil hcomponents
    exact ⟨(component, 0), by rw [hcons]; exact List.mem_cons_self⟩
  obtain ⟨entry, hmem⟩ := hentry
  obtain ⟨error, herror⟩ := hfails (.inl ⟨entry, hmem, by simp [Engine.Starts, noticeScript]⟩)
  obtain ⟨started, facilities, -, hafter, hrestored⟩ := hundone error herror
  exact ⟨ext, error, started, facilities, hfound, Prod.ext hafter herror, hrestored⟩

/-- The start fails, and the surface of the other instance stays mounted. -/
theorem failed_start_presents :
    engineSystem.Run .new (Engine.new.runAll noticeOps).2 (Engine.new.runAll noticeOps).1 ∧
      ((Engine.new.runAll noticeOps).1.startExtensionInstance ⟨"chat"⟩ noticeScript).2 =
        .error (.lifecycleFailed "chat" "main" "no network") ∧
      (Engine.new.runAll noticeOps).1.ui.mountedSurfaces.lookup ⟨⟨"notices"⟩, ⟨"panel"⟩⟩ =
        none ∧
      ((Engine.new.runAll noticeOps).1.startExtensionInstance ⟨"chat"⟩
        noticeScript).1.ui.mountedSurfaces.lookup ⟨⟨"notices"⟩, ⟨"panel"⟩⟩ =
          some noticeSnapshot :=
  ⟨Engine.run_runAll .new noticeOps, by decide +kernel, by decide +kernel, by decide +kernel⟩

end Rintawa.ExtensionEngine
