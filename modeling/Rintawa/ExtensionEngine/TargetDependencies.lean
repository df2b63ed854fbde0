/-
# Execution targets of active instances

An instance is instantiated through active owners of execution targets. The guards of
stops and unregistrations, and the order of quarantines, keep those owners active as long
as the instance is. A start checks nothing of this kind: an owner that was quarantined
while the instance was inactive is still inactive once the instance is started.
-/

import Mathlib.Algebra.Order.BigOperators.Group.List
import Rintawa.ExtensionEngine.Enrolment
import Rintawa.ExtensionEngine.Quarantine

namespace Rintawa.ExtensionEngine

open Rintawa.Lib Rintawa.Sdk Rintawa.UiRuntime

/-! ## Layers of dependencies -/

namespace Engine

/-- Instances depend on registered ones, which were registered before them. -/
def Layered (engine : Engine) : Prop :=
  ∃ rank, RankedBy rank engine ∧ ∀ instanceId providerId,
    engine.DependsOn instanceId providerId →
      (engine.extensions.lookup providerId).isSome = true

theorem Layered.congr {engine engine' : Engine} (h : engine.Layered)
    (hdepends : ∀ instanceId providerId,
      engine'.DependsOn instanceId providerId → engine.DependsOn instanceId providerId)
    (hregistered : ∀ instanceId providerId, engine'.DependsOn instanceId providerId →
      (engine.extensions.lookup providerId).isSome = true →
      (engine'.extensions.lookup providerId).isSome = true) : engine'.Layered := by
  obtain ⟨rank, hranked, hthere⟩ := h
  refine ⟨rank, fun instanceId providerId hlater => hranked _ _ (hdepends _ _ hlater), ?_⟩
  intro instanceId providerId hlater
  exact hregistered _ _ hlater (hthere _ _ (hdepends _ _ hlater))

variable {ext : ManagedExtension} {instanceId : ExtensionInstanceId}

theorem Layered.withState {engine engine' : Engine} (h : engine.Layered) {state : ExtensionState}
    (hfound : engine.extensions.lookup ext.instanceId = some ext)
    (hextensions : engine'.extensions =
      engine.extensions.insert ext.instanceId { ext with state := state }) : engine'.Layered := by
  refine h.congr (fun instanceId providerId =>
    (dependsOn_withState hfound hextensions instanceId providerId).mp) ?_
  intro instanceId providerId _ hregistered
  rw [hextensions, Dict.lookup_insert_ite]
  split
  · rfl
  · exact hregistered

/-- A new instance is one layer above the instances that it depends on. -/
theorem Layered.enroll {engine engine' : Engine} (h : engine.Layered)
    (hfresh : engine.extensions.lookup ext.instanceId = none)
    (hdependencies : ∀ dependency ∈ ext.executionTargetDependencies,
      ActiveIn engine.instances dependency.provider.instanceId)
    (hextensions : engine'.extensions = engine.extensions.insert ext.instanceId ext) :
    engine'.Layered := by
  obtain ⟨rank, hranked, hthere⟩ := h
  have hnew : ∀ providerId, ext.dependsOn providerId = true →
      ActiveIn engine.instances providerId := by
    intro providerId hdepends
    obtain ⟨dependency, hmem, htarget⟩ := List.any_eq_true.mp hdepends
    rw [beq_iff_eq] at htarget
    exact htarget ▸ hdependencies dependency hmem
  have hother : ∀ providerId, (engine.extensions.lookup providerId).isSome = true →
      providerId ≠ ext.instanceId := by
    rintro providerId hregistered rfl
    rw [hfresh] at hregistered
    cases hregistered
  have hcases : ∀ instanceId providerId, engine'.DependsOn instanceId providerId →
      instanceId = ext.instanceId ∧ ext.dependsOn providerId = true ∨
        instanceId ≠ ext.instanceId ∧ engine.DependsOn instanceId providerId := by
    rintro instanceId providerId ⟨found, hlookup, hdepends⟩
    rw [hextensions, Dict.lookup_insert_ite] at hlookup
    split at hlookup
    · next heq =>
        cases hlookup
        exact .inl ⟨heq, hdepends⟩
    · next hne => exact .inr ⟨hne, found, hlookup, hdepends⟩
  have hregistered : ∀ instanceId providerId, engine'.DependsOn instanceId providerId →
      (engine.extensions.lookup providerId).isSome = true := by
    intro instanceId providerId hlater
    rcases hcases _ _ hlater with ⟨-, hdepends⟩ | ⟨-, hdepends⟩
    · obtain ⟨provider, hlookup, -⟩ := hnew providerId hdepends
      exact Option.isSome_iff_exists.mpr ⟨provider, hlookup⟩
    · exact hthere _ _ hdepends
  let above := (ext.executionTargetDependencies.map fun dependency =>
    rank dependency.provider.instanceId).sum + 1
  refine ⟨Function.update rank ext.instanceId above, ?_, ?_⟩
  · intro instanceId providerId hlater
    rw [Function.update_of_ne (hother _ (hregistered _ _ hlater))]
    rcases hcases _ _ hlater with ⟨rfl, hdepends⟩ | ⟨hne, hdepends⟩
    · rw [Function.update_self]
      obtain ⟨dependency, hmem, htarget⟩ := List.any_eq_true.mp hdepends
      rw [beq_iff_eq] at htarget
      subst htarget
      exact Nat.lt_succ_of_le
        (List.single_le_sum (fun _ _ => Nat.zero_le _) _ (List.mem_map_of_mem hmem))
    · rw [Function.update_of_ne hne]
      exact hranked _ _ hdepends
  · intro instanceId providerId hlater
    rw [hextensions, Dict.lookup_insert_ite]
    split
    · rfl
    · exact hregistered _ _ hlater

theorem layered_new : Layered .new := by
  refine ⟨fun _ => 0, ?_, ?_⟩
  · rintro instanceId providerId ⟨found, hlookup, -⟩
    cases hlookup
  · rintro instanceId providerId ⟨found, hlookup, -⟩
    cases hlookup

theorem Layered.change {op : EngineOp} {engine engine' : Engine} (h : engine.Layered)
    (hchange : Change op engine engine') : engine'.Layered := by
  cases hchange with
  | enroll facilities ext permitted fresh registered valid unclaimed definitions dependencies =>
      exact h.enroll fresh dependencies rfl
  | activate facilities ext permitted found inactive unclaimed => exact h.withState found rfl
  | halt facilities ext found running => exact h.withState found rfl
  | forget ext permitted found inactive unused =>
      have hlookup : ∀ instanceId, (engine.forget ext).extensions.lookup instanceId =
          if instanceId = ext.instanceId then none else engine.extensions.lookup instanceId :=
        fun instanceId => Dict.lookup_erase_ite _ _ _
      refine h.congr ?_ ?_
      · rintro instanceId providerId ⟨found, hfound, hdepends⟩
        rw [hlookup] at hfound
        split at hfound
        · cases hfound
        · exact ⟨found, hfound, hdepends⟩
      · rintro instanceId providerId ⟨other, hother, hdepends⟩ hregistered
        rw [hlookup] at hother ⊢
        split at hother
        · cases hother
        · next hne =>
            rw [if_neg]
            · exact hregistered
            · rintro rfl
              rw [unused instanceId other hother hne] at hdepends
              cases hdepends
  | facilities | definePlatform | clearPlatform | prefer | grantSecret | grantPermission
  | revokeSecrets => exact h

theorem layered_of_reachable {engine : Engine} (h : engineSystem.Reachable engine) :
    engine.Layered :=
  reachable_induction layered_new (fun _ _ _ _ hlayered hchange _ => hlayered.change hchange) h

/-! ## What the operations do to the instances -/

/-- A start goes through: the composition is there, nothing else has the contributions of
a stopped instance, and neither the callbacks nor the activation fail. -/
structure GoesThrough (engine : Engine) (ext : ManagedExtension) (script : InstanceScript) :
    Prop where
  planned : ∃ plan, engine.planExtensionActivation [ext.instanceId] = .ok plan
  unclaimed : ext.state = .stopped → Disjoint ext.contributionKeys engine.activeContributions
  launches : ¬ LaunchFails engine ext script

/-- A start that goes through makes the instance active; otherwise the instances stay as
they are. -/
theorem start_extensions {engine : Engine} {ext : ManagedExtension} {script : InstanceScript}
    (h : engineSystem.Reachable engine)
    (hfound : engine.extensions.lookup ext.instanceId = some ext)
    (hinactive : ext.state ≠ .active) :
    engine.GoesThrough ext script ∧
        (engine.startExtensionInstance ext.instanceId script).1.extensions =
          engine.extensions.insert ext.instanceId { ext with state := .active } ∨
      ¬ engine.GoesThrough ext script ∧
        (engine.startExtensionInstance ext.instanceId script).1.extensions =
          engine.extensions := by
  have hconsistent := consistent_of_reachable h
  have hinstance : engine.instanceOf ext.instanceId = .ok ext := by
    simp [instanceOf, hfound]
  unfold startExtensionInstance
  rw [hinstance]
  dsimp only
  rw [if_neg hinactive]
  split
  · next error hplan =>
      refine .inr ⟨?_, rfl⟩
      rintro ⟨⟨plan, hplanned⟩, -, -⟩
      rw [hplan] at hplanned
      cases hplanned
  · next plan hplan =>
      split
      · next error hreclaim =>
          refine .inr ⟨?_, rfl⟩
          rintro ⟨-, hunclaimed, -⟩
          unfold reclaimContributions at hreclaim
          split at hreclaim
          · next hstopped =>
              split at hreclaim
              · next owned hconflict =>
                  have hactive := List.find?_some hconflict
                  have hown : (ext.scopeId, owned.descriptor.id) ∈ ext.contributionKeys :=
                    List.mem_toFinset.mpr
                      (List.mem_map_of_mem (List.mem_of_find?_eq_some hconflict))
                  exact Finset.disjoint_left.mp (hunclaimed hstopped) hown
                    (of_decide_eq_true hactive)
              · cases hreclaim
          · cases hreclaim
      · next claimed hreclaim =>
          obtain ⟨hunclaimed, rfl⟩ := reclaimContributions_ok hreclaim
          rcases @launch_outcome engine ext script hconsistent (numbered_of_reachable h) hfound
              hinactive hunclaimed with
            ⟨hsucceeds, hok⟩ | ⟨hfails, error, started, facilities, -, hlaunch, -⟩
          · refine .inl ⟨⟨⟨plan, hplan⟩, hunclaimed, hsucceeds⟩, ?_⟩
            rcases hconsistent.launch_cases script hfound hinactive hunclaimed with
              ⟨facilities', hlaunch, -⟩ | ⟨facilities', error, hlaunch, -⟩
            · rw [hlaunch]
            · rw [hlaunch] at hok
              cases hok
          · rw [hlaunch]
            exact .inr ⟨fun hgoes => hgoes.launches hfails, rfl⟩

theorem changeUi_extensions {engine engine' : Engine} {change : UiRuntimeState → UiOutcome}
    {result : Except UiError Unit} (h : engine.changeUi change = (engine', result)) :
    engine'.extensions = engine.extensions := by
  unfold changeUi at h
  split at h
  · cases h
    rfl
  · cases h
    rfl

/-- The instances stay as they are, or a new one is registered. -/
def AtMostRegisters (engine engine' : Engine) : Prop :=
  engine'.extensions = engine.extensions ∨
    ∃ ext, engine.extensions.lookup ext.instanceId = none ∧ ext.state = .registered ∧
      engine'.extensions = engine.extensions.insert ext.instanceId ext

theorem atMostRegisters_register {engine : Engine} {scopeId : RuntimeScopeId}
    {manifest : ExtensionManifest} {components : List Component}
    {dependencies : List ExecutionTargetDependency} {outcome : EngineOutcome}
    (h : RegistrationCase engine instanceId scopeId manifest components dependencies outcome) :
    AtMostRegisters engine outcome.1 := by
  cases h with
  | refused error => exact .inl rfl
  | @enrolled _ buffers hvalid hfresh hregister hdefinitions henrolled =>
      cases henrolled with
      | refused | undone | withdrawn => exact .inl rfl
      | admitted hservices hui hpresents =>
          exact .inr ⟨managedExtension instanceId scopeId manifest components dependencies buffers,
            hfresh, rfl, rfl⟩

/-- The operations that may start or stop instances. -/
def MayStartOrStop (op : EngineOp) : Prop :=
  match op with
  | .startExtensionInstance _ _ | .stopExtensionInstance _ _ | .unregisterExtensionInstance _ _
  | .runActiveComponent _ _ _ _ => True
  | _ => False

/-- All other operations at most register an instance. -/
theorem atMostRegisters_run (engine : Engine) {op : EngineOp} (hop : ¬ MayStartOrStop op) :
    AtMostRegisters engine (engine.run op).1 := by
  cases op with
  | registerExtensionInstance instanceId scopeId manifest components =>
      exact atMostRegisters_register
        (registrationCase engine instanceId scopeId manifest components [])
  | tryLoadArchive archive instanceId scopeId =>
      have hcase := loadCase engine archive instanceId scopeId
      simp only [run]
      generalize engine.tryLoadArchive archive instanceId scopeId = outcome at hcase ⊢
      cases hcase with
      | refused error hcomplete => exact .inl rfl
      | deferred hread hmissing => exact .inl rfl
      | registered hread hcomplete hinstantiate hregister =>
          exact atMostRegisters_register hregister
  | startExtensionInstance | stopExtensionInstance | unregisterExtensionInstance
  | runActiveComponent => exact absurd trivial hop
  | registerExecutionTargetHost owner target =>
      simp only [run, registerExecutionTargetHost]
      left
      split
      · rfl
      · split <;> rfl
  | definePlatformContractInScope scopeId definition =>
      simp only [run, definePlatformContractInScope]
      left
      split
      · rfl
      · split
        · split
          · split <;> rfl
          · rfl
        · split <;> rfl
  | setPreferredContractProviderInScope scopeId contract provider =>
      simp only [run, setPreferredContractProviderInScope]
      left
      split
      · rfl
      · split <;> rfl
  | grantRequestedSecretReadForInstance instanceId componentId pattern =>
      simp only [run, grantRequestedSecretReadForInstance]
      left
      split
      · rfl
      · split
        · rfl
        · split <;> rfl
  | grantRequestedRuntimePermissionForInstance instanceId componentId permission =>
      simp only [run, grantRequestedRuntimePermissionForInstance]
      left
      split
      · rfl
      · split
        · rfl
        · split <;> rfl
  | presentUi call =>
      exact .inl (@changeUi_extensions engine _ (fun ui => ui.run call.1) _ rfl)
  | clearPlatformContractDefinitionsInScope | setPreferredContractProviderPolicyInScope
  | clearPreferredContractProviderInScope | clearPreferredContractProviderPoliciesInScope
  | revokeSecretReads | callService | listProviders | poisonServices | poisonUi =>
      exact .inl rfl

/-! ## Active targets -/

/-- The targets that an instance was instantiated through belong to active instances. -/
def TargetsActive (engine : Engine) (ext : ManagedExtension) : Prop :=
  ∀ dependency ∈ ext.executionTargetDependencies,
    ActiveIn engine.instances dependency.provider.instanceId

/-- The targets of every active instance belong to active instances. -/
def DependenciesActive (engine : Engine) : Prop :=
  ∀ instanceId ext, engine.extensions.lookup instanceId = some ext → ext.state = .active →
    engine.TargetsActive ext

variable {engine engine' : Engine}

theorem TargetsActive.of_dependsOn
    (h : ∀ providerId, ext.dependsOn providerId = true → ActiveIn engine.instances providerId) :
    engine.TargetsActive ext := by
  intro dependency hmem
  exact h _ (List.any_eq_true.mpr ⟨dependency, hmem, beq_self_eq_true _⟩)

theorem TargetsActive.active (h : engine.TargetsActive ext) {providerId : ExtensionInstanceId}
    (hdepends : ext.dependsOn providerId = true) : ActiveIn engine.instances providerId := by
  obtain ⟨dependency, hmem, htarget⟩ := List.any_eq_true.mp hdepends
  rw [beq_iff_eq] at htarget
  exact htarget ▸ h dependency hmem

/-- In terms of the instances that depend on each other. -/
theorem dependenciesActive_iff : engine.DependenciesActive ↔
    ∀ instanceId providerId, ActiveIn engine.instances instanceId →
      engine.DependsOn instanceId providerId → ActiveIn engine.instances providerId := by
  constructor
  · rintro h instanceId providerId ⟨ext, hlookup, hactive⟩ ⟨found, hfound, hdepends⟩
    have hsame : some ext = some found := hlookup.symm.trans hfound
    cases hsame
    exact (h instanceId ext hlookup hactive).active hdepends
  · intro h instanceId ext hlookup hactive
    refine .of_dependsOn fun providerId hdepends => ?_
    exact h instanceId providerId ⟨ext, hlookup, hactive⟩ ⟨ext, hlookup, hdepends⟩

/-- Where the targets of active instances are active, so is everything that an active
instance depends on through others. -/
theorem DependenciesActive.activelyDependsOn_iff (h : engine.DependenciesActive)
    {providerId : ExtensionInstanceId} :
    engine.ActivelyDependsOn instanceId providerId ↔
      ActiveIn engine.instances instanceId ∧
        Relation.TransGen engine.DependsOn instanceId providerId := by
  constructor
  · intro hdepends
    refine ⟨?_, Relation.TransGen.mono (fun _ _ hdirect => hdirect.2) _ _ hdepends⟩
    cases hdepends using Relation.TransGen.head_induction_on with
    | single hdirect => exact hdirect.1
    | head hdirect _ _ => exact hdirect.1
  · rintro ⟨hactive, hdepends⟩
    induction hdepends using Relation.TransGen.head_induction_on with
    | single hdirect => exact Relation.TransGen.single ⟨hactive, hdirect⟩
    | head hdirect _ ih =>
        exact Relation.TransGen.head ⟨hactive, hdirect⟩
          (ih (dependenciesActive_iff.mp h _ _ hactive hdirect))

/-- The same instances are active, and depend on the same ones. -/
theorem DependenciesActive.congr (h : engine.DependenciesActive)
    (hextensions : engine'.extensions = engine.extensions) : engine'.DependenciesActive := by
  unfold DependenciesActive TargetsActive instances
  rw [hextensions]
  exact h

theorem DependenciesActive.atMostRegisters (h : engine.DependenciesActive)
    (hregisters : AtMostRegisters engine engine') : engine'.DependenciesActive := by
  rcases hregisters with hsame | ⟨ext, hfresh, hregistered, hextensions⟩
  · exact h.congr hsame
  · intro instanceId found hlookup hactive dependency hmem
    rw [hextensions, Dict.lookup_insert_ite] at hlookup
    split at hlookup
    · cases hlookup
      rw [hregistered] at hactive
      cases hactive
    · obtain ⟨provider, hprovider, hproviderActive⟩ :=
        h instanceId found hlookup hactive dependency hmem
      refine ⟨provider, ?_, hproviderActive⟩
      change engine'.extensions.lookup _ = _
      rw [hextensions, Dict.lookup_insert_ite, if_neg]
      · exact hprovider
      · intro heq
        rw [heq] at hprovider
        have hnone : some provider = none := hprovider.symm.trans hfresh
        cases hnone

/-- Shutdowns that take all active dependents along leave the targets of the others
active. -/
theorem DependenciesActive.stopped {order : List ExtensionInstanceId}
    (h : engine.DependenciesActive) (hstopped : Stopped order engine engine')
    (hclosed : ∀ instanceId providerId, providerId ∈ order →
      ActiveIn engine.instances instanceId → engine.DependsOn instanceId providerId →
      instanceId ∈ order) : engine'.DependenciesActive := by
  rw [dependenciesActive_iff] at h ⊢
  intro instanceId providerId hactive hdepends
  obtain ⟨hbefore, hnot⟩ := (hstopped.active instanceId).mp hactive
  have hdirect := (hstopped.dependsOn _ _).mp hdepends
  refine (hstopped.active providerId).mpr ⟨h _ _ hbefore hdirect, fun hmem => ?_⟩
  exact hnot (hclosed _ _ hmem hbefore hdirect)

/-- Forgetting an instance that nothing depends on. -/
theorem DependenciesActive.forget (h : engine.DependenciesActive) {ext : ManagedExtension}
    (hunused : ∀ instanceId other, engine.extensions.lookup instanceId = some other →
      instanceId ≠ ext.instanceId → other.dependsOn ext.instanceId = false) :
    (engine.forget ext).DependenciesActive := by
  intro instanceId found hlookup hactive
  have herased : (engine.extensions.erase ext.instanceId).lookup instanceId = some found := hlookup
  rw [Dict.lookup_erase_ite] at herased
  split at herased
  · cases herased
  · next hne =>
      refine .of_dependsOn fun providerId hdepends => ?_
      obtain ⟨provider, hprovider, hproviderActive⟩ :=
        (h instanceId found herased hactive).active hdepends
      refine ⟨provider, ?_, hproviderActive⟩
      change (engine.extensions.erase ext.instanceId).lookup providerId = _
      rw [Dict.lookup_erase_ite, if_neg]
      · exact hprovider
      · rintro rfl
        rw [hunused instanceId found herased hne] at hdepends
        cases hdepends

/-- A guarded shutdown. -/
theorem DependenciesActive.shutDown (h : engine.DependenciesActive)
    (hconsistent : Consistent engine) (hfound : engine.extensions.lookup ext.instanceId = some ext)
    (hguard : engine.ensureExecutionTargetProviderNotInUse ext.instanceId = .ok ())
    (script : InstanceScript) : (engine.shutDown ext script).1.DependenciesActive := by
  refine h.stopped (stopped_shutDown hconsistent hfound script) ?_
  rintro instanceId providerId hmem - ⟨found, hlookup, hdepends⟩
  rw [List.mem_singleton] at hmem ⊢
  subst hmem
  by_contra hne
  rw [hconsistent.unused_of_guard hguard instanceId found hlookup hne] at hdepends
  cases hdepends

/-! ## Runs -/

/-- A quarantine shuts down the instance and every active one that depends on it, directly
or through others, each of them once and dependents before what they depend on. -/
def QuarantinesInOrder (scripts : ExtensionInstanceId → InstanceScript) (engine : Engine)
    (instanceId : ExtensionInstanceId) (engine' : Engine) : Prop :=
  ∃ order, ShutDowns scripts engine order engine' ∧ order.Nodup ∧
    (∀ other, other ∈ order ↔ ActiveIn engine.instances other ∧
      Relation.ReflTransGen engine.DependsOn other instanceId) ∧
    order.Pairwise fun earlier later => ¬ Relation.TransGen engine.DependsOn later earlier

/-- Where the targets of active instances are active, a quarantine is in order, and the
targets of what is still active are active. -/
theorem quarantine_in_order {rank : ExtensionInstanceId → Nat} (hconsistent : Consistent engine)
    (hranked : RankedBy rank engine) (h : engine.DependenciesActive)
    (hactive : ActiveIn engine.instances instanceId)
    (scripts : ExtensionInstanceId → InstanceScript) :
    ∃ engine', engine.quarantineExtensionInstance instanceId scripts = (engine', .ok ()) ∧
      QuarantinesInOrder scripts engine instanceId engine' ∧ engine'.DependenciesActive := by
  obtain ⟨engine', order, hquarantine, hshut, hnodup, hmem, hpairwise⟩ :=
    quarantine_order scripts hconsistent hranked hactive
  refine ⟨engine', hquarantine, ⟨order, hshut, hnodup, ?_, ?_⟩, ?_⟩
  · intro other
    rw [hmem, h.activelyDependsOn_iff, Relation.reflTransGen_iff_eq_or_transGen]
    constructor
    · rintro (rfl | ⟨hother, hdepends⟩)
      · exact ⟨hactive, .inl rfl⟩
      · exact ⟨hother, .inr hdepends⟩
    · rintro ⟨hother, heq | hdepends⟩
      · exact .inl heq.symm
      · exact .inr ⟨hother, hdepends⟩
  · refine hpairwise.imp_of_mem ?_
    intro earlier later _ hlater hnot hdepends
    exact hnot (h.activelyDependsOn_iff.mpr
      ⟨hshut.active_of_mem hconsistent hlater, hdepends⟩)
  · refine h.stopped (hshut.stopped hconsistent) ?_
    intro dependent providerId hprovider hdependent hdirect
    obtain ⟨before, after, rfl⟩ := List.append_of_mem hprovider
    exact List.mem_append_left _ (hshut.dependent_before hconsistent
      (Relation.TransGen.single ⟨hdependent, hdirect⟩))

/-- A step that ends with all targets of active instances active, and whose quarantine,
if a failed callback causes one, is in order. -/
def KeepsTargets (_ : List EngineEvent) (engine : Engine) (event : EngineEvent)
    (engine' : Engine) : Prop :=
  engine'.DependenciesActive ∧
    ∀ owner entry callback scripts ext,
      event.op = .runActiveComponent owner entry callback scripts →
      engine.extensions.lookup owner.instanceId = some ext → ext.state = .active →
      owner.componentId ∈ (ext.components.map fun component => component.id) →
      callback.failure.any entry.quarantines = true →
      event.result = .ok () ∧
        QuarantinesInOrder scripts
          { engine with
            toEngineFacilities :=
              engine.runCallback engine.secrets owner (.runtime entry) callback }
          owner.instanceId engine'

/-- An instance that was inactive is only started, if the start goes through, while its
targets belong to active instances. -/
def StartsOnActiveTargets (_ : List EngineEvent) (engine : Engine) (event : EngineEvent)
    (_ : Engine) : Prop :=
  ∀ ext script, event.op = .startExtensionInstance ext.instanceId script →
    engine.extensions.lookup ext.instanceId = some ext → ext.state ≠ .active →
    engine.GoesThrough ext script → engine.TargetsActive ext

/-- A callback that fails quarantines in order. -/
theorem keepsTargets_runActive (h : engineSystem.Reachable engine)
    (htargets : engine.DependenciesActive) (owner : ComponentRef) (entry : RuntimeCallback)
    (callback : Callback) (scripts : ExtensionInstanceId → InstanceScript)
    (labels : List EngineEvent) :
    KeepsTargets labels engine
      ⟨.runActiveComponent owner entry callback scripts,
        (engine.runActiveComponent owner entry callback scripts).2⟩
      (engine.runActiveComponent owner entry callback scripts).1 := by
  have hconsistent := consistent_of_reachable h
  obtain ⟨rank, hranked, -⟩ := layered_of_reachable h
  cases hlookup : engine.extensions.lookup owner.instanceId with
  | none =>
      have hrun : engine.runActiveComponent owner entry callback scripts = (engine, .ok ()) := by
        simp only [runActiveComponent, hlookup]
      rw [hrun]
      refine ⟨htargets, ?_⟩
      rintro owner' entry' callback' scripts' ext hop hfound
      cases hop
      rw [hlookup] at hfound
      cases hfound
  | some ext =>
      by_cases hactive : ext.state = .active ∧
          owner.componentId ∈ ext.components.map fun component => component.id
      · let ran : Engine := { engine with
          toEngineFacilities := engine.runCallback engine.secrets owner (.runtime entry) callback }
        have hsame := engine.sameTopology_runCallback engine.secrets owner (.runtime entry) callback
        have hran : Consistent ran :=
          hconsistent.withFacilities (hconsistent.mirrors.sameTopology hsame)
            (hconsistent.owners.runCallback engine.secrets ⟨ext, hlookup, hactive.1⟩ _ callback)
            hsame.services.platformDefinitions hsame.services.preferredProviders
        by_cases hfails : callback.failure.any entry.quarantines = true
        · have hrun : engine.runActiveComponent owner entry callback scripts =
              ran.quarantineExtensionInstance owner.instanceId scripts := by
            simp only [runActiveComponent, hlookup]
            rw [if_pos hactive, if_pos hfails]
          obtain ⟨engine', hquarantine, hordered, hafter⟩ := quarantine_in_order hran hranked
            (DependenciesActive.congr htargets rfl) ⟨ext, hlookup, hactive.1⟩ scripts
          rw [hrun, hquarantine]
          refine ⟨hafter, ?_⟩
          rintro owner' entry' callback' scripts' ext' hop - - - -
          cases hop
          exact ⟨rfl, hordered⟩
        · have hrun : engine.runActiveComponent owner entry callback scripts = (ran, .ok ()) := by
            simp only [runActiveComponent, hlookup]
            rw [if_pos hactive, if_neg hfails]
          rw [hrun]
          refine ⟨DependenciesActive.congr htargets rfl, ?_⟩
          rintro owner' entry' callback' scripts' ext' hop - - - hfailed
          cases hop
          exact absurd hfailed hfails
      · have hrun : engine.runActiveComponent owner entry callback scripts = (engine, .ok ()) := by
          simp only [runActiveComponent, hlookup]
          rw [if_neg hactive]
        rw [hrun]
        refine ⟨htargets, ?_⟩
        rintro owner' entry' callback' scripts' ext' hop hfound hstate hcomponent
        cases hop
        rw [hlookup] at hfound
        cases hfound
        exact absurd ⟨hstate, hcomponent⟩ hactive

/-- A start keeps the targets active just in case it was on active targets. -/
theorem dependenciesActive_start (h : engineSystem.Reachable engine)
    (htargets : engine.DependenciesActive) (instanceId : ExtensionInstanceId)
    (script : InstanceScript) :
    (engine.startExtensionInstance instanceId script).1.DependenciesActive ↔
      ∀ ext, ext.instanceId = instanceId → engine.extensions.lookup instanceId = some ext →
        ext.state ≠ .active → engine.GoesThrough ext script → engine.TargetsActive ext := by
  cases hlookup : engine.extensions.lookup instanceId with
  | none =>
      have hstart : (engine.startExtensionInstance instanceId script).1 = engine := by
        simp [startExtensionInstance, instanceOf, hlookup]
      rw [hstart]
      refine iff_of_true htargets ?_
      rintro ext - hfound
      cases hfound
  | some ext =>
      obtain rfl := (consistent_of_reachable h).keyed _ _ hlookup
      by_cases hactive : ext.state = .active
      · have hstart : (engine.startExtensionInstance ext.instanceId script).1 = engine := by
          simp [startExtensionInstance, instanceOf, hlookup, hactive]
        rw [hstart]
        refine iff_of_true htargets ?_
        rintro found - hfound hinactive
        cases hfound
        exact absurd hactive hinactive
      · rcases @start_extensions engine ext script h hlookup hactive with
          ⟨hgoes, hextensions⟩ | ⟨hrefused, hextensions⟩
        · have hbefore : ∀ other, ActiveIn
              (engine.startExtensionInstance ext.instanceId script).1.instances other ↔
              other = ext.instanceId ∨ ActiveIn engine.instances other := by
            intro other
            unfold ActiveIn instances
            simp only [hextensions, Dict.lookup_insert_ite]
            split
            · next heq => simp [heq]
            · next hne => simp [hne]
          have hdepends := dependsOn_withState hlookup hextensions
          rw [dependenciesActive_iff]
          constructor
          · rintro hafter found - hfound - -
            cases hfound
            refine .of_dependsOn fun providerId hprovider => ?_
            have hdirect : engine.DependsOn ext.instanceId providerId := ⟨ext, hlookup, hprovider⟩
            rcases (hbefore providerId).mp (hafter ext.instanceId providerId
                ((hbefore _).mpr (.inl rfl)) ((hdepends _ _).mpr hdirect))
              with rfl | hproviderActive
            · obtain ⟨rank, hranked, -⟩ := layered_of_reachable h
              exact absurd (hranked _ _ hdirect) (Nat.lt_irrefl _)
            · exact hproviderActive
          · intro hon instanceId providerId hinstance hdirect
            have hdirect' := (hdepends _ _).mp hdirect
            refine (hbefore providerId).mpr (.inr ?_)
            rcases (hbefore instanceId).mp hinstance with rfl | hinstance
            · obtain ⟨found, hfound, hprovider⟩ := hdirect'
              rw [hlookup] at hfound
              cases hfound
              exact (hon ext rfl rfl hactive hgoes).active hprovider
            · exact dependenciesActive_iff.mp htargets _ _ hinstance hdirect'
        · refine iff_of_true (htargets.congr hextensions) ?_
          rintro found - hfound - hgoes
          cases hfound
          exact absurd hgoes hrefused

/-- A step keeps the targets of active instances active just in case it starts no
instance on inactive ones. -/
theorem keepsTargets_iff (h : engineSystem.Reachable engine) (htargets : engine.DependenciesActive)
    (labels : List EngineEvent) (op : EngineOp) :
    StartsOnActiveTargets labels engine ⟨op, (engine.run op).2⟩ (engine.run op).1 ↔
      KeepsTargets labels engine ⟨op, (engine.run op).2⟩ (engine.run op).1 := by
  have hconsistent := consistent_of_reachable h
  by_cases hstart : ∃ instanceId script, op = .startExtensionInstance instanceId script
  · obtain ⟨instanceId, script, rfl⟩ := hstart
    have hiff := dependenciesActive_start h htargets instanceId script
    constructor
    · intro hon
      refine ⟨hiff.mpr ?_, fun _ _ _ _ _ hop => by cases hop⟩
      rintro ext rfl hfound hinactive hgoes
      exact hon ext script rfl hfound hinactive hgoes
    · rintro ⟨hafter, -⟩ ext script' hop hfound hinactive hgoes
      cases hop
      exact hiff.mp hafter ext rfl hfound hinactive hgoes
  · refine iff_of_true ?_ ?_
    · rintro ext script rfl
      exact absurd ⟨_, _, rfl⟩ hstart
    · cases op with
      | startExtensionInstance instanceId script => exact absurd ⟨_, _, rfl⟩ hstart
      | runActiveComponent owner entry callback scripts =>
          exact keepsTargets_runActive h htargets owner entry callback scripts labels
      | stopExtensionInstance instanceId script =>
          refine ⟨?_, fun _ _ _ _ _ hop => by cases hop⟩
          simp only [run, stopExtensionInstance, stopExtensionInstanceInner]
          split
          · exact htargets
          · next ext hinstance =>
              obtain rfl := hconsistent.keyed _ _ (instanceOf_ok hinstance)
              split
              · exact htargets
              · rw [if_pos trivial]
                split
                · exact htargets
                · next hguard =>
                    exact htargets.shutDown hconsistent (instanceOf_ok hinstance) hguard script
      | unregisterExtensionInstance instanceId script =>
          refine ⟨?_, fun _ _ _ _ _ hop => by cases hop⟩
          simp only [run]
          rcases unregister_cases engine instanceId script with ⟨error, hsame⟩ |
            ⟨ext, hfound, hguard, ⟨hinactive, hforget⟩ | ⟨hactive, hended⟩⟩
          · rw [hsame]
            exact htargets
          · obtain rfl := hconsistent.keyed _ _ hfound
            rw [hforget]
            exact htargets.forget (hconsistent.unused_of_guard hguard)
          · obtain rfl := hconsistent.keyed _ _ hfound
            have hhalted := htargets.shutDown hconsistent hfound hguard script
            rcases hended with ⟨error, hstopped⟩ | hforgot
            · rw [hstopped]
              exact hhalted
            · rw [hforgot]
              refine hhalted.forget ?_
              intro other found hlookup hne
              by_contra hdepends
              rw [Bool.not_eq_false] at hdepends
              obtain ⟨before, hbefore, hdirect⟩ :=
                ((stopped_shutDown hconsistent hfound script).dependsOn other ext.instanceId).mp
                  ⟨found, hlookup, hdepends⟩
              rw [hconsistent.unused_of_guard hguard other before hbefore hne] at hdirect
              cases hdirect
      | _ =>
          refine ⟨htargets.atMostRegisters (engine.atMostRegisters_run id), ?_⟩
          rintro _ _ _ _ _ hop
          cases hop

theorem dependenciesActive_new : DependenciesActive .new := by
  intro instanceId ext hlookup
  cases hlookup

/-- A quarantine ends on every graph of dependencies. The targets of active instances stay
active, and quarantines are in order, in exactly those runs in which no instance is started
while one of its targets belongs to an inactive instance. -/
theorem execution_targets_stay_active (labels : List EngineEvent) (engine : Engine) :
    (engineSystem.RunWith StartsOnActiveTargets .new labels engine ↔
      engineSystem.RunWith KeepsTargets .new labels engine) ∧
    ∀ (quarantined : Engine), quarantined.Keyed → ∀ (instanceId : ExtensionInstanceId)
      (scripts : ExtensionInstanceId → InstanceScript) (depth : Nat),
      quarantined.quarantineDepth ≤ depth →
      quarantineRecursive scripts depth (quarantined, []) instanceId =
        quarantineRecursive scripts quarantined.quarantineDepth (quarantined, []) instanceId := by
  refine ⟨?_, fun quarantined hkeyed instanceId scripts depth hdepth =>
    quarantine_terminates hkeyed instanceId scripts hdepth⟩
  refine Iff.symm (Lts.runWith_congr ?_)
  intro labels engine event engine' hbefore hstep
  have hreachable : engineSystem.Reachable engine := ⟨.new, labels, rfl, hbefore.run⟩
  have htargets : engine.DependenciesActive := by
    cases hbefore with
    | refl => exact dependenciesActive_new
    | snoc _ _ hkeeps => exact hkeeps.1
  obtain ⟨op, result⟩ := event
  obtain rfl : (engine.run op).2 = result := congrArg Prod.snd hstep
  obtain rfl : (engine.run op).1 = engine' := congrArg Prod.fst hstep
  exact (keepsTargets_iff hreachable htargets labels op).symm

/-- An active instance that was instantiated through another one. -/
def linkedExtension (instanceId providerId : String) : ManagedExtension :=
  { managedExtension ⟨instanceId⟩ ⟨"default"⟩ ⟨⟨instanceId⟩, []⟩ []
      [⟨⟨"main"⟩, ⟨"test.script@1"⟩, ⟨⟨providerId⟩, ⟨"main"⟩⟩⟩] (.empty _ _) with
    state := .active }

/-- Two instances that depend on each other. -/
def cyclicEngine : Engine :=
  { Engine.new with
    extensions := (AList.insert ⟨"left"⟩ (linkedExtension "left" "right") ∅).insert ⟨"right"⟩
      (linkedExtension "right" "left") }

/-- A quarantine ends there too. -/
theorem execution_targets_cyclic :
    quarantineRecursive (fun _ => .quiet) 9 (cyclicEngine, []) ⟨"left"⟩ =
      quarantineRecursive (fun _ => .quiet) cyclicEngine.quarantineDepth (cyclicEngine, [])
        ⟨"left"⟩ := by
  refine (execution_targets_stay_active [] .new).2 cyclicEngine ?_ ⟨"left"⟩ (fun _ => .quiet) 9
    (by decide +kernel)
  intro instanceId ext hlookup
  simp only [cyclicEngine, Dict.lookup_insert_ite] at hlookup
  split at hlookup
  · next heq =>
      cases hlookup
      exact heq.symm
  · split at hlookup
    · next heq =>
        cases hlookup
        exact heq.symm
    · cases hlookup

/-! ## A target whose owner was quarantined -/

/-- An archive with one component for the target of a host. -/
def scriptArchive : RtwArchive where
  manifest := .ok ⟨⟨"script"⟩, [⟨⟨"main"⟩, ⟨"test.script@1"⟩, true, ⟨[], []⟩⟩]⟩
  wasmEngine := .ok ()
  wasmComponent _ := .ok ⟨⟨none⟩, [], none, false⟩
  hostedComponent _ := .ok ⟨⟨"main"⟩, ⟨none⟩, [], none⟩

/-- A host of scripts is started, and a script is loaded through it. -/
def hostedOps : List EngineOp :=
  [.registerExtensionInstance ⟨"host"⟩ ⟨"default"⟩ ⟨⟨"host"⟩, []⟩ [⟨⟨"main"⟩, ⟨none⟩, [], none⟩],
    .startExtensionInstance ⟨"host"⟩ .quiet,
    .registerExecutionTargetHost ⟨⟨"host"⟩, ⟨"main"⟩⟩ "test.script@1",
    .tryLoadArchive scriptArchive ⟨"script"⟩ ⟨"default"⟩]

/-- A callback of the host fails, and the script is started. -/
def orphanedOps : List EngineOp :=
  hostedOps ++
    [.runActiveComponent ⟨⟨"host"⟩, ⟨"main"⟩⟩ .pollRuntime ⟨[], some ⟨"timeout", false⟩⟩
        fun _ => .quiet,
      .startExtensionInstance ⟨"script"⟩ .quiet]

/-- The script is active and depends on the host, which is not. -/
theorem target_owner_inactive :
    engineSystem.Run .new (Engine.new.runAll orphanedOps).2 (Engine.new.runAll orphanedOps).1 ∧
      ¬ (Engine.new.runAll orphanedOps).1.DependenciesActive := by
  refine ⟨run_runAll .new orphanedOps, ?_⟩
  intro htargets
  have hactive : ((Engine.new.runAll orphanedOps).1.extensions.lookup ⟨"script"⟩).any (fun ext =>
      ext.state == .active && ext.dependsOn ⟨"host"⟩) = true := by
    decide +kernel
  obtain ⟨ext, hfound, htest⟩ := (Option.any_eq_true _ _).mp hactive
  simp only [Bool.and_eq_true, beq_iff_eq] at htest
  obtain ⟨host, hhost, hhostActive⟩ := (htargets _ ext hfound htest.1).active htest.2
  have hinactive : ((Engine.new.runAll orphanedOps).1.extensions.lookup ⟨"host"⟩).any (fun ext =>
      ext.state == .active) = false := by
    decide +kernel
  rw [show (Engine.new.runAll orphanedOps).1.extensions.lookup ⟨"host"⟩ = some host from hhost]
    at hinactive
  simp [hhostActive] at hinactive

end Engine

end Rintawa.ExtensionEngine
