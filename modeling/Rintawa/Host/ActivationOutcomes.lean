/-
# Outcomes of activations

An activation ends, whatever the artifacts and the callbacks do. Either all enabled activations
are registered and active, each started when its required contracts were bound to what was active
by then; or there is an error, and all that was registered is gone again up to the failures that
the error reports. The preferred providers of the scope are gone then too.
-/

import Rintawa.Host.ActivationLoops
import Rintawa.Host.ActivationRollback

namespace Rintawa.Host

open Rintawa.Lib Rintawa.Sdk Rintawa.ExtensionEngine

section Outcomes

variable {env : ActivationEnvironment} {profile : CompositionProfile} {initial : Engine}
  {scopeId : RuntimeScopeId} {state : BootstrapState}

/-! ## The rest -/

/-- Instances that are left are started in order, up to a failure. -/
theorem Progress.startInstances {order : List ExtensionInstanceId} (hnodup : order.Nodup)
    (hleft : ∀ instanceId ∈ order,
      instanceId ∈ state.registered ∧ instanceId ∉ state.started)
    (h : Progress initial scopeId state) :
    let outcome := startInstances env state order
    Progress initial scopeId outcome.1 ∧ outcome.1.registered = state.registered ∧
      (outcome.2 = .ok () → outcome.1.started = state.started ++ order) := by
  induction order generalizing state with
  | nil => exact ⟨h, rfl, fun _ => (List.append_nil _).symm⟩
  | cons instanceId rest ih =>
      obtain ⟨hnew, hrest⟩ := List.nodup_cons.mp hnodup
      obtain ⟨⟨hregistered, hnot⟩, hothers⟩ := List.forall_mem_cons.mp hleft
      have hstart := h.start hregistered hnot (env.scripts instanceId)
      dsimp only
      rw [Host.startInstances]
      generalize state.engine.startExtensionInstance instanceId (env.scripts instanceId) = outcome
        at hstart ⊢
      obtain ⟨engine, result⟩ := outcome
      rcases hstart with ⟨⟨error, rfl⟩, hfailed⟩ | ⟨rfl, hstarted⟩
      · exact ⟨hfailed, rfl, fun hok => by cases hok⟩
      · have hothers' : ∀ other ∈ rest,
            other ∈ state.registered ∧ other ∉ state.started ++ [instanceId] := by
          intro other hother
          refine ⟨(hothers other hother).1, fun hmem => ?_⟩
          rcases List.mem_append.mp hmem with hbefore | hlast
          · exact (hothers other hother).2 hbefore
          · exact hnew (List.mem_singleton.mp hlast ▸ hother)
        obtain ⟨hprogress, hkept, hall⟩ := ih hrest hothers' hstarted
        refine ⟨hprogress, hkept, fun hok => ?_⟩
        rw [hall hok]
        dsimp only
        rw [List.append_assoc]
        rfl

/-- What is left of the registered instances is started in the order of its plan. -/
theorem Progress.startRemaining {activations : List ActivationRecord}
    (h : Progress initial scopeId state)
    (hall : state.registered.Perm (instancesOf activations)) :
    let outcome := startRemaining env activations state
    Progress initial scopeId outcome.1 ∧ outcome.1.registered = state.registered ∧
      (outcome.2 = .ok () → outcome.1.started.Perm state.registered) := by
  have hremaining : remainingInstances activations state =
      (instancesOf activations).filter fun instanceId =>
        decide (instanceId ∈ state.registered ∧ instanceId ∉ state.started) := by
    rw [remainingInstances, instancesOf, List.filter_map]
    rfl
  have hnodup : (remainingInstances activations state).Nodup := by
    rw [hremaining]
    exact (hall.nodup_iff.mp h.registered).filter _
  have hmem : ∀ instanceId, instanceId ∈ remainingInstances activations state ↔
      instanceId ∈ state.registered ∧ instanceId ∉ state.started := by
    intro instanceId
    rw [hremaining, List.mem_filter, decide_eq_true_eq, ← hall.mem_iff]
    exact and_iff_right_of_imp fun hleft => hleft.1
  dsimp only
  rw [Host.startRemaining]
  split
  · exact ⟨h, rfl, fun hok => by cases hok⟩
  · next plan hplan =>
      have hperm := of_planExtensionActivation hplan
      obtain ⟨hprogress, hkept, hstarted⟩ := @Progress.startInstances env initial scopeId state
        plan.orderedInstances (hperm.nodup_iff.mpr hnodup)
        (fun instanceId hordered => (hmem instanceId).mp (hperm.mem_iff.mp hordered)) h
      refine ⟨hprogress, hkept, fun hok => ?_⟩
      rw [hstarted hok]
      have hboth : (state.started ++ plan.orderedInstances).Nodup := by
        refine List.nodup_append.mpr ⟨h.started, hperm.nodup_iff.mpr hnodup, ?_⟩
        rintro instanceId hbefore _ hordered rfl
        exact ((hmem instanceId).mp (hperm.mem_iff.mp hordered)).2 hbefore
      refine (List.perm_ext_iff_of_nodup hboth h.registered).mpr fun instanceId => ?_
      rw [List.mem_append, hperm.mem_iff, hmem]
      constructor
      · rintro (hbefore | hleft)
        · exact h.startedRegistered hbefore
        · exact hleft.1
      · intro hregistered
        by_cases hstart : instanceId ∈ state.started
        · exact .inl hstart
        · exact .inr ⟨hregistered, hstart⟩

/-! ## Bound starts -/

/-- Every required contract of an instance is bound among the instances that were active at
first, those that were started before it, and itself. -/
def StartedWhenBound (initial after : Engine) (scopeId : RuntimeScopeId)
    (before : List ExtensionInstanceId) (instanceId : ExtensionInstanceId) : Prop :=
  ∀ ext, after.extensions.lookup instanceId = some ext → ∀ owned ∈ ext.contractConsumers,
    owned.consumer.required = true → ∃ binding, BoundAmong after scopeId
      (fun other => initial.isActive other.instanceId || before.contains other.instanceId ||
        other.instanceId == instanceId) owned binding

theorem Progress.startedWhenBound (h : Progress initial scopeId state)
    {before rest : List ExtensionInstanceId} {instanceId : ExtensionInstanceId}
    (hsplit : state.started = before ++ instanceId :: rest) :
    StartedWhenBound initial state.engine scopeId before instanceId := by
  obtain ⟨engine, plan, hreachable, hgrows, hactive, hplan⟩ :=
    h.order before instanceId rest hsplit
  have hconsistent := consistent_of_reachable hreachable
  have hconsistent' := consistent_of_reachable h.reachable
  obtain ⟨ext, hfound⟩ : ∃ ext, engine.extensions.lookup instanceId = some ext := by
    cases hlookup : engine.extensions.lookup instanceId with
    | some ext => exact ⟨ext, rfl⟩
    | none =>
        unfold Engine.planExtensionActivation at hplan
        rw [Engine.scopesOf, Engine.instanceOf, hlookup] at hplan
        cases hplan
  obtain ⟨final, hgrown⟩ := hgrows.instances instanceId ext hfound
  have hscope : ext.scopeId = scopeId := by
    have hregistered : instanceId ∈ state.registered :=
      h.startedRegistered (hsplit ▸ List.mem_append_right _ List.mem_cons_self)
    obtain ⟨other, hother, hscope, -⟩ := h.present instanceId hregistered
    rw [hgrown] at hother
    cases hother
    exact hscope
  have hisActive : ∀ other, engine.isActive other =
      (initial.isActive other || before.contains other) := by
    intro other
    rw [Bool.eq_iff_iff, hactive, Bool.or_eq_true, List.contains_iff_mem]
  have hincluded : ∀ other otherExt, engine.extensions.lookup other = some otherExt →
      (otherExt.state == .active || [instanceId].contains otherExt.instanceId) =
        (engine.isActive other || other == instanceId) := by
    intro other otherExt hother
    rw [hconsistent.keyed _ _ hother, Engine.isActive, hother, Option.any_some,
      List.contains_cons, List.contains_nil, Bool.or_false]
  have hincluded' : ∀ other otherExt, state.engine.extensions.lookup other = some otherExt →
      (initial.isActive otherExt.instanceId || before.contains otherExt.instanceId ||
        otherExt.instanceId == instanceId) = (engine.isActive other || other == instanceId) := by
    intro other otherExt hother
    rw [hconsistent'.keyed _ _ hother, hisActive]
  have hthere : ∀ other, (engine.isActive other || other == instanceId) = true →
      (engine.extensions.lookup other).isSome = true := by
    intro other hmeant
    rw [Bool.or_eq_true, beq_iff_eq] at hmeant
    rcases hmeant with hother | rfl
    · cases hlookup : engine.extensions.lookup other with
      | some otherExt => rfl
      | none =>
          rw [Engine.isActive, hlookup] at hother
          cases hother
    · rw [hfound]
      rfl
  intro grown hlookup owned howned hrequired
  rw [hgrown] at hlookup
  cases hlookup
  have hself := hincluded instanceId ext hfound
  rw [beq_self_eq_true, Bool.or_true] at hself
  obtain ⟨binding, hbinding⟩ := exists_boundAmong hconsistent hfound hself
    (bound_of_planned hfound hplan) howned hrequired
  rw [hscope] at hbinding
  refine ⟨binding, ?_, hbinding.consumer, hbinding.contract, hbinding.required,
    hbinding.provided, fun provider hprovider => ?_⟩
  · rw [hgrows.composition hconsistent hconsistent' (definitionsAgree_of_reachable hreachable)
      hincluded hincluded' hthere]
    exact hbinding.resolved
  · obtain ⟨other, hother, hmeant⟩ := hbinding.included provider hprovider
    obtain ⟨otherState, hotherGrown⟩ := hgrows.instances _ other hother
    refine ⟨_, hotherGrown, ?_⟩
    rw [hincluded' _ _ hotherGrown, ← hincluded _ _ hother]
    exact hmeant

/-! ## Fuel -/

/-- A round that ends within a limit is the same within a greater one. -/
theorem roundStep_mono {activations : List ActivationRecord} {limit limit' : Nat}
    (hle : limit ≤ limit') {pass : PendingRound}
    (h : roundStep env profile activations limit pass ≠ .inr none) :
    roundStep env profile activations limit' pass =
      roundStep env profile activations limit pass := by
  unfold roundStep at h ⊢
  split
  · rfl
  · next hpending =>
      rw [if_neg hpending] at h
      split
      · rfl
      · next state loaded hload =>
          rw [hload] at h
          dsimp only at h
          split
          · rfl
          · next hloaded =>
              rw [if_neg hloaded] at h
              cases hloop : loop (startStep env activations) limit
                  (state, loaded.madeProgress) with
              | none =>
                  rw [hloop] at h
                  exact absurd rfl h
              | some started => rw [loop_mono hloop hle]

/-- An activation that ends with some fuel ends in the same way with more. -/
theorem bootstrapActivations_mono {fuel fuel' : Nat} (hle : fuel ≤ fuel')
    {outcome : BootstrapState × ActivationResult Unit}
    (h : bootstrapActivations env profile fuel initial = some outcome) :
    bootstrapActivations env profile fuel' initial = some outcome := by
  unfold bootstrapActivations at h ⊢
  dsimp only at h ⊢
  split at h
  · exact h
  · split at h
    · cases h
    · next hjoin =>
        rw [Option.join_eq_some_iff] at hjoin
        rw [loop_mono (loop_congr (fun _ => roundStep_mono hle) hjoin) hle]
        exact h
    · next hjoin =>
        rw [Option.join_eq_some_iff] at hjoin
        rw [loop_mono (loop_congr (fun _ => roundStep_mono hle) hjoin) hle]
        exact h

theorem activateComposition_mono {fuel fuel' : Nat} (hle : fuel ≤ fuel')
    {outcome : Engine × ActivationResult ActivatedComposition}
    (h : activateComposition env fuel initial profile scopeId = some outcome) :
    activateComposition env fuel' initial profile scopeId = some outcome := by
  unfold activateComposition at h ⊢
  split at h
  · exact h
  · split at h
    · cases h
    · next hbootstrap =>
        rw [bootstrapActivations_mono hle hbootstrap]
        exact h
    · next hbootstrap =>
        rw [bootstrapActivations_mono hle hbootstrap]
        exact h

/-! ## Activation -/

/-- Loading and starting ends, and all is started when there is no error. -/
theorem bootstrapActivations_outcome (h : engineSystem.Reachable initial)
    (hscope : profile.InScope scopeId) {fuel : Nat}
    (hfuel : 2 * profile.enabledActivations.length < fuel) :
    ∃ first state ending, bootstrapActivations env profile fuel initial = some (state, ending) ∧
      SameUpToPolicies scopeId initial first ∧ Progress first scopeId state ∧
      (ending = .ok () →
        state.registered.Perm (instancesOf profile.enabledActivations) ∧
          state.started.Perm state.registered) := by
  have hactivations : ∀ activation ∈ profile.enabledActivations,
      activation.scopeId = scopeId := fun activation hmem =>
    hscope.activations activation (List.mem_filter.mp hmem).1
  obtain ⟨hreachable, hsame⟩ := restoredPolicies hscope.preferredProviders h
  unfold bootstrapActivations
  dsimp only
  split
  · exact ⟨initial, _, _, rfl, ⟨rfl, fun _ _ => rfl⟩, progress_initial h,
      fun hok => by cases hok⟩
  · have hrounds : Rounds (restorePreferredProviders profile initial) scopeId
        profile.enabledActivations
        ⟨0, ⟨restorePreferredProviders profile initial, [], [], ∅⟩, profile.enabledActivations⟩ :=
      ⟨progress_initial hreachable, .refl _, hactivations⟩
    obtain ⟨state, ending, hresult, hprogress, hall⟩ :=
      @Rounds.run env profile _ scopeId profile.enabledActivations fuel hactivations hfuel _
        hrounds rfl
    rw [hresult]
    cases ending with
    | error error => exact ⟨_, state, _, rfl, hsame, hprogress, fun hok => by cases hok⟩
    | ok _ =>
        have hperm := hall rfl
        obtain ⟨hprogress', hkept, hstarted⟩ :=
          @Progress.startRemaining env _ scopeId state _ hprogress hperm
        exact ⟨_, startRemaining env profile.enabledActivations state |>.1, _, rfl, hsame,
          hprogress', fun hok => ⟨hkept ▸ hperm, hkept ▸ hstarted hok⟩⟩

/-- What a successful activation has done. -/
structure Activates (engine : Engine) (profile : CompositionProfile) (scopeId : RuntimeScopeId)
    (after : Engine) (activated : ActivatedComposition) : Prop where
  registeredOnce : activated.registeredInstances.Nodup
  registered :
    activated.registeredInstances.Perm (instancesOf profile.enabledActivations)
  startedOnce : activated.startedInstances.Nodup
  started : activated.startedInstances.Perm (instancesOf profile.enabledActivations)
  fresh : ∀ instanceId ∈ activated.registeredInstances,
    engine.extensions.lookup instanceId = none
  active : ∀ instanceId ∈ activated.registeredInstances, ∃ ext,
    after.extensions.lookup instanceId = some ext ∧ ext.scopeId = scopeId ∧ ext.state = .active
  others : ∀ instanceId, instanceId ∉ activated.registeredInstances →
    after.extensions.lookup instanceId = engine.extensions.lookup instanceId
  bound : ∀ before instanceId rest, activated.startedInstances = before ++ instanceId :: rest →
    StartedWhenBound engine after scopeId before instanceId

/-- What is left of an activation after an error. -/
structure RollsBack (engine : Engine) (scopeId : RuntimeScopeId) (after : Engine)
    (error : ActivationError) : Prop where
  removed : ∀ instanceId, engine.extensions.lookup instanceId = none →
    after.extensions.lookup instanceId = none ∨
      ∃ failure ∈ error.cleanupFailures, failure.instanceId = instanceId
  others : ∀ instanceId, engine.extensions.lookup instanceId ≠ none →
    after.extensions.lookup instanceId = engine.extensions.lookup instanceId
  policies : after = engine ∨ after.preferredContractProviders.lookup scopeId = none
  otherPolicies : ∀ other, other ≠ scopeId → after.preferredContractProviders.lookup other =
    engine.preferredContractProviders.lookup other

/-- The ends of an activation. -/
inductive ActivationOutcome (engine : Engine) (profile : CompositionProfile)
    (scopeId : RuntimeScopeId) : Engine × ActivationResult ActivatedComposition → Prop
  | activated {after : Engine} {activated : ActivatedComposition}
      (h : Activates engine profile scopeId after activated) :
      ActivationOutcome engine profile scopeId (after, .ok activated)
  | failed {after : Engine} {error : ActivationError}
      (h : RollsBack engine scopeId after error) :
      ActivationOutcome engine profile scopeId (after, .error error)

theorem Progress.activates {first : Engine} (hsame : SameUpToPolicies scopeId initial first)
    (h : Progress first scopeId state)
    (hregistered : state.registered.Perm (instancesOf profile.enabledActivations))
    (hstarted : state.started.Perm state.registered) :
    Activates initial profile scopeId state.engine ⟨state.registered, state.started⟩ where
  registeredOnce := h.registered
  registered := hregistered
  startedOnce := h.started
  started := hstarted.trans hregistered
  fresh := fun instanceId hmem => by
    rw [← hsame.extensions]
    exact h.fresh instanceId hmem
  active := fun instanceId hmem => by
    obtain ⟨ext, hfound, hscope, hstate⟩ := h.present instanceId hmem
    rw [if_pos (hstarted.mem_iff.mpr hmem)] at hstate
    exact ⟨ext, hfound, hscope, hstate⟩
  others := fun instanceId hmem => by
    rw [← hsame.extensions]
    exact h.others instanceId hmem
  bound := fun before instanceId rest hsplit => by
    have hbound := h.startedWhenBound hsplit
    have hactive : ∀ other, first.isActive other = initial.isActive other := by
      intro other
      rw [Engine.isActive, hsame.extensions, Engine.isActive]
    rw [StartedWhenBound] at hbound ⊢
    simpa only [hactive] using hbound

theorem Progress.rollsBack {first : Engine} (hsame : SameUpToPolicies scopeId initial first)
    (h : Progress first scopeId state) {cleaned : Engine × List HostCleanupFailure}
    (hcleaned : CleanedUp state.engine state.registered cleaned) {error : ActivationError}
    (hfailures : cleaned.2 ⊆ error.cleanupFailures) :
    RollsBack initial scopeId
      (cleaned.1.clearPreferredContractProviderPoliciesInScope scopeId) error := by
  have hcleared := clearedPolicies cleaned.1 scopeId
  have hothers : ∀ instanceId, instanceId ∉ state.registered →
      cleaned.1.extensions.lookup instanceId = initial.extensions.lookup instanceId := by
    intro instanceId hmem
    rw [hcleaned.others instanceId hmem, h.others instanceId hmem, hsame.extensions]
  constructor
  case removed =>
    intro instanceId hnew
    rw [hcleared.extensions]
    by_cases hregistered : instanceId ∈ state.registered
    · refine (hcleaned.gone instanceId hregistered).imp_right fun hfailed => ?_
      obtain ⟨failure, hfailure, hinstance⟩ := hfailed
      exact ⟨failure, hfailures hfailure, hinstance⟩
    · exact .inl ((hothers instanceId hregistered).trans hnew)
  case others =>
    intro instanceId hthere
    rw [hcleared.extensions]
    refine hothers instanceId fun hregistered => hthere ?_
    rw [← hsame.extensions]
    exact h.fresh instanceId hregistered
  case policies => exact .inr (AList.lookup_erase _ _)
  case otherPolicies =>
    intro other hother
    rw [hcleared.others other hother, hcleaned.preferred, h.beside.preferred]
    exact hsame.others other hother

/-- An activation ends, whatever the artifacts and the callbacks do. All enabled activations are
registered and started once, each when its required contracts were bound to what was active by
then; or what was registered is removed again, up to the reported failures. -/
theorem activate_composition_outcome (env : ActivationEnvironment) (profile : CompositionProfile)
    (scopeId : RuntimeScopeId) {engine : Engine} (h : engineSystem.Reachable engine) :
    ∃ outcome, ActivationOutcome engine profile scopeId outcome ∧
      ∀ fuel, 2 * profile.enabledActivations.length < fuel →
        activateComposition env fuel engine profile scopeId = some outcome := by
  have hends : ∃ outcome, ActivationOutcome engine profile scopeId outcome ∧
      activateComposition env (2 * profile.enabledActivations.length + 1) engine profile scopeId =
        some outcome := by
    rw [activateComposition]
    split
    · next error _ =>
        exact ⟨_, .failed ⟨fun _ => .inl, fun _ _ => rfl, .inl rfl, fun _ _ => rfl⟩, rfl⟩
    · next hvalid =>
        have hcleared := reachable_run h (.clearPreferredContractProviderPoliciesInScope scopeId)
        obtain ⟨first, state, ending, hresult, hsame, hprogress, hall⟩ :=
          @bootstrapActivations_outcome env profile _ scopeId hcleared
            (profile.validateScope_eq_ok_iff.mp hvalid) _ (Nat.lt_succ_self _)
        have hfirst := (clearedPolicies engine scopeId).trans hsame
        rw [Engine.run] at hresult
        rw [hresult]
        cases ending with
        | ok _ =>
            obtain ⟨hregistered, hstarted⟩ := hall rfl
            exact ⟨_, .activated (hprogress.activates hfirst hregistered hstarted), rfl⟩
        | error error =>
            have hcleaned := @cleanedUp_instances env _ hprogress.reachable _ _
              hprogress.startedRegistered
            refine ⟨_, .failed (hprogress.rollsBack hfirst hcleaned ?_), rfl⟩
            split
            · next hempty =>
                rw [List.isEmpty_iff.mp hempty]
                exact List.nil_subset _
            · exact List.Subset.refl _
  obtain ⟨outcome, houtcome, hresult⟩ := hends
  exact ⟨outcome, houtcome, fun fuel hfuel => activateComposition_mono hfuel hresult⟩

end Outcomes

/-! ## Late providers -/

/-- The providers of required contracts were started before the consumers. -/
def ProvidersStartedFirst (after : Engine) (scopeId : RuntimeScopeId)
    (started : List ExtensionInstanceId) : Prop :=
  ∀ binding ∈ (after.compositionSnapshotForScope scopeId).bindings, binding.required = true →
    ∀ provider ∈ binding.providers, provider.instanceId ∈ started →
      ∀ before rest, started = before ++ binding.consumer.instanceId :: rest →
        provider.instanceId ∈ before

def greetings : ContractKey := ⟨⟨"greetings"⟩, 1⟩

/-- An extension with one component. -/
def oneComponent (name target : String) (registration : List RegistrationCall) : RtwArchive where
  manifest := .ok ⟨⟨name⟩, [⟨⟨"main"⟩, ⟨target⟩, true, ⟨[], []⟩⟩]⟩
  wasmEngine := .ok ()
  wasmComponent _ := .ok ⟨⟨none⟩, registration, none, true⟩
  hostedComponent _ := .ok ⟨⟨"main"⟩, ⟨none⟩, registration, none⟩

def appArchive : RtwArchive :=
  oneComponent "app" wasmComponentTargetV1 [.consumeContract ⟨greetings, true, []⟩]

def builtinArchive : RtwArchive :=
  oneComponent "builtin" wasmComponentTargetV1
    [.defineContract ⟨greetings, .single, .binding⟩, .provideContract ⟨greetings, []⟩]

def addonArchive : RtwArchive :=
  oneComponent "addon" "test.script@1" [.provideContract ⟨greetings, []⟩]

/-- The app needs greetings. It hosts scripts once it is started, and the addon is one. -/
def greetingsEnvironment : ActivationEnvironment where
  artifact _ activation :=
    if activation.subject = "app" then .ok appArchive
    else if activation.subject = "builtin" then .ok builtinArchive
    else .ok addonArchive
  scripts instanceId :=
    if instanceId = ⟨"app"⟩ then
      ⟨fun _ => ⟨[.registerTarget "test.script@1"], none⟩, fun _ => ⟨[], none⟩⟩
    else .quiet
  cleanupScripts _ _ := .quiet

def greetingsProfile : CompositionProfile :=
  { CompositionProfile.default with
    activations := ["app", "builtin", "addon"].map fun name =>
      ⟨name, ⟨"rintawa.extension", 1, rfl⟩, ⟨0⟩, ⟨name⟩, ⟨"default"⟩, true, false⟩ }

theorem activate_composition_outcome_greetings :
    ∃ outcome, ActivationOutcome .new greetingsProfile ⟨"default"⟩ outcome ∧
      activateComposition greetingsEnvironment 10 .new greetingsProfile ⟨"default"⟩ =
        some outcome := by
  obtain ⟨outcome, houtcome, hresult⟩ := activate_composition_outcome greetingsEnvironment
    greetingsProfile ⟨"default"⟩ (.of_init rfl)
  exact ⟨outcome, houtcome, hresult 10 (by decide)⟩

/-- The app was started with the greetings of what is built in. It is bound to those of the addon
now, which was started later. -/
theorem late_provider_started_after_consumer :
    ∃ after activated, activateComposition greetingsEnvironment 10 .new greetingsProfile
        ⟨"default"⟩ = some (after, .ok activated) ∧
      activated.startedInstances = [⟨"builtin"⟩, ⟨"app"⟩, ⟨"addon"⟩] ∧
      ¬ ProvidersStartedFirst after ⟨"default"⟩ activated.startedInstances := by
  have htest : (activateComposition greetingsEnvironment 10 .new greetingsProfile
      ⟨"default"⟩).any (fun outcome =>
        outcome.2.toOption.any (fun activated =>
          activated.startedInstances == [⟨"builtin"⟩, ⟨"app"⟩, ⟨"addon"⟩]) &&
        (outcome.1.compositionSnapshotForScope ⟨"default"⟩).bindings.any (fun binding =>
          binding.required && binding.consumer.instanceId == ⟨"app"⟩ &&
            binding.providers.any fun provider => provider.instanceId == ⟨"addon"⟩)) = true := by
    decide +kernel
  obtain ⟨⟨after, result⟩, hrun, houtcome⟩ := (Option.any_eq_true _ _).mp htest
  rw [Bool.and_eq_true] at houtcome
  obtain ⟨hstarted, hbindings⟩ := houtcome
  obtain ⟨binding, hbinding, hbound⟩ := List.any_eq_true.mp hbindings
  cases result with
  | error error => cases hstarted
  | ok activated =>
      replace hstarted : activated.startedInstances = [⟨"builtin"⟩, ⟨"app"⟩, ⟨"addon"⟩] :=
        beq_iff_eq.mp hstarted
      rw [Bool.and_eq_true, Bool.and_eq_true, beq_iff_eq, List.any_eq_true] at hbound
      obtain ⟨⟨hrequired, hconsumer⟩, provider, hprovider, haddon⟩ := hbound
      refine ⟨after, activated, hrun, hstarted, fun hfirst => ?_⟩
      have hbefore := hfirst binding hbinding hrequired provider hprovider
      rw [hstarted, hconsumer, beq_iff_eq.mp haddon] at hbefore
      exact absurd (hbefore (by decide) [⟨"builtin"⟩] [⟨"addon"⟩] rfl) (by decide)

end Rintawa.Host
