/-
# Loops of activations

Every round of loading and of early starts keeps the progress of an activation, and accounts for
the activations that wait. Both loops end: every early start or newly required instance, and
every instance that is loaded, is one of finitely many.
-/

import Rintawa.Host.ActivationProgress

namespace Rintawa.Host

open Rintawa.Lib Rintawa.Sdk Rintawa.ExtensionEngine

/-- The instances of activations. -/
def instancesOf (activations : List ActivationRecord) : List ExtensionInstanceId :=
  activations.map fun activation => activation.instanceId

section Loops

variable {env : ActivationEnvironment} {profile : CompositionProfile} {initial : Engine}
  {scopeId : RuntimeScopeId} {state : BootstrapState}

/-! ## Loading -/

/-- Grants keep the progress. -/
theorem Progress.granted (h : Progress initial scopeId state) (instanceId : ExtensionInstanceId)
    (grants : List RuntimePermissionGrant) :
    Progress initial scopeId
      { state with engine := (grantPermissions instanceId state.engine grants).1 } := by
  induction grants generalizing state with
  | nil => exact h
  | cons grant rest ih =>
      obtain ⟨hextensions, hbeside⟩ := grantPermission_kept state.engine instanceId
        grant.componentId grant.permission
      have hreachable := reachable_run h.reachable (.grantRequestedRuntimePermissionForInstance
        instanceId grant.componentId grant.permission)
      rw [Engine.run] at hreachable
      have hgranted := h.same hreachable hextensions hbeside
      rw [grantPermissions]
      split
      · next hgrant =>
          rw [hgrant] at hgranted
          exact hgranted
      · next hgrant =>
          rw [hgrant] at hgranted
          exact ih hgranted

/-- Loading an activation registers its instance, or it waits. -/
theorem Progress.loadActivation (h : Progress initial scopeId state) (round : Nat)
    {activation : ActivationRecord} (hscope : activation.scopeId = scopeId) :
    let outcome := loadActivation env profile round state activation
    Progress initial scopeId outcome.1 ∧ outcome.1.started = state.started ∧
      (outcome.2 = .ok none →
        outcome.1.registered = state.registered ++ [activation.instanceId]) ∧
      ∀ deferred, outcome.2 = .ok (some deferred) → outcome.1.registered = state.registered := by
  intro outcome
  have houtcome : outcome = Host.loadActivation env profile round state activation := rfl
  rw [Host.loadActivation] at houtcome
  split at houtcome
  · rw [houtcome]
    exact ⟨h, rfl, (fun hok => by cases hok), fun _ hok => by cases hok⟩
  · next archive _ =>
      have hcase := loadsInstance state.engine archive activation.instanceId activation.scopeId
      have hreachable := reachable_run h.reachable
        (.tryLoadArchive archive activation.instanceId activation.scopeId)
      rw [Engine.run] at hreachable
      dsimp only at hreachable
      generalize state.engine.tryLoadArchive archive activation.instanceId activation.scopeId =
        loaded at hcase hreachable houtcome
      cases hcase with
      | @kept engine' result hresult hextensions hbeside =>
          have hkept := h.same hreachable hextensions hbeside
          split at houtcome
          · next hloaded =>
              cases hloaded
              rw [houtcome]
              exact ⟨hkept, rfl, (fun hok => by cases hok), fun _ hok => by cases hok⟩
          · next hloaded =>
              cases hloaded
              rw [houtcome]
              exact ⟨hkept, rfl, (fun hok => by cases hok), fun _ _ => rfl⟩
          · next load hloaded =>
              cases hloaded
              exact absurd rfl (hresult load)
      | @loaded engine' load ext hfresh hinstance hext hstate hextensions hbeside =>
          have hprogress := (h.loaded load hreachable hfresh (hext.trans hscope) hstate hextensions
            hbeside).granted activation.instanceId (profile.runtimePermissions.filter fun grant =>
              grant.scopeId == activation.scopeId && grant.instanceId == activation.instanceId)
          rw [houtcome]
          exact ⟨hprogress, rfl, fun _ => rfl, fun _ hok => by
            dsimp only at hok
            split at hok <;> cases hok⟩

/-- A round of loading accounts for what it registers and for what waits. -/
theorem Progress.loadRound (round : Nat) {pending : List ActivationRecord}
    (hscope : ∀ activation ∈ pending, activation.scopeId = scopeId)
    (h : Progress initial scopeId state) :
    let outcome := loadRound env profile round state pending
    Progress initial scopeId outcome.1 ∧ outcome.1.started = state.started ∧
      ∀ loaded, outcome.2 = .ok loaded →
        (outcome.1.registered ++ instancesOf loaded.pending).Perm
          (state.registered ++ instancesOf pending) ∧
        loaded.pending.length ≤ pending.length ∧
        (loaded.madeProgress = true → loaded.pending.length < pending.length) ∧
        ∀ activation ∈ loaded.pending, activation ∈ pending := by
  induction pending generalizing state with
  | nil =>
      refine ⟨h, rfl, fun loaded hloaded => ?_⟩
      cases hloaded
      exact ⟨.refl _, Nat.le_refl _, (fun hprogress => by cases hprogress), fun _ hmem => hmem⟩
  | cons activation rest ih =>
      obtain ⟨hactivation, hrest⟩ := List.forall_mem_cons.mp hscope
      obtain ⟨hprogress, hstarted, hnone, hsome⟩ :=
        @Progress.loadActivation env profile initial scopeId state h round activation hactivation
      intro outcome
      have houtcome : outcome = Host.loadRound env profile round state (activation :: rest) := rfl
      rw [Host.loadRound] at houtcome
      generalize Host.loadActivation env profile round state activation = first
        at hprogress hstarted hnone hsome houtcome
      obtain ⟨middle, result⟩ := first
      obtain ⟨hlast, hlastStarted, haccounts⟩ := ih hrest hprogress
      cases result with
      | error error =>
          rw [houtcome]
          exact ⟨hprogress, hstarted, fun _ hok => by cases hok⟩
      | ok waiting =>
          dsimp only at houtcome
          generalize Host.loadRound env profile round middle rest = last
            at hlast hlastStarted haccounts houtcome
          obtain ⟨final, result⟩ := last
          cases result with
          | error error =>
              rw [houtcome]
              exact ⟨hlast, hlastStarted.trans hstarted, fun _ hok => by cases hok⟩
          | ok after =>
              rw [houtcome]
              refine ⟨hlast, hlastStarted.trans hstarted, fun loaded hloaded => ?_⟩
              obtain ⟨hperm, hle, hless, hmem⟩ := haccounts after rfl
              cases hloaded
              cases waiting with
              | none =>
                  dsimp only at hnone hperm ⊢
                  refine ⟨?_, Nat.le_succ_of_le hle, fun _ => Nat.lt_succ_of_le hle,
                    fun other hother => List.mem_cons_of_mem _ (hmem other hother)⟩
                  rw [hnone rfl, List.append_assoc] at hperm
                  exact hperm
              | some deferred =>
                  dsimp only at hsome hperm ⊢
                  rw [hsome deferred rfl] at hperm
                  refine ⟨?_, Nat.succ_le_succ hle, fun hmade => Nat.succ_lt_succ (hless hmade),
                    fun other hother => ?_⟩
                  · exact (List.perm_middle.trans (hperm.cons _)).trans List.perm_middle.symm
                  · rcases List.mem_cons.mp hother with rfl | hbefore
                    · exact List.mem_cons_self
                    · exact List.mem_cons_of_mem _ (hmem other hbefore)

/-! ## Early starts -/

/-- Only registered instances are required. -/
theorem mem_of_expandBootstrapDependencies {engine : Engine}
    {activationInstanceId instanceId : ExtensionInstanceId} {reason : ActivationPlanError}
    {registered : List ExtensionInstanceId}
    (hmem : instanceId ∈ expandBootstrapDependencies engine scopeId activationInstanceId reason
      registered) : instanceId ∈ registered := by
  unfold expandBootstrapDependencies at hmem
  split at hmem
  · split at hmem
    · exact absurd hmem (Finset.notMem_empty _)
    · split at hmem
      · exact absurd hmem (Finset.notMem_empty _)
      · exact (Finset.mem_filter.mp hmem).2.2
  · exact absurd hmem (Finset.notMem_empty _)

/-- A look for an instance to start makes progress, or nothing is new. -/
structure Scanned (initial : Engine) (scopeId : RuntimeScopeId) (state : BootstrapState)
    (expanded : Bool) (outcome : BootstrapState × ScanEnding) : Prop where
  progress : Progress initial scopeId outcome.1
  registered : outcome.1.registered = state.registered
  bootstrap : state.bootstrap ⊆ outcome.1.bootstrap
  startedOne : outcome.2 = .startedOne → outcome.1.started.length = state.started.length + 1
  settled : ∀ blocked isExpanded, outcome.2 = .settled blocked isExpanded →
    outcome.1.started = state.started ∧
      (isExpanded = true → expanded = true ∨ state.bootstrap.card < outcome.1.bootstrap.card)

theorem Progress.scanBootstrap (activations : List ActivationRecord)
    (blocked : List BootstrapBlockedActivation) (expanded : Bool)
    (h : Progress initial scopeId state)
    (hscope : ∀ activation ∈ activations, activation.scopeId = scopeId) :
    Scanned initial scopeId state expanded
      (scanBootstrap env state blocked expanded activations) := by
  induction activations generalizing state blocked expanded with
  | nil => exact ⟨h, rfl, subset_rfl, (fun hok => by cases hok), fun _ _ hok => by
      cases hok
      exact ⟨rfl, .inl⟩⟩
  | cons activation rest ih =>
      obtain ⟨hactivation, hrest⟩ := List.forall_mem_cons.mp hscope
      rw [Host.scanBootstrap]
      dsimp only
      split
      · exact ih blocked expanded h hrest
      · next heligible =>
          rw [not_or, not_or, not_not, not_not] at heligible
          obtain ⟨-, hregistered, hnew⟩ := heligible
          have hstart := h.start hregistered hnew (env.scripts activation.instanceId)
          generalize state.engine.startExtensionInstance activation.instanceId
            (env.scripts activation.instanceId) = outcome at hstart ⊢
          obtain ⟨engine, result⟩ := outcome
          rcases hstart with ⟨⟨error, rfl⟩, hfailed⟩ | ⟨rfl, hstarted⟩
          · dsimp only at hfailed ⊢
            split
            · next hok => cases hok
            · next reason hreason =>
                cases hreason
                have hknown : ∀ instanceId ∈ expandBootstrapDependencies engine
                    activation.scopeId activation.instanceId reason state.registered,
                    instanceId ∈ state.registered :=
                  fun _ hmem => mem_of_expandBootstrapDependencies hmem
                generalize expandBootstrapDependencies engine activation.scopeId
                  activation.instanceId reason state.registered = required at hknown ⊢
                have hexpanded := hfailed.expanded hknown
                obtain ⟨hprogress, hkept, hsubset, hone, hsettled⟩ := ih
                  (blocked ++ [⟨activation.instanceId, reason⟩])
                  (expanded || decide (¬ required ⊆ state.bootstrap)) hexpanded hrest
                refine ⟨hprogress, hkept, Finset.subset_union_left.trans hsubset, hone,
                  fun blocked' isExpanded hending => ?_⟩
                obtain ⟨hsame, hgrown⟩ := hsettled blocked' isExpanded hending
                refine ⟨hsame, fun hexpands => ?_⟩
                have hcard : state.bootstrap.card ≤ (state.bootstrap ∪ required).card :=
                  Finset.card_le_card Finset.subset_union_left
                rcases hgrown hexpands with hbefore | hlater
                · rw [Bool.or_eq_true, decide_eq_true_eq] at hbefore
                  refine hbefore.imp_right fun hmore => ?_
                  refine lt_of_lt_of_le (Finset.card_lt_card ?_) (Finset.card_le_card hsubset)
                  refine ⟨Finset.subset_union_left, fun hall => hmore ?_⟩
                  exact Finset.subset_union_right.trans hall
                · exact .inr (lt_of_le_of_lt hcard hlater)
            · next hother =>
                cases hother
                exact ⟨hfailed, rfl, subset_rfl, (fun hok => by cases hok),
                  fun _ _ hok => by cases hok⟩
          · exact ⟨hstarted, rfl, subset_rfl, (fun _ => List.length_append),
              fun _ _ hok => by cases hok⟩

theorem Progress.started_le (h : Progress initial scopeId state) :
    state.started.length ≤ state.registered.length :=
  (List.subperm_of_subset h.started h.startedRegistered).length_le

theorem Progress.bootstrap_le (h : Progress initial scopeId state) :
    state.bootstrap.card ≤ state.registered.length :=
  (Finset.card_le_card fun instanceId hmem =>
    List.mem_toFinset.mpr (h.bootstrap instanceId hmem)).trans (List.toFinset_card_le _)

/-- What early starts have done since they began with some state. -/
structure StartsSince (initial : Engine) (scopeId : RuntimeScopeId) (first : BootstrapState)
    (madeProgress : Bool) (pass : BootstrapState × Bool) : Prop where
  progress : Progress initial scopeId pass.1
  registered : pass.1.registered = first.registered
  started : first.started.length ≤ pass.1.started.length
  made : pass.2 = true → madeProgress = true ∨ first.started.length < pass.1.started.length

/-- The instances that can still be started or be required. -/
def startsLeft (pass : BootstrapState × Bool) : Nat :=
  (pass.1.registered.length - pass.1.started.length) +
    (pass.1.registered.length - pass.1.bootstrap.card)

section Starts

variable {activations : List ActivationRecord} {first : BootstrapState} {madeProgress : Bool}
  (hscope : ∀ activation ∈ activations, activation.scopeId = scopeId)
include hscope

/-- Another round of early starts has started or required one more instance. -/
theorem StartsSince.next {pass next : BootstrapState × Bool}
    (h : StartsSince initial scopeId first madeProgress pass)
    (hstep : startStep env activations pass = .inl next) :
    StartsSince initial scopeId first madeProgress next ∧ startsLeft next < startsLeft pass := by
  obtain ⟨state, made⟩ := pass
  have hscanned := @Progress.scanBootstrap env initial scopeId state activations [] false
    h.progress hscope
  rw [startStep] at hstep
  generalize Host.scanBootstrap env state [] false activations = outcome at hscanned hstep
  obtain ⟨after, ending⟩ := outcome
  obtain ⟨hprogress, hkept, hsubset, hone, hsettled⟩ := hscanned
  have hregistered := h.registered
  have hle := h.started
  have hbound := hprogress.started_le
  have hcard := hprogress.bootstrap_le
  have hmore := Finset.card_le_card hsubset
  dsimp only at hkept hmore hbound hcard hone hsettled hregistered hle
  cases ending with
  | failed error => cases hstep
  | startedOne =>
      cases hstep
      have hstarted := hone rfl
      refine ⟨⟨hprogress, hkept.trans hregistered, ?_, fun _ => .inr ?_⟩, ?_⟩
      · dsimp only
        omega
      · dsimp only
        omega
      · rw [startsLeft, startsLeft]
        dsimp only
        rw [hkept] at hbound hcard ⊢
        omega
  | settled blocked isExpanded =>
      dsimp only at hstep
      split at hstep
      · next hexpanded =>
          cases hstep
          obtain ⟨hsame, hgrown⟩ := hsettled blocked isExpanded rfl
          have hless := (hgrown hexpanded).resolve_left Bool.false_ne_true
          refine ⟨⟨hprogress, hkept.trans hregistered, ?_, fun hmade => ?_⟩, ?_⟩
          · rw [hsame]
            exact hle
          · dsimp only
            rw [hsame]
            exact h.made hmade
          · rw [startsLeft, startsLeft]
            dsimp only
            rw [hkept, hsame] at hbound ⊢
            rw [hkept] at hcard
            omega
      · cases hstep

/-- What early starts leave when they end. -/
theorem StartsSince.done {pass : BootstrapState × Bool}
    {result : BootstrapState × ActivationResult (List BootstrapBlockedActivation × Bool)}
    (h : StartsSince initial scopeId first madeProgress pass)
    (hstep : startStep env activations pass = .inr result) :
    Progress initial scopeId result.1 ∧ ∀ blocked isMade, result.2 = .ok (blocked, isMade) →
      StartsSince initial scopeId first madeProgress (result.1, isMade) := by
  obtain ⟨state, made⟩ := pass
  have hscanned := @Progress.scanBootstrap env initial scopeId state activations [] false
    h.progress hscope
  rw [startStep] at hstep
  generalize Host.scanBootstrap env state [] false activations = outcome at hscanned hstep
  obtain ⟨after, ending⟩ := outcome
  cases ending with
  | failed error =>
      cases hstep
      exact ⟨hscanned.progress, fun _ _ hok => by cases hok⟩
  | startedOne => cases hstep
  | settled blocked isExpanded =>
      dsimp only at hstep
      split at hstep
      · cases hstep
      · cases hstep
        obtain ⟨hsame, -⟩ := hscanned.settled blocked isExpanded rfl
        refine ⟨hscanned.progress, fun blocked isMade hok => ?_⟩
        cases hok
        refine ⟨hscanned.progress, hscanned.registered.trans h.registered, ?_, fun hmade => ?_⟩
        · dsimp only at hsame ⊢
          rw [hsame]
          exact h.started
        · dsimp only at hsame ⊢
          rw [hsame]
          exact h.made hmade

/-- Early starts end, whatever happens. -/
theorem Progress.startBootstrap (h : Progress initial scopeId first) {limit : Nat}
    (hlimit : 2 * first.registered.length < limit) :
    ∃ result, loop (startStep env activations) limit (first, madeProgress) = some result ∧
      Progress initial scopeId result.1 ∧ ∀ blocked isMade, result.2 = .ok (blocked, isMade) →
        StartsSince initial scopeId first madeProgress (result.1, isMade) := by
  have hfirst : StartsSince initial scopeId first madeProgress (first, madeProgress) :=
    ⟨h, rfl, Nat.le_refl _, .inl⟩
  have hleft : startsLeft (first, madeProgress) < limit := by
    rw [startsLeft]
    dsimp only
    omega
  have hnext := @StartsSince.next env initial scopeId activations first madeProgress hscope
  obtain ⟨result, hresult⟩ := loop_terminates startsLeft (@hnext) hfirst hleft
  refine ⟨result, hresult, ?_⟩
  exact loop_rule (fun _ _ hpass hstep => (hnext hpass hstep).1)
    (fun _ _ hpass hstep => StartsSince.done hscope hpass hstep) hfirst hresult

end Starts

/-! ## Rounds -/

/-- Every activation is registered or waits. -/
structure Rounds (initial : Engine) (scopeId : RuntimeScopeId)
    (activations : List ActivationRecord) (pass : PendingRound) : Prop where
  progress : Progress initial scopeId pass.state
  accounts : (pass.state.registered ++ instancesOf pass.pending).Perm (instancesOf activations)
  scope : ∀ activation ∈ pass.pending, activation.scopeId = scopeId

/-- The instances that still have to be loaded or started. -/
def roundsLeft (activations : List ActivationRecord) (pass : PendingRound) : Nat :=
  pass.pending.length + (activations.length - pass.state.started.length)

/-- An activation of all loads its part, unless it fails. -/
def Bootstrapped (initial : Engine) (scopeId : RuntimeScopeId)
    (activations : List ActivationRecord)
    (result : Option (BootstrapState × ActivationResult Unit)) : Prop :=
  ∃ state ending, result = some (state, ending) ∧ Progress initial scopeId state ∧
    (ending = .ok () → state.registered.Perm (instancesOf activations))

section Rounds

variable {activations : List ActivationRecord} {limit : Nat}
  (hscope : ∀ activation ∈ activations, activation.scopeId = scopeId)
  (hlimit : 2 * activations.length < limit)

theorem Rounds.registered_le {pass : PendingRound}
    (h : Rounds initial scopeId activations pass) :
    pass.state.registered.length + pass.pending.length = activations.length := by
  have hlength := h.accounts.length_eq
  rwa [List.length_append, instancesOf, instancesOf, List.length_map, List.length_map] at hlength

/-- What loading leaves in a round. -/
theorem Rounds.load {pass : PendingRound} (h : Rounds initial scopeId activations pass) :
    let outcome := loadRound env profile pass.round pass.state pass.pending
    Progress initial scopeId outcome.1 ∧ outcome.1.started = pass.state.started ∧
      ∀ loaded, outcome.2 = .ok loaded →
        Rounds initial scopeId activations ⟨pass.round, outcome.1, loaded.pending⟩ ∧
        loaded.pending.length ≤ pass.pending.length ∧
        (loaded.madeProgress = true → loaded.pending.length < pass.pending.length) := by
  obtain ⟨hprogress, hstarted, haccounts⟩ :=
    @Progress.loadRound env profile initial scopeId pass.state pass.round pass.pending h.scope
      h.progress
  refine ⟨hprogress, hstarted, fun loaded hloaded => ?_⟩
  obtain ⟨hperm, hle, hless, hmem⟩ := haccounts loaded hloaded
  exact ⟨⟨hprogress, hperm.trans h.accounts, fun activation hactivation =>
    h.scope activation (hmem activation hactivation)⟩, hle, hless⟩

include hscope hlimit

/-- A round ends with an error or with all loaded, or leaves less to do. -/
theorem Rounds.step {pass : PendingRound} (h : Rounds initial scopeId activations pass) :
    (∀ next, roundStep env profile activations limit pass = .inl next →
      Rounds initial scopeId activations next ∧
        roundsLeft activations next < roundsLeft activations pass) ∧
    ∀ result, roundStep env profile activations limit pass = .inr result →
      Bootstrapped initial scopeId activations result := by
  have hall : ∀ {state : BootstrapState} {round : Nat} {pending : List ActivationRecord},
      pending.isEmpty = true → Rounds initial scopeId activations ⟨round, state, pending⟩ →
      Bootstrapped initial scopeId activations (some (state, .ok ())) := by
    intro state round pending hempty hrounds
    obtain rfl := List.isEmpty_iff.mp hempty
    have hperm := hrounds.accounts
    rw [instancesOf, List.map_nil, List.append_nil] at hperm
    exact ⟨state, .ok (), rfl, hrounds.progress, fun _ => hperm⟩
  rw [roundStep]
  split
  · next hempty =>
      refine ⟨fun _ hnext => (by cases hnext), fun result hresult => ?_⟩
      cases hresult
      exact hall hempty h
  · obtain ⟨hprogress, hstarted, hloads⟩ := @Rounds.load env profile initial scopeId activations
      pass h
    generalize loadRound env profile pass.round pass.state pass.pending = outcome
      at hprogress hstarted hloads ⊢
    obtain ⟨state, loadedResult⟩ := outcome
    cases loadedResult with
    | error error =>
        refine ⟨fun _ hnext => (by cases hnext), fun result hresult => ?_⟩
        cases hresult
        exact ⟨state, .error error, rfl, hprogress, fun hok => by cases hok⟩
    | ok loaded =>
        obtain ⟨hrounds, hle, hless⟩ := hloads loaded rfl
        dsimp only
        split
        · next hempty =>
            refine ⟨fun _ hnext => (by cases hnext), fun result hresult => ?_⟩
            cases hresult
            exact hall hempty hrounds
        · have hbound := hrounds.registered_le
          dsimp only at hbound hstarted
          obtain ⟨result, hloop, hdone, hsince⟩ := @Progress.startBootstrap env initial scopeId
            activations state loaded.madeProgress hscope hprogress limit (by omega)
          rw [hloop]
          dsimp only
          obtain ⟨after, starts⟩ := result
          cases starts with
          | error error =>
              refine ⟨fun _ hnext => (by cases hnext), fun result hresult => ?_⟩
              cases hresult
              exact ⟨after, .error error, rfl, hdone, fun hok => by cases hok⟩
          | ok starts =>
              obtain ⟨blocked, isMade⟩ := starts
              obtain ⟨-, hkept, hmore, hmade⟩ := hsince blocked isMade rfl
              dsimp only at hkept hmore hmade
              rw [afterStarts]
              split
              · next hisMade =>
                  refine ⟨fun next hnext => ?_, fun _ hresult => (by cases hresult)⟩
                  cases hnext
                  refine ⟨⟨hdone, hkept ▸ hrounds.accounts, hrounds.scope⟩, ?_⟩
                  have hstartedBound := hdone.started_le
                  dsimp only at hstartedBound
                  rw [hkept] at hstartedBound
                  rw [roundsLeft, roundsLeft]
                  dsimp only [id]
                  rw [← hstarted]
                  rcases hmade hisMade with hloaded | hstart
                  · have hfewer := hless hloaded
                    omega
                  · omega
              · split
                · next error _ =>
                    refine ⟨fun _ hnext => (by cases hnext), fun result hresult => ?_⟩
                    cases hresult
                    exact ⟨after, .error error, rfl, hdone, fun hok => by cases hok⟩
                · refine ⟨fun _ hnext => (by cases hnext), fun result hresult => ?_⟩
                  cases hresult
                  exact ⟨after, _, rfl, hdone, fun hok => by cases hok⟩

/-- The rounds end, whatever happens. -/
theorem Rounds.run {pass : PendingRound} (h : Rounds initial scopeId activations pass)
    (hstarted : pass.state.started = []) : Bootstrapped initial scopeId activations
      (loop (roundStep env profile activations limit) limit pass).join := by
  have hleft : roundsLeft activations pass < limit := by
    have hbound := h.registered_le
    rw [roundsLeft, hstarted, List.length_nil]
    omega
  obtain ⟨result, hresult⟩ := loop_terminates (roundsLeft activations)
    (fun _ next hpass hstep => (Rounds.step hscope hlimit hpass).1 next hstep) h hleft
  rw [hresult]
  exact loop_rule (fun _ next hpass hstep => ((Rounds.step hscope hlimit hpass).1 next hstep).1)
    (fun _ result hpass hstep => (Rounds.step hscope hlimit hpass).2 result hstep) h hresult

end Rounds

end Loops

end Rintawa.Host
