/-
# Rollback of activations

An activation sets the preferred providers of its scope, and a rollback removes them again, with
the instances that were registered. An instance that is still there afterwards is one whose
removal failed. Other instances and other scopes are left alone.
-/

import Rintawa.Host.ActivationProgress

namespace Rintawa.Host

open Rintawa.Lib Rintawa.Sdk Rintawa.ExtensionEngine

/-! ## Preferred providers -/

/-- At most the preferred providers of one scope differ. -/
structure SameUpToPolicies (scopeId : RuntimeScopeId) (engine engine' : Engine) : Prop where
  extensions : engine'.extensions = engine.extensions
  others : ∀ other, other ≠ scopeId →
    engine'.preferredContractProviders.lookup other =
      engine.preferredContractProviders.lookup other

theorem SameUpToPolicies.trans {scopeId : RuntimeScopeId} {engine engine' engine'' : Engine}
    (h : SameUpToPolicies scopeId engine engine')
    (h' : SameUpToPolicies scopeId engine' engine'') :
    SameUpToPolicies scopeId engine engine'' :=
  ⟨h'.extensions.trans h.extensions, fun other hother =>
    (h'.others other hother).trans (h.others other hother)⟩

theorem clearedPolicies (engine : Engine) (scopeId : RuntimeScopeId) :
    SameUpToPolicies scopeId engine
      (engine.clearPreferredContractProviderPoliciesInScope scopeId) :=
  ⟨rfl, fun _ hother => AList.lookup_erase_ne hother⟩

/-- The preferred providers of a profile are those of its scope. -/
theorem restoredPolicies {profile : CompositionProfile} {scopeId : RuntimeScopeId}
    (hscope : ∀ selection ∈ profile.preferredProviders, selection.scopeId = scopeId)
    {engine : Engine} (h : engineSystem.Reachable engine) :
    engineSystem.Reachable (restorePreferredProviders profile engine) ∧
      SameUpToPolicies scopeId engine (restorePreferredProviders profile engine) := by
  rw [restorePreferredProviders]
  generalize profile.preferredProviders = selections at hscope ⊢
  induction selections generalizing engine with
  | nil => exact ⟨h, rfl, fun _ _ => rfl⟩
  | cons selection rest ih =>
      obtain ⟨hfirst, hrest⟩ := List.forall_mem_cons.mp hscope
      have hset := reachable_run h (.setPreferredContractProviderPolicyInScope selection.scopeId
        selection.contract ⟨selection.providerInstanceId, selection.providerComponentId⟩)
      have hkept : SameUpToPolicies scopeId engine
          (engine.setPreferredContractProviderPolicyInScope selection.scopeId selection.contract
            ⟨selection.providerInstanceId, selection.providerComponentId⟩) :=
        ⟨rfl, fun other hother => AList.lookup_insert_ne (hfirst ▸ hother)⟩
      obtain ⟨hreachable, hsame⟩ := ih hset hrest
      exact ⟨hreachable, hkept.trans hsame⟩

/-! ## Cleanup -/

/-- What a cleanup leaves of the instances that it removes: those whose removal failed. -/
structure CleanedUp (engine : Engine) (removed : List ExtensionInstanceId)
    (outcome : Engine × List HostCleanupFailure) : Prop where
  reachable : engineSystem.Reachable outcome.1
  gone : ∀ instanceId ∈ removed, outcome.1.extensions.lookup instanceId = none ∨
    ∃ failure ∈ outcome.2, failure.instanceId = instanceId
  others : ∀ instanceId, instanceId ∉ removed →
    outcome.1.extensions.lookup instanceId = engine.extensions.lookup instanceId
  preferred : outcome.1.preferredContractProviders = engine.preferredContractProviders

/-- One cleanup after the other removes what both remove. -/
theorem CleanedUp.append {engine engine' engine'' : Engine}
    {removed removed' : List ExtensionInstanceId} {failures failures' : List HostCleanupFailure}
    (h : CleanedUp engine removed (engine', failures))
    (h' : CleanedUp engine' removed' (engine'', failures')) :
    CleanedUp engine (removed ++ removed') (engine'', failures ++ failures') where
  reachable := h'.reachable
  preferred := h'.preferred.trans h.preferred
  others := fun instanceId hmem => by
    rw [List.mem_append, not_or] at hmem
    exact (h'.others instanceId hmem.2).trans (h.others instanceId hmem.1)
  gone := fun instanceId hmem => by
    by_cases hlater : instanceId ∈ removed'
    · refine (h'.gone instanceId hlater).imp_right fun hfailed => ?_
      obtain ⟨failure, hfailure, hinstance⟩ := hfailed
      exact ⟨failure, List.mem_append_right _ hfailure, hinstance⟩
    · have hfirst := (List.mem_append.mp hmem).resolve_right hlater
      rcases h.gone instanceId hfirst with hgone | ⟨failure, hfailure, hinstance⟩
      · exact .inl ((h'.others instanceId hlater).trans hgone)
      · exact .inr ⟨failure, List.mem_append_left _ hfailure, hinstance⟩

section Cleanup

variable {env : ActivationEnvironment} {engine : Engine}

/-- An instance is unregistered, or the failure is recorded. -/
theorem cleanedUp_unregister (h : engineSystem.Reachable engine)
    (instanceId : ExtensionInstanceId) :
    CleanedUp engine [instanceId] (recordUnregisterFailure env engine instanceId) := by
  have hreachable := reachable_run h
    (.unregisterExtensionInstance instanceId (env.cleanupScripts .unregister instanceId))
  rw [Engine.run] at hreachable
  have houtcome := unregister_outcome (consistent_of_reachable h) instanceId
    (env.cleanupScripts .unregister instanceId)
  rw [recordUnregisterFailure]
  generalize engine.unregisterExtensionInstance instanceId
    (env.cleanupScripts .unregister instanceId) = outcome at hreachable houtcome ⊢
  obtain ⟨engine', result⟩ := outcome
  rcases houtcome with ⟨⟨error, rfl⟩, hchanges⟩ | ⟨rfl, hgone, hothers, hpreferred⟩
  · refine ⟨hreachable, fun other hmem => .inr ⟨_, List.mem_singleton_self _, ?_⟩,
      fun other hmem => hchanges.others other ?_, hchanges.preferred⟩
    · exact (List.mem_singleton.mp hmem).symm
    · exact fun hsame => hmem (List.mem_singleton.mpr hsame)
  · refine ⟨hreachable, fun other hmem => .inl ?_, fun other hmem => hothers other ?_, hpreferred⟩
    · rw [List.mem_singleton.mp hmem]
      exact hgone
    · exact fun hsame => hmem (List.mem_singleton.mpr hsame)

/-- An instance is stopped and unregistered, or the failures are recorded. -/
theorem cleanedUp_stop (h : engineSystem.Reachable engine) (instanceId : ExtensionInstanceId) :
    CleanedUp engine [instanceId] (stopAndUnregister env engine instanceId) := by
  have hreachable := reachable_run h
    (.stopExtensionInstance instanceId (env.cleanupScripts .stop instanceId))
  rw [Engine.run] at hreachable
  have hstop := changesInstance_stop (consistent_of_reachable h) instanceId
    (env.cleanupScripts .stop instanceId)
  obtain ⟨hreachable', hgone, hothers, hpreferred⟩ :=
    @cleanedUp_unregister env _ hreachable instanceId
  rw [stopAndUnregister]
  refine ⟨hreachable', fun other hmem => ?_, fun other hmem => ?_,
    hpreferred.trans hstop.preferred⟩
  · refine (hgone other hmem).imp_right fun hfailed => ?_
    obtain ⟨failure, hfailure, hinstance⟩ := hfailed
    exact ⟨failure, List.mem_append_right _ hfailure, hinstance⟩
  · exact (hothers other hmem).trans
      (hstop.others other fun hsame => hmem (List.mem_singleton.mpr hsame))

theorem cleanedUp_each
    {cleanUp : Engine → ExtensionInstanceId → Engine × List HostCleanupFailure}
    (hone : ∀ {engine : Engine}, engineSystem.Reachable engine → ∀ instanceId,
      CleanedUp engine [instanceId] (cleanUp engine instanceId))
    (h : engineSystem.Reachable engine) (removed : List ExtensionInstanceId) :
    CleanedUp engine removed (cleanUpEach cleanUp engine removed) := by
  induction removed generalizing engine with
  | nil => exact ⟨h, fun _ hmem => absurd hmem List.not_mem_nil, fun _ _ => rfl, rfl⟩
  | cons instanceId rest ih =>
      have hfirst := hone h instanceId
      exact hfirst.append (ih hfirst.reachable)

/-- All that was registered is removed, whether it was started or not. -/
theorem cleanedUp_instances (h : engineSystem.Reachable engine)
    {started registered : List ExtensionInstanceId} (hstarted : started ⊆ registered) :
    CleanedUp engine registered (cleanupInstances env engine started registered) := by
  have hunstarted := cleanedUp_each (@cleanedUp_unregister env) h
    (registered.reverse.filter fun instanceId => decide (instanceId ∉ started))
  have hstopped := cleanedUp_each (@cleanedUp_stop env) hunstarted.reachable started.reverse
  have hboth := hunstarted.append hstopped
  have hmem : ∀ instanceId, instanceId ∈ (registered.reverse.filter fun instanceId =>
      decide (instanceId ∉ started)) ++ started.reverse ↔ instanceId ∈ registered := by
    intro instanceId
    rw [List.mem_append, List.mem_filter, List.mem_reverse, List.mem_reverse, decide_eq_true_eq]
    constructor
    · rintro (hleft | hactive)
      · exact hleft.1
      · exact hstarted hactive
    · intro hregistered
      by_cases hactive : instanceId ∈ started
      · exact .inr hactive
      · exact .inl ⟨hregistered, hactive⟩
  exact ⟨hboth.reachable, fun instanceId hregistered =>
    hboth.gone instanceId ((hmem instanceId).mpr hregistered), fun instanceId hregistered =>
    hboth.others instanceId fun hremoved => hregistered ((hmem instanceId).mp hremoved),
    hboth.preferred⟩

end Cleanup

end Rintawa.Host
