/-
# Progress of activations

While a composition is activated, the engine has the instances that were there before and those
that were registered, of which those that were started are active. Loading, grants and starts
keep this. What was active when an instance was started is remembered for every start.
-/

import Rintawa.ExtensionEngine.PlannedStarts
import Rintawa.Host.CompositionActivation

namespace Rintawa.Host

open Rintawa.Lib Rintawa.Sdk Rintawa.ExtensionEngine

/-! ## Progress -/

/-- An instance was started while exactly those instances were active that were active at first
or had been started before, and its start was planned. -/
def StartedAfter (initial current : Engine) (before : List ExtensionInstanceId)
    (instanceId : ExtensionInstanceId) : Prop :=
  ∃ engine plan, engineSystem.Reachable engine ∧ Grows engine current ∧
    (∀ other, engine.isActive other = true ↔ initial.isActive other = true ∨ other ∈ before) ∧
    engine.planExtensionActivation [instanceId] = .ok plan

theorem StartedAfter.mono {initial current current' : Engine} {before : List ExtensionInstanceId}
    {instanceId : ExtensionInstanceId} (h : StartedAfter initial current before instanceId)
    (hgrows : Grows current current') : StartedAfter initial current' before instanceId := by
  obtain ⟨engine, plan, hreachable, hcurrent, hactive, hplan⟩ := h
  exact ⟨engine, plan, hreachable, hcurrent.trans hgrows, hactive, hplan⟩

/-- How far an activation in a scope has come since its first engine. -/
structure Progress (initial : Engine) (scopeId : RuntimeScopeId) (state : BootstrapState) :
    Prop where
  reachable : engineSystem.Reachable state.engine
  beside : SameBeside initial state.engine
  registered : state.registered.Nodup
  started : state.started.Nodup
  startedRegistered : state.started ⊆ state.registered
  bootstrap : ∀ instanceId ∈ state.bootstrap, instanceId ∈ state.registered
  fresh : ∀ instanceId ∈ state.registered, initial.extensions.lookup instanceId = none
  others : ∀ instanceId, instanceId ∉ state.registered →
    state.engine.extensions.lookup instanceId = initial.extensions.lookup instanceId
  present : ∀ instanceId ∈ state.registered, ∃ ext,
    state.engine.extensions.lookup instanceId = some ext ∧ ext.scopeId = scopeId ∧
      ext.state = if instanceId ∈ state.started then .active else .registered
  order : ∀ before instanceId rest, state.started = before ++ instanceId :: rest →
    StartedAfter initial state.engine before instanceId

section Progress

variable {initial : Engine} {scopeId : RuntimeScopeId} {state : BootstrapState}

/-- Nothing is registered at first. -/
theorem progress_initial (h : engineSystem.Reachable initial) :
    Progress initial scopeId ⟨initial, [], [], ∅⟩ where
  reachable := h
  beside := .refl initial
  registered := .nil
  started := .nil
  startedRegistered := List.nil_subset _
  bootstrap := fun _ hmem => absurd hmem (Finset.notMem_empty _)
  fresh := fun _ hmem => absurd hmem List.not_mem_nil
  others := fun _ _ => rfl
  present := fun _ hmem => absurd hmem List.not_mem_nil
  order := fun _ _ _ hsplit => absurd hsplit (by simp)

variable (h : Progress initial scopeId state)
include h

/-- Those are active that were at first, and those that were started. -/
theorem Progress.isActive_iff (instanceId : ExtensionInstanceId) :
    state.engine.isActive instanceId = true ↔
      initial.isActive instanceId = true ∨ instanceId ∈ state.started := by
  by_cases hregistered : instanceId ∈ state.registered
  · obtain ⟨ext, hfound, -, hstate⟩ := h.present instanceId hregistered
    rw [Engine.isActive, hfound, Engine.isActive, h.fresh instanceId hregistered]
    by_cases hstarted : instanceId ∈ state.started
    · rw [if_pos hstarted] at hstate
      simp [hstate, hstarted]
    · rw [if_neg hstarted] at hstate
      simp [hstate, hstarted]
  · have hnot : instanceId ∉ state.started := fun hmem => hregistered (h.startedRegistered hmem)
    rw [Engine.isActive, h.others instanceId hregistered, Engine.isActive]
    simp [hnot]

/-- What leaves the instances alone keeps the progress. -/
theorem Progress.same {engine' : Engine} (hreachable : engineSystem.Reachable engine')
    (hextensions : engine'.extensions = state.engine.extensions)
    (hbeside : SameBeside state.engine engine') :
    Progress initial scopeId { state with engine := engine' } where
  reachable := hreachable
  beside := h.beside.trans hbeside
  registered := h.registered
  started := h.started
  startedRegistered := h.startedRegistered
  bootstrap := h.bootstrap
  fresh := h.fresh
  others := fun instanceId hmem => by
    rw [hextensions]
    exact h.others instanceId hmem
  present := fun instanceId hmem => by
    rw [hextensions]
    exact h.present instanceId hmem
  order := fun before instanceId rest hsplit =>
    (h.order before instanceId rest hsplit).mono (.of_same hbeside hextensions)

/-- More instances may be started early. -/
theorem Progress.expanded {required : Finset ExtensionInstanceId}
    (hrequired : ∀ instanceId ∈ required, instanceId ∈ state.registered) :
    Progress initial scopeId { state with bootstrap := state.bootstrap ∪ required } :=
  { h with
    bootstrap := fun instanceId hmem =>
      (Finset.mem_union.mp hmem).elim (h.bootstrap instanceId) (hrequired instanceId) }

/-- An instance is loaded. -/
theorem Progress.loaded {engine' : Engine} {instanceId : ExtensionInstanceId}
    {ext : ManagedExtension} (load : RegisteredExtensionLoad)
    (hreachable : engineSystem.Reachable engine')
    (hfresh : state.engine.extensions.lookup instanceId = none) (hscope : ext.scopeId = scopeId)
    (hstate : ext.state = .registered)
    (hextensions : engine'.extensions = state.engine.extensions.insert instanceId ext)
    (hbeside : SameBeside state.engine engine') :
    Progress initial scopeId (state.withLoaded engine' instanceId load) := by
  have hnew : instanceId ∉ state.registered := by
    intro hmem
    obtain ⟨other, hfound, -⟩ := h.present instanceId hmem
    rw [hfresh] at hfound
    cases hfound
  have hmem : ∀ other, other ∈ state.registered ++ [instanceId] ↔
      other ∈ state.registered ∨ other = instanceId := by
    intro other
    rw [List.mem_append, List.mem_singleton]
  constructor
  case reachable => exact hreachable
  case beside => exact h.beside.trans hbeside
  case registered =>
    rw [BootstrapState.withLoaded, ← List.concat_eq_append]
    exact h.registered.concat hnew
  case started => exact h.started
  case startedRegistered =>
    exact fun other hother => List.mem_append_left _ (h.startedRegistered hother)
  case bootstrap =>
    intro other hother
    rw [BootstrapState.withLoaded] at hother ⊢
    dsimp only at hother ⊢
    rw [hmem]
    split at hother
    · rcases Finset.mem_insert.mp hother with hsame | hbefore
      · exact .inr hsame
      · exact .inl (h.bootstrap other hbefore)
    · exact .inl (h.bootstrap other hother)
  case fresh =>
    intro other hother
    rcases (hmem other).mp hother with hbefore | rfl
    · exact h.fresh other hbefore
    · rw [← h.others other hnew]
      exact hfresh
  case others =>
    intro other hother
    rw [BootstrapState.withLoaded] at hother ⊢
    dsimp only at hother ⊢
    rw [hmem, not_or] at hother
    rw [hextensions, AList.lookup_insert_ne hother.2]
    exact h.others other hother.1
  case present =>
    intro other hother
    rw [BootstrapState.withLoaded] at hother ⊢
    dsimp only at hother ⊢
    rcases (hmem other).mp hother with hbefore | rfl
    · have hne : other ≠ instanceId := fun hsame => hnew (hsame ▸ hbefore)
      rw [hextensions, AList.lookup_insert_ne hne]
      exact h.present other hbefore
    · have hnot : other ∉ state.started := fun hstarted => hnew (h.startedRegistered hstarted)
      rw [hextensions, AList.lookup_insert, if_neg hnot]
      exact ⟨ext, rfl, hscope, hstate⟩
  case order =>
    exact fun before other rest hsplit =>
      (h.order before other rest hsplit).mono (.of_fresh hbeside hfresh hextensions)

/-- An instance that was registered is started. -/
theorem Progress.startedOne {engine' : Engine} {instanceId : ExtensionInstanceId}
    {ext : ManagedExtension} {plan : ActivationPlan} (hreachable : engineSystem.Reachable engine')
    (hregistered : instanceId ∈ state.registered) (hnew : instanceId ∉ state.started)
    (hfound : state.engine.extensions.lookup instanceId = some ext)
    (hplan : state.engine.planExtensionActivation [instanceId] = .ok plan)
    (hextensions : engine'.extensions =
      state.engine.extensions.insert instanceId { ext with state := .active })
    (hbeside : SameBeside state.engine engine') :
    Progress initial scopeId
      { state with engine := engine', started := state.started ++ [instanceId] } := by
  have hgrows : Grows state.engine engine' := .of_started hbeside hfound hextensions
  constructor
  case reachable => exact hreachable
  case beside => exact h.beside.trans hbeside
  case registered => exact h.registered
  case started =>
    dsimp only
    rw [← List.concat_eq_append]
    exact h.started.concat hnew
  case startedRegistered =>
    refine List.append_subset.mpr ⟨h.startedRegistered, fun other hother => ?_⟩
    rw [List.mem_singleton.mp hother]
    exact hregistered
  case bootstrap => exact h.bootstrap
  case fresh => exact h.fresh
  case others =>
    intro other hother
    dsimp only at hother ⊢
    have hne : other ≠ instanceId := fun hsame => hother (hsame ▸ hregistered)
    rw [hextensions, AList.lookup_insert_ne hne]
    exact h.others other hother
  case present =>
    intro other hother
    dsimp only at hother ⊢
    rw [hextensions, Dict.lookup_insert_ite]
    obtain ⟨otherExt, hlookup, hscope, hstate⟩ := h.present other hother
    by_cases hsame : other = instanceId
    · rw [hsame, hfound] at hlookup
      cases hlookup
      rw [if_pos hsame, if_pos (by simp [hsame])]
      exact ⟨_, rfl, hscope, rfl⟩
    · rw [if_neg hsame]
      refine ⟨otherExt, hlookup, hscope, ?_⟩
      rw [hstate]
      simp [hsame]
  case order =>
    intro before other rest hsplit
    dsimp only at hsplit ⊢
    rcases List.eq_nil_or_concat rest with rfl | ⟨rest, last, rfl⟩
    · obtain ⟨rfl, hlast⟩ := List.append_inj' hsplit rfl
      cases hlast
      exact ⟨state.engine, plan, h.reachable, hgrows, h.isActive_iff, hplan⟩
    · rw [List.concat_eq_append, ← List.cons_append, ← List.append_assoc] at hsplit
      obtain ⟨hbefore, -⟩ := List.append_inj' hsplit rfl
      exact (h.order before other rest hbefore).mono hgrows

/-- A start goes on, or fails without changing the instances. -/
theorem Progress.start {instanceId : ExtensionInstanceId}
    (hregistered : instanceId ∈ state.registered) (hnew : instanceId ∉ state.started)
    (script : InstanceScript) :
    let outcome := state.engine.startExtensionInstance instanceId script
    (∃ error, outcome.2 = .error error) ∧
        Progress initial scopeId { state with engine := outcome.1 } ∨
      outcome.2 = .ok () ∧ Progress initial scopeId
        { state with engine := outcome.1, started := state.started ++ [instanceId] } := by
  intro outcome
  have hreachable : engineSystem.Reachable outcome.1 :=
    reachable_run h.reachable (.startExtensionInstance instanceId script)
  have hcase : StartsInstance state.engine instanceId outcome :=
    startsInstance (consistent_of_reachable h.reachable) instanceId script
  generalize outcome = result at hreachable hcase
  cases hcase with
  | refused error hextensions hbeside =>
      exact .inl ⟨⟨error, rfl⟩, h.same hreachable hextensions hbeside⟩
  | active hactive =>
      obtain ⟨ext, hfound, -, hstate⟩ := h.present instanceId hregistered
      rw [if_neg hnew] at hstate
      rw [Engine.isActive, hfound, Option.any_some, hstate] at hactive
      cases hactive
  | started ext plan hfound hplan hextensions hbeside =>
      exact .inr ⟨rfl, h.startedOne hreachable hregistered hnew hfound hplan hextensions hbeside⟩

end Progress

end Rintawa.Host
