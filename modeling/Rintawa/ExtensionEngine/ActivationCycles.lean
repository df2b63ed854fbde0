/-
# Reported cycles

When the ordering gets stuck, providers are left for some positions. Each of them has a
provider in the same situation, so a walk along such providers never ends, and comes back to
a position that it passed. The instances that it passed in between make up the cycle that is
reported.
-/

import Rintawa.Lib.GraphWalks
import Rintawa.ExtensionEngine.ActivationOrder

namespace Rintawa.ExtensionEngine

open Rintawa.Lib Rintawa.Sdk

/-! ## The walk -/

/-- The smallest provider of a position that has providers left itself. -/
def leftProvider (edges : List (Nat × Nat)) (residual : Nat → Nat) (current : Nat) :
    Option Nat :=
  ((incoming edges current).filter fun index => 0 < residual index).min?

/-- The positions with providers left. -/
def leftPositions (residual : Nat → Nat) (instanceCount : Nat) : List Nat :=
  (List.range instanceCount).filter fun index => 0 < residual index

/-- The walk for a cycle, as its loop goes. It has no bound on its steps, and ends without a
cycle where no provider is left. -/
def CycleWalk (edges : List (Nat × Nat)) (residual : Nat → Nat) :
    List Nat → Nat → Nat → Option (List Nat) → Prop :=
  Chase (leftProvider edges residual)

section Walk

variable {edges : List (Nat × Nat)} {residual : Nat → Nat} {instanceCount : Nat}

variable {current : Nat}

/-- With enough steps the walk gives what its loop gives, and all the positions with providers
left where the loop finds no cycle. -/
theorem walkCycle_of_walk {path : List Nat} {steps : Nat} {result : Option (List Nat)}
    (h : CycleWalk edges residual path current steps result) :
    ∀ {fuel : Nat}, steps < fuel →
      walkCycle edges residual instanceCount fuel path current =
        result.getD (leftPositions residual instanceCount) := by
  induction h with
  | closes hagain =>
      intro fuel hfuel
      obtain ⟨more, rfl⟩ := Nat.exists_eq_succ_of_ne_zero hfuel.ne'
      rw [walkCycle, if_pos hagain, Option.getD_some]
  | strands hnew hnone =>
      intro fuel hfuel
      obtain ⟨more, rfl⟩ := Nat.exists_eq_succ_of_ne_zero (Nat.zero_lt_of_lt hfuel).ne'
      rw [leftProvider] at hnone
      rw [walkCycle, if_neg hnew, hnone, Option.getD_none, leftPositions]
  | follows hnew hafter _ ih =>
      intro fuel hfuel
      obtain ⟨more, rfl⟩ := Nat.exists_eq_succ_of_ne_zero (Nat.zero_lt_of_lt hfuel).ne'
      rw [leftProvider] at hafter
      rw [walkCycle, if_neg hnew, hafter]
      exact ih (Nat.lt_of_succ_lt_succ hfuel)

theorem mem_leftPositions {index : Nat} :
    index ∈ leftPositions residual instanceCount ↔ index < instanceCount ∧ 0 < residual index := by
  rw [leftPositions, List.mem_filter, List.mem_range, decide_eq_true_eq]

theorem length_leftPositions_le : (leftPositions residual instanceCount).length ≤ instanceCount :=
  (List.length_filter_le _ _).trans List.length_range.le

theorem leftProvider_eq_some {provider : Nat}
    (h : leftProvider edges residual current = some provider) :
    IsEdge edges provider current ∧ 0 < residual provider := by
  have hmem := List.mem_filter.mp (List.min?_mem h)
  exact ⟨mem_incoming.mp hmem.1, of_decide_eq_true hmem.2⟩

theorem exists_leftProvider {provider : Nat} (hedge : IsEdge edges provider current)
    (hleft : 0 < residual provider) :
    ∃ smallest, leftProvider edges residual current = some smallest := by
  have hmem : provider ∈ (incoming edges current).filter fun index => 0 < residual index :=
    List.mem_filter.mpr ⟨mem_incoming.mpr hedge, decide_eq_true hleft⟩
  exact Option.isSome_iff_exists.mp (List.isSome_min?_of_mem hmem)

end Walk

/-! ## Where the ordering gets stuck -/

namespace OrderingState

variable {edges : List (Nat × Nat)} {instanceCount : Nat} {state : OrderingState}

variable {index : Nat}

/-- Providers are left for a position exactly when one of them is not ordered. -/
theorem Sound.left_pos_iff (h : Sound edges instanceCount state) :
    0 < state.indegrees index ↔ ∃ provider, IsEdge edges provider index ∧
      provider ∉ state.ordered := by
  rw [Nat.pos_iff_ne_zero, h.indegrees, Ne, left_eq_zero_iff]
  simp only [not_forall, exists_prop]

/-- Once nothing is ready, what is not ordered has providers left. -/
theorem Sound.left_of_stuck (h : Sound edges instanceCount state) (hstuck : state.ready = [])
    (hwithin : index < instanceCount) (hindex : index ∉ state.ordered) :
    0 < state.indegrees index := by
  rw [h.left_pos_iff]
  by_contra hall
  have hready : Ready (Finset.range instanceCount) (IsEdge edges) state.ordered.toFinset index := by
    refine ⟨Finset.mem_range.mpr hwithin, fun hmem => hindex (List.mem_toFinset.mp hmem), ?_⟩
    intro provider hedge
    by_contra hprovider
    exact hall ⟨provider, hedge, fun hmem => hprovider (List.mem_toFinset.mpr hmem)⟩
  have hmem := (h.ready index).mpr hready
  rw [hstuck] at hmem
  cases hmem

/-- Once nothing is ready, a position with providers left has a provider with providers left. -/
theorem Sound.provider_left (hedges : EdgesWithin edges instanceCount)
    (h : Sound edges instanceCount state) (hstuck : state.ready = [])
    (hindex : 0 < state.indegrees index) :
    ∃ provider, IsEdge edges provider index ∧ 0 < state.indegrees provider := by
  obtain ⟨provider, hedge, hprovider⟩ := h.left_pos_iff.mp hindex
  exact ⟨provider, hedge,
    h.left_of_stuck hstuck (hedges.provider provider index hedge) hprovider⟩

/-- Once nothing is ready, and not all positions are ordered, one has providers left. -/
theorem Sound.exists_left (h : Sound edges instanceCount state) (hstuck : state.ready = [])
    (hstopped : state.ordered.length ≠ instanceCount) :
    ∃ index < instanceCount, 0 < state.indegrees index := by
  by_contra hnone
  have hsubset : List.range instanceCount ⊆ state.ordered := by
    intro index hindex
    by_contra hmissing
    have hwithin := List.mem_range.mp hindex
    exact hnone ⟨index, hwithin, h.left_of_stuck hstuck hwithin hmissing⟩
  have hle := (List.nodup_range.subperm hsubset).length_le
  rw [List.length_range] at hle
  have hlength := (h.perm_range hle).length_eq
  rw [List.length_range] at hlength
  exact hstopped hlength

/-- The walk starts somewhere, and closes within a step for each position. -/
theorem Sound.exists_walk (hedges : EdgesWithin edges instanceCount)
    (h : Sound edges instanceCount state) (hstuck : state.ready = [])
    (hstopped : state.ordered.length ≠ instanceCount) :
    ∃ start, ((List.range instanceCount).find? fun index => 0 < state.indegrees index) =
        some start ∧ start < instanceCount ∧
      ∃ steps ≤ instanceCount, ∃ cycle,
        CycleWalk edges state.indegrees [] start steps (some cycle) := by
  obtain ⟨first, hwithin, hleft⟩ := h.exists_left hstuck hstopped
  have hfound : ((List.range instanceCount).find? fun index =>
      0 < state.indegrees index).isSome := by
    rw [List.find?_isSome]
    exact ⟨first, List.mem_range.mpr hwithin, decide_eq_true hleft⟩
  obtain ⟨start, hstart⟩ := Option.isSome_iff_exists.mp hfound
  have hstartLeft := List.find?_some hstart
  have hmem : start ∈ leftPositions state.indegrees instanceCount :=
    List.mem_filter.mpr ⟨List.mem_of_find?_eq_some hstart, hstartLeft⟩
  refine ⟨start, hstart, (mem_leftPositions.mp hmem).1, ?_⟩
  have hnext : ∀ index ∈ leftPositions state.indegrees instanceCount,
      ∃ after ∈ leftPositions state.indegrees instanceCount,
        leftProvider edges state.indegrees index = some after := by
    intro index hindex
    obtain ⟨provider, hedge, hprovider⟩ :=
      h.provider_left hedges hstuck (mem_leftPositions.mp hindex).2
    obtain ⟨after, hafter⟩ := exists_leftProvider hedge hprovider
    obtain ⟨hafterEdge, hafterLeft⟩ := leftProvider_eq_some hafter
    exact ⟨after,
      mem_leftPositions.mpr ⟨hedges.provider after index hafterEdge, hafterLeft⟩, hafter⟩
  have hroom : (leftPositions state.indegrees instanceCount).length ≤
      ([] : List Nat).length + instanceCount := by
    rw [List.length_nil, Nat.zero_add]
    exact length_leftPositions_le
  exact Chase.exists_closed hnext List.nodup_nil (List.nil_subset _) hmem hroom

end OrderingState

/-! ## The cycle of a batch -/

section Batch

variable (snapshot : CompositionSnapshot) (scheduled : List ExtensionInstanceId)
  (requiredInstanceDependencies : List (ExtensionInstanceId × ExtensionInstanceId))

/-- The ordering of a batch, once it stops. -/
def finalOrdering : OrderingState :=
  OrderingState.run (dependencyEdges scheduled snapshot requiredInstanceDependencies)
    scheduled.length
    (.initial (dependencyEdges scheduled snapshot requiredInstanceDependencies) scheduled.length)

/-- The instance at a position of the batch. -/
def instanceAt (index : Nat) : ExtensionInstanceId :=
  scheduled.getD index ⟨""⟩

/-- The walk of a batch whose ordering stopped: it starts from the first position with
providers left. -/
structure WalksToCycle (start steps : Nat) (cycle : List Nat) : Prop where
  starts : ((List.range scheduled.length).find? fun index =>
    0 < (finalOrdering snapshot scheduled requiredInstanceDependencies).indegrees index) =
      some start
  walks : CycleWalk (dependencyEdges scheduled snapshot requiredInstanceDependencies)
    (finalOrdering snapshot scheduled requiredInstanceDependencies).indegrees [] start steps
    (some cycle)

variable {snapshot scheduled requiredInstanceDependencies}

theorem instanceAt_eq_getElem {index : Nat} (hwithin : index < scheduled.length) :
    instanceAt scheduled index = scheduled[index] := by
  rw [instanceAt, List.getD_eq_getElem?_getD, List.getElem?_eq_getElem hwithin,
    Option.getD_some]

theorem instancesAt_eq_map {indices : List Nat}
    (hwithin : ∀ index ∈ indices, index < scheduled.length) :
    instancesAt scheduled indices = indices.map (instanceAt scheduled) := by
  rw [instancesAt, ← List.filterMap_eq_map]
  refine List.filterMap_congr fun index hindex => ?_
  rw [Function.comp_apply, instanceAt_eq_getElem (hwithin index hindex),
    List.getElem?_eq_getElem (hwithin index hindex)]

theorem instanceAt_idxOf {instanceId : ExtensionInstanceId} (hmem : instanceId ∈ scheduled) :
    instanceAt scheduled (scheduled.idxOf instanceId) = instanceId := by
  rw [instanceAt, List.getD_eq_getElem?_getD, List.getElem?_idxOf hmem, Option.getD_some]

theorem instanceAt_inj (hnodup : scheduled.Nodup) {first second : Nat}
    (hfirst : first < scheduled.length) (hsecond : second < scheduled.length)
    (hsame : instanceAt scheduled first = instanceAt scheduled second) : first = second := by
  rw [instanceAt_eq_getElem hfirst, instanceAt_eq_getElem hsecond] at hsame
  exact hnodup.getElem_inj_iff.mp hsame

/-- An edge is a dependency between the instances at its ends. -/
theorem requires_of_isEdge {provider consumer : Nat}
    (hedge : IsEdge (dependencyEdges scheduled snapshot requiredInstanceDependencies)
      provider consumer) :
    Requires snapshot scheduled requiredInstanceDependencies (instanceAt scheduled provider)
      (instanceAt scheduled consumer) := by
  obtain ⟨first, second, hrequires, rfl, rfl⟩ := isEdge_iff.mp hedge
  rwa [instanceAt_idxOf hrequires.provider_mem, instanceAt_idxOf hrequires.consumer_mem]

/-- Where a walk closes, the instances at its positions require each other in a circle. -/
theorem closedPath_of_walk (hnodup : scheduled.Nodup) {residual : Nat → Nat} {start steps : Nat}
    {cycle : List Nat} (hstart : start < scheduled.length)
    (hwalk : CycleWalk (dependencyEdges scheduled snapshot requiredInstanceDependencies) residual
      [] start steps (some cycle)) :
    ClosedPath
      (fun consumer provider =>
        Requires snapshot scheduled requiredInstanceDependencies provider consumer)
      (instancesAt scheduled cycle) := by
  have hwithin : ∀ index ∈ cycle, index < scheduled.length := by
    refine hwalk.within (P := fun index => index < scheduled.length) ?_
      (fun index hindex => absurd hindex List.not_mem_nil) hstart rfl
    intro index after _ hafter
    exact (edgesWithin _ _ _).provider after index (leftProvider_eq_some hafter).1
  have hclosed := hwalk.closedPath List.nodup_nil (List.isChain_singleton start) rfl
  rw [instancesAt_eq_map hwithin]
  refine hclosed.map (fun consumer provider hnext => ?_) fun first hfirst second hsecond hsame => ?_
  · exact requires_of_isEdge (leftProvider_eq_some hnext).1
  · exact instanceAt_inj hnodup (hwithin first hfirst) (hwithin second hsecond) hsame

/-- A cycle is reported of a batch without repetitions, when the ordering stops early. -/
theorem reported_cases {instances : List ExtensionInstanceId}
    (hreported : buildActivationPlan snapshot scheduled requiredInstanceDependencies =
      .error (.dependencyCycle instances)) :
    scheduled.Nodup ∧
      (finalOrdering snapshot scheduled requiredInstanceDependencies).ordered.length ≠
        scheduled.length ∧
      instances = instancesAt scheduled (findDependencyCycle
        (dependencyEdges scheduled snapshot requiredInstanceDependencies)
        (finalOrdering snapshot scheduled requiredInstanceDependencies).indegrees
        scheduled.length) := by
  cases hduplicate : findDuplicate [] scheduled with
  | some instanceId =>
      rw [buildActivationPlan, hduplicate] at hreported
      cases hreported
  | none =>
      have hnodup := (findDuplicate_eq_none_iff.mp hduplicate).1
      cases hunresolved : snapshot.unresolved.find? fun entry =>
          entry.required && scheduled.contains entry.consumer.instanceId with
      | some unresolved =>
          rw [buildActivationPlan, hduplicate] at hreported
          dsimp only at hreported
          rw [hunresolved] at hreported
          cases hreported
      | none =>
          rw [build_of_checked requiredInstanceDependencies hduplicate hunresolved] at hreported
          split at hreported
          · cases hreported
          · next hstopped =>
              cases hreported
              exact ⟨hnodup, hstopped, rfl⟩

/-- A cycle that is reported is genuine. The walk for it starts at the first position with
providers left and closes within a step for each scheduled instance. It never ends without a
cycle, so the instances reported are those of the walk. They come back to the first of them,
are distinct up to there, and each is followed by one of its providers. -/
theorem reported_cycle_genuine (snapshot : CompositionSnapshot)
    (scheduled : List ExtensionInstanceId)
    (requiredInstanceDependencies : List (ExtensionInstanceId × ExtensionInstanceId))
    (instances : List ExtensionInstanceId)
    (hreported : buildActivationPlan snapshot scheduled requiredInstanceDependencies =
      .error (.dependencyCycle instances)) :
    (∃ start steps cycle,
      WalksToCycle snapshot scheduled requiredInstanceDependencies start steps cycle ∧
      steps ≤ scheduled.length ∧
      (∀ otherSteps other,
        CycleWalk (dependencyEdges scheduled snapshot requiredInstanceDependencies)
          (finalOrdering snapshot scheduled requiredInstanceDependencies).indegrees
          [] start otherSteps other → otherSteps = steps ∧ other = some cycle) ∧
      instances = instancesAt scheduled cycle) ∧
    ClosedPath
      (fun consumer provider =>
        Requires snapshot scheduled requiredInstanceDependencies provider consumer)
      instances ∧
    ∃ first ∈ instances, ∃ second ∈ instances, first ≠ second := by
  obtain ⟨hnodup, hstopped, hinstances⟩ := reported_cases hreported
  obtain ⟨hsound, hstuck, -⟩ := OrderingState.Sound.run
    (edgesWithin snapshot scheduled requiredInstanceDependencies) OrderingState.sound_initial
    (Nat.zero_add scheduled.length)
  obtain ⟨start, hstart, hwithin, steps, hsteps, cycle, hwalk⟩ :=
    hsound.exists_walk (edgesWithin _ _ _) hstuck hstopped
  have hfound : findDependencyCycle
      (dependencyEdges scheduled snapshot requiredInstanceDependencies)
      (finalOrdering snapshot scheduled requiredInstanceDependencies).indegrees
      scheduled.length = cycle := by
    rw [findDependencyCycle, finalOrdering, hstart]
    exact walkCycle_of_walk hwalk (Nat.lt_succ_of_le hsteps)
  rw [hfound] at hinstances
  have hclosed := closedPath_of_walk hnodup hwithin hwalk
  rw [← hinstances] at hclosed
  exact ⟨⟨start, steps, cycle, ⟨hstart, hwalk⟩, hsteps,
    fun otherSteps other hother => hwalk.unique hother, hinstances⟩, hclosed,
    hclosed.exists_ne fun instanceId hself => hself.distinct rfl⟩

/-- Two instances that consume a contract of each other. -/
def mutualSnapshot : CompositionSnapshot where
  bindings :=
    [⟨⟨⟨"a"⟩, ⟨"x"⟩⟩, ⟨⟨"c"⟩, 1⟩, true, [⟨⟨"b"⟩, ⟨"x"⟩⟩]⟩,
      ⟨⟨⟨"b"⟩, ⟨"x"⟩⟩, ⟨⟨"c"⟩, 1⟩, true, [⟨⟨"a"⟩, ⟨"x"⟩⟩]⟩]
  unresolved := []

/-- Their cycle starts with the first of them. -/
theorem reported_cycle_genuine_mutual :
    buildActivationPlan mutualSnapshot [⟨"a"⟩, ⟨"b"⟩] [] =
        .error (.dependencyCycle [⟨"a"⟩, ⟨"b"⟩, ⟨"a"⟩]) ∧
      ClosedPath
        (fun consumer provider =>
          Requires mutualSnapshot [⟨"a"⟩, ⟨"b"⟩] [] provider consumer)
        [⟨"a"⟩, ⟨"b"⟩, ⟨"a"⟩] := by
  have hreported : buildActivationPlan mutualSnapshot [⟨"a"⟩, ⟨"b"⟩] [] =
      .error (.dependencyCycle [⟨"a"⟩, ⟨"b"⟩, ⟨"a"⟩]) := by decide +kernel
  exact ⟨hreported, (reported_cycle_genuine mutualSnapshot _ [] _ hreported).2.1⟩

end Batch

end Rintawa.ExtensionEngine
