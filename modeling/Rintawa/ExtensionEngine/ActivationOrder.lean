/-
# The order of activation

The ordering takes the smallest ready position of a batch every time, and keeps a count of
the providers that are left for each position. So it orders the whole batch exactly when
the required dependencies have no cycle, and then the order is the least one that starts
providers before their consumers.
-/

import Rintawa.Lib.LeastOrder
import Rintawa.ExtensionEngine.Activation

namespace Rintawa.ExtensionEngine

open Rintawa.Lib Rintawa.Sdk

/-! ## The edges of a batch -/

/-- A provider and a consumer by position. -/
def IsEdge (edges : List (Nat × Nat)) (provider consumer : Nat) : Prop :=
  (provider, consumer) ∈ edges

/-- The edges relate positions of a batch and are listed once. -/
structure EdgesWithin (edges : List (Nat × Nat)) (instanceCount : Nat) : Prop where
  nodup : edges.Nodup
  provider : ∀ first second, IsEdge edges first second → first < instanceCount
  consumer : ∀ first second, IsEdge edges first second → second < instanceCount

section Edges

variable {edges : List (Nat × Nat)}

theorem mem_incoming {provider consumer : Nat} :
    provider ∈ incoming edges consumer ↔ IsEdge edges provider consumer := by
  rw [incoming, List.mem_insertionSort]
  simp [IsEdge]

theorem mem_outgoing {provider consumer : Nat} :
    consumer ∈ outgoing edges provider ↔ IsEdge edges provider consumer := by
  rw [outgoing, List.mem_insertionSort]
  simp [IsEdge]

theorem nodup_incoming (h : edges.Nodup) (consumer : Nat) : (incoming edges consumer).Nodup := by
  rw [incoming, (List.perm_insertionSort _ _).nodup_iff]
  refine List.Nodup.map_on ?_ (h.filter _)
  intro first hfirst second hsecond hprovider
  have hfirst' : first.2 = consumer := by simpa using (List.mem_filter.mp hfirst).2
  have hsecond' : second.2 = consumer := by simpa using (List.mem_filter.mp hsecond).2
  exact Prod.ext hprovider (hfirst'.trans hsecond'.symm)

theorem nodup_outgoing (h : edges.Nodup) (provider : Nat) : (outgoing edges provider).Nodup := by
  rw [outgoing, (List.perm_insertionSort _ _).nodup_iff]
  refine List.Nodup.map_on ?_ (h.filter _)
  intro first hfirst second hsecond hconsumer
  have hfirst' : first.1 = provider := by simpa using (List.mem_filter.mp hfirst).2
  have hsecond' : second.1 = provider := by simpa using (List.mem_filter.mp hsecond).2
  exact Prod.ext (hfirst'.trans hsecond'.symm) hconsumer

end Edges

/-! ## Releasing consumers -/

namespace OrderingState

theorem foldl_release_ordered (dependents : List Nat) (state : OrderingState) :
    (dependents.foldl release state).ordered = state.ordered := by
  induction dependents generalizing state with
  | nil => rfl
  | cons dependent rest ih => exact ih (state.release dependent)

/-- What releasing some consumers does. -/
structure Released (dependents : List Nat) (state result : OrderingState) : Prop where
  ordered : result.ordered = state.ordered
  indegrees : ∀ index, result.indegrees index =
    if index ∈ dependents then state.indegrees index - 1 else state.indegrees index
  ready : ∀ index, index ∈ result.ready ↔
    index ∈ state.ready ∨ (index ∈ dependents ∧ state.indegrees index - 1 = 0)
  sorted : result.ready.Pairwise (· ≤ ·)
  nodup : result.ready.Nodup

/-- Every consumer is released once, and becomes ready if nothing is left for it. -/
theorem released_foldl {dependents : List Nat} :
    ∀ {state : OrderingState}, state.ready.Pairwise (· ≤ ·) → state.ready.Nodup →
      dependents.Nodup → (∀ index ∈ dependents, index ∉ state.ready) →
      Released dependents state (dependents.foldl release state) := by
  induction dependents with
  | nil =>
      intro state hsorted hnodup _ _
      exact ⟨rfl, fun index => rfl, fun index => by simp, hsorted, hnodup⟩
  | cons dependent rest ih =>
      intro state hsorted hnodup hdependents hnotReady
      rw [List.nodup_cons] at hdependents
      have hnot : dependent ∉ state.ready := hnotReady dependent List.mem_cons_self
      have hready : ∀ index, index ∈ (state.release dependent).ready ↔
          index ∈ state.ready ∨ (index = dependent ∧ state.indegrees dependent - 1 = 0) := by
        intro index
        by_cases hzero : state.indegrees dependent - 1 = 0
        · simp [release, hzero, List.mem_orderedInsert, or_comm]
        · simp [release, hzero]
      have hsorted' : (state.release dependent).ready.Pairwise (· ≤ ·) := by
        by_cases hzero : state.indegrees dependent - 1 = 0
        · simpa only [release, hzero, if_true] using hsorted.orderedInsert dependent _
        · simpa only [release, hzero, if_false] using hsorted
      have hnodup' : (state.release dependent).ready.Nodup := by
        by_cases hzero : state.indegrees dependent - 1 = 0
        · simp only [release, hzero, if_true]
          rw [(List.perm_orderedInsert _ _ _).nodup_iff]
          exact List.nodup_cons.mpr ⟨hnot, hnodup⟩
        · simpa only [release, hzero, if_false] using hnodup
      have hrest : ∀ index ∈ rest, index ∉ (state.release dependent).ready := by
        intro index hindex hmem
        cases (hready index).mp hmem with
        | inl hold => exact hnotReady index (List.mem_cons_of_mem _ hindex) hold
        | inr hnew =>
            rw [hnew.1] at hindex
            exact hdependents.1 hindex
      have hreleased := ih hsorted' hnodup' hdependents.2 hrest
      have hother : ∀ index ≠ dependent,
          (state.release dependent).indegrees index = state.indegrees index :=
        fun index hne => Function.update_of_ne hne _ _
      constructor
      case ordered => exact hreleased.ordered
      case indegrees =>
        intro index
        rw [List.foldl_cons, hreleased.indegrees]
        by_cases hsame : index = dependent
        · rw [hsame, if_neg hdependents.1, if_pos List.mem_cons_self]
          exact Function.update_self _ _ _
        · rw [hother index hsame]
          simp [hsame]
      case ready =>
        intro index
        rw [List.foldl_cons, hreleased.ready, hready]
        by_cases hsame : index = dependent
        · rw [hsame]
          simp [hdependents.1]
        · rw [hother index hsame]
          simp [hsame]
      case sorted => exact hreleased.sorted
      case nodup => exact hreleased.nodup

/-! ## The invariant of the ordering -/

/-- The counts and the ready positions are those of the positions that are ordered. -/
structure Sound (edges : List (Nat × Nat)) (instanceCount : Nat) (state : OrderingState) :
    Prop where
  indegrees : ∀ index, state.indegrees index =
    ((incoming edges index).filter fun provider => provider ∉ state.ordered).length
  ready : ∀ index, index ∈ state.ready ↔
    Ready (Finset.range instanceCount) (IsEdge edges) state.ordered.toFinset index
  sorted : state.ready.Pairwise (· ≤ ·)
  nodup : state.ready.Nodup
  closed : ∀ index ∈ state.ordered, ∀ provider, IsEdge edges provider index →
    provider ∈ state.ordered
  orderedNodup : state.ordered.Nodup
  within : ∀ index ∈ state.ordered, index < instanceCount

variable {edges : List (Nat × Nat)} {instanceCount : Nat} {state : OrderingState}

variable {index : Nat}

/-- Nothing is left for a position when all its providers are ordered. -/
theorem left_eq_zero_iff {ordered : List Nat} :
    ((incoming edges index).filter fun provider => provider ∉ ordered).length = 0 ↔
      ∀ provider, IsEdge edges provider index → provider ∈ ordered := by
  rw [List.length_eq_zero_iff, List.filter_eq_nil_iff]
  simp [mem_incoming]

theorem sound_initial : Sound edges instanceCount (initial edges instanceCount) := by
  have hzero : ∀ index, (incoming edges index).length = 0 ↔
      ∀ provider, ¬ IsEdge edges provider index := by
    intro index
    rw [List.length_eq_zero_iff, List.eq_nil_iff_forall_not_mem]
    simp [mem_incoming]
  constructor
  case indegrees =>
    intro index
    simp [initial]
  case ready =>
    intro index
    simp only [initial, List.mem_filter, List.mem_range, beq_iff_eq, hzero]
    constructor
    · rintro ⟨hwithin, hnone⟩
      exact ⟨Finset.mem_range.mpr hwithin, by simp,
        fun provider hedge => absurd hedge (hnone provider)⟩
    · intro hready
      exact ⟨Finset.mem_range.mp hready.mem,
        fun provider hedge => by simpa using hready.done_of_before provider hedge⟩
  case sorted => exact (List.pairwise_le_range).filter _
  case nodup => exact List.nodup_range.filter _
  case closed => exact fun index hindex => absurd hindex List.not_mem_nil
  case orderedNodup => exact List.nodup_nil
  case within => exact fun index hindex => absurd hindex List.not_mem_nil

/-- One provider fewer is left for each consumer of a position that is ordered. -/
theorem left_append (hnodup : edges.Nodup) {ordered : List Nat} (hindex : index ∉ ordered)
    (consumer : Nat) :
    ((incoming edges consumer).filter fun provider => provider ∉ ordered ++ [index]).length =
      if consumer ∈ outgoing edges index then
        ((incoming edges consumer).filter fun provider => provider ∉ ordered).length - 1
      else ((incoming edges consumer).filter fun provider => provider ∉ ordered).length := by
  have hleft := (nodup_incoming hnodup consumer).filter fun provider => provider ∉ ordered
  have hfilter :
      ((incoming edges consumer).filter fun provider => provider ∉ ordered ++ [index]) =
      ((incoming edges consumer).filter fun provider => provider ∉ ordered).erase index := by
    rw [hleft.erase_eq_filter, List.filter_filter]
    refine List.filter_congr fun provider _ => ?_
    by_cases hsame : provider = index
    · simp [hsame]
    · simp [hsame]
  have hmem : index ∈ (incoming edges consumer).filter (fun provider => provider ∉ ordered) ↔
      consumer ∈ outgoing edges index := by
    rw [List.mem_filter, mem_incoming, mem_outgoing]
    simp [hindex]
  rw [hfilter, List.length_erase]
  simp only [hmem]

/-- Ordering the first ready position keeps the invariant. A position that is ready afterwards was
ready before and is another one, or has lost its last missing provider. -/
theorem Sound.next (hedges : EdgesWithin edges instanceCount)
    (h : Sound edges instanceCount state) {index : Nat} {ready : List Nat}
    (hready : state.ready = index :: ready) :
    Sound edges instanceCount ((outgoing edges index).foldl release
      { state with ready := ready, ordered := state.ordered ++ [index] }) := by
  have hindex := (h.ready index).mp (hready ▸ List.mem_cons_self)
  have hsorted := h.sorted
  have hnodup := h.nodup
  rw [hready] at hsorted hnodup
  have hnotOrdered : index ∉ state.ordered := fun hmem => hindex.left (List.mem_toFinset.mpr hmem)
  have hproviders : ∀ provider, IsEdge edges provider index → provider ∈ state.ordered :=
    fun provider hedge => List.mem_toFinset.mp (hindex.done_of_before provider hedge)
  have hwaiting : ∀ dependent ∈ outgoing edges index, dependent ∉ ready := by
    intro dependent hdependent hmem
    have hdependentReady := (h.ready dependent).mp (hready ▸ List.mem_cons_of_mem _ hmem)
    exact hindex.left (hdependentReady.done_of_before index (mem_outgoing.mp hdependent))
  have hreleased : Released (outgoing edges index)
      { state with ready := ready, ordered := state.ordered ++ [index] } _ :=
    released_foldl hsorted.of_cons (List.nodup_cons.mp hnodup).2
      (nodup_outgoing hedges.nodup index) hwaiting
  generalize (outgoing edges index).foldl release
    { state with ready := ready, ordered := state.ordered ++ [index] } = result at hreleased
  have hordered : result.ordered = state.ordered ++ [index] := hreleased.ordered
  have hindegrees : ∀ consumer, result.indegrees consumer =
      ((incoming edges consumer).filter fun provider => provider ∉ result.ordered).length := by
    intro consumer
    rw [hreleased.indegrees, hordered, left_append hedges.nodup hnotOrdered]
    simp only [h.indegrees]
  constructor
  case indegrees => exact hindegrees
  case ready =>
    intro consumer
    rw [hreleased.ready]
    constructor
    · intro hmem
      cases hmem with
      | inl hold =>
          have hconsumer := (h.ready consumer).mp (hready ▸ List.mem_cons_of_mem _ hold)
          have hne : consumer ≠ index := by
            intro hsame
            rw [hsame] at hold
            exact (List.nodup_cons.mp hnodup).1 hold
          refine ⟨hconsumer.mem, fun hmem => ?_, fun provider hedge => ?_⟩
          · rw [hordered, List.mem_toFinset, List.mem_append, List.mem_singleton] at hmem
            exact hmem.elim (fun hdone => hconsumer.left (List.mem_toFinset.mpr hdone)) hne
          · rw [hordered, List.mem_toFinset, List.mem_append]
            exact .inl (List.mem_toFinset.mp (hconsumer.done_of_before provider hedge))
      | inr hnew =>
          obtain ⟨hdependent, hzero⟩ := hnew
          have hedge : IsEdge edges index consumer := mem_outgoing.mp hdependent
          have hzero' : result.indegrees consumer = 0 := by
            rw [hreleased.indegrees, if_pos hdependent]
            exact hzero
          rw [hindegrees, left_eq_zero_iff] at hzero'
          refine ⟨Finset.mem_range.mpr (hedges.consumer _ _ hedge), fun hmem => ?_,
            fun provider hprovider => List.mem_toFinset.mpr (hzero' provider hprovider)⟩
          rw [hordered, List.mem_toFinset, List.mem_append, List.mem_singleton] at hmem
          cases hmem with
          | inl hdone => exact hnotOrdered (h.closed consumer hdone index hedge)
          | inr hsame =>
              rw [hsame] at hedge
              exact hnotOrdered (hproviders index hedge)
    · intro hconsumer
      by_cases hedge : IsEdge edges index consumer
      · -- The last provider was ordered just now.
        have hdependent : consumer ∈ outgoing edges index := mem_outgoing.mpr hedge
        have hzero : result.indegrees consumer = 0 := by
          rw [hindegrees, left_eq_zero_iff]
          exact fun provider hprovider =>
            List.mem_toFinset.mp (hconsumer.done_of_before provider hprovider)
        rw [hreleased.indegrees, if_pos hdependent] at hzero
        exact .inr ⟨hdependent, hzero⟩
      · have hleft := hconsumer.left
        rw [hordered, List.mem_toFinset, List.mem_append, List.mem_singleton, not_or] at hleft
        have hbefore : consumer ∈ state.ready := by
          refine (h.ready consumer).mpr ⟨hconsumer.mem, fun hdone => ?_,
            fun provider hprovider => ?_⟩
          · exact hleft.1 (List.mem_toFinset.mp hdone)
          · have hdone := hconsumer.done_of_before provider hprovider
            rw [hordered, List.mem_toFinset, List.mem_append, List.mem_singleton] at hdone
            cases hdone with
            | inl hdone => exact List.mem_toFinset.mpr hdone
            | inr hsame =>
                rw [hsame] at hprovider
                exact absurd hprovider hedge
        rw [hready] at hbefore
        exact .inl ((List.mem_cons.mp hbefore).resolve_left hleft.2)
  case sorted => exact hreleased.sorted
  case nodup => exact hreleased.nodup
  case closed =>
    intro consumer hconsumer provider hedge
    rw [hordered, List.mem_append, List.mem_singleton] at hconsumer ⊢
    cases hconsumer with
    | inl hdone => exact .inl (h.closed consumer hdone provider hedge)
    | inr hsame =>
        rw [hsame] at hedge
        exact .inl (hproviders provider hedge)
  case orderedNodup =>
    rw [hordered, List.nodup_append]
    refine ⟨h.orderedNodup, List.nodup_singleton index, ?_⟩
    intro first hfirst second hsecond hsame
    rw [hsame, List.mem_singleton.mp hsecond] at hfirst
    exact hnotOrdered hfirst
  case within =>
    intro consumer hconsumer
    rw [hordered, List.mem_append, List.mem_singleton] at hconsumer
    cases hconsumer with
    | inl hdone => exact h.within consumer hdone
    | inr hsame =>
        rw [hsame]
        exact Finset.mem_range.mp hindex.mem

/-- The first ready position is the least one. -/
theorem Sound.isLeast (h : Sound edges instanceCount state) {ready : List Nat}
    (hready : state.ready = index :: ready) :
    IsLeast {next | Ready (Finset.range instanceCount) (IsEdge edges)
      state.ordered.toFinset next} index := by
  have hsorted := h.sorted
  rw [hready, List.pairwise_cons] at hsorted
  refine ⟨(h.ready index).mp (hready ▸ List.mem_cons_self), fun next hnext => ?_⟩
  have hmem : next ∈ state.ready := (h.ready next).mpr hnext
  rw [hready] at hmem
  cases List.mem_cons.mp hmem with
  | inl hsame => exact hsame ▸ Nat.le_refl next
  | inr hrest => exact hsorted.1 next hrest

theorem Sound.perm_range (h : Sound edges instanceCount state)
    (hall : instanceCount ≤ state.ordered.length) :
    state.ordered.Perm (List.range instanceCount) := by
  have hsubset : state.ordered ⊆ List.range instanceCount :=
    fun index hindex => List.mem_range.mpr (h.within index hindex)
  exact (h.orderedNodup.subperm hsubset).perm_of_length_le (by rwa [List.length_range])

/-- Nothing is ready once the whole batch is ordered. -/
theorem Sound.ready_eq_nil (h : Sound edges instanceCount state)
    (hall : state.ordered.length = instanceCount) : state.ready = [] := by
  have hperm := h.perm_range hall.ge
  refine List.eq_nil_iff_forall_not_mem.mpr fun index hindex => ?_
  have hready := (h.ready index).mp hindex
  have hmem : index ∈ state.ordered :=
    hperm.mem_iff.mpr (List.mem_range.mpr (Finset.mem_range.mp hready.mem))
  exact hready.left (List.mem_toFinset.mpr hmem)

/-- A run appends a greedy order, and goes on until nothing is ready. -/
theorem Sound.run (hedges : EdgesWithin edges instanceCount) {rounds : Nat} :
    ∀ {state : OrderingState}, Sound edges instanceCount state →
      state.ordered.length + rounds = instanceCount →
      Sound edges instanceCount (run edges rounds state) ∧
        (run edges rounds state).ready = [] ∧
        ∃ order, (run edges rounds state).ordered = state.ordered ++ order ∧
          GreedyOrder (Finset.range instanceCount) (IsEdge edges) state.ordered.toFinset order := by
  induction rounds with
  | zero =>
      intro state h hrounds
      exact ⟨h, h.ready_eq_nil hrounds, [], (List.append_nil _).symm, trivial⟩
  | succ rounds ih =>
      intro state h hrounds
      cases hready : state.ready with
      | nil =>
          have hrun : OrderingState.run edges (rounds + 1) state = state := by
            rw [OrderingState.run, hready]
          rw [hrun]
          exact ⟨h, hready, [], (List.append_nil _).symm, trivial⟩
      | cons index ready =>
          have hnext := h.next hedges hready
          have hordered : ((outgoing edges index).foldl release
              { state with ready := ready, ordered := state.ordered ++ [index] }).ordered =
              state.ordered ++ [index] := foldl_release_ordered _ _
          have hrun : OrderingState.run edges (rounds + 1) state =
              OrderingState.run edges rounds ((outgoing edges index).foldl release
                { state with ready := ready, ordered := state.ordered ++ [index] }) := by
            rw [OrderingState.run, hready]
          rw [hrun]
          obtain ⟨hsound, hend, order, horder, hgreedy⟩ := ih hnext (by
            rw [hordered, List.length_append, List.length_singleton]
            omega)
          refine ⟨hsound, hend, index :: order, ?_, h.isLeast hready, ?_⟩
          · rw [horder, hordered, List.append_assoc, List.singleton_append]
          · rw [hordered] at hgreedy
            have hdone : (state.ordered ++ [index]).toFinset =
                insert index state.ordered.toFinset := by
              ext other
              simp
            rwa [hdone] at hgreedy

/-- The positions that are ordered, from the start. -/
def orderOf (edges : List (Nat × Nat)) (instanceCount : Nat) : List Nat :=
  (OrderingState.run edges instanceCount (initial edges instanceCount)).ordered

theorem greedyOrder_orderOf (hedges : EdgesWithin edges instanceCount) :
    GreedyOrder (Finset.range instanceCount) (IsEdge edges) ∅ (orderOf edges instanceCount) := by
  obtain ⟨-, -, order, horder, hgreedy⟩ :=
    Sound.run hedges sound_initial (Nat.zero_add instanceCount)
  rw [orderOf, horder]
  exact hgreedy

theorem perm_orderOf (hedges : EdgesWithin edges instanceCount)
    (hall : (orderOf edges instanceCount).length = instanceCount) :
    (orderOf edges instanceCount).Perm (List.range instanceCount) :=
  (Sound.run hedges sound_initial (Nat.zero_add instanceCount)).1.perm_range hall.ge

/-- All positions are ordered exactly when there is no cycle. -/
theorem length_orderOf_iff (hedges : EdgesWithin edges instanceCount) :
    (orderOf edges instanceCount).length = instanceCount ↔
      ∀ index, ¬ Relation.TransGen (IsEdge edges) index index := by
  have hready := (greedyOrder_orderOf hedges).ready
  constructor
  · intro hall index hcycle
    obtain ⟨next, hedge, -⟩ := Relation.TransGen.head'_iff.mp hcycle
    have hmem : index ∈ orderOf edges instanceCount :=
      (perm_orderOf hedges hall).mem_iff.mpr (List.mem_range.mpr (hedges.provider _ _ hedge))
    exact hready.acyclic hmem hcycle
  · intro hacyclic
    obtain ⟨hsound, hend, -⟩ := Sound.run hedges sound_initial (Nat.zero_add instanceCount)
    have hall : ∀ index < instanceCount, index ∈ orderOf edges instanceCount := by
      by_contra hleft
      obtain ⟨index, hindex⟩ := not_forall.mp hleft
      obtain ⟨hwithin, hnotOrdered⟩ := Classical.not_imp.mp hindex
      obtain ⟨next, hnext⟩ := exists_ready
        (fun first second hedge => Finset.mem_range.mpr (hedges.provider first second hedge))
        hacyclic ⟨index, Finset.mem_range.mpr hwithin,
          fun hmem => hnotOrdered (List.mem_toFinset.mp hmem)⟩
      have hmem := (hsound.ready next).mpr hnext
      rw [hend] at hmem
      cases hmem
    have hsubset : List.range instanceCount ⊆ orderOf edges instanceCount :=
      fun index hindex => hall index (List.mem_range.mp hindex)
    have hle := (List.nodup_range.subperm hsubset).length_le
    rw [List.length_range] at hle
    have hperm : (orderOf edges instanceCount).Perm (List.range instanceCount) :=
      hsound.perm_range hle
    rw [hperm.length_eq, List.length_range]

end OrderingState

/-! ## Dependencies between scheduled instances -/

section Batch

variable (snapshot : CompositionSnapshot) (scheduled : List ExtensionInstanceId)
  (requiredInstanceDependencies : List (ExtensionInstanceId × ExtensionInstanceId))

/-- Two scheduled instances that a required binding or a dependency of its own relates. -/
structure Requires (provider consumer : ExtensionInstanceId) : Prop where
  distinct : provider ≠ consumer
  provider_mem : provider ∈ scheduled
  consumer_mem : consumer ∈ scheduled
  required : (∃ binding ∈ snapshot.bindings, binding.required = true ∧
      binding.consumer.instanceId = consumer ∧
      ∃ component ∈ binding.providers, component.instanceId = provider) ∨
    (provider, consumer) ∈ requiredInstanceDependencies

/-- A scheduled instance has a required contract without providers. -/
def RequiredUnresolved : Prop :=
  ∃ entry ∈ snapshot.unresolved, entry.required = true ∧ entry.consumer.instanceId ∈ scheduled

/-- Some instance has to start before itself. -/
def HasCycle : Prop :=
  ∃ instanceId,
    Relation.TransGen (Requires snapshot scheduled requiredInstanceDependencies)
      instanceId instanceId

/-- All of a batch, with providers before their consumers. -/
structure ProvidersFirst (order : List ExtensionInstanceId) : Prop where
  perm : order.Perm scheduled
  increasing : ∀ provider consumer,
    Requires snapshot scheduled requiredInstanceDependencies provider consumer →
      order.idxOf provider < order.idxOf consumer

variable {snapshot scheduled requiredInstanceDependencies}

theorem mem_requiredDependencies {provider consumer : ExtensionInstanceId} :
    (provider, consumer) ∈ requiredDependencies snapshot requiredInstanceDependencies ↔
      (∃ binding ∈ snapshot.bindings, binding.required = true ∧
        binding.consumer.instanceId = consumer ∧
        ∃ component ∈ binding.providers, component.instanceId = provider) ∨
      (provider, consumer) ∈ requiredInstanceDependencies := by
  rw [requiredDependencies, List.mem_append, List.mem_flatMap]
  apply or_congr_left
  constructor
  · rintro ⟨binding, hbinding, hpair⟩
    obtain ⟨component, hcomponent, hpair⟩ := List.mem_map.mp hpair
    cases hpair
    have hmem := List.mem_filter.mp hbinding
    exact ⟨binding, hmem.1, hmem.2, rfl, component, hcomponent, rfl⟩
  · rintro ⟨binding, hbinding, hrequired, hconsumer, component, hcomponent, hprovider⟩
    refine ⟨binding, List.mem_filter.mpr ⟨hbinding, hrequired⟩, List.mem_map.mpr ?_⟩
    exact ⟨component, hcomponent, Prod.ext hprovider hconsumer⟩

/-- The edges are the positions of what depends on each other. -/
theorem isEdge_iff {first second : Nat} :
    IsEdge (dependencyEdges scheduled snapshot requiredInstanceDependencies) first second ↔
      ∃ provider consumer,
        Requires snapshot scheduled requiredInstanceDependencies provider consumer ∧
        scheduled.idxOf provider = first ∧ scheduled.idxOf consumer = second := by
  rw [IsEdge, dependencyEdges, List.mem_dedup, List.mem_filterMap]
  constructor
  · rintro ⟨⟨provider, consumer⟩, hmem, hedge⟩
    rw [scheduledEdge] at hedge
    split at hedge
    · next hscheduled =>
        cases hedge
        exact ⟨provider, consumer, ⟨hscheduled.1, hscheduled.2.1, hscheduled.2.2,
          mem_requiredDependencies.mp hmem⟩, rfl, rfl⟩
    · cases hedge
  · rintro ⟨provider, consumer, hrequires, rfl, rfl⟩
    refine ⟨(provider, consumer), mem_requiredDependencies.mpr hrequires.required, ?_⟩
    exact if_pos ⟨hrequires.distinct, hrequires.provider_mem, hrequires.consumer_mem⟩

theorem edgesWithin (snapshot : CompositionSnapshot) (scheduled : List ExtensionInstanceId)
    (requiredInstanceDependencies : List (ExtensionInstanceId × ExtensionInstanceId)) :
    EdgesWithin (dependencyEdges scheduled snapshot requiredInstanceDependencies)
      scheduled.length := by
  constructor
  case nodup => exact List.nodup_dedup _
  case provider =>
    intro first second hedge
    rw [isEdge_iff] at hedge
    obtain ⟨provider, consumer, hrequires, rfl, -⟩ := hedge
    exact List.idxOf_lt_length_iff.mpr hrequires.provider_mem
  case consumer =>
    intro first second hedge
    rw [isEdge_iff] at hedge
    obtain ⟨provider, consumer, hrequires, -, rfl⟩ := hedge
    exact List.idxOf_lt_length_iff.mpr hrequires.consumer_mem

/-- A path of edges is a path of dependencies. -/
theorem requires_of_transGen {first second : Nat}
    (h : Relation.TransGen
      (IsEdge (dependencyEdges scheduled snapshot requiredInstanceDependencies)) first second) :
    ∃ provider consumer, consumer ∈ scheduled ∧ scheduled.idxOf provider = first ∧
      scheduled.idxOf consumer = second ∧
      Relation.TransGen (Requires snapshot scheduled requiredInstanceDependencies)
        provider consumer := by
  induction h with
  | single hedge =>
      rw [isEdge_iff] at hedge
      obtain ⟨provider, consumer, hrequires, hfirst, hsecond⟩ := hedge
      exact ⟨provider, consumer, hrequires.consumer_mem, hfirst, hsecond, .single hrequires⟩
  | tail _ hedge ih =>
      obtain ⟨provider, middle, hmiddle, hfirst, hposition, hpath⟩ := ih
      rw [isEdge_iff] at hedge
      obtain ⟨middle', consumer, hrequires, hposition', hsecond⟩ := hedge
      have hsame : middle = middle' :=
        (List.idxOf_inj hmiddle).mp (hposition.trans hposition'.symm)
      rw [← hsame] at hrequires
      exact ⟨provider, consumer, hrequires.consumer_mem, hfirst, hsecond, hpath.tail hrequires⟩

/-- The edges have a cycle exactly when the dependencies have one. -/
theorem hasCycle_iff : HasCycle snapshot scheduled requiredInstanceDependencies ↔
    ∃ index, Relation.TransGen
      (IsEdge (dependencyEdges scheduled snapshot requiredInstanceDependencies)) index index := by
  constructor
  · rintro ⟨instanceId, hcycle⟩
    refine ⟨scheduled.idxOf instanceId, hcycle.lift scheduled.idxOf ?_⟩
    intro provider consumer hrequires
    rw [Function.onFun, isEdge_iff]
    exact ⟨provider, consumer, hrequires, rfl, rfl⟩
  · rintro ⟨index, hcycle⟩
    obtain ⟨provider, consumer, hmem, hfirst, hsecond, hpath⟩ := requires_of_transGen hcycle
    have hsame : consumer = provider := (List.idxOf_inj hmem).mp (hsecond.trans hfirst.symm)
    rw [hsame] at hpath
    exact ⟨provider, hpath⟩

/-! ## Orders of instances and of positions -/

variable {order : List ExtensionInstanceId}

/-- An order respects the dependencies exactly when its positions respect the edges. -/
theorem pairwise_positions :
    ((order.map scheduled.idxOf).Pairwise fun first second =>
      ¬ IsEdge (dependencyEdges scheduled snapshot requiredInstanceDependencies) second first) ↔
    order.Pairwise fun first second =>
      ¬ Requires snapshot scheduled requiredInstanceDependencies second first := by
  rw [List.pairwise_map]
  apply List.Pairwise.iff
  intro first second
  rw [isEdge_iff]
  apply not_congr
  constructor
  · rintro ⟨provider, consumer, hrequires, hprovider, hconsumer⟩
    have hsecond : provider = second := (List.idxOf_inj hrequires.provider_mem).mp hprovider
    have hfirst : consumer = first := (List.idxOf_inj hrequires.consumer_mem).mp hconsumer
    rwa [hsecond, hfirst] at hrequires
  · exact fun hrequires => ⟨second, first, hrequires, rfl, rfl⟩

theorem providersFirst_iff (hnodup : scheduled.Nodup) :
    ProvidersFirst snapshot scheduled requiredInstanceDependencies order ↔
      order.Perm scheduled ∧
      (order.map scheduled.idxOf).Pairwise fun first second =>
        ¬ IsEdge (dependencyEdges scheduled snapshot requiredInstanceDependencies)
          second first := by
  rw [pairwise_positions]
  have hpairwise : order.Perm scheduled →
      ((order.Pairwise fun first second =>
        ¬ Requires snapshot scheduled requiredInstanceDependencies second first) ↔
      ∀ provider consumer,
        Requires snapshot scheduled requiredInstanceDependencies provider consumer →
          order.idxOf provider < order.idxOf consumer) := by
    intro hperm
    apply pairwise_iff_idxOf (hperm.nodup_iff.mpr hnodup)
    · exact fun instanceId hself => hself.distinct rfl
    · intro provider consumer hrequires
      exact ⟨hperm.mem_iff.mpr hrequires.provider_mem, hperm.mem_iff.mpr hrequires.consumer_mem⟩
  constructor
  · intro h
    exact ⟨h.perm, (hpairwise h.perm).mpr h.increasing⟩
  · intro h
    exact ⟨h.1, (hpairwise h.1).mp h.2⟩

theorem map_idxOf_instancesAt (hnodup : scheduled.Nodup) {indices : List Nat}
    (hwithin : ∀ index ∈ indices, index < scheduled.length) :
    (instancesAt scheduled indices).map scheduled.idxOf = indices := by
  induction indices with
  | nil => rfl
  | cons index rest ih =>
      have hindex : index < scheduled.length := hwithin index List.mem_cons_self
      have hrest := ih fun other hother => hwithin other (List.mem_cons_of_mem _ hother)
      rw [instancesAt, List.filterMap_cons, List.getElem?_eq_getElem hindex]
      show scheduled.idxOf scheduled[index] :: _ = _
      rw [hnodup.idxOf_getElem]
      exact congrArg _ hrest

theorem instancesAt_range (instances : List ExtensionInstanceId) :
    instancesAt instances (List.range instances.length) = instances := by
  induction instances with
  | nil => rfl
  | cons instanceId rest ih =>
      rw [instancesAt, List.length_cons, List.range_succ_eq_map, List.filterMap_cons,
        List.filterMap_map]
      exact congrArg _ ih

theorem map_idxOf_self (hnodup : scheduled.Nodup) :
    scheduled.map scheduled.idxOf = List.range scheduled.length := by
  have hwithin : ∀ index ∈ List.range scheduled.length, index < scheduled.length :=
    fun index hindex => List.mem_range.mp hindex
  have h := map_idxOf_instancesAt hnodup hwithin
  rwa [instancesAt_range] at h

theorem instancesAt_map_idxOf (hmem : ∀ instanceId ∈ order, instanceId ∈ scheduled) :
    instancesAt scheduled (order.map scheduled.idxOf) = order := by
  induction order with
  | nil => rfl
  | cons instanceId rest ih =>
      have hrest := ih fun other hother => hmem other (List.mem_cons_of_mem _ hother)
      have hfound : scheduled[scheduled.idxOf instanceId]? = some instanceId :=
        List.getElem?_idxOf (hmem instanceId List.mem_cons_self)
      rw [instancesAt, List.map_cons, List.filterMap_cons, hfound]
      exact congrArg _ hrest

/-- All positions make up the batch. -/
theorem perm_instancesAt {indices : List Nat}
    (hperm : indices.Perm (List.range scheduled.length)) :
    (instancesAt scheduled indices).Perm scheduled := by
  have h := hperm.filterMap fun index => scheduled[index]?
  have hall := instancesAt_range scheduled
  rw [instancesAt] at hall
  rwa [hall] at h

theorem findDuplicate_eq_none_iff {seen instances : List ExtensionInstanceId} :
    findDuplicate seen instances = none ↔
      instances.Nodup ∧ ∀ instanceId ∈ instances, instanceId ∉ seen := by
  induction instances generalizing seen with
  | nil => simp [findDuplicate]
  | cons instanceId rest ih =>
      by_cases hseen : instanceId ∈ seen
      · simp [findDuplicate, hseen]
      · simp only [findDuplicate, hseen, if_false, ih, List.nodup_cons, List.mem_cons,
          forall_eq_or_imp, not_or]
        constructor
        · rintro ⟨hnodup, hrest⟩
          exact ⟨⟨fun hmem => (hrest instanceId hmem).1 rfl, hnodup⟩, not_false,
            fun other hother => (hrest other hother).2⟩
        · rintro ⟨⟨hnotMem, hnodup⟩, -, hrest⟩
          exact ⟨hnodup, fun other hother => ⟨fun hsame => hnotMem (hsame ▸ hother),
            hrest other hother⟩⟩

/-! ## The order of a batch -/

/-- The whole batch, in the order of its edges, is a valid order. -/
theorem providersFirst_instancesAt (hnodup : scheduled.Nodup) {order : List Nat}
    (hperm : order.Perm (List.range scheduled.length))
    (hready : ReadyOrder (Finset.range scheduled.length)
      (IsEdge (dependencyEdges scheduled snapshot requiredInstanceDependencies)) ∅ order) :
    ProvidersFirst snapshot scheduled requiredInstanceDependencies
      (instancesAt scheduled order) := by
  refine (providersFirst_iff hnodup).mpr ⟨perm_instancesAt hperm, ?_⟩
  rw [map_idxOf_instancesAt hnodup fun index hindex =>
    List.mem_range.mp (hperm.mem_iff.mp hindex)]
  exact hready.pairwise

/-- The positions of a valid order are ready one after another. -/
theorem ProvidersFirst.ready (hnodup : scheduled.Nodup)
    (h : ProvidersFirst snapshot scheduled requiredInstanceDependencies order) :
    ReadyOrder (Finset.range scheduled.length)
      (IsEdge (dependencyEdges scheduled snapshot requiredInstanceDependencies)) ∅
      (order.map scheduled.idxOf) := by
  have hperm : (order.map scheduled.idxOf).Perm (List.range scheduled.length) := by
    rw [← map_idxOf_self hnodup]
    exact h.perm.map _
  apply readyOrder_of_pairwise
  · exact fun first second hedge =>
      Finset.mem_range.mpr ((edgesWithin _ _ _).provider first second hedge)
  · intro index hself
    rw [isEdge_iff] at hself
    obtain ⟨provider, consumer, hrequires, hprovider, hconsumer⟩ := hself
    exact hrequires.distinct
      ((List.idxOf_inj hrequires.provider_mem).mp (hprovider.trans hconsumer.symm))
  · exact hperm.nodup_iff.mpr List.nodup_range
  · intro index
    rw [hperm.mem_iff, List.mem_range, Finset.mem_range]
    simp
  · exact ((providersFirst_iff hnodup).mp h).2

/-- A greedy order of the batch is least among the valid ones. -/
theorem instancesAt_least (hnodup : scheduled.Nodup) {order : List Nat}
    (hperm : order.Perm (List.range scheduled.length))
    (hgreedy : GreedyOrder (Finset.range scheduled.length)
      (IsEdge (dependencyEdges scheduled snapshot requiredInstanceDependencies)) ∅ order)
    {other : List ExtensionInstanceId}
    (hother : ProvidersFirst snapshot scheduled requiredInstanceDependencies other) :
    instancesAt scheduled order = other ∨
      List.Lex (· < ·) ((instancesAt scheduled order).map scheduled.idxOf)
        (other.map scheduled.idxOf) := by
  have hlength : order.length = (other.map scheduled.idxOf).length := by
    rw [hperm.length_eq, List.length_range, List.length_map, hother.perm.length_eq]
  rw [map_idxOf_instancesAt hnodup fun index hindex =>
    List.mem_range.mp (hperm.mem_iff.mp hindex)]
  cases hgreedy.lex (hother.ready hnodup) hlength with
  | inl hsame =>
      rw [hsame]
      exact .inl (instancesAt_map_idxOf fun instanceId hmem => hother.perm.mem_iff.mp hmem)
  | inr hlex => exact .inr hlex

theorem requiredUnresolved_iff : RequiredUnresolved snapshot scheduled ↔
    (snapshot.unresolved.find? fun entry =>
      entry.required && scheduled.contains entry.consumer.instanceId) ≠ none := by
  rw [Ne, List.find?_eq_none]
  simp [RequiredUnresolved]

theorem not_hasCycle_iff : ¬ HasCycle snapshot scheduled requiredInstanceDependencies ↔
    (OrderingState.orderOf (dependencyEdges scheduled snapshot requiredInstanceDependencies)
      scheduled.length).length = scheduled.length := by
  rw [OrderingState.length_orderOf_iff (edgesWithin _ _ _), hasCycle_iff, not_exists]

/-- Once the first two checks pass, the order of the edges decides. -/
theorem build_of_checked
    (requiredInstanceDependencies : List (ExtensionInstanceId × ExtensionInstanceId))
    (hduplicate : findDuplicate [] scheduled = none)
    (hunresolved : (snapshot.unresolved.find? fun entry =>
      entry.required && scheduled.contains entry.consumer.instanceId) = none) :
    buildActivationPlan snapshot scheduled requiredInstanceDependencies =
      if (OrderingState.orderOf
          (dependencyEdges scheduled snapshot requiredInstanceDependencies)
          scheduled.length).length = scheduled.length then
        .ok ⟨instancesAt scheduled (OrderingState.orderOf
          (dependencyEdges scheduled snapshot requiredInstanceDependencies) scheduled.length)⟩
      else
        .error (.dependencyCycle (instancesAt scheduled (findDependencyCycle
          (dependencyEdges scheduled snapshot requiredInstanceDependencies)
          (OrderingState.run (dependencyEdges scheduled snapshot requiredInstanceDependencies)
            scheduled.length (.initial
              (dependencyEdges scheduled snapshot requiredInstanceDependencies)
              scheduled.length)).indegrees scheduled.length))) := by
  rw [buildActivationPlan, hduplicate]
  dsimp only
  rw [hunresolved]
  rfl

/-- The plan of a batch is the least valid order, and there is an error if there is none: the
first of three checks that fails decides which. Instances that are active already play no part. -/
theorem build_activation_plan_correct (snapshot : CompositionSnapshot)
    (scheduled : List ExtensionInstanceId)
    (requiredInstanceDependencies : List (ExtensionInstanceId × ExtensionInstanceId)) :
    ((∃ instanceId,
        buildActivationPlan snapshot scheduled requiredInstanceDependencies =
          .error (.duplicateInstance instanceId)) ↔ ¬ scheduled.Nodup) ∧
      (scheduled.Nodup →
        ((∃ instanceId componentId contract reason,
          buildActivationPlan snapshot scheduled requiredInstanceDependencies =
            .error (.requiredContractUnresolved instanceId componentId contract reason)) ↔
          RequiredUnresolved snapshot scheduled)) ∧
      (scheduled.Nodup → ¬ RequiredUnresolved snapshot scheduled →
        ((∃ instances, buildActivationPlan snapshot scheduled requiredInstanceDependencies =
            .error (.dependencyCycle instances)) ↔
          HasCycle snapshot scheduled requiredInstanceDependencies)) ∧
      (scheduled.Nodup → ¬ RequiredUnresolved snapshot scheduled →
        ¬ HasCycle snapshot scheduled requiredInstanceDependencies →
        ∃ plan, buildActivationPlan snapshot scheduled requiredInstanceDependencies = .ok plan ∧
          ProvidersFirst snapshot scheduled requiredInstanceDependencies plan.orderedInstances ∧
          ∀ other, ProvidersFirst snapshot scheduled requiredInstanceDependencies other →
            plan.orderedInstances = other ∨
            List.Lex (· < ·) (plan.orderedInstances.map scheduled.idxOf)
              (other.map scheduled.idxOf)) := by
  have hduplicate : findDuplicate [] scheduled = none ↔ scheduled.Nodup := by
    simp [findDuplicate_eq_none_iff]
  cases hfound : findDuplicate [] scheduled with
  | some instanceId =>
      have hbuild : buildActivationPlan snapshot scheduled requiredInstanceDependencies =
          .error (.duplicateInstance instanceId) := by
        rw [buildActivationPlan, hfound]
      have hnot : ¬ scheduled.Nodup := by
        rw [← hduplicate, hfound]
        exact Option.some_ne_none instanceId
      exact ⟨iff_of_true ⟨instanceId, hbuild⟩ hnot, fun hnodup => absurd hnodup hnot,
        fun hnodup => absurd hnodup hnot, fun hnodup => absurd hnodup hnot⟩
  | none =>
      have hnodup : scheduled.Nodup := hduplicate.mp hfound
      cases hunresolved : snapshot.unresolved.find? fun entry =>
          entry.required && scheduled.contains entry.consumer.instanceId with
      | some unresolved =>
          have hbuild : buildActivationPlan snapshot scheduled requiredInstanceDependencies =
              .error (.requiredContractUnresolved unresolved.consumer.instanceId
                unresolved.consumer.componentId unresolved.contract unresolved.reason) := by
            rw [buildActivationPlan, hfound]
            dsimp only
            rw [hunresolved]
          have hrequired : RequiredUnresolved snapshot scheduled :=
            requiredUnresolved_iff.mpr (hunresolved ▸ Option.some_ne_none unresolved)
          exact ⟨iff_of_false (by simp [hbuild]) (not_not_intro hnodup),
            fun _ => iff_of_true ⟨_, _, _, _, hbuild⟩ hrequired,
            fun _ hnone => absurd hrequired hnone, fun _ hnone => absurd hrequired hnone⟩
      | none =>
          have hnone : ¬ RequiredUnresolved snapshot scheduled :=
            fun hrequired => requiredUnresolved_iff.mp hrequired hunresolved
          have hbuild := build_of_checked requiredInstanceDependencies hfound hunresolved
          by_cases hcycle : HasCycle snapshot scheduled requiredInstanceDependencies
          · rw [if_neg fun hall => not_hasCycle_iff.mpr hall hcycle] at hbuild
            exact ⟨iff_of_false (by simp [hbuild]) (not_not_intro hnodup),
              fun _ => iff_of_false (by simp [hbuild]) hnone,
              fun _ _ => iff_of_true ⟨_, hbuild⟩ hcycle,
              fun _ _ hacyclic => absurd hcycle hacyclic⟩
          · have hall := not_hasCycle_iff.mp hcycle
            have hperm := OrderingState.perm_orderOf (edgesWithin _ _ _) hall
            have hgreedy := OrderingState.greedyOrder_orderOf
              (edgesWithin snapshot scheduled requiredInstanceDependencies)
            rw [if_pos hall] at hbuild
            exact ⟨iff_of_false (by simp [hbuild]) (not_not_intro hnodup),
              fun _ => iff_of_false (by simp [hbuild]) hnone,
              fun _ _ => iff_of_false (by simp [hbuild]) hcycle,
              fun _ _ _ => ⟨_, hbuild, providersFirst_instancesAt hnodup hperm hgreedy.ready,
                fun other hother => instancesAt_least hnodup hperm hgreedy hother⟩⟩

end Batch

end Rintawa.ExtensionEngine
