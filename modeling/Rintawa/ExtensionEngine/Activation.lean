/-
# Activation plans

A batch of instances is ordered so that providers start before their consumers. The
order of the batch only breaks ties. Instances are named by their positions in the
batch while the plan is built.
-/

import Rintawa.ExtensionEngine.Composition

namespace Rintawa.ExtensionEngine

open Rintawa.Lib Rintawa.Sdk

/-- Instances in the order of their activation. -/
structure ActivationPlan where
  orderedInstances : List ExtensionInstanceId
  deriving DecidableEq

/-- What makes a batch impossible to activate. -/
inductive ActivationPlanError
  | duplicateInstance (instanceId : ExtensionInstanceId)
  | requiredContractUnresolved (instanceId : ExtensionInstanceId) (componentId : ComponentId)
      (contract : ContractKey) (reason : UnresolvedContractReason)
  | dependencyCycle (instances : List ExtensionInstanceId)
  deriving DecidableEq

/-- The displayed error. -/
def ActivationPlanError.display : ActivationPlanError → String
  | .duplicateInstance instanceId =>
      "extension instance `" ++ instanceId.asStr ++
        "` appears more than once in the activation plan"
  | .requiredContractUnresolved instanceId componentId contract reason =>
      "required contract `" ++ contract.display ++ "` for component `" ++ componentId.asStr ++
        "` in extension instance `" ++ instanceId.asStr ++ "` is unresolved: " ++ reason.display
  | .dependencyCycle instances =>
      "activation dependency cycle detected: " ++
        String.intercalate " -> " (instances.map fun instanceId => instanceId.asStr)

/-- The first instance of a batch that appears again. -/
def findDuplicate (seen : List ExtensionInstanceId) :
    List ExtensionInstanceId → Option ExtensionInstanceId
  | [] => none
  | instanceId :: rest =>
      if instanceId ∈ seen then some instanceId else findDuplicate (instanceId :: seen) rest

/-! ## Dependencies -/

section Graph

variable (scheduled : List ExtensionInstanceId)

/-- The edge from a provider to a consumer, when both are scheduled and they differ. -/
def scheduledEdge (dependency : ExtensionInstanceId × ExtensionInstanceId) :
    Option (Nat × Nat) :=
  if dependency.1 ≠ dependency.2 ∧ dependency.1 ∈ scheduled ∧ dependency.2 ∈ scheduled then
    some (scheduled.idxOf dependency.1, scheduled.idxOf dependency.2)
  else none

/-- The instances that the required bindings of a snapshot and the given dependencies
relate, providers first. -/
def requiredDependencies (snapshot : CompositionSnapshot)
    (requiredInstanceDependencies : List (ExtensionInstanceId × ExtensionInstanceId)) :
    List (ExtensionInstanceId × ExtensionInstanceId) :=
  ((snapshot.bindings.filter fun binding => binding.required).flatMap fun binding =>
    binding.providers.map fun provider => (provider.instanceId, binding.consumer.instanceId)) ++
    requiredInstanceDependencies

/-- The edges of a batch, without repetitions. -/
def dependencyEdges (snapshot : CompositionSnapshot)
    (requiredInstanceDependencies : List (ExtensionInstanceId × ExtensionInstanceId)) :
    List (Nat × Nat) :=
  ((requiredDependencies snapshot requiredInstanceDependencies).filterMap
    (scheduledEdge scheduled)).dedup

end Graph

/-- The consumers of a position, in order. -/
def outgoing (edges : List (Nat × Nat)) (index : Nat) : List Nat :=
  ((edges.filter fun edge => edge.1 == index).map fun edge => edge.2).insertionSort (· ≤ ·)

/-- The providers of a position, in order. -/
def incoming (edges : List (Nat × Nat)) (index : Nat) : List Nat :=
  ((edges.filter fun edge => edge.2 == index).map fun edge => edge.1).insertionSort (· ≤ ·)

/-! ## Ordering -/

/-- The state of the ordering: the positions that are ready, smallest first, the numbers
of providers that are left, and the positions that are ordered. -/
structure OrderingState where
  ready : List Nat
  indegrees : Nat → Nat
  ordered : List Nat

namespace OrderingState

/-- One provider fewer. A consumer without providers is ready. -/
def release (state : OrderingState) (dependent : Nat) : OrderingState :=
  let left := state.indegrees dependent - 1
  { state with
    indegrees := Function.update state.indegrees dependent left
    ready := if left = 0 then state.ready.orderedInsert (· ≤ ·) dependent else state.ready }

/-- Order ready positions until there are none. Every round orders one more position. -/
def run (edges : List (Nat × Nat)) : Nat → OrderingState → OrderingState
  | 0, state => state
  | rounds + 1, state =>
      match state.ready with
      | [] => state
      | index :: ready =>
          run edges rounds ((outgoing edges index).foldl release
            { state with ready := ready, ordered := state.ordered ++ [index] })

/-- The start: positions without providers are ready. -/
def initial (edges : List (Nat × Nat)) (instanceCount : Nat) : OrderingState where
  ready := (List.range instanceCount).filter fun index => (incoming edges index).length == 0
  indegrees index := (incoming edges index).length
  ordered := []

end OrderingState

/-! ## Cycles -/

section Cycle

variable (edges : List (Nat × Nat)) (residual : Nat → Nat) (instanceCount : Nat)

/-- Follow providers that are left until a position comes again. Every step visits one
more position. -/
def walkCycle : Nat → List Nat → Nat → List Nat
  | 0, _, _ => []
  | steps + 1, path, current =>
      if current ∈ path then path.drop (path.idxOf current) ++ [current]
      else
        match ((incoming edges current).filter fun index => 0 < residual index).min? with
        | some next => walkCycle steps (path ++ [current]) next
        | none => (List.range instanceCount).filter fun index => 0 < residual index

/-- A cycle among the positions with providers left. -/
def findDependencyCycle : List Nat :=
  match (List.range instanceCount).find? fun index => 0 < residual index with
  | none => []
  | some current => walkCycle edges residual instanceCount (instanceCount + 1) [] current

end Cycle

/-- The instances at some positions. -/
def instancesAt (scheduled : List ExtensionInstanceId) (indices : List Nat) :
    List ExtensionInstanceId :=
  indices.filterMap fun index => scheduled[index]?

/-- Order a batch. Dependencies on instances outside the batch are ignored. -/
def buildActivationPlan (snapshot : CompositionSnapshot) (scheduled : List ExtensionInstanceId)
    (requiredInstanceDependencies : List (ExtensionInstanceId × ExtensionInstanceId)) :
    Except ActivationPlanError ActivationPlan :=
  match findDuplicate [] scheduled with
  | some instanceId => .error (.duplicateInstance instanceId)
  | none =>
      match snapshot.unresolved.find? fun entry =>
          entry.required && scheduled.contains entry.consumer.instanceId with
      | some unresolved =>
          .error (.requiredContractUnresolved unresolved.consumer.instanceId
            unresolved.consumer.componentId unresolved.contract unresolved.reason)
      | none =>
          let edges := dependencyEdges scheduled snapshot requiredInstanceDependencies
          let final := OrderingState.run edges scheduled.length
            (.initial edges scheduled.length)
          if final.ordered.length = scheduled.length then
            .ok ⟨instancesAt scheduled final.ordered⟩
          else
            .error (.dependencyCycle
              (instancesAt scheduled (findDependencyCycle edges final.indegrees scheduled.length)))

/-- Two instances that consume each other form a cycle. -/
example :
    buildActivationPlan
      ⟨[⟨⟨⟨"a"⟩, ⟨"x"⟩⟩, ⟨⟨"c"⟩, 1⟩, true, [⟨⟨"b"⟩, ⟨"x"⟩⟩]⟩,
        ⟨⟨⟨"b"⟩, ⟨"x"⟩⟩, ⟨⟨"c"⟩, 1⟩, true, [⟨⟨"a"⟩, ⟨"x"⟩⟩]⟩], []⟩ [⟨"a"⟩, ⟨"b"⟩] [] =
      .error (.dependencyCycle [⟨"a"⟩, ⟨"b"⟩, ⟨"a"⟩]) := by
  decide +kernel

end Rintawa.ExtensionEngine
