/-
# Activation of compositions

The host loads the enabled activations of a profile. What waits for an execution target is
loaded again after those that may publish targets were started, with what they require, until
all are loaded; then the rest is started in the order of its plan. When nothing goes on, or
something fails, all that was registered is removed again.
-/

import Rintawa.ExtensionEngine.EngineRuns
import Rintawa.ExtensionEngine.ManifestReading
import Rintawa.Host.Profile
import Rintawa.Lib.Loops

namespace Rintawa.Host

open Rintawa.Lib Rintawa.Sdk Rintawa.ExtensionEngine

/-! ## Errors -/

/-- An activation that waits for execution targets. -/
structure BootstrapDeferredActivation where
  subject : String
  instanceId : ExtensionInstanceId
  extensionId : String
  missingRequiredTargets : List DeferredExecutionTarget

/-- An instance that is registered and cannot be started. -/
structure BootstrapBlockedActivation where
  instanceId : ExtensionInstanceId
  reason : ActivationPlanError

/-- What is left when an activation does not go on. -/
structure BootstrapStall where
  deferred : List BootstrapDeferredActivation
  blocked : List BootstrapBlockedActivation
  batchError : Option ActivationPlanError

/-- The two steps of a cleanup. -/
inductive HostCleanupOperation
  | stop
  | unregister
  deriving DecidableEq

/-- An instance that could not be stopped or unregistered. -/
structure HostCleanupFailure where
  instanceId : ExtensionInstanceId
  operation : HostCleanupOperation
  error : EngineError

/-- The errors of the host that concern activations. -/
inductive ActivationError
  | profile (error : ProfileError)
  | unsupportedContent (content : String)
  | engine (error : EngineError)
  | bootstrapStalled (stall : BootstrapStall)
  | bootstrapRollback (primary : ActivationError) (cleanupFailures : List HostCleanupFailure)

/-- The failures of a cleanup that an error reports. -/
def ActivationError.cleanupFailures : ActivationError → List HostCleanupFailure
  | .bootstrapRollback _ failures => failures
  | _ => []

abbrev ActivationResult (α : Type) := Except ActivationError α

/-! ## Loading -/

/-- What an activation meets: the artifacts that the store gives in every round, and what the
callbacks of the instances do when they are started and when they are cleaned up. -/
structure ActivationEnvironment where
  artifact : Nat → ActivationRecord → EngineResult RtwArchive
  scripts : ExtensionInstanceId → InstanceScript
  cleanupScripts : HostCleanupOperation → ExtensionInstanceId → InstanceScript

/-- What an activation has done: the instances that it registered and started, in order, and
those that are started before all are loaded. -/
structure BootstrapState where
  engine : Engine
  registered : List ExtensionInstanceId
  started : List ExtensionInstanceId
  bootstrap : Finset ExtensionInstanceId

/-- What a round of loading leaves: what waits, and whether anything was loaded. -/
structure LoadRound where
  deferred : List BootstrapDeferredActivation
  pending : List ActivationRecord
  madeProgress : Bool

section Loading

variable (env : ActivationEnvironment) (profile : CompositionProfile)

/-- Grant permissions up to the first that is refused. -/
def grantPermissions (instanceId : ExtensionInstanceId) :
    Engine → List RuntimePermissionGrant → EngineOutcome
  | engine, [] => (engine, .ok ())
  | engine, grant :: rest =>
      match engine.grantRequestedRuntimePermissionForInstance instanceId grant.componentId
          grant.permission with
      | (engine, .error error) => (engine, .error error)
      | (engine, .ok ()) => grantPermissions instanceId engine rest

/-- An instance that was loaded. -/
def BootstrapState.withLoaded (state : BootstrapState) (engine : Engine)
    (instanceId : ExtensionInstanceId) (load : RegisteredExtensionLoad) : BootstrapState where
  engine := engine
  registered := state.registered ++ [instanceId]
  started := state.started
  bootstrap :=
    if load.canPublishExecutionTargets then insert instanceId state.bootstrap
    else state.bootstrap

/-- Load an activation, unless it has to wait. -/
def loadActivation (round : Nat) (state : BootstrapState) (activation : ActivationRecord) :
    BootstrapState × ActivationResult (Option BootstrapDeferredActivation) :=
  match env.artifact round activation with
  | .error error => (state, .error (.engine error))
  | .ok archive =>
      match state.engine.tryLoadArchive archive activation.instanceId activation.scopeId with
      | (engine, .error error) => ({ state with engine := engine }, .error (.engine error))
      | (engine, .ok (.deferred waiting)) =>
          ({ state with engine := engine },
            .ok (some ⟨activation.subject, activation.instanceId, waiting.extensionId.asStr,
              waiting.missingRequiredTargets⟩))
      | (engine, .ok (.loaded load)) =>
          let loaded := state.withLoaded engine activation.instanceId load
          let granted := grantPermissions activation.instanceId engine
            (profile.runtimePermissions.filter fun grant =>
              grant.scopeId == activation.scopeId && grant.instanceId == activation.instanceId)
          ({ loaded with engine := granted.1 },
            match granted.2 with
            | .error error => .error (.engine error)
            | .ok () => .ok none)

/-- Load what waits. -/
def loadRound (round : Nat) :
    BootstrapState → List ActivationRecord → BootstrapState × ActivationResult LoadRound
  | state, [] => (state, .ok ⟨[], [], false⟩)
  | state, activation :: rest =>
      match loadActivation env profile round state activation with
      | (state, .error error) => (state, .error error)
      | (state, .ok waiting) =>
          match loadRound round state rest with
          | (state, .error error) => (state, .error error)
          | (state, .ok after) =>
              (state, .ok
                (match waiting with
                | none => { after with madeProgress := true }
                | some deferred =>
                    { after with
                      deferred := deferred :: after.deferred
                      pending := activation :: after.pending }))

end Loading

/-! ## Early starts -/

/-- The instances that a blocked one requires: the providers of its contract, and the instance
that defines it. -/
def expandBootstrapDependencies (engine : Engine) (scopeId : RuntimeScopeId)
    (activationInstanceId : ExtensionInstanceId) (reason : ActivationPlanError)
    (registered : List ExtensionInstanceId) : Finset ExtensionInstanceId :=
  match reason with
  | .requiredContractUnresolved instanceId componentId contract _ =>
      if instanceId ≠ activationInstanceId then ∅
      else
        match (engine.compositionTopologySnapshotForScope scopeId).bindings.find? fun binding =>
            binding.required && binding.consumer == ⟨instanceId, componentId⟩ &&
              binding.contract == contract with
        | none => ∅
        | some binding =>
            ((binding.providers.map fun provider => provider.instanceId) ++
              ((engine.contractDefinitionOwnerInScope scopeId contract).map fun owner =>
                owner.instanceId).toList).toFinset.filter fun required =>
                  required ≠ instanceId ∧ required ∈ registered
  | _ => ∅

/-- How a look for an instance to start ends. -/
inductive ScanEnding
  | startedOne
  | settled (blocked : List BootstrapBlockedActivation) (expanded : Bool)
  | failed (error : ActivationError)

section Starting

variable (env : ActivationEnvironment) (activations : List ActivationRecord)

/-- Start the first instance that can be started early. What blocked ones require may be
started early too. -/
def scanBootstrap :
    BootstrapState → List BootstrapBlockedActivation → Bool → List ActivationRecord →
      BootstrapState × ScanEnding
  | state, blocked, expanded, [] => (state, .settled blocked expanded)
  | state, blocked, expanded, activation :: rest =>
      let instanceId := activation.instanceId
      if instanceId ∉ state.bootstrap ∨ instanceId ∉ state.registered ∨
          instanceId ∈ state.started then
        scanBootstrap state blocked expanded rest
      else
        match state.engine.startExtensionInstance instanceId (env.scripts instanceId) with
        | (engine, .ok ()) =>
            ({ state with engine := engine, started := state.started ++ [instanceId] },
              .startedOne)
        | (engine, .error (.activationPlan reason)) =>
            let required := expandBootstrapDependencies engine activation.scopeId instanceId
              reason state.registered
            scanBootstrap { state with engine := engine, bootstrap := state.bootstrap ∪ required }
              (blocked ++ [⟨instanceId, reason⟩])
              (expanded || decide (¬ required ⊆ state.bootstrap)) rest
        | (engine, .error error) => ({ state with engine := engine }, .failed (.engine error))

/-- One round of early starts. The last one finds nothing that is new. -/
def startStep : BootstrapState × Bool →
    (BootstrapState × Bool) ⊕
      (BootstrapState × ActivationResult (List BootstrapBlockedActivation × Bool))
  | (state, madeProgress) =>
      match scanBootstrap env state [] false activations with
      | (state, .failed error) => .inr (state, .error error)
      | (state, .startedOne) => .inl (state, true)
      | (state, .settled blocked expanded) =>
          if expanded then .inl (state, madeProgress)
          else .inr (state, .ok (blocked, madeProgress))

/-- The instances that are registered and not started, and are started early. -/
def blockedInstances (state : BootstrapState) : List ExtensionInstanceId :=
  (activations.filter fun activation =>
    decide (activation.instanceId ∈ state.bootstrap ∧ activation.instanceId ∈ state.registered ∧
      activation.instanceId ∉ state.started)).map fun activation => activation.instanceId

/-- The instances that are registered and not started. -/
def remainingInstances (state : BootstrapState) : List ExtensionInstanceId :=
  (activations.filter fun activation =>
    decide (activation.instanceId ∈ state.registered ∧
      activation.instanceId ∉ state.started)).map fun activation => activation.instanceId

/-- Why blocked instances cannot be started together. -/
def bootstrapBatchError (engine : Engine) (blocked : List ExtensionInstanceId) :
    ActivationResult (Option ActivationPlanError) :=
  if blocked.isEmpty then .ok none
  else
    match engine.planExtensionActivation blocked with
    | .ok _ => .ok none
    | .error (.activationPlan reason) => .ok (some reason)
    | .error error => .error (.engine error)

/-- Start instances in order. -/
def startInstances : BootstrapState → List ExtensionInstanceId →
    BootstrapState × ActivationResult Unit
  | state, [] => (state, .ok ())
  | state, instanceId :: rest =>
      match state.engine.startExtensionInstance instanceId (env.scripts instanceId) with
      | (engine, .error error) => ({ state with engine := engine }, .error (.engine error))
      | (engine, .ok ()) =>
          startInstances
            { state with engine := engine, started := state.started ++ [instanceId] } rest

end Starting

/-! ## Activation -/

section Activation

variable (env : ActivationEnvironment) (profile : CompositionProfile)
  (activations : List ActivationRecord)

/-- The activations that wait, with the number of the round. -/
structure PendingRound where
  round : Nat
  state : BootstrapState
  pending : List ActivationRecord

/-- What the early starts leave: another round, or an error when nothing went on. -/
def afterStarts (round : Nat) (loaded : LoadRound) :
    BootstrapState × ActivationResult (List BootstrapBlockedActivation × Bool) →
      PendingRound ⊕ (BootstrapState × ActivationResult Unit)
  | (state, .error error) => .inr (state, .error error)
  | (state, .ok (blocked, madeProgress)) =>
      if madeProgress then .inl ⟨round + 1, state, loaded.pending⟩
      else
        match bootstrapBatchError state.engine (blockedInstances activations state) with
        | .error error => .inr (state, .error error)
        | .ok batchError =>
            .inr (state, .error (.bootstrapStalled ⟨loaded.deferred, blocked, batchError⟩))

/-- One round of loading and early starts, of which there are at most some. -/
def roundStep (limit : Nat) (pass : PendingRound) :
    PendingRound ⊕ Option (BootstrapState × ActivationResult Unit) :=
  if pass.pending.isEmpty then .inr (some (pass.state, .ok ()))
  else
    match loadRound env profile pass.round pass.state pass.pending with
    | (state, .error error) => .inr (some (state, .error error))
    | (state, .ok loaded) =>
        if loaded.pending.isEmpty then .inr (some (state, .ok ()))
        else
          match loop (startStep env activations) limit (state, loaded.madeProgress) with
          | none => .inr none
          | some started => (afterStarts activations pass.round loaded started).map id some

/-- Prefer the providers of a profile. -/
def restorePreferredProviders (engine : Engine) : Engine :=
  profile.preferredProviders.foldl (fun engine selection =>
    engine.setPreferredContractProviderPolicyInScope selection.scopeId selection.contract
      ⟨selection.providerInstanceId, selection.providerComponentId⟩) engine

/-- The start of what is left once all activations are loaded. -/
def startRemaining (state : BootstrapState) : BootstrapState × ActivationResult Unit :=
  match state.engine.planExtensionActivation (remainingInstances activations state) with
  | .error error => (state, .error (.engine error))
  | .ok plan => startInstances env state plan.orderedInstances

/-- The activations of a profile that are enabled. -/
def CompositionProfile.enabledActivations : List ActivationRecord :=
  profile.activations.filter fun activation => activation.enabled

/-- Load and start the enabled activations. -/
def bootstrapActivations (fuel : Nat) (engine : Engine) :
    Option (BootstrapState × ActivationResult Unit) :=
  let activations := profile.enabledActivations
  match activations.find? fun activation =>
      RtwExtensionLoader.displayContent activation.content != "rintawa.extension@1" with
  | some activation =>
      some (⟨engine, [], [], ∅⟩,
        .error (.unsupportedContent (RtwExtensionLoader.displayContent activation.content)))
  | none =>
      match (loop (roundStep env profile activations fuel) fuel
          ⟨0, ⟨restorePreferredProviders profile engine, [], [], ∅⟩, activations⟩).join with
      | none => none
      | some (state, .error error) => some (state, .error error)
      | some (state, .ok ()) => some (startRemaining env activations state)

end Activation

/-! ## Cleanup -/

section Cleanup

variable (env : ActivationEnvironment)

/-- Unregister an instance. -/
def recordUnregisterFailure (engine : Engine) (instanceId : ExtensionInstanceId) :
    Engine × List HostCleanupFailure :=
  match engine.unregisterExtensionInstance instanceId
      (env.cleanupScripts .unregister instanceId) with
  | (engine, .ok ()) => (engine, [])
  | (engine, .error error) => (engine, [⟨instanceId, .unregister, error⟩])

/-- Stop an instance and unregister it. -/
def stopAndUnregister (engine : Engine) (instanceId : ExtensionInstanceId) :
    Engine × List HostCleanupFailure :=
  let stopped := engine.stopExtensionInstance instanceId (env.cleanupScripts .stop instanceId)
  let unregistered := recordUnregisterFailure env stopped.1 instanceId
  (unregistered.1,
    (match stopped.2 with
    | .ok () => []
    | .error error => [⟨instanceId, .stop, error⟩]) ++ unregistered.2)

/-- Clean instances up, one after the other. -/
def cleanUpEach (cleanUp : Engine → ExtensionInstanceId → Engine × List HostCleanupFailure) :
    Engine → List ExtensionInstanceId → Engine × List HostCleanupFailure
  | engine, [] => (engine, [])
  | engine, instanceId :: rest =>
      let cleaned := cleanUp engine instanceId
      let after := cleanUpEach cleanUp cleaned.1 rest
      (after.1, cleaned.2 ++ after.2)

/-- Remove the instances that were registered, first those that were not started, and last the
one that was started first. -/
def cleanupInstances (engine : Engine) (started registered : List ExtensionInstanceId) :
    Engine × List HostCleanupFailure :=
  let unstarted := cleanUpEach (recordUnregisterFailure env) engine
    (registered.reverse.filter fun instanceId => decide (instanceId ∉ started))
  let stopped := cleanUpEach (stopAndUnregister env) unstarted.1 started.reverse
  (stopped.1, unstarted.2 ++ stopped.2)

end Cleanup

/-- The instances of an activation, in the orders in which they were registered and started. -/
structure ActivatedComposition where
  registeredInstances : List ExtensionInstanceId
  startedInstances : List ExtensionInstanceId

/-- Activate the composition of a scope. What was done is undone after an error. -/
def activateComposition (env : ActivationEnvironment) (fuel : Nat) (engine : Engine)
    (profile : CompositionProfile) (scopeId : RuntimeScopeId) :
    Option (Engine × ActivationResult ActivatedComposition) :=
  match profile.validateScope scopeId with
  | .error error => some (engine, .error (.profile error))
  | .ok () =>
      match bootstrapActivations env profile fuel
          (engine.clearPreferredContractProviderPoliciesInScope scopeId) with
      | none => none
      | some (state, .ok ()) => some (state.engine, .ok ⟨state.registered, state.started⟩)
      | some (state, .error error) =>
          let cleaned := cleanupInstances env state.engine state.started state.registered
          some (cleaned.1.clearPreferredContractProviderPoliciesInScope scopeId,
            .error (if cleaned.2.isEmpty then error else .bootstrapRollback error cleaned.2))

end Rintawa.Host
