/-
# Pumping the effect outbox

One iteration of the pump claims a job, lets the bound handler execute it, sends
an accepted follow-up command through the world runtime, and writes the outcome
to the outbox under the fence of its claim. Each of these is a step of its own,
so the iterations of any number of hosts interleave with each other and with
everything else that happens to the world. A host that stops between two steps
leaves its iteration where it is.
-/

import Mathlib.Algebra.Group.Int.Defs
import Rintawa.Lib.Text
import Rintawa.WorldRuntime.Effect
import Rintawa.WorldRuntime.Runtime

namespace Rintawa.Host

open Rintawa.Lib Rintawa.Sdk Rintawa.World Rintawa.Storage Rintawa.WorldRuntime

def effectJobLeaseMillis : Int := 30000
def effectRetryBaseMillis : Int := 1000
def effectRetryMaxMillis : Int := 60000

/-- Addition of signed 64-bit numbers that stops at the limits. -/
def saturatingAdd (a b : Int) : Int :=
  max (-2 ^ 63) (min (2 ^ 63 - 1) (a + b))

/-- When a failed attempt may be tried again. -/
def effectRetryAt (now : UnixTimeMillis) (attempt : Nat) : UnixTimeMillis :=
  let exponent := min (attempt - 1) 16
  let delay := min (effectRetryBaseMillis * 2 ^ exponent) effectRetryMaxMillis
  ⟨saturatingAdd now.get delay⟩

/-- Diagnostics are cut at the last character that fits. -/
def boundedEffectDiagnostic (reason : String) : String :=
  if reason.utf8ByteSize ≤ maxWorldEffectDiagnosticBytes then reason
  else String.ofList (charsWithin maxWorldEffectDiagnosticBytes reason.toList)

/-- Why a follow-up command has no outcome. -/
inductive FollowUpError
  | queueFull
  | runtimeStopped
  | workerStopped
  | runtime (error : WorldRuntimeError)
  deriving DecidableEq

/-- The effect side of the hosts of a world: the handlers that are bound for each
runtime, and the text of a runtime error, which only enters diagnostics. -/
structure EffectHost (Runtime : Type) where
  handlers : Runtime → SchemaKey → Option ServiceWorldEffectHandler
  describe : WorldRuntimeError → String

/-- The displayed error of a follow-up command. -/
def EffectHost.display {Runtime : Type} (host : EffectHost Runtime) : FollowUpError → String
  | .queueFull => "world command queue is full"
  | .runtimeStopped => "world runtime is stopped"
  | .workerStopped => "world runtime worker stopped before returning a result"
  | .runtime error => host.describe error

/-! ## One iteration -/

/-- How an iteration ends its claim. -/
inductive EffectUpdate
  | complete
  | retry (availableAt : UnixTimeMillis) (diagnostic : String)
  | cancel (diagnostic : String)

/-- The fenced request of an update. -/
def EffectUpdate.request (claim : ClaimedEffectJob) : EffectUpdate → Request
  | .complete => .completeEffect claim.job.id claim.attempt
  | .retry availableAt diagnostic =>
      .retryEffect claim.job.id claim.attempt availableAt diagnostic
  | .cancel diagnostic => .cancelClaimedEffect claim.job.id claim.attempt diagnostic

/-- Where an iteration stands. -/
inductive ExecutionPhase
  | handling
  | submitting (command : WorldCommand)
  | waiting (command : WorldCommand) (run : Nat)
  | updating (update : EffectUpdate)
  | finished (reply : Reply)

/-- One iteration of the pump after its claim. -/
structure EffectExecution (Runtime : Type) where
  runtime : Runtime
  claim : ClaimedEffectJob
  now : UnixTimeMillis
  phase : ExecutionPhase

/-- Return a claimed job to the outbox for a later attempt. -/
def retryEffectClaim (claim : ClaimedEffectJob) (now : UnixTimeMillis) (diagnostic : String) :
    EffectUpdate :=
  .retry (effectRetryAt now claim.attempt) diagnostic

/-- What follows on the result of the handler. -/
def afterHandler (claim : ClaimedEffectJob) (now : UnixTimeMillis) :
    Except WorldEffectServiceError WorldEffectServiceResponse → ExecutionPhase
  | .ok (.complete (some command)) => .submitting command
  | .ok (.complete none) => .updating .complete
  | .ok (.retry reason) => .updating (retryEffectClaim claim now reason)
  | .ok (.cancel reason) => .updating (.cancel reason)
  | .error error =>
      .updating (retryEffectClaim claim now (boundedEffectDiagnostic error.display))

/-- What follows on the outcome of the follow-up command. -/
def afterFollowUp {Runtime : Type} (host : EffectHost Runtime) (claim : ClaimedEffectJob)
    (now : UnixTimeMillis) : Except FollowUpError WorldCommandOutcome → EffectUpdate
  | .ok _ => .complete
  | .error error =>
      retryEffectClaim claim now
        (boundedEffectDiagnostic ("effect follow-up command failed: " ++ host.display error))

/-! ## All iterations together -/

/-- The runtimes of a world and the iterations started so far. -/
structure HostState (Digest Runtime : Type) where
  runtimes : RuntimeState Digest Runtime
  executions : Nat → Option (EffectExecution Runtime)

/-- The world database of the hosts. -/
abbrev HostState.store {Digest Runtime : Type} (state : HostState Digest Runtime) :
    WorldStore Digest :=
  state.runtimes.store

/-- Replace one iteration. -/
def HostState.put {Digest Runtime : Type} (state : HostState Digest Runtime) (execution : Nat)
    (iteration : EffectExecution Runtime) : HostState Digest Runtime :=
  { state with executions := Function.update state.executions execution (some iteration) }

section Put

variable {Digest Runtime : Type} {state : HostState Digest Runtime} {execution : Nat}
  {iteration : EffectExecution Runtime}

@[simp]
theorem HostState.put_runtimes : (state.put execution iteration).runtimes = state.runtimes :=
  rfl

@[simp]
theorem HostState.put_executions_self :
    (state.put execution iteration).executions execution = some iteration :=
  Function.update_self ..

theorem HostState.put_executions_of_ne {other : Nat} (h : other ≠ execution) :
    (state.put execution iteration).executions other = state.executions other :=
  Function.update_of_ne h ..

end Put

/-- What is visible of one step. -/
inductive HostLabel (Runtime : Type)
  | claim (execution : Nat) (request : Request) (reply : Reply)
  | unbound (execution : Nat)
  | handle (execution : Nat)
      (result : Except WorldEffectServiceError WorldEffectServiceResponse)
  | submit (execution run : Nat) (runtime : Runtime) (command : WorldCommand)
  | refuse (execution : Nat) (error : FollowUpError)
  | resolve (execution : Nat)
  | update (execution : Nat) (request : Request) (reply : Reply)
  | other (label : RuntimeLabel Runtime)

section Interleaving

variable {Digest Runtime : Type} [DecidableEq Digest] (deps : Dependencies Digest)
  (systems : Runtime → Systems) (host : EffectHost Runtime)

/-- One step of one iteration, or a step of the runtimes. The service behind a
handler may answer anything, a runtime may refuse a command, and it may stop
before a command has an outcome. -/
inductive HostStep :
    HostState Digest Runtime → HostLabel Runtime → HostState Digest Runtime → Prop
  | claim {state : HostState Digest Runtime} {execution : Nat} {runtime : Runtime}
      {now : UnixTimeMillis} {claim : ClaimedEffectJob} {store' : WorldStore Digest}
      (fresh : state.executions execution = none)
      (serves : Serves deps state.store
        (.claimNextEffect now ⟨saturatingAdd now.get effectJobLeaseMillis⟩,
          .claimed (some claim)) store') :
      HostStep state
        (.claim execution (.claimNextEffect now ⟨saturatingAdd now.get effectJobLeaseMillis⟩)
          (.claimed (some claim)))
        ({ state with runtimes.store := store' }.put execution
          ⟨runtime, claim, now, .handling⟩)
  | unbound {state : HostState Digest Runtime} {execution : Nat} {runtime : Runtime}
      {claim : ClaimedEffectJob} {now : UnixTimeMillis}
      (atPhase : state.executions execution = some ⟨runtime, claim, now, .handling⟩)
      (missing : host.handlers runtime claim.job.schema = none) :
      HostStep state (.unbound execution)
        (state.put execution ⟨runtime, claim, now, .updating (retryEffectClaim claim now
          "effect schema is not bound to a handler contract")⟩)
  | handle {state : HostState Digest Runtime} {execution : Nat} {runtime : Runtime}
      {claim : ClaimedEffectJob} {now : UnixTimeMillis} {handler : ServiceWorldEffectHandler}
      {call : WorldEffectServiceRequest → ServiceAnswer WorldEffectServiceResponse}
      (atPhase : state.executions execution = some ⟨runtime, claim, now, .handling⟩)
      (bound : host.handlers runtime claim.job.schema = some handler) :
      HostStep state (.handle execution (handler.execute call claim))
        (state.put execution
          ⟨runtime, claim, now, afterHandler claim now (handler.execute call claim)⟩)
  | submit {state : HostState Digest Runtime} {execution run : Nat} {runtime : Runtime}
      {claim : ClaimedEffectJob} {now : UnixTimeMillis} {command : WorldCommand}
      (atPhase : state.executions execution = some ⟨runtime, claim, now, .submitting command⟩)
      (fresh : state.runtimes.runs run = none) :
      HostStep state (.submit execution run runtime command)
        ({ state with runtimes := state.runtimes.put run ⟨runtime, command, .submitted⟩ }.put
          execution ⟨runtime, claim, now, .waiting command run⟩)
  | refuse {state : HostState Digest Runtime} {execution : Nat} {runtime : Runtime}
      {claim : ClaimedEffectJob} {now : UnixTimeMillis} {command : WorldCommand}
      {error : FollowUpError}
      (atPhase : state.executions execution = some ⟨runtime, claim, now, .submitting command⟩)
      (refused : error = .queueFull ∨ error = .runtimeStopped) :
      HostStep state (.refuse execution error)
        (state.put execution
          ⟨runtime, claim, now, .updating (afterFollowUp host claim now (.error error))⟩)
  | stopped {state : HostState Digest Runtime} {execution run : Nat} {runtime : Runtime}
      {claim : ClaimedEffectJob} {now : UnixTimeMillis} {command : WorldCommand}
      (atPhase : state.executions execution =
        some ⟨runtime, claim, now, .waiting command run⟩)
      (unanswered : ∀ result,
        state.runtimes.runs run ≠ some ⟨runtime, command, .finished result⟩) :
      HostStep state (.refuse execution .workerStopped)
        (state.put execution ⟨runtime, claim, now,
          .updating (afterFollowUp host claim now (.error .workerStopped))⟩)
  | resolve {state : HostState Digest Runtime} {execution run : Nat} {runtime : Runtime}
      {claim : ClaimedEffectJob} {now : UnixTimeMillis} {command : WorldCommand}
      {result : Except WorldRuntimeError WorldCommandOutcome}
      (atPhase : state.executions execution =
        some ⟨runtime, claim, now, .waiting command run⟩)
      (answered : state.runtimes.runs run = some ⟨runtime, command, .finished result⟩) :
      HostStep state (.resolve execution)
        (state.put execution ⟨runtime, claim, now,
          .updating (afterFollowUp host claim now (result.mapError .runtime))⟩)
  | update {state : HostState Digest Runtime} {execution : Nat} {runtime : Runtime}
      {claim : ClaimedEffectJob} {now : UnixTimeMillis} {update : EffectUpdate}
      {reply : Reply} {store' : WorldStore Digest}
      (atPhase : state.executions execution = some ⟨runtime, claim, now, .updating update⟩)
      (serves : Serves deps state.store (update.request claim, reply) store') :
      HostStep state (.update execution (update.request claim) reply)
        ({ state with runtimes.store := store' }.put execution
          ⟨runtime, claim, now, .finished reply⟩)
  | other {state : HostState Digest Runtime} {label : RuntimeLabel Runtime}
      {runtimes : RuntimeState Digest Runtime}
      (step : RuntimeStep deps systems state.runtimes label runtimes) :
      HostStep state (.other label) { state with runtimes := runtimes }

/-- The transition system of all hosts of one world. -/
def hostSystem : Lts (HostState Digest Runtime) (HostLabel Runtime) where
  init state := ∃ worldId, state = ⟨⟨WorldStore.create Digest worldId, fun _ => none⟩,
    fun _ => none⟩
  step := HostStep deps systems host

end Interleaving

/-- What the runtimes see of a step. -/
def HostLabel.runtimeLabels {Runtime : Type} : HostLabel Runtime → List (RuntimeLabel Runtime)
  | .claim _ request reply => [.serve request reply]
  | .submit _ run runtime command => [.submit run runtime command]
  | .update _ request reply => [.serve request reply]
  | .other label => [label]
  | _ => []

theorem EffectUpdate.request_isCommit (update : EffectUpdate) (claim : ClaimedEffectJob) :
    (update.request claim).isCommit = false := by
  cases update <;> rfl

section Refinement

variable {Digest Runtime : Type} [DecidableEq Digest] {deps : Dependencies Digest}
  {systems : Runtime → Systems} {host : EffectHost Runtime}

/-- Every step of the hosts is at most one step of the runtimes. -/
theorem HostStep.runtime {state state' : HostState Digest Runtime} {label : HostLabel Runtime}
    (h : HostStep deps systems host state label state') :
    (runtimeSystem deps systems).Run state.runtimes label.runtimeLabels state'.runtimes := by
  cases h with
  | claim _ serves => exact .single (.serve rfl serves)
  | submit _ fresh => exact .single (.submit fresh)
  | @update _ _ claim _ update _ _ _ serves =>
      exact .single (.serve (update.request_isCommit claim) serves)
  | other step => exact .single step
  | _ => exact .refl _

/-- So a run of the hosts is a run of the runtimes. -/
theorem runtime_of_host_run {state state' : HostState Digest Runtime}
    {labels : List (HostLabel Runtime)}
    (hrun : (hostSystem deps systems host).Run state labels state') :
    (runtimeSystem deps systems).Run state.runtimes
      (labels.flatMap HostLabel.runtimeLabels) state'.runtimes := by
  induction hrun with
  | refl state => exact .refl _
  | cons hstep _ ih =>
      rw [List.flatMap_cons]
      exact (HostStep.runtime hstep).append ih

end Refinement

end Rintawa.Host
