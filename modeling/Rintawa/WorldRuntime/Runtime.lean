/-
# Processing commands in world runtimes

A run of a command is a sequence of separate steps: look for an earlier commit,
pin a snapshot, let the bound system evaluate it, commit, and read the committed
events. Any number of runs of any number of runtimes interleave over one
database, together with other requests to it. Systems are arbitrary: they may
return, fail or panic, and need not be deterministic.
-/

import Rintawa.Storage.System
import Rintawa.WorldRuntime.Snapshot

namespace Rintawa.WorldRuntime

open Rintawa.Lib Rintawa.Sdk Rintawa.World Rintawa.Storage

/-! ## Systems -/

/-- Error deliberately returned by one command system. -/
inductive SystemError
  | read (error : StorageError)
  | rejected (message : String)
  | failed (message : String)
  deriving DecidableEq

/-- Errors of one processed command. -/
inductive WorldRuntimeError
  | storage (error : StorageError)
  | systemUnavailable (schema : SchemaKey)
  | systemFailed (schema : SchemaKey) (source : SystemError)
  | systemPanicked (schema : SchemaKey)
  | authorityMutationDenied (schema : SchemaKey)
  deriving DecidableEq

/-- Host-owned privileges granted to one registered system. -/
structure WorldSystemPrivileges where
  canMutateAuthority : Bool
  deriving DecidableEq, Repr

def WorldSystemPrivileges.ordinary : WorldSystemPrivileges := ⟨false⟩

def WorldSystemPrivileges.authorityManager : WorldSystemPrivileges := ⟨true⟩

/-- How the evaluation of a command can end. -/
inductive Evaluation
  | returned (output : WorldTransaction)
  | failed (source : SystemError)
  | panicked

/-- A system with its privileges. The relation says which ends the evaluation of
a command against a view may have. -/
structure RegisteredSystem where
  evaluate : SystemView → WorldCommand → Evaluation → Prop
  privileges : WorldSystemPrivileges

/-- The systems of a runtime by command schema. -/
abbrev Systems := SchemaKey → Option RegisteredSystem

def isAuthorityMutation : WorldMutation → Bool
  | .grantControl _ => true
  | .revokeControl _ => true
  | _ => false

/-- Output that names control grants needs the privilege. -/
def rejectPrivilegedAuthorityOutput (schema : SchemaKey) (transaction : WorldTransaction)
    (privileges : WorldSystemPrivileges) : Except WorldRuntimeError Unit :=
  if privileges.canMutateAuthority then .ok ()
  else if transaction.mutations.any isAuthorityMutation then
    .error (.authorityMutationDenied schema)
  else .ok ()

/-- Completed command result together with durable events from its commit. -/
structure WorldCommandOutcome where
  receipt : CommitReceipt
  committedEvents : List StoredWorldEvent

/-! ## The steps of one run -/

/-- Where a run stands. -/
inductive Phase
  | submitted
  | uncommitted
  | evaluating (registered : RegisteredSystem) (pinned : WorldSnapshot)
  | committing (output : WorldTransaction) (evaluatedPosition : Nat)
  | reading (receipt : CommitReceipt)
  | finished (result : Except WorldRuntimeError WorldCommandOutcome)

section Steps

variable {Digest : Type} [DecidableEq Digest] (deps : Dependencies Digest)

/-- Look for an earlier commit of the command. -/
def lookupReceipt (store : WorldStore Digest) (command : WorldCommand) : Phase :=
  match committedReceipt deps store command with
  | .error error => .finished (.error (.storage error))
  | .ok (some receipt) => .reading receipt
  | .ok none => .uncommitted

omit [DecidableEq Digest] in
/-- Find the bound system and pin a snapshot for the command. -/
def pinSnapshot (systems : Systems) (store : WorldStore Digest) (command : WorldCommand) :
    Phase :=
  match systems command.schema with
  | none => .finished (.error (.systemUnavailable command.schema))
  | some registered =>
      match snapshotForCommand deps store command with
      | .error error => .finished (.error (.storage error))
      | .ok pinned => .evaluating registered pinned

/-- Take the output of a system, unless it failed or is not privileged enough. -/
def takeOutput (command : WorldCommand) (registered : RegisteredSystem)
    (pinned : WorldSnapshot) : Evaluation → Phase
  | .panicked => .finished (.error (.systemPanicked command.schema))
  | .failed source => .finished (.error (.systemFailed command.schema source))
  | .returned output =>
      match rejectPrivilegedAuthorityOutput command.schema output registered.privileges with
      | .error error => .finished (.error error)
      | .ok () => .committing output pinned.position

/-- Finish with the events of the commit, or with the error of reading them. -/
def finishReading (receipt : CommitReceipt) (events : Except StorageError (List StoredWorldEvent)) :
    Phase :=
  match events with
  | .error error => .finished (.error (.storage error))
  | .ok events => .finished (.ok ⟨receipt, events⟩)

end Steps

/-! ## All runs together -/

/-- One run of `process_command`. -/
structure ProcessRun (Runtime : Type) where
  runtime : Runtime
  command : WorldCommand
  phase : Phase

/-- The database and the runs started so far. -/
structure RuntimeState (Digest Runtime : Type) where
  store : WorldStore Digest
  runs : Nat → Option (ProcessRun Runtime)

/-- Replace one run. -/
def RuntimeState.put {Digest Runtime : Type} (state : RuntimeState Digest Runtime) (run : Nat)
    (process : ProcessRun Runtime) : RuntimeState Digest Runtime :=
  { state with runs := Function.update state.runs run (some process) }

section Put

variable {Digest Runtime : Type} {state : RuntimeState Digest Runtime} {run : Nat}
  {process : ProcessRun Runtime}

@[simp]
theorem RuntimeState.put_store : (state.put run process).store = state.store :=
  rfl

@[simp]
theorem RuntimeState.put_runs_self : (state.put run process).runs run = some process :=
  Function.update_self ..

theorem RuntimeState.put_runs_of_ne {other : Nat} (h : other ≠ run) :
    (state.put run process).runs other = state.runs other :=
  Function.update_of_ne h ..

@[simp]
theorem RuntimeState.put_put {next : ProcessRun Runtime} :
    (state.put run process).put run next = state.put run next := by
  simp [RuntimeState.put]

end Put

/-- What is visible of one step. -/
inductive RuntimeLabel (Runtime : Type)
  | submit (run : Nat) (runtime : Runtime) (command : WorldCommand)
  | lookup (run : Nat)
  | pin (run : Nat)
  | evaluate (run : Nat) (view : SystemView) (evaluation : Evaluation)
  | commit (run : Nat) (request : Request) (reply : Reply)
  | readEvents (run : Nat) (events : Except StorageError (List StoredWorldEvent))
  | unavailable (run : Nat)
  | serve (request : Request) (reply : Reply)

/-- The run that a step belongs to. -/
def RuntimeLabel.run {Runtime : Type} : RuntimeLabel Runtime → Option Nat
  | .submit run _ _ => some run
  | .lookup run => some run
  | .pin run => some run
  | .evaluate run _ _ => some run
  | .commit run _ _ => some run
  | .readEvents run _ => some run
  | .unavailable run => some run
  | .serve _ _ => none

section Interleaving

variable {Digest Runtime : Type} [DecidableEq Digest] (deps : Dependencies Digest)
  (systems : Runtime → Systems)

/-- One step of one run, or another request to the database. Reads may fail for
outside reasons. -/
inductive RuntimeStep :
    RuntimeState Digest Runtime → RuntimeLabel Runtime → RuntimeState Digest Runtime → Prop
  | submit {state : RuntimeState Digest Runtime} {run : Nat} {runtime : Runtime}
      {command : WorldCommand} (fresh : state.runs run = none) :
      RuntimeStep state (.submit run runtime command)
        (state.put run ⟨runtime, command, .submitted⟩)
  | lookup {state : RuntimeState Digest Runtime} {run : Nat} {runtime : Runtime}
      {command : WorldCommand} (atPhase : state.runs run = some ⟨runtime, command, .submitted⟩) :
      RuntimeStep state (.lookup run)
        (state.put run ⟨runtime, command, lookupReceipt deps state.store command⟩)
  | pin {state : RuntimeState Digest Runtime} {run : Nat} {runtime : Runtime}
      {command : WorldCommand}
      (atPhase : state.runs run = some ⟨runtime, command, .uncommitted⟩) :
      RuntimeStep state (.pin run)
        (state.put run
          ⟨runtime, command, pinSnapshot deps (systems runtime) state.store command⟩)
  | evaluate {state : RuntimeState Digest Runtime} {run : Nat} {runtime : Runtime}
      {command : WorldCommand} {registered : RegisteredSystem} {pinned : WorldSnapshot}
      {evaluation : Evaluation}
      (atPhase : state.runs run = some ⟨runtime, command, .evaluating registered pinned⟩)
      (evaluates : registered.evaluate (pinned.systemView deps) command evaluation) :
      RuntimeStep state (.evaluate run (pinned.systemView deps) evaluation)
        (state.put run ⟨runtime, command, takeOutput command registered pinned evaluation⟩)
  | commit {state : RuntimeState Digest Runtime} {run : Nat} {runtime : Runtime}
      {command : WorldCommand} {output : WorldTransaction} {evaluatedPosition : Nat}
      {clock : Int} {receipt : CommitReceipt} {store' : WorldStore Digest}
      (atPhase : state.runs run =
        some ⟨runtime, command, .committing output evaluatedPosition⟩)
      (serves : Serves deps state.store
        (.commit command output evaluatedPosition clock, .receipt receipt) store') :
      RuntimeStep state
        (.commit run (.commit command output evaluatedPosition clock) (.receipt receipt))
        ({ state with store := store' }.put run ⟨runtime, command, .reading receipt⟩)
  | commitFailed {state : RuntimeState Digest Runtime} {run : Nat} {runtime : Runtime}
      {command : WorldCommand} {output : WorldTransaction} {evaluatedPosition : Nat}
      {clock : Int} {error : StorageError} {store' : WorldStore Digest}
      (atPhase : state.runs run =
        some ⟨runtime, command, .committing output evaluatedPosition⟩)
      (serves : Serves deps state.store
        (.commit command output evaluatedPosition clock, .failed error) store') :
      RuntimeStep state
        (.commit run (.commit command output evaluatedPosition clock) (.failed error))
        ({ state with store := store' }.put run
          ⟨runtime, command, .finished (.error (.storage error))⟩)
  | readEvents {state : RuntimeState Digest Runtime} {run : Nat} {runtime : Runtime}
      {command : WorldCommand} {receipt : CommitReceipt}
      {events : Except StorageError (List StoredWorldEvent)}
      (atPhase : state.runs run = some ⟨runtime, command, .reading receipt⟩)
      (reads : events = eventsAtPosition deps state.store receipt.position ∨
        events = .error (.sqlite .unavailable)) :
      RuntimeStep state (.readEvents run events)
        (state.put run ⟨runtime, command, finishReading receipt events⟩)
  | unavailable {state : RuntimeState Digest Runtime} {run : Nat} {runtime : Runtime}
      {command : WorldCommand} {phase : Phase}
      (atPhase : state.runs run = some ⟨runtime, command, phase⟩)
      (reads : phase = .submitted ∨ phase = .uncommitted) :
      RuntimeStep state (.unavailable run)
        (state.put run
          ⟨runtime, command, .finished (.error (.storage (.sqlite .unavailable)))⟩)
  | serve {state : RuntimeState Digest Runtime} {request : Request} {reply : Reply}
      {store' : WorldStore Digest} (other : request.isCommit = false)
      (serves : Serves deps state.store (request, reply) store') :
      RuntimeStep state (.serve request reply) { state with store := store' }

/-- The transition system of all runtimes over one world. -/
def runtimeSystem : Lts (RuntimeState Digest Runtime) (RuntimeLabel Runtime) where
  init state := ∃ worldId, state = ⟨WorldStore.create Digest worldId, fun _ => none⟩
  step := RuntimeStep deps systems

variable {deps} {systems}

variable {label : RuntimeLabel Runtime} {labels : List (RuntimeLabel Runtime)}

/-- Every step of the runtimes is at most one request to the database. -/
theorem RuntimeStep.reachable {state state' : RuntimeState Digest Runtime}
    (hstep : RuntimeStep deps systems state label state')
    (h : (storageSystem deps).Reachable state.store) :
    (storageSystem deps).Reachable state'.store := by
  cases hstep with
  | commit _ serves => exact h.step serves
  | commitFailed _ serves => exact h.step serves
  | serve _ serves => exact h.step serves
  | _ => exact h

/-- So the database of the runtimes stays a reachable one. -/
theorem reachable_of_runtime_run {state state' : RuntimeState Digest Runtime}
    (hrun : (runtimeSystem deps systems).Run state labels state')
    (h : (storageSystem deps).Reachable state.store) :
    (storageSystem deps).Reachable state'.store :=
  Lts.Run.preserves (P := fun state => (storageSystem deps).Reachable state.store)
    (fun _ _ _ hreachable hstep => RuntimeStep.reachable hstep hreachable) hrun h

omit [DecidableEq Digest] in
theorem RuntimeState.put_runs_none {state : RuntimeState Digest Runtime} {run other : Nat}
    {process : ProcessRun Runtime} (h : (state.put run process).runs other = none) :
    other ≠ run ∧ state.runs other = none := by
  have hne : other ≠ run := by
    rintro rfl
    rw [RuntimeState.put_runs_self] at h
    cases h
  rw [RuntimeState.put_runs_of_ne hne] at h
  exact ⟨hne, h⟩

/-- A step leaves every other run where it is. -/
theorem RuntimeStep.runs_of_ne {state state' : RuntimeState Digest Runtime}
    (hstep : RuntimeStep deps systems state label state') {run : Nat} (h : label.run ≠ some run) :
    state'.runs run = state.runs run := by
  cases hstep with
  | serve => rfl
  | _ => exact RuntimeState.put_runs_of_ne fun heq => h (congrArg some heq.symm)

/-- A run that does not exist after a step did not exist before, and the step does
not belong to it. -/
theorem RuntimeStep.runs_eq_none {state state' : RuntimeState Digest Runtime}
    (hstep : RuntimeStep deps systems state label state') {run : Nat} (h : state'.runs run = none) :
    state.runs run = none ∧ label.run ≠ some run := by
  cases hstep with
  | serve => exact ⟨h, nofun⟩
  | _ =>
      obtain ⟨hne, hnone⟩ := RuntimeState.put_runs_none h
      exact ⟨hnone, fun heq => hne (Option.some.inj heq).symm⟩

/-- No step of the past belongs to a run that does not exist yet. -/
theorem run_ne_of_fresh {start state : RuntimeState Digest Runtime}
    (hrun : (runtimeSystem deps systems).Run start labels state) {run : Nat}
    (hfresh : state.runs run = none) : ∀ label ∈ labels, label.run ≠ some run := by
  refine Lts.Run.history_induction (P := fun labels state => state.runs run = none →
    ∀ label ∈ labels, label.run ≠ some run) ?_ ?_ hrun hfresh
  · intro _ label hlabel
    cases hlabel
  intro labels state label state' _ ih hstep hfresh other hother
  obtain ⟨hbefore, hlabel⟩ := RuntimeStep.runs_eq_none hstep hfresh
  rcases List.mem_append.mp hother with hold | hnew
  · exact ih hbefore other hold
  · rw [List.mem_singleton.mp hnew]
    exact hlabel

/-- There is always a run that does not exist yet, as a step adds at most the run that it belongs
to. -/
theorem exists_fresh_run {start state : RuntimeState Digest Runtime}
    (hrun : (runtimeSystem deps systems).Run start labels state)
    (hstart : start.runs = fun _ => none) : ∃ run, state.runs run = none := by
  have hbounded : ∃ bound, ∀ run, bound ≤ run → state.runs run = none := by
    refine Lts.Run.preserves (P := fun state => ∃ bound, ∀ run, bound ≤ run →
      state.runs run = none) ?_ hrun ⟨0, fun run _ => by rw [hstart]⟩
    rintro state label state' ⟨bound, hbound⟩ hstep
    refine ⟨max bound ((label.run.getD 0) + 1), fun run hle => ?_⟩
    have hne : label.run ≠ some run := by
      intro heq
      rw [heq, Option.getD_some] at hle
      omega
    rw [RuntimeStep.runs_of_ne hstep hne]
    exact hbound run (le_trans (le_max_left _ _) hle)
  obtain ⟨bound, hbound⟩ := hbounded
  exact ⟨bound, hbound bound (le_refl bound)⟩

end Interleaving

end Rintawa.WorldRuntime
