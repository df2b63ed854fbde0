/-
# Bounded single-writer workers

A started runtime owns the sending end of a bounded command queue and one worker
thread. The thread takes one command after another from the queue, processes it to
its end and sends the result to the ticket of the command. Any number of runtimes
may work on one world; submissions, the steps of the workers, shutdowns and the
holders of tickets interleave freely.
-/

import Rintawa.Lib.Dict
import Rintawa.Lib.SyncChannel
import Rintawa.WorldRuntime.Serializability

namespace Rintawa.WorldRuntime

open Rintawa.Lib Rintawa.Sdk Rintawa.World Rintawa.Storage

/-! ## Building a runtime -/

/-- Maximum number of commands that wait for one worker by default. -/
def defaultCommandQueueCapacity : Nat := 128

/-- Hard upper bound for one command queue. -/
def maxCommandQueueCapacity : Nat := 4096

/-- Host-owned resource policy for one active world. -/
structure WorldRuntimePolicy where
  commandQueueCapacity : Nat
  deriving DecidableEq, Repr

instance : Inhabited WorldRuntimePolicy :=
  ⟨⟨defaultCommandQueueCapacity⟩⟩

/-- Errors of building and starting a runtime. -/
inductive RuntimeBuildError
  | world (error : WorldError)
  | storage (error : StorageError)
  | invalidQueueCapacity (capacity maximum : Nat)
  | duplicateSystem (schema : SchemaKey)
  | workerSpawn

/-- Binds one world to its command systems. -/
structure WorldRuntimeBuilder where
  policy : WorldRuntimePolicy
  systems : Dict SchemaKey RegisteredSystem

/-- A builder without systems. -/
def WorldRuntimeBuilder.new : WorldRuntimeBuilder :=
  ⟨default, ∅⟩

def WorldRuntimeBuilder.setPolicy (builder : WorldRuntimeBuilder) (policy : WorldRuntimePolicy) :
    WorldRuntimeBuilder :=
  { builder with policy }

/-- Bind one system to the command schema that it names. -/
def WorldRuntimeBuilder.registerSharedSystemWithPrivileges (builder : WorldRuntimeBuilder)
    (commandSchema : SchemaKey) (evaluate : SystemView → WorldCommand → Evaluation → Prop)
    (privileges : WorldSystemPrivileges) : Except RuntimeBuildError WorldRuntimeBuilder :=
  match builder.systems.lookup commandSchema with
  | some _ => .error (.duplicateSystem commandSchema)
  | none =>
      .ok { builder with
        systems := builder.systems.insert commandSchema ⟨evaluate, privileges⟩ }

/-- Systems get no privileges unless the host says so. -/
def WorldRuntimeBuilder.registerSystem (builder : WorldRuntimeBuilder)
    (commandSchema : SchemaKey) (evaluate : SystemView → WorldCommand → Evaluation → Prop) :
    Except RuntimeBuildError WorldRuntimeBuilder :=
  builder.registerSharedSystemWithPrivileges commandSchema evaluate .ordinary

/-- A queue holds at least one command and at most the hard bound. -/
def validatePolicy (policy : WorldRuntimePolicy) : Except RuntimeBuildError Unit :=
  let capacity := policy.commandQueueCapacity
  if capacity = 0 ∨ maxCommandQueueCapacity < capacity then
    .error (.invalidQueueCapacity capacity maxCommandQueueCapacity)
  else .ok ()

/-- A policy has a queue of a size between one and the limit. -/
theorem validatePolicy_eq_ok_iff {policy : WorldRuntimePolicy} :
    validatePolicy policy = .ok () ↔
      0 < policy.commandQueueCapacity ∧
        policy.commandQueueCapacity ≤ maxCommandQueueCapacity := by
  simp only [validatePolicy]
  split
  next hoff =>
    constructor
    · intro h
      cases h
    · intro h
      omega
  next hfits =>
    constructor
    · intro _
      omega
    · intro _
      rfl

/-- Durable metadata of a world with its schemas. -/
structure WorldSessionState where
  id : WorldId
  commitPosition : Nat
  schemas : SchemaRegistry

/-- Restore the metadata and the schemas of a database. -/
def loadSession {Digest : Type} (deps : Dependencies Digest) (store : WorldStore Digest) :
    Except StorageError WorldSessionState := do
  let schemas ← loadSchemaRegistry deps store.worldSchemas
  return ⟨store.worldId, store.commitPosition, schemas⟩

/-- One queued command with the ticket that takes its result. -/
structure CommandJob where
  command : WorldCommand
  response : Nat

/-- Where the thread of a worker stands. -/
inductive WorkerThread
  | receiving
  | processing (job : CommandJob)
  | returned
  | panicked

/-- A thread that has not ended holds the receiving end of its queue. -/
def WorkerThread.running : WorkerThread → Bool
  | .receiving => true
  | .processing _ => true
  | .returned => false
  | .panicked => false

/-- A started runtime: its queue, its thread, and whether the thread was joined. -/
structure RunningWorldRuntime where
  queue : SyncChannel CommandJob
  thread : WorkerThread
  joined : Bool

/-- Start one worker for a world. Every bound schema must be registered for
commands; they are checked in the order of the schemas. -/
def WorldRuntimeBuilder.start {Digest : Type} (deps : Dependencies Digest)
    (builder : WorldRuntimeBuilder) (store : WorldStore Digest) (spawned : Bool) :
    Except RuntimeBuildError RunningWorldRuntime := do
  validatePolicy builder.policy
  let session ← (loadSession deps store).mapError .storage
  (builder.systems.keys.insertionSort fun a b => ¬ b.lt a).forM fun schema =>
    (session.schemas.requireKind schema .command).mapError .world
  if spawned then
    return ⟨.new builder.policy.commandQueueCapacity, .receiving, false⟩
  else .error .workerSpawn

/-- A started runtime is new, and its policy is valid. -/
theorem WorldRuntimeBuilder.start_eq_ok {Digest : Type} {deps : Dependencies Digest}
    {builder : WorldRuntimeBuilder} {store : WorldStore Digest} {spawned : Bool}
    {started : RunningWorldRuntime} (h : builder.start deps store spawned = .ok started) :
    validatePolicy builder.policy = .ok () ∧
      started = ⟨.new builder.policy.commandQueueCapacity, .receiving, false⟩ := by
  obtain ⟨⟨⟩, hpolicy, hrest⟩ := bind_eq_ok_iff.mp h
  obtain ⟨session, -, hrest⟩ := bind_eq_ok_iff.mp hrest
  obtain ⟨⟨⟩, -, hstarted⟩ := bind_eq_ok_iff.mp hrest
  cases spawned with
  | false => cases hstarted
  | true =>
      cases hstarted
      exact ⟨hpolicy, rfl⟩

/-! ## Commands and tickets -/

/-- Why a command was not accepted. -/
inductive SubmitError
  | queueFull
  | runtimeStopped
  deriving DecidableEq, Repr

/-- The answer to one accepted command. -/
abbrev CommandResult := Except WorldRuntimeError WorldCommandOutcome

/-- The handle for the result of one accepted command. -/
structure WorldCommandTicket where
  commandId : CommandId
  receiver : ReplyChannel CommandResult

/-- The ticket of a command that has no result yet. -/
def WorldCommandTicket.new (command : WorldCommand) : WorldCommandTicket :=
  ⟨command.id, .waiting⟩

/-- Why no result came with a ticket. -/
inductive WaitError
  | runtime (error : WorldRuntimeError)
  | workerStopped

/-- Enqueue one command without waiting for it. -/
def RunningWorldRuntime.submit (runtime : RunningWorldRuntime) (response : Nat)
    (command : WorldCommand) : Except SubmitError (RunningWorldRuntime × WorldCommandTicket) :=
  if runtime.queue.sender = false then .error .runtimeStopped
  else
    match runtime.queue.trySend ⟨command, response⟩ with
    | .ok queue => .ok ({ runtime with queue }, .new command)
    | .error .full => .error .queueFull
    | .error .disconnected => .error .runtimeStopped

/-- What an accepted submission did. -/
theorem submit_eq_ok {started next : RunningWorldRuntime} {response : Nat}
    {command : WorldCommand} {ticket : WorldCommandTicket}
    (hsubmit : started.submit response command = .ok (next, ticket)) :
    ∃ queue, started.queue.trySend ⟨command, response⟩ = .ok queue ∧
      next = { started with queue } ∧ ticket = .new command := by
  unfold RunningWorldRuntime.submit at hsubmit
  split at hsubmit
  · cases hsubmit
  · split at hsubmit
    next queue hsend =>
      cases hsubmit
      exact ⟨queue, hsend, rfl, rfl⟩
    · cases hsubmit
    · cases hsubmit

/-- Take the result that a ticket holds. `none` means that the holder still waits. -/
def WorldCommandTicket.waitOutcome (ticket : WorldCommandTicket) :
    Option (Except WaitError WorldCommandOutcome) :=
  match ticket.receiver with
  | .sent result => some (result.mapError .runtime)
  | .closed => some (.error .workerStopped)
  | .waiting => none
  | .gone => none

/-- Only the receipt of the result. -/
def WorldCommandTicket.wait (ticket : WorldCommandTicket) :
    Option (Except WaitError CommitReceipt) :=
  ticket.waitOutcome.map fun result => result.map WorldCommandOutcome.receipt

/-- What joining the thread of a worker reports, once the thread has ended. -/
def WorkerThread.join : WorkerThread → Option (Except Unit Unit)
  | .returned => some (.ok ())
  | .panicked => some (.error ())
  | .receiving => none
  | .processing _ => none

/-! ## One runtime -/

/-- What the callers of one runtime and its thread do. -/
inductive WorkerAction (Runtime : Type)
  | accept (job : CommandJob)
  | refuse (command : WorldCommand) (error : SubmitError)
  | receive (job : CommandJob)
  | work (job : CommandJob) (label : RuntimeLabel Runtime)
  | respond (job : CommandJob) (result : CommandResult)
  | stop
  | finish
  | panic (lost : List CommandJob)
  | join (result : Except Unit Unit)

/-- What an action does to the queue and the thread of its runtime. The thread may
panic while it processes a command; its queue and the sending ends in it go away with
it. -/
inductive RunningWorldRuntime.Step {Runtime : Type} :
    RunningWorldRuntime → WorkerAction Runtime → RunningWorldRuntime → Prop
  | accept {started next : RunningWorldRuntime} {job : CommandJob} {ticket : WorldCommandTicket}
      (submits : started.submit job.response job.command = .ok (next, ticket)) :
      Step started (.accept job) next
  | refuse {started : RunningWorldRuntime} {response : Nat} {command : WorldCommand}
      {error : SubmitError} (submits : started.submit response command = .error error) :
      Step started (.refuse command error) started
  | receive {started : RunningWorldRuntime} {job : CommandJob} {rest : SyncChannel CommandJob}
      (idle : started.thread = .receiving) (receives : started.queue.recv = .message job rest) :
      Step started (.receive job) { started with queue := rest, thread := .processing job }
  | work {started : RunningWorldRuntime} {job : CommandJob} {label : RuntimeLabel Runtime}
      (busy : started.thread = .processing job) : Step started (.work job label) started
  | respond {started : RunningWorldRuntime} {job : CommandJob} {result : CommandResult}
      (busy : started.thread = .processing job) :
      Step started (.respond job result) { started with thread := .receiving }
  | stop {started : RunningWorldRuntime} :
      Step started .stop { started with queue := started.queue.dropSender }
  | finish {started : RunningWorldRuntime} (idle : started.thread = .receiving)
      (receives : started.queue.recv = .disconnected) :
      Step started .finish
        { started with queue := started.queue.dropReceiver, thread := .returned }
  | panic {started : RunningWorldRuntime} {job : CommandJob}
      (busy : started.thread = .processing job) :
      Step started (.panic (job :: started.queue.buffer))
        { started with queue := started.queue.dropReceiver, thread := .panicked }
  | join {started : RunningWorldRuntime} {result : Except Unit Unit}
      (stopped : started.queue.sender = false) (unjoined : started.joined = false)
      (ended : started.thread.join = some result) :
      Step started (.join result) { started with joined := true }

/-- One runtime by itself, from its start. -/
def runningSystem (Runtime : Type) : Lts RunningWorldRuntime (WorkerAction Runtime) where
  init started := ∃ capacity, validatePolicy ⟨capacity⟩ = .ok () ∧
    started = ⟨.new capacity, .receiving, false⟩
  step := RunningWorldRuntime.Step

/-! ## All workers together -/

/-- What the workers of a world share: the database with the commands in process, and
the tickets given out. -/
structure SharedState (Digest Runtime : Type) where
  world : RuntimeState Digest Runtime
  tickets : Nat → Option WorldCommandTicket

/-- Change what several tickets will receive. -/
def SharedState.change {Digest Runtime : Type} (shared : SharedState Digest Runtime)
    (changed : List Nat) (change : ReplyChannel CommandResult → ReplyChannel CommandResult) :
    SharedState Digest Runtime :=
  { shared with
    tickets := fun ticket =>
      if ticket ∈ changed then
        (shared.tickets ticket).map fun held => { held with receiver := change held.receiver }
      else shared.tickets ticket }

/-- The shared state with the started runtimes. -/
structure WorkersState (Digest Runtime : Type) where
  shared : SharedState Digest Runtime
  runtimes : Runtime → Option RunningWorldRuntime

/-- Before any runtime was started. -/
def WorkersState.new {Digest Runtime : Type} (store : WorldStore Digest) :
    WorkersState Digest Runtime :=
  ⟨⟨⟨store, fun _ => none⟩, fun _ => none⟩, fun _ => none⟩

/-- Replace one started runtime. -/
def WorkersState.put {Digest Runtime : Type} [DecidableEq Runtime]
    (state : WorkersState Digest Runtime) (runtime : Runtime) (started : RunningWorldRuntime) :
    WorkersState Digest Runtime :=
  { state with runtimes := Function.update state.runtimes runtime (some started) }

/-- What is visible of one step. -/
inductive WorkerLabel (Runtime : Type)
  | start (runtime : Runtime)
  | own (runtime : Runtime) (action : WorkerAction Runtime)
  | wait (ticket : Nat) (result : Except WaitError WorldCommandOutcome)
  | dropTicket (ticket : Nat)
  | serve (request : Request) (reply : Reply)

section Interleaving

variable {Digest Runtime : Type} [DecidableEq Digest] [DecidableEq Runtime]
  (deps : Dependencies Digest) (systems : Runtime → Systems)

/-- What an action does to what the workers share. -/
inductive SharedStep (runtime : Runtime) :
    SharedState Digest Runtime → WorkerAction Runtime → SharedState Digest Runtime → Prop
  | accept {shared : SharedState Digest Runtime} {job : CommandJob}
      (fresh : shared.tickets job.response = none) :
      SharedStep runtime shared (.accept job)
        { shared with
          tickets := Function.update shared.tickets job.response (some (.new job.command)) }
  | refuse {shared : SharedState Digest Runtime} {command : WorldCommand} {error : SubmitError} :
      SharedStep runtime shared (.refuse command error) shared
  | receive {shared : SharedState Digest Runtime} {job : CommandJob}
      {world : RuntimeState Digest Runtime}
      (begins : RuntimeStep deps systems shared.world
        (.submit job.response runtime job.command) world) :
      SharedStep runtime shared (.receive job) { shared with world }
  | work {shared : SharedState Digest Runtime} {job : CommandJob} {label : RuntimeLabel Runtime}
      {world : RuntimeState Digest Runtime} (own : label.run = some job.response)
      (works : RuntimeStep deps systems shared.world label world) :
      SharedStep runtime shared (.work job label) { shared with world }
  | respond {shared : SharedState Digest Runtime} {job : CommandJob} {result : CommandResult}
      (finished : shared.world.runs job.response =
        some ⟨runtime, job.command, .finished result⟩) :
      SharedStep runtime shared (.respond job result)
        (shared.change [job.response] (.send result))
  | stop {shared : SharedState Digest Runtime} : SharedStep runtime shared .stop shared
  | finish {shared : SharedState Digest Runtime} : SharedStep runtime shared .finish shared
  | panic {shared : SharedState Digest Runtime} {lost : List CommandJob} :
      SharedStep runtime shared (.panic lost)
        (shared.change (lost.map CommandJob.response) .close)
  | join {shared : SharedState Digest Runtime} {result : Except Unit Unit} :
      SharedStep runtime shared (.join result) shared

/-- One step of a runtime, of the holder of a ticket, or another request to the
database. -/
inductive WorkerStep :
    WorkersState Digest Runtime → WorkerLabel Runtime → WorkersState Digest Runtime → Prop
  | start {state : WorkersState Digest Runtime} {runtime : Runtime}
      {builder : WorldRuntimeBuilder} {started : RunningWorldRuntime}
      (fresh : state.runtimes runtime = none)
      (bound : systems runtime = builder.systems.lookup)
      (starts : builder.start deps state.shared.world.store true = .ok started) :
      WorkerStep state (.start runtime) (state.put runtime started)
  | own {state : WorkersState Digest Runtime} {runtime : Runtime}
      {started next : RunningWorldRuntime} {action : WorkerAction Runtime}
      {shared : SharedState Digest Runtime}
      (running : state.runtimes runtime = some started) (acts : started.Step action next)
      (shares : SharedStep deps systems runtime state.shared action shared) :
      WorkerStep state (.own runtime action) { state.put runtime next with shared }
  | wait {state : WorkersState Digest Runtime} {ticket : Nat} {held : WorldCommandTicket}
      {result : Except WaitError WorldCommandOutcome}
      (holds : state.shared.tickets ticket = some held)
      (answered : held.waitOutcome = some result) :
      WorkerStep state (.wait ticket result)
        { state with shared := state.shared.change [ticket] fun _ => .gone }
  | dropTicket {state : WorkersState Digest Runtime} {ticket : Nat} {held : WorldCommandTicket}
      (holds : state.shared.tickets ticket = some held) :
      WorkerStep state (.dropTicket ticket)
        { state with shared := state.shared.change [ticket] fun _ => .gone }
  | serve {state : WorkersState Digest Runtime} {request : Request} {reply : Reply}
      {world : RuntimeState Digest Runtime}
      (serves : RuntimeStep deps systems state.shared.world (.serve request reply) world) :
      WorkerStep state (.serve request reply) { state with shared := { state.shared with world } }

/-- The transition system of all workers over one world. -/
def workerSystem : Lts (WorkersState Digest Runtime) (WorkerLabel Runtime) where
  init state := ∃ worldId, state = .new (WorldStore.create Digest worldId)
  step := WorkerStep deps systems

end Interleaving

end Rintawa.WorldRuntime
