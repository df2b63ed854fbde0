/-
# Polls of the runtime

The engine polls the components of the active instances, one after the other. The poll of a
WASM component runs the tasks of its store that are due, its own and those of the components
that it hosts, and asks for the time until the next one. The actions of users that were queued
are dispatched after the polls. Other threads may run service callbacks all the time, and a poll
that finds the store taken by one of them fails.
-/

import Rintawa.ExtensionEngine.EngineRuns
import Rintawa.WasmRuntime.Callbacks

namespace Rintawa.WasmRuntime

open Rintawa.Lib Rintawa.Sdk Rintawa.ExtensionEngine

/-- What a guest does in a callback: its calls, and how it leaves. -/
structure GuestScript where
  calls : List (HostEnvironment × CapabilityCall)
  exit : GuestExit

/-! ## Tasks -/

/-- Tasks are ordered by their owners, then by their handles. -/
def taskLe (left right : ComponentRef × Nat) : Prop :=
  if left.1 = right.1 then left.2 ≤ right.2 else componentRefLe left.1 right.1

instance : DecidableRel taskLe := fun left right => by
  unfold taskLe
  infer_instance

namespace WasmHostState

variable (state : WasmHostState)

/-- The time until the next task. -/
def nextTaskDueIn (now : Nat) : Option Nat :=
  (state.activeTasks.entries.values.map fun task => task.nextDue - now).min?

/-- The tasks that are due, in order. -/
def dueTasks (now : Nat) : List (ComponentRef × Nat) :=
  ((state.activeTasks.entries.pairs.filter fun entry => entry.2.nextDue ≤ now).map
    fun entry => (entry.2.owner, entry.1)).insertionSort taskLe

/-- Whether a component owns a task. -/
def ownsTask (owner : ComponentRef) (handle : Nat) : Bool :=
  (state.activeTasks.lookup handle).any fun task => task.owner == owner

/-- The calls of a guest, one after the other. -/
def performAll (calls : List (HostEnvironment × CapabilityCall)) : WasmHostState :=
  calls.foldl (fun host call => (host.perform call.1 call.2).state) state

end WasmHostState

namespace WasmSession

/-- Run a callback from when its driver opens it until it closes it. A callback is refused when
another thread has the store. -/
def runCallback (session : WasmSession) (callback : GuestCallback) (script : GuestScript)
    (now : Nat) : WasmSession :=
  match session.current with
  | some _ => session.refuseBusy callback
  | none =>
      let opened := session.begin callback
      match opened.current, opened.hostState with
      | some _, some host => opened.finish (host.performAll script.calls) script.exit now callback
      | _, _ => opened

/-- Another thread begins to run a service callback, unless the store is taken. It keeps the store
until the callback has returned. -/
def serve (session : WasmSession) (callback : GuestCallback) : WasmSession :=
  match session.current with
  | some _ => session.refuseBusy callback
  | none => if callback.isService = true then session.begin callback else session

/-- The service callback that another thread has been running returns. -/
def served (session : WasmSession) (script : GuestScript) (now : Nat) : WasmSession :=
  match session.current, session.hostState with
  | some callback, some host =>
      session.finish (host.performAll script.calls) script.exit now callback
  | _, _ => session

/-- Run tasks in order. A task that its owner cancelled in the meantime is passed over. The first
failure ends the poll. -/
def runDueTasks (context : ComponentIdentity) (now : Nat) (scripts : Nat → GuestScript) :
    List (ComponentRef × Nat) → WasmSession → Except WasmSession WasmSession
  | [], session => .ok session
  | (owner, handle) :: rest, session =>
      if session.hostState.any fun host => host.ownsTask owner handle then
        let ran := session.runCallback (.runtimeTask context owner handle now) (scripts handle) now
        if (scripts handle).exit = .returned ∧ ran.hostState.isSome = true then
          runDueTasks context now scripts rest ran
        else .error ran
      else runDueTasks context now scripts rest session

/-- Poll a component whose store is free. -/
def pollStore (session : WasmSession) (context : ComponentIdentity) (now : Nat)
    (instantiation : GuestScript) (scripts : Nat → GuestScript) :
    WasmSession × Except String (Option Nat) :=
  let ready :=
    if session.hostState.isNone then session.runCallback .instantiate instantiation now
    else session
  match ready.failedLifecycleCallback, ready.hostState with
  | none, some host =>
      match host.validateExecutionOwner context with
      | .error _ => (ready, .error "WASM component received a context for a different owner")
      | .ok () =>
          let due := host.dueTasks now
          if due ≠ [] ∧ ready.taskHandlerAvailable = false then
            (ready, .error
              "WASM component scheduled a runtime task without task-handler exports")
          else
            match runDueTasks context now scripts due ready with
            | .error failed => (failed, .error "runtime task failed")
            | .ok ran => (ran, .ok (ran.hostState.bind fun host => host.nextTaskDueIn now))
  | _, _ => (ready, .error "WASM component instance was discarded")

/-- Poll a component. The poll fails at once when another thread runs a service callback in its
store. -/
def pollRuntime (session : WasmSession) (context : ComponentIdentity) (now : Nat)
    (instantiation : GuestScript) (scripts : Nat → GuestScript) :
    WasmSession × Except String (Option Nat) :=
  match session.current with
  | some _ => (session, .error "WASM runtime state is busy")
  | none => session.pollStore context now instantiation scripts

end WasmSession

/-! ## The engine -/

/-- The engine, and the sessions of its WASM components. -/
structure RuntimeState where
  engine : Engine
  sessions : Dict ComponentRef WasmSession

/-- What happens outside of polls: operations of the engine, callbacks of guests, and components
that are loaded or dropped. Callbacks run on the thread of the engine from their beginning to their
end, but for service callbacks, which other threads begin and end at any time. -/
inductive RuntimeEvent
  | operate (op : EngineOp)
  | guest (runtime : ComponentRef) (callback : GuestCallback) (script : GuestScript) (now : Nat)
  | serve (runtime : ComponentRef) (callback : GuestCallback)
  | served (runtime : ComponentRef) (script : GuestScript) (now : Nat)
  | load (owner : ComponentRef) (session : WasmSession)
  | dropComponent (owner : ComponentRef)

/-- What happens in the turn of one component. A component without a runtime of its own answers
for itself. Its tasks can call services of other components, and when the poll fails, its
instance is quarantined: the others are the callbacks of guests that this leads to, and what other
threads do in the meantime. -/
structure PollScript where
  answer : Except String (Option Nat)
  instantiation : GuestScript
  tasks : Nat → GuestScript
  calls : List ContextCall
  stops : ExtensionInstanceId → InstanceScript
  others : List RuntimeEvent

namespace RuntimeState

variable (state : RuntimeState)

/-- Let an event happen. -/
def perform : RuntimeEvent → RuntimeState
  | .operate op => { state with engine := (state.engine.run op).1 }
  | .guest runtime callback script now =>
      { state with
        sessions := state.sessions.modify runtime fun session =>
          session.runCallback callback script now }
  | .serve runtime callback =>
      { state with
        sessions := state.sessions.modify runtime fun session => session.serve callback }
  | .served runtime script now =>
      { state with
        sessions := state.sessions.modify runtime fun session => session.served script now }
  | .load owner session => { state with sessions := state.sessions.insert owner session }
  | .dropComponent owner => { state with sessions := state.sessions.erase owner }

/-- Let events happen in their order. -/
def performAll (events : List RuntimeEvent) : RuntimeState :=
  events.foldl perform state

/-- The components of the active instances, in order. -/
def activeComponents : List ComponentIdentity :=
  ((state.engine.extensions.values.filter fun ext => ext.state == .active).flatMap fun ext =>
    ext.components.map fun component =>
      (⟨ext.manifest.id, ext.instanceId, ext.scopeId, component.id⟩ :
        ComponentIdentity)).insertionSort fun left right => componentRefLe left.owner right.owner

/-- Poll a component, without what a failure leads to. -/
def pollSession (context : ComponentIdentity) (now : Nat) (script : PollScript) :
    RuntimeState × Except String (Option Nat) :=
  match state.sessions.lookup context.owner with
  | none => (state, script.answer)
  | some session =>
      let polled := session.pollRuntime context now script.instantiation script.tasks
      ({ state with sessions := state.sessions.insert context.owner polled.1 }, polled.2)

/-- Poll a component, and return the delay that it asked for. A failure quarantines its
instance. -/
def pollComponent (context : ComponentIdentity) (now : Nat) (script : PollScript) :
    RuntimeState × EngineResult (Option Nat) :=
  let polled := state.pollSession context now script
  match polled.2 with
  | .ok delay =>
      let ran := polled.1.engine.runActiveComponent context.owner .pollRuntime
        ⟨script.calls, none⟩ script.stops
      ({ polled.1 with engine := ran.1 }, ran.2.map fun _ => delay)
  | .error reason =>
      let ran := polled.1.engine.runActiveComponent context.owner .pollRuntime
        ⟨script.calls, some ⟨reason, false⟩⟩ script.stops
      ({ polled.1 with engine := ran.1 }, ran.2.map fun _ => none)

/-- The earlier of the wake-up that was asked for so far and that of one more component. -/
def sooner (nextWake delay : Option Nat) : Option Nat :=
  match delay with
  | some delay => some (nextWake.elim delay fun current => min current delay)
  | none => nextWake

/-- Poll components in order, unless their instances have become inactive, and return the earliest
wake-up that was asked for. -/
def pollComponents (now : Nat) (scripts : ComponentRef → PollScript) :
    List ComponentIdentity → RuntimeState → Option Nat → EngineResult (RuntimeState × Option Nat)
  | [], state, nextWake => .ok (state, nextWake)
  | context :: rest, state, nextWake =>
      if state.engine.isActive context.instanceId then
        match state.pollComponent context now (scripts context.owner) with
        | (_, .error error) => .error error
        | (polled, .ok delay) =>
            pollComponents now scripts rest (polled.performAll (scripts context.owner).others)
              (sooner nextWake delay)
      else pollComponents now scripts rest state nextWake

/-- One pump of the engine: the polls, and then the queued actions of users. -/
def pollRuntime (now : Nat) (scripts : ComponentRef → PollScript) (actions : List RuntimeEvent) :
    EngineResult (RuntimeState × Option Nat) :=
  (pollComponents now scripts state.activeComponents state none).map fun polled =>
    (polled.1.performAll actions, polled.2)

end RuntimeState

end Rintawa.WasmRuntime
