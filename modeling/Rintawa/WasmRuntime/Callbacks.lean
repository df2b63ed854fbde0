/-
# Callbacks of a guest

The engine calls a guest for its own component and, when the guest provides execution
targets, for the components that it hosts. Every callback has a driver, which opens the
host state for the callback, lets the guest run and closes the host state in the way that
the callback ended. Between the two the guest makes its calls. The store is locked while a
callback runs, so callbacks of one store do not overlap: one that comes in the meantime is
refused. Other threads call services, so the engine goes on while a service callback runs.
-/

import Rintawa.Lib.Transition
import Rintawa.WasmRuntime.HostAccess

namespace Rintawa.ExtensionEngine

open Rintawa.Sdk

/-- The reference to the component of a principal. -/
def ComponentIdentity.owner (identity : ComponentIdentity) : ComponentRef :=
  ⟨identity.instanceId, identity.componentId⟩

end Rintawa.ExtensionEngine

namespace Rintawa.WasmRuntime

open Rintawa.Lib Rintawa.Sdk Rintawa.ExtensionEngine

/-! ## Callbacks -/

/-- The callbacks of a guest, with the principal of the context that the engine passes: those of the
component itself, and from `targetLoad` on those of a component that is hosted. A task runs for its
owner in a poll of the component itself. -/
inductive GuestCallback
  | instantiate
  | register (context : ComponentIdentity)
  | start (context : ComponentIdentity)
  | stop (context : ComponentIdentity)
  | event (context : ComponentIdentity)
  | runtimeTask (context : ComponentIdentity) (taskOwner : ComponentRef) (handle now : Nat)
  | uiAction (context : ComponentIdentity)
  | service (context : ComponentIdentity)
  | targetLoad (source : Nat)
  | targetRegister (context : ComponentIdentity)
  | targetStart (context : ComponentIdentity)
  | targetStop (context : ComponentIdentity)
  | targetEvent (context : ComponentIdentity)
  | targetUiAction (context : ComponentIdentity)
  | targetService (context : ComponentIdentity)
  | targetDrop
  deriving DecidableEq

/-- How the guest leaves a callback. Only callbacks of hosted components return errors. -/
inductive GuestExit
  | returned
  | guestError
  | trapped
  deriving DecidableEq

/-- What a component and its store are doing, with what the engine knows of them. A callback
that is running has the store for itself. -/
structure WasmSession where
  componentId : ComponentId
  budget : WasmExecutionBudget
  taskHandlerAvailable : Bool
  targetProviderAvailable : Bool
  hostState : Option WasmHostState
  failedLifecycleCallback : Option String
  active : Bool
  current : Option GuestCallback
  registry : RuntimeEffectRegistry
  executionTargets : ExecutionTargetRegistry
  services : ServiceRuntimeState

namespace WasmSession

/-- A component that was loaded and has no store yet. -/
def loaded (componentId : ComponentId) (budget : WasmExecutionBudget)
    (taskHandlerAvailable targetProviderAvailable : Bool) (registry : RuntimeEffectRegistry)
    (executionTargets : ExecutionTargetRegistry) (services : ServiceRuntimeState) :
    WasmSession where
  componentId := componentId
  budget := budget
  taskHandlerAvailable := taskHandlerAvailable
  targetProviderAvailable := targetProviderAvailable
  hostState := none
  failedLifecycleCallback := none
  active := false
  current := none
  registry := registry
  executionTargets := executionTargets
  services := services

variable (session : WasmSession)

/-! ## Opening callbacks -/

/-- Let the guest run a callback on a host state. -/
def enter (callback : GuestCallback) (host : WasmHostState) : WasmSession :=
  { session with hostState := some host, current := some callback }

/-- Instantiate the component once. -/
def instantiate : WasmSession :=
  match session.failedLifecycleCallback, session.hostState with
  | none, none =>
      session.enter .instantiate
        (.withHostServicesAndBudget session.componentId session.taskHandlerAvailable
          session.budget)
  | _, _ => session

/-- Run a callback on the store that is there. The driver instantiates the component first
when it has to, which is a callback of its own. -/
def withInstance (next : WasmHostState → WasmSession) : WasmSession :=
  match session.failedLifecycleCallback, session.hostState with
  | none, some host => next host
  | _, _ => session

/-- Run a callback for the component that was registered. -/
def asRegistered (context : ComponentIdentity) (callback : GuestCallback)
    (opened : WasmHostState → WasmHostState) : WasmSession :=
  session.withInstance fun host =>
    match host.validateExecutionOwner context with
    | .error _ => session
    | .ok () => session.enter callback (opened host)

/-- Run a callback for a component that is hosted. -/
def asHosted (callback : GuestCallback) (opened : WasmHostState → WasmHostState) : WasmSession :=
  session.withInstance fun host => session.enter callback (opened host)

/-- Register the component. -/
def beginRegister (context : ComponentIdentity) : WasmSession :=
  session.withInstance fun host =>
    match host.beginRegistration context with
    | .error _ => session
    | .ok host => session.enter (.register context) host

/-- Start the component. It is not active before that has succeeded. -/
def beginStart (context : ComponentIdentity) : WasmSession :=
  asRegistered { session with active := false } context (.start context)
    WasmHostState.beginStartExecution

/-- Stop the component. Nothing is opened, so the guest is called without access. -/
def beginStop (context : ComponentIdentity) : WasmSession :=
  let session : WasmSession := { session with active := false }
  match session.hostState with
  | none => session
  | some host => session.enter (.stop context) host

/-- Dispatch an event to an active component. -/
def beginEvent (context : ComponentIdentity) : WasmSession :=
  if session.active then
    session.asRegistered context (.event context) WasmHostState.beginGuestExecution
  else session

/-- Run a task that is due and that its owner still has. -/
def beginTask (context : ComponentIdentity) (taskOwner : ComponentRef) (handle now : Nat) :
    WasmSession :=
  session.withInstance fun host =>
    match host.activeTasks.lookup handle with
    | none => session
    | some task =>
        if task.owner = taskOwner ∧ task.nextDue ≤ now then
          session.asRegistered context (.runtimeTask context taskOwner handle now) fun host =>
            if taskOwner = context.owner then host.beginGuestExecution
            else host.beginDelegatedTaskExecution taskOwner
        else session

/-- Load a component that is to be hosted. The guest borrows the source. -/
def beginTargetLoad (source : Nat) : WasmSession :=
  if session.targetProviderAvailable then
    session.asHosted (.targetLoad source) fun host =>
      { host with resourceTable := host.resourceTable ++ [source] }
  else session

/-- Register a component that is hosted. -/
def beginTargetRegister (context : ComponentIdentity) : WasmSession :=
  session.withInstance fun host =>
    match host.beginTargetComponentRegistration with
    | (host, .error _) => { session with hostState := some host }
    | (host, .ok ()) => session.enter (.targetRegister context) host

/-- Open a callback. The session stays without one when the driver refuses it. -/
def begin : GuestCallback → WasmSession
  | .instantiate => session.instantiate
  | .register context => session.beginRegister context
  | .start context => session.beginStart context
  | .stop context => session.beginStop context
  | .event context => session.beginEvent context
  | .runtimeTask context taskOwner handle now => session.beginTask context taskOwner handle now
  | .uiAction context =>
      session.asRegistered context (.uiAction context) WasmHostState.beginGuestExecution
  | .service context =>
      session.asRegistered context (.service context) WasmHostState.beginServiceExecution
  | .targetLoad source => session.beginTargetLoad source
  | .targetRegister context => session.beginTargetRegister context
  | .targetStart context =>
      session.asHosted (.targetStart context) fun host =>
        host.beginDelegatedGuestExecution context.owner
  | .targetStop context => session.asHosted (.targetStop context) id
  | .targetEvent context =>
      session.asHosted (.targetEvent context) fun host =>
        host.beginDelegatedGuestExecution context.owner
  | .targetUiAction context =>
      session.asHosted (.targetUiAction context) fun host =>
        host.beginDelegatedGuestExecution context.owner
  | .targetService context =>
      session.asHosted (.targetService context) fun host =>
        host.beginDelegatedServiceExecution context.owner
  | .targetDrop => session.asHosted .targetDrop id

/-- Refuse a callback because another one has the store. Every driver gives up when it finds
the lock taken, and nothing of the store has changed by then; the component counts as inactive
from the beginning of its start or stop on. -/
def refuseBusy : GuestCallback → WasmSession
  | .start _ | .stop _ => { session with active := false }
  | _ => session

/-! ## Closing callbacks -/

/-- Give the store back. -/
def leave (host : WasmHostState) : WasmSession :=
  { session with hostState := some host, current := none }

/-- Throw the store away. The component has to be loaded again. -/
def discard (operation : String) : WasmSession :=
  { session with
    hostState := none
    failedLifecycleCallback := some operation
    current := none }

/-- Close a failed callback of a component, which keeps the store. -/
def abort (context : ComponentIdentity) (host : WasmHostState) : WasmSession :=
  let aborted := host.abortGuestExecution context.owner session.registry
  { session.leave aborted.1 with registry := aborted.2 }

/-- Close a callback that has returned: commit its effects, and go on where that
succeeds. -/
def finishGuest (context : ComponentIdentity) (host : WasmHostState)
    (committed : WasmSession → WasmHostState → WasmSession)
    (failed : WasmSession → WasmHostState → WasmSession) : WasmSession :=
  match host.finishGuestExecution context.owner session.registry with
  | (host, registry, .ok ()) => committed { session with registry := registry } host
  | (host, registry, .error _) => failed { session with registry := registry } host

/-- Keep the store that was made, or drop it. -/
def finishInstantiate (host : WasmHostState) : GuestExit → WasmSession
  | .returned => session.leave host
  | _ => { session with hostState := none, current := none }

/-- Take what was registered, or cancel it. -/
def finishRegister (host : WasmHostState) : GuestExit → WasmSession
  | .returned => session.leave host.finishRegistration.1
  | _ => session.leave host.cancelRegistration

/-- Publish execution targets in order. All targets of the component go when one of them
is refused. -/
def publishTargets (owner : ComponentRef) :
    ExecutionTargetRegistry → List String → ExecutionTargetRegistry × Bool
  | registry, [] => (registry, true)
  | registry, target :: rest =>
      match registry.register owner target with
      | (registry, .error _) => (registry.revokeComponent owner, false)
      | (registry, .ok ()) => publishTargets owner registry rest

/-- Make a component active whose start callback has succeeded, unless its execution
targets cannot be published. -/
def activate (context : ComponentIdentity) (host : WasmHostState) : WasmSession :=
  let taken := host.takePendingExecutionTargets
  let left := session.leave taken.1
  if taken.2 = [] then { left with active := true }
  else if session.targetProviderAvailable then
    let published := publishTargets context.owner session.executionTargets taken.2
    { left with executionTargets := published.1, active := published.2 }
  else left

/-- Commit the effects of a start and activate the component. -/
def finishStart (context : ComponentIdentity) (host : WasmHostState) : GuestExit → WasmSession
  | .returned =>
      session.finishGuest context host (fun session host => session.activate context host)
        fun session host => session.leave host.discardGuestExecution
  | _ => session.discard "start"

/-- Whether the guest succeeds or not, nothing that its component owns is left. -/
def finishStop (host : WasmHostState) (exit : GuestExit) : WasmSession :=
  let closed : WasmHostState := { host.discardGuestExecution with effectHandles := ∅ }
  let revoked :=
    match host.registeredOwner with
    | none => closed
    | some owner => closed.revokeRuntimeResourcesForOwner owner
  match exit with
  | .returned => session.leave revoked
  | _ => session.discard "stop"

/-- Close an event, or a callback of a hosted component that commits effects. -/
def finishEvent (context : ComponentIdentity) (host : WasmHostState) : GuestExit → WasmSession
  | .returned =>
      session.finishGuest context host leave fun session host => session.abort context host
  | _ => session.abort context host

/-- Close a callback after whose failure the store is not used any more. -/
def finishOrInvalidate (context : ComponentIdentity) (operation : String) (host : WasmHostState)
    (committed : WasmSession → WasmHostState → WasmSession) : GuestExit → WasmSession
  | .returned =>
      session.finishGuest context host committed fun session host =>
        (session.abort context host).discard operation
  | _ => (session.abort context host).discard operation

/-- Close a task. One that succeeds is scheduled again. -/
def finishTask (context : ComponentIdentity) (taskOwner : ComponentRef) (handle now : Nat)
    (host : WasmHostState) (exit : GuestExit) : WasmSession :=
  if taskOwner = context.owner then
    session.finishOrInvalidate context "runtime task" host
      (fun session host => session.leave (host.rescheduleTask handle now)) exit
  else
    match exit with
    | .returned =>
        session.leave (host.finishDelegatedTaskExecution.rescheduleTask handle now)
    | _ => session.leave (host.discardGuestExecution.revokeRuntimeResourcesForOwner taskOwner)

/-- Take what a hosted component has registered, or cancel it. -/
def finishTargetRegister (host : WasmHostState) : GuestExit → WasmSession
  | .returned => session.leave host.finishRegistration.1
  | _ => session.leave host.cancelTargetComponentRegistration

/-- Close a callback at some time. -/
def finish (host : WasmHostState) (exit : GuestExit) (now : Nat) : GuestCallback → WasmSession
  | .instantiate => session.finishInstantiate host exit
  | .register _ => session.finishRegister host exit
  | .start context => session.finishStart context host exit
  | .stop _ => session.finishStop host exit
  | .event context => session.finishEvent context host exit
  | .runtimeTask context taskOwner handle _ =>
      session.finishTask context taskOwner handle now host exit
  | .uiAction context => session.finishOrInvalidate context "UI action" host leave exit
  | .service _ => session.leave host.finishServiceExecution
  | .targetLoad source =>
      session.leave { host with resourceTable := host.resourceTable.erase source }
  | .targetRegister _ => session.finishTargetRegister host exit
  | .targetStart context => session.finishEvent context host exit
  | .targetStop context =>
      session.leave ((host.forgetEffectHandlesForOwner context.owner).revokeRuntimeResourcesForOwner
        context.owner)
  | .targetEvent context => session.finishEvent context host exit
  | .targetUiAction context => session.finishEvent context host exit
  | .targetService _ => session.leave host.finishServiceExecution
  | .targetDrop => session.leave host

end WasmSession

/-! ## Refused callbacks -/

namespace WasmSession

/-- A refused callback leaves the store to the callback that has it. -/
theorem refuseBusy_hostState (session : WasmSession) (callback : GuestCallback) :
    (session.refuseBusy callback).hostState = session.hostState := by
  cases callback <;> rfl

/-- A refused callback does not end the callback that has the store. -/
theorem refuseBusy_current (session : WasmSession) (callback : GuestCallback) :
    (session.refuseBusy callback).current = session.current := by
  cases callback <;> rfl

/-- A refused callback does not make a store that was thrown away usable again. -/
theorem refuseBusy_failed (session : WasmSession) (callback : GuestCallback) :
    (session.refuseBusy callback).failedLifecycleCallback = session.failedLifecycleCallback := by
  cases callback <;> rfl

/-- A refused callback registers nothing in the service runtime. -/
theorem refuseBusy_services (session : WasmSession) (callback : GuestCallback) :
    (session.refuseBusy callback).services = session.services := by
  cases callback <;> rfl

end WasmSession

/-! ## Runs -/

namespace GuestCallback

/-- The context that the engine passes to a callback. Registrations come before the
component is known to the engine. -/
def runtimeContext : GuestCallback → Option ComponentIdentity
  | .instantiate | .register _ | .targetLoad _ | .targetRegister _ | .targetDrop => none
  | .start context | .stop context | .event context | .runtimeTask context _ _ _
  | .uiAction context | .service context | .targetStart context | .targetStop context
  | .targetEvent context | .targetUiAction context | .targetService context => some context

/-- Service callbacks, which other threads than that of the engine may run. -/
def isService : GuestCallback → Bool
  | .service _ | .targetService _ => true
  | _ => false

/-- The component that a callback stops. -/
def stops : GuestCallback → Option ComponentRef
  | .stop context | .targetStop context => some context.owner
  | _ => none

/-- Two callbacks that are not of one component. A component is locked during its callbacks,
so the second of two callbacks of one component waits and does not come to the store. -/
def Apart (callback other : GuestCallback) : Prop :=
  ∀ context otherContext, callback.runtimeContext = some context →
    other.runtimeContext = some otherContext → context.owner ≠ otherContext.owner

/-- Callbacks of components that are hosted. -/
def isHosted : GuestCallback → Bool
  | .targetLoad _ | .targetRegister _ | .targetStart _ | .targetStop _ | .targetEvent _
  | .targetUiAction _ | .targetService _ | .targetDrop => true
  | _ => false

/-- The ways in which a guest may leave a callback. -/
def MayLeave (callback : GuestCallback) (exit : GuestExit) : Prop :=
  exit = .guestError → callback.isHosted = true

end GuestCallback

/-- What happens in a session. A call is recorded with the component that it was made for
and with its result. -/
inductive SessionLabel
  | begin (callback : GuestCallback)
  | call (owner : Option ComponentRef) (env : HostEnvironment) (call : CapabilityCall)
      (result : Except CapabilityError CapabilityValue)
  | finish (callback : GuestCallback) (exit : GuestExit) (now : Nat)
  | busy (callback : GuestCallback)
  | engine (registry : RuntimeEffectRegistry) (executionTargets : ExecutionTargetRegistry)
      (services : ServiceRuntimeState)

/-- What the engine promises when it calls a component. It passes contexts of registered
components, with the scopes that these are registered in, and it stops a component with the
context of that component. -/
structure WasmSession.Passes (session : WasmSession) (callback : GuestCallback) : Prop where
  scope : ∀ context, callback.runtimeContext = some context →
    session.services.componentScopeId context.owner = some context.scopeId
  stop : ∀ context host, callback = .stop context → session.hostState = some host →
    host.registeredOwner = some context.owner

/-- A step of a session. The guest calls its host only while a callback runs. A callback that
comes in the meantime is refused; of the two, one is a service callback, as all others are run
by the thread of the engine. The engine goes on while no callback runs but a service callback
of another thread. -/
inductive WasmSession.Step : WasmSession → SessionLabel → WasmSession → Prop
  | begin {session : WasmSession} (callback : GuestCallback) (idle : session.current = none)
      (passes : session.Passes callback) :
      Step session (.begin callback) (session.begin callback)
  | call {session : WasmSession} {callback : GuestCallback} {host : WasmHostState}
      (env : HostEnvironment) (call : CapabilityCall)
      (running : session.current = some callback) (store : session.hostState = some host)
      (scopes : env.componentScopeId = session.services.componentScopeId) :
      Step session (.call host.executionOwner env call (host.perform env call).result)
        { session with hostState := some (host.perform env call).state }
  | finish {session : WasmSession} {callback : GuestCallback} {host : WasmHostState}
      (exit : GuestExit) (now : Nat) (running : session.current = some callback)
      (store : session.hostState = some host) (mayLeave : callback.MayLeave exit) :
      Step session (.finish callback exit now) (session.finish host exit now callback)
  | busy {session : WasmSession} {holder : GuestCallback} (callback : GuestCallback)
      (held : session.current = some holder)
      (concurrent : holder.isService = true ∨ callback.isService = true)
      (apart : callback.Apart holder) (passes : session.Passes callback) :
      Step session (.busy callback) (session.refuseBusy callback)
  | engine {session : WasmSession} (registry : RuntimeEffectRegistry)
      (executionTargets : ExecutionTargetRegistry) (services : ServiceRuntimeState)
      (free : ∀ callback, session.current = some callback → callback.isService = true) :
      Step session (.engine registry executionTargets services)
        { session with
          registry := registry
          executionTargets := executionTargets
          services := services }

/-- The sessions of components, from when they are loaded. -/
def wasmSystem : Lts WasmSession SessionLabel where
  init session := ∃ componentId budget taskHandlerAvailable targetProviderAvailable registry
    executionTargets services, session = .loaded componentId budget taskHandlerAvailable
      targetProviderAvailable registry executionTargets services
  step := WasmSession.Step

end Rintawa.WasmRuntime
