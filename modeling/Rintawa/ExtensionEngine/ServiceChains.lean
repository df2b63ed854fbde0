/-
# Chains of service calls

A component whose callback runs can call services, and their providers can call further ones.
Every callback holds the lock of its component. The callback of a guest holds the lock of its
WASM runtime as well, which the components that a guest hosts share with it. The engine waits
for the lock of a component before a callback of its own; calls never wait.
-/

import Mathlib.Logic.Function.Basic
import Rintawa.ExtensionEngine.ServiceIsolation
import Rintawa.Lib.Transition

namespace Rintawa.ExtensionEngine

open Rintawa.Lib Rintawa.Sdk

/-! ## Components and their locks -/

/-- A WASM runtime. It runs one callback at a time. -/
structure WasmRuntimeId where
  number : Nat
  deriving DecidableEq

/-- How the callbacks of a component run. A WASM component has a runtime of its own, and a
hosted one runs in the runtime of the provider of its execution target. -/
inductive ComponentCode
  | native
  | wasm (runtime : WasmRuntimeId) (maxHostMessageBytes : Nat)
  | hosted (runtime : WasmRuntimeId)

/-- The runtime of the guest code of a component. -/
def ComponentCode.runtime : ComponentCode → Option WasmRuntimeId
  | .native => none
  | .wasm runtime _ | .hosted runtime => some runtime

/-- A registered component. -/
structure ChainComponent where
  identity : ComponentIdentity
  component : ServiceComponent
  code : ComponentCode

/-- The locks that a thread takes on a chain of calls. -/
inductive ChainLock
  | component (owner : ComponentRef)
  | runtime (runtime : WasmRuntimeId)
  deriving DecidableEq

/-- A lock is poisoned when a callback that holds it panics. -/
inductive LockState (Thread : Type)
  | free
  | held (thread : Thread)
  | poisoned

/-- What an attempt to take a lock finds. -/
def LockState.found {Thread : Type} : LockState Thread → ComponentLock
  | .free => .free
  | .held _ => .busy
  | .poisoned => .poisoned

/-- A callback that runs. The callback of a provider was dispatched, and a guest runs in its
runtime. -/
structure ChainFrame where
  owner : ComponentRef
  runtime : Option WasmRuntimeId
  dispatch : Option ServiceDispatch

/-- The locks that a callback holds. -/
def ChainFrame.locks (frame : ChainFrame) : List ChainLock :=
  .component frame.owner :: (frame.runtime.map ChainLock.runtime).toList

/-- A call stack that a callback hands on with a call. A guest hands on none, and neither does
a native component outside of its context. -/
def ChainFrame.HandsOn (frame : ChainFrame) (callStack : List ComponentRef) : Prop :=
  callStack = [] ∨
    frame.runtime = none ∧ frame.dispatch.map ServiceDispatch.callStack = some callStack

/-! ## Threads -/

/-- The locks, and for each thread the callbacks that run on it, innermost first, and the
component that the engine waits for. -/
structure ChainState (Thread : Type) where
  locks : ChainLock → LockState Thread
  chains : Thread → List ChainFrame
  waiting : Thread → Option ComponentRef

/-- What a thread does on a chain of calls. -/
inductive ChainLabel (Thread : Type)
  | awaits (thread : Thread) (owner : ComponentRef)
  | skipped (thread : Thread) (owner : ComponentRef)
  | runs (thread : Thread) (owner : ComponentRef)
  | refused (thread : Thread) (provider : ComponentRef) (error : ServiceCallError)
  | answered (thread : Thread) (result : Option (ServiceCallResult (List UInt8)))
  | panicked (thread : Thread)

section Model

variable {Thread : Type}

/-- Put locks into a state. -/
def setLocks (locks : ChainLock → LockState Thread) (keys : List ChainLock)
    (value : LockState Thread) : ChainLock → LockState Thread :=
  fun lock => if lock ∈ keys then value else locks lock

/-- Take the runtime of a guest. A runtime that is busy or poisoned is an error. -/
def runtimeForCallback (locks : ChainLock → LockState Thread) (runtime : WasmRuntimeId) :
    ServiceCallResult (Option WasmRuntimeId) :=
  match (locks (.runtime runtime)).found with
  | .free => .ok (some runtime)
  | .busy | .poisoned => .error .providerFailed

/-- What a component does before its code runs. -/
def enterCallback (locks : ChainLock → LockState Thread) (code : ComponentCode) :
    ServiceCallResult (Option WasmRuntimeId) :=
  match code with
  | .native => .ok none
  | .wasm runtime _ | .hosted runtime => runtimeForCallback locks runtime

/-- What a component does before it handles a service. -/
def enterService (locks : ChainLock → LockState Thread) (code : ComponentCode)
    (contract : ContractKey) : ServiceCallResult (Option WasmRuntimeId) :=
  match code with
  | .wasm _ maxHostMessageBytes =>
      if maxHostMessageBytes < contract.id.asStr.utf8ByteSize then .error .providerFailed
      else enterCallback locks code
  | .native | .hosted _ => enterCallback locks code

/-- Call a provider that a call was routed to. -/
def invokeProvider (locks : ChainLock → LockState Thread) (provider : ComponentRef)
    (registered : ChainComponent) (contract : ContractKey) (request : List UInt8)
    (callStack : List ComponentRef) : ServiceCallResult ChainFrame := do
  ServiceRuntimeState.admitRequest request
  let dispatch ← dispatchTo ⟨provider, registered.component, registered.identity⟩ contract
    request callStack (locks (.component provider)).found
  let runtime ← enterService locks registered.code contract
  return ⟨provider, runtime, some dispatch⟩

namespace ChainState

variable [DecidableEq Thread] (state : ChainState Thread) (thread : Thread)

def wait (owner : Option ComponentRef) : ChainState Thread :=
  { state with waiting := Function.update state.waiting thread owner }

/-- A callback begins with its locks. -/
def push (frame : ChainFrame) : ChainState Thread where
  locks := setLocks state.locks frame.locks (.held thread)
  chains := Function.update state.chains thread (frame :: state.chains thread)
  waiting := Function.update state.waiting thread none

/-- A callback ends and leaves its locks. -/
def pop (frame : ChainFrame) (rest : List ChainFrame) (left : LockState Thread) :
    ChainState Thread where
  locks := setLocks state.locks frame.locks left
  chains := Function.update state.chains thread rest
  waiting := state.waiting

omit [DecidableEq Thread] in
/-- What a thread can hand on with a call: what its innermost callback does, and nothing when
a chain starts with the call. -/
def HandsOn (callStack : List ComponentRef) : Prop :=
  match state.chains thread with
  | [] => callStack = [] ∧ state.waiting thread = none
  | frame :: _ => frame.HandsOn callStack

end ChainState

variable [DecidableEq Thread] (components : Dict ComponentRef ChainComponent)

/-- The steps of threads. The engine has no chain when it starts a callback. A call can be
routed to any registered component. -/
inductive ChainStep : ChainState Thread → ChainLabel Thread → ChainState Thread → Prop
  | awaits {state : ChainState Thread} {thread : Thread} {owner : ComponentRef} :
      state.chains thread = [] → state.waiting thread = none →
      (components.lookup owner).isSome = true →
      ChainStep state (.awaits thread owner) (state.wait thread (some owner))
  | callback {state : ChainState Thread} {thread : Thread} {owner : ComponentRef}
      {component : ChainComponent} {runtime : Option WasmRuntimeId} :
      state.waiting thread = some owner → components.lookup owner = some component →
      state.locks (.component owner) = .free →
      enterCallback state.locks component.code = .ok runtime →
      ChainStep state (.runs thread owner) (state.push thread ⟨owner, runtime, none⟩)
  | skipped {state : ChainState Thread} {thread : Thread} {owner : ComponentRef} :
      state.waiting thread = some owner →
      (state.locks (.component owner)).found ≠ .busy →
      ChainStep state (.skipped thread owner) (state.wait thread none)
  | refused {state : ChainState Thread} {thread : Thread} {provider : ComponentRef}
      {component : ChainComponent} {contract : ContractKey} {request : List UInt8}
      {callStack : List ComponentRef} {error : ServiceCallError} :
      state.HandsOn thread callStack → components.lookup provider = some component →
      invokeProvider state.locks provider component contract request callStack =
        .error error →
      ChainStep state (.refused thread provider error) state
  | invoked {state : ChainState Thread} {thread : Thread} {provider : ComponentRef}
      {component : ChainComponent} {contract : ContractKey} {request : List UInt8}
      {callStack : List ComponentRef} {frame : ChainFrame} :
      state.HandsOn thread callStack → components.lookup provider = some component →
      invokeProvider state.locks provider component contract request callStack = .ok frame →
      ChainStep state (.runs thread provider) (state.push thread frame)
  | answered {state : ChainState Thread} {thread : Thread} {frame : ChainFrame}
      {rest : List ChainFrame} (answer : ProviderAnswer) :
      state.chains thread = frame :: rest →
      ChainStep state
        (.answered thread (frame.dispatch.map fun dispatch => receiveAnswer dispatch answer))
        (state.pop thread frame rest .free)
  | panicked {state : ChainState Thread} {thread : Thread} {frame : ChainFrame}
      {rest : List ChainFrame} :
      state.chains thread = frame :: rest →
      ChainStep state (.panicked thread) (state.pop thread frame rest .poisoned)

/-- No callback runs at first. -/
def chainSystem (Thread : Type) [DecidableEq Thread] :
    Lts (ChainState Thread) (ChainLabel Thread) where
  init state := state = ⟨fun _ => .free, fun _ => [], fun _ => none⟩
  step := ChainStep components

end Model

end Rintawa.ExtensionEngine
