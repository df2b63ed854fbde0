/-
# Runtime signals

Signals are passed on in memory, to the subscribers in the runtime scope of one active world.
What waits for a world is bounded, and a pump hands it over, first come first served. A world
that is deactivated loses what still waits.
-/

import Rintawa.ExtensionEngine.Delivery
import Rintawa.Host.CompositionHome
import Rintawa.Lib.JsonText

namespace Rintawa.Host

open Rintawa.Lib Rintawa.Sdk Rintawa.ExtensionEngine Rintawa.ExtensionEngine.Engine
open Rintawa.Artifacts (utf8)

/-! ## Queues -/

/-- A signal for an active world. -/
structure RuntimeSignal where
  worldId : WorldId
  topic : String
  payload : List UInt8
  correlationId : Option CorrelationId

/-- The envelope of a signal. -/
def RuntimeSignal.encode (signal : RuntimeSignal) : List UInt8 :=
  utf8 <| Json.toText <| .object <|
    [("world-id", signal.worldId.toJson), ("topic", .string signal.topic),
      ("payload", .array (signal.payload.map fun byte => .number (.int byte.toNat)))] ++
    signal.correlationId.toList.map fun correlationId => ("correlation-id", correlationId.toJson)

def defaultRuntimeSignalQueueCapacity : Nat := 128

def maxRuntimeSignalTopicBytes : Nat := 256

def maxRuntimeSignalMessageBytes : Nat := 1024 * 1024

/-- The errors of the signals. -/
inductive RuntimeSignalError
  | worldNotActive (worldId : WorldId)
  | invalidRuntimeSignalTopic
  | runtimeSignalQueueFull (worldId : WorldId)
  | runtimeSignalMessageTooLarge (actualBytes maximumBytes : Nat)
  | engine (error : EngineError)

/-- A signal as it waits. -/
structure QueuedRuntimeSignal where
  topic : String
  encoded : List UInt8

/-- The signals that wait for one world. -/
structure RuntimeSignalQueue where
  capacity : Nat
  queue : List QueuedRuntimeSignal

/-- A signal as it waits. -/
def RuntimeSignal.queued (signal : RuntimeSignal) : QueuedRuntimeSignal :=
  ⟨signal.topic, signal.encode⟩

def RuntimeSignalQueue.default : RuntimeSignalQueue :=
  ⟨defaultRuntimeSignalQueueCapacity, []⟩

def RuntimeSignalQueue.enqueue (queue : RuntimeSignalQueue) (signal : RuntimeSignal) :
    Except RuntimeSignalError RuntimeSignalQueue :=
  if isBlank signal.topic ∨ maxRuntimeSignalTopicBytes < signal.topic.utf8ByteSize then
    .error .invalidRuntimeSignalTopic
  else if queue.capacity ≤ queue.queue.length then
    .error (.runtimeSignalQueueFull signal.worldId)
  else if maxRuntimeSignalMessageBytes < signal.encode.length then
    .error (.runtimeSignalMessageTooLarge signal.encode.length maxRuntimeSignalMessageBytes)
  else .ok { queue with queue := queue.queue ++ [signal.queued] }

/-- What signals need of a host: its engine, and the queues of the active worlds. -/
structure SignalHost where
  engine : Engine
  activeWorlds : Dict WorldId RuntimeSignalQueue

/-- Hand over what waits, up to the first failure of the engine. -/
def drain (scopeId : RuntimeScopeId) : Engine → List QueuedRuntimeSignal →
    (Nat → DeliveryScript) → Engine × List QueuedRuntimeSignal × EngineResult Nat
  | engine, [], _ => (engine, [], .ok 0)
  | engine, queued :: rest, script =>
      match engine.dispatchRuntimeSignalInScope scopeId queued.topic queued.encoded (script 0) with
      | (engine, .error error) => (engine, rest, .error error)
      | (engine, .ok delivered) =>
          let drained := drain scopeId engine rest fun index => script (index + 1)
          (drained.1, drained.2.1, drained.2.2.map fun later => delivered + later)

namespace SignalHost

variable (host : SignalHost)

def enqueueRuntimeSignal (signal : RuntimeSignal) : SignalHost × Except RuntimeSignalError Unit :=
  match host.activeWorlds.lookup signal.worldId with
  | none => (host, .error (.worldNotActive signal.worldId))
  | some queue =>
      match queue.enqueue signal with
      | .error error => (host, .error error)
      | .ok queue =>
          ({ host with activeWorlds := host.activeWorlds.insert signal.worldId queue }, .ok ())

def pumpRuntimeSignals (worldId : WorldId) (script : Nat → DeliveryScript) :
    SignalHost × Except RuntimeSignalError Nat :=
  match host.activeWorlds.lookup worldId with
  | none => (host, .error (.worldNotActive worldId))
  | some queue =>
      let drained := drain (worldRuntimeScopeId worldId) host.engine queue.queue script
      (⟨drained.1, host.activeWorlds.insert worldId { queue with queue := drained.2.1 }⟩,
        drained.2.2.mapError .engine)

end SignalHost

/-! ## Pumps -/

/-- What is called for one signal: event callbacks with its topic and its envelope, of components
that live in a scope, each at most once. -/
def CalledWith (engine : Engine) (scopeId : RuntimeScopeId) (queued : QueuedRuntimeSignal)
    (calls : List ComponentCallback) : Prop :=
  (calls.map fun call => call.owner).Nodup ∧ ∀ call ∈ calls,
    call.kind = .runtime (.handleEvent queued.topic queued.encoded) ∧
      engine.LivesIn scopeId call.owner

/-- The turns of the components that subscribe to the topic of a signal when it is handed over. -/
def QueuedRuntimeSignal.turns (queued : QueuedRuntimeSignal) (scopeId : RuntimeScopeId)
    (script : DeliveryScript) (engine : Engine) : List Turn :=
  Engine.turns scopeId (.handleEvent queued.topic queued.encoded) script engine
    (engine.runtimeEffects.subscribers queued.topic .signal)

/-- Signals are handed over one after the other. Each is delivered once to the components that
subscribe to its topic when it is its turn, its calls are those of the subscribers that receive
it, and the next signal meets the engine that this leaves. The stop callbacks of instances that
are quarantined in between are not among these calls. -/
inductive HandsOver (scopeId : RuntimeScopeId) : (Nat → DeliveryScript) → Engine →
    List QueuedRuntimeSignal → List (List ComponentCallback) → Engine → Nat → Prop
  | nil {script : Nat → DeliveryScript} {engine : Engine} :
      HandsOver scopeId script engine [] [] engine 0
  | cons {script : Nat → DeliveryScript} {engine next final : Engine}
      {queued : QueuedRuntimeSignal} {rest : List QueuedRuntimeSignal}
      {others : List (List ComponentCallback)} {count delivered : Nat}
      (delivers : engine.DeliversOnce .signal scopeId queued.topic queued.encoded (script 0)
        (queued.turns scopeId (script 0) engine) (next, .ok count))
      (later : HandsOver scopeId (fun index => script (index + 1)) next rest others final
        delivered) :
      HandsOver scopeId script engine (queued :: rest)
        (((queued.turns scopeId (script 0) engine).filter fun turn =>
            turn.engine.receives scopeId turn.owner).map (fun turn =>
              ⟨turn.owner, .runtime (.handleEvent queued.topic queued.encoded)⟩) :: others)
        final (count + delivered)

section

variable (scopeId : RuntimeScopeId) {engine : Engine}

/-- A delivery leads to an engine that is reachable again, and every component stays in the scope
where it was. -/
theorem reachable_dispatch (h : engineSystem.Reachable engine) (topic : String)
    (payload : List UInt8) (script : DeliveryScript) (subscribers : List ComponentRef) :
    engineSystem.Reachable (dispatchRuntimeSubscribers scopeId (.handleEvent topic payload)
        script engine subscribers).1 ∧
      SameHomes engine (dispatchRuntimeSubscribers scopeId (.handleEvent topic payload)
        script engine subscribers).1 := by
  induction subscribers generalizing engine with
  | nil => exact ⟨h, fun _ _ => Iff.rfl⟩
  | cons owner rest ih =>
      have hturn := delivered h scopeId topic payload script owner
      have hrest := ih hturn.reachable
      have hresult := hturn.result
      have hhomes := hturn.homes
      rw [dispatchRuntimeSubscribers]
      cases hdeliver : engine.deliver scopeId (.handleEvent topic payload) script owner with
      | mk next result =>
          rw [hdeliver] at hresult hrest hhomes
          dsimp only at hresult hrest hhomes
          rw [hresult]
          exact ⟨hrest.1, hhomes.trans hrest.2⟩

/-- The engine hands over a signal whose topic is not blank: it gives every subscriber a turn, and
calls only components that live in the scope. -/
theorem dispatch_delivers (h : engineSystem.Reachable engine) {queued : QueuedRuntimeSignal}
    (htopic : isBlank queued.topic = false) (script : DeliveryScript) :
    ∃ next delivered,
      engine.dispatchRuntimeSignalInScope scopeId queued.topic queued.encoded script =
        (next, .ok delivered) ∧
      engineSystem.Reachable next ∧ SameHomes engine next ∧
      engine.DeliversOnce .signal scopeId queued.topic queued.encoded script
        (queued.turns scopeId script engine) (next, .ok delivered) ∧
      CalledWith engine scopeId queued (((queued.turns scopeId script engine).filter fun turn =>
        turn.engine.receives scopeId turn.owner).map fun turn =>
          ⟨turn.owner, .runtime (.handleEvent queued.topic queued.encoded)⟩) := by
  have hdispatch : engine.dispatchRuntimeSignalInScope scopeId queued.topic queued.encoded script =
      dispatchRuntimeSubscribers scopeId (.handleEvent queued.topic queued.encoded) script engine
        (engine.runtimeEffects.subscribers queued.topic .signal) :=
    if_neg (Bool.eq_false_iff.mp htopic)
  obtain ⟨hreachable, hhomes⟩ := reachable_dispatch scopeId h queued.topic queued.encoded
    script (engine.runtimeEffects.subscribers queued.topic .signal)
  obtain ⟨-, -, hturns⟩ := dispatch_turns h scopeId queued.topic queued.encoded script
    (engine.runtimeEffects.subscribers queued.topic .signal)
  have hdelivers := deliversOnce_subscribers h .signal scopeId queued.topic queued.encoded script
  refine ⟨_, _, hdispatch.trans (Prod.ext rfl hdelivers.delivered), hreachable, hhomes,
    ⟨hdelivers.order, hdelivers.subscribed, hdelivers.receives, hdelivers.calls, hdelivers.stops,
      rfl⟩, ?_, fun call hcall => ?_⟩
  · have hnodup := hdelivers.order.imp fun h => h.2
    rw [List.map_map]
    exact List.Nodup.sublist (List.filter_sublist.map _) hnodup
  · obtain ⟨turn, hturn, rfl⟩ := List.mem_map.mp hcall
    obtain ⟨hmem, hreceives⟩ := List.mem_filter.mp hturn
    exact ⟨rfl, ((hturns turn hmem).2 _ _).mp (receives_iff.mp hreceives).1⟩

/-- A pump hands over everything that waits, one signal after the other. What it calls for a
signal lives in the scope already when the pump begins. -/
theorem drain_handsOver (h : engineSystem.Reachable engine) {waiting : List QueuedRuntimeSignal}
    (htopics : ∀ queued ∈ waiting, isBlank queued.topic = false) (script : Nat → DeliveryScript) :
    ∃ next delivered calls,
      drain scopeId engine waiting script = (next, [], .ok delivered) ∧
      engineSystem.Reachable next ∧
      next.runtimeCalls = engine.runtimeCalls ++ calls.flatten ∧
      HandsOver scopeId script engine waiting calls next delivered ∧
      List.Forall₂ (CalledWith engine scopeId) waiting calls := by
  induction waiting generalizing engine script with
  | nil => exact ⟨engine, 0, [], rfl, h, (List.append_nil _).symm, .nil, .nil⟩
  | cons queued rest ih =>
      obtain ⟨htopic, hlater⟩ := List.forall_mem_cons.mp htopics
      obtain ⟨next, count, hdispatch, hreachable, hhomes, hdelivers, hcalled⟩ :=
        dispatch_delivers scopeId h htopic (script 0)
      obtain ⟨final, delivered, others, hdrain, hfinal, hrun, hhands, hrest⟩ :=
        ih hreachable hlater fun index => script (index + 1)
      refine ⟨final, count + delivered, _, ?_, hfinal, ?_, .cons hdelivers hhands,
        .cons hcalled ?_⟩
      · rw [drain, hdispatch]
        dsimp only
        rw [hdrain]
        rfl
      · rw [hrun, hdelivers.calls, List.append_assoc, List.flatten_cons]
      · exact hrest.imp fun _ _ h => ⟨h.1, fun call hcall =>
          ⟨(h.2 call hcall).1, (hhomes scopeId call.owner).mp (h.2 call hcall).2⟩⟩

end

/-! ## Runs -/

/-- What happens to the signals of a host. Its worlds come and go, and its engine goes on. -/
inductive SignalLabel
  | engine (event : EngineEvent)
  | activated (worldId : WorldId)
  | deactivated (worldId : WorldId)
  | enqueued (signal : RuntimeSignal) (result : Except RuntimeSignalError Unit)
  | pumped (worldId : WorldId) (result : Except RuntimeSignalError Nat)

/-- One event, with its result. -/
inductive SignalHost.Step : SignalHost → SignalLabel → SignalHost → Prop
  | engine {host : SignalHost} {event : EngineEvent} {engine : Engine}
      (step : engineSystem.step host.engine event engine) :
      Step host (.engine event) { host with engine := engine }
  | activated {host : SignalHost} {worldId : WorldId}
      (inactive : host.activeWorlds.lookup worldId = none) :
      Step host (.activated worldId)
        { host with activeWorlds := host.activeWorlds.insert worldId .default }
  | deactivated {host : SignalHost} (worldId : WorldId) :
      Step host (.deactivated worldId)
        { host with activeWorlds := host.activeWorlds.erase worldId }
  | enqueued {host : SignalHost} (signal : RuntimeSignal) :
      Step host (.enqueued signal (host.enqueueRuntimeSignal signal).2)
        (host.enqueueRuntimeSignal signal).1
  | pumped {host : SignalHost} (worldId : WorldId) (script : Nat → DeliveryScript) :
      Step host (.pumped worldId (host.pumpRuntimeSignals worldId script).2)
        (host.pumpRuntimeSignals worldId script).1

def signalSystem : Lts SignalHost SignalLabel where
  init host := engineSystem.Reachable host.engine ∧
    ∀ worldId, host.activeWorlds.lookup worldId = none
  step := SignalHost.Step

/-- What still waits after a step. -/
def SignalLabel.leaves (worldId : WorldId) (waiting : List QueuedRuntimeSignal) :
    SignalLabel → List QueuedRuntimeSignal
  | .enqueued signal (.ok ()) =>
      if worldId = signal.worldId then waiting ++ [signal.queued] else waiting
  | .activated other | .deactivated other | .pumped other _ =>
      if worldId = other then [] else waiting
  | _ => waiting

/-- What a world has accepted since it was activated, or pumped last. -/
def acceptedSignals (worldId : WorldId) (labels : List SignalLabel) : List QueuedRuntimeSignal :=
  labels.foldl (SignalLabel.leaves worldId) []

/-- A queue holds what was accepted, and no more than it may. -/
structure RuntimeSignalQueue.Waits (queue : RuntimeSignalQueue)
    (accepted : List QueuedRuntimeSignal) : Prop where
  waiting : queue.queue = accepted
  capacity : queue.capacity = defaultRuntimeSignalQueueCapacity
  length : queue.queue.length ≤ queue.capacity
  topics : ∀ queued ∈ queue.queue, isBlank queued.topic = false

/-- An empty queue of the default capacity holds nothing, as when nothing was accepted. -/
theorem RuntimeSignalQueue.waits_nil :
    (⟨defaultRuntimeSignalQueueCapacity, []⟩ : RuntimeSignalQueue).Waits [] :=
  ⟨rfl, rfl, Nat.zero_le _, List.forall_mem_nil _⟩

/-- A signal that is accepted waits behind the others. The queue had room for it, and its topic is
not blank. -/
theorem RuntimeSignalQueue.Waits.enqueue {queue queue' : RuntimeSignalQueue}
    {accepted : List QueuedRuntimeSignal} {signal : RuntimeSignal} (h : queue.Waits accepted)
    (henqueue : queue.enqueue signal = .ok queue') :
    queue'.Waits (accepted ++ [signal.queued]) := by
  unfold RuntimeSignalQueue.enqueue at henqueue
  split at henqueue
  · cases henqueue
  next htopic =>
    split at henqueue
    · cases henqueue
    next hroom =>
      split at henqueue
      · cases henqueue
      · cases henqueue
        refine ⟨congrArg (· ++ _) h.waiting, h.capacity, ?_, fun queued hmem => ?_⟩
        · rw [List.length_append]
          exact Nat.lt_of_not_le hroom
        · rcases List.mem_append.mp hmem with hmem | hmem
          · exact h.topics queued hmem
          · cases List.mem_singleton.mp hmem
            exact Bool.eq_false_iff.mpr fun hblank => htopic (.inl hblank)

/-- What a history says of the queues. -/
structure SignalsRecorded (labels : List SignalLabel) (host : SignalHost) : Prop where
  engine : engineSystem.Reachable host.engine
  queues : ∀ worldId queue, host.activeWorlds.lookup worldId = some queue →
    queue.Waits (acceptedSignals worldId labels)

section

variable {start host host' : SignalHost} {labels : List SignalLabel} {label : SignalLabel}

/-- A step keeps the record when it leaves the queues of all worlds but one, and sets that. -/
theorem SignalsRecorded.set (h : SignalsRecorded labels host)
    (hengine : engineSystem.Reachable host'.engine)
    (hqueues : ∀ worldId queue, host'.activeWorlds.lookup worldId = some queue →
      (∃ accepted, label.leaves worldId (acceptedSignals worldId labels) = accepted ∧
        queue.Waits accepted) ∨
        host.activeWorlds.lookup worldId = some queue ∧
          ∀ waiting, label.leaves worldId waiting = waiting) :
    SignalsRecorded (labels ++ [label]) host' := by
  refine ⟨hengine, fun worldId queue hlookup => ?_⟩
  rw [acceptedSignals, List.foldl_concat]
  rcases hqueues worldId queue hlookup with ⟨accepted, hleaves, hwaits⟩ | ⟨hbefore, hkept⟩
  · exact hleaves.symm ▸ hwaits
  · exact (hkept _).symm ▸ h.queues worldId queue hbefore

/-- Every step keeps the record. -/
theorem SignalsRecorded.step (h : SignalsRecorded labels host) (hstep : host.Step label host') :
    SignalsRecorded (labels ++ [label]) host' := by
  cases hstep with
  | engine step => exact h.set (h.engine.step step) fun _ _ hlookup => .inr ⟨hlookup, fun _ => rfl⟩
  | @activated worldId inactive =>
      refine h.set h.engine fun other queue hlookup => ?_
      rw [Dict.lookup_insert_ite] at hlookup
      split at hlookup
      next heq =>
        cases hlookup
        exact .inl ⟨_, if_pos heq, RuntimeSignalQueue.waits_nil⟩
      next hne => exact .inr ⟨hlookup, fun _ => if_neg hne⟩
  | deactivated worldId =>
      refine h.set h.engine fun other queue hlookup => ?_
      rw [Dict.lookup_erase_ite] at hlookup
      split at hlookup
      · cases hlookup
      next hne => exact .inr ⟨hlookup, fun _ => if_neg hne⟩
  | enqueued signal =>
      unfold SignalHost.enqueueRuntimeSignal
      split
      · exact h.set h.engine fun _ _ hlookup => .inr ⟨hlookup, fun _ => rfl⟩
      next waiting hwaiting =>
        split
        · exact h.set h.engine fun _ _ hlookup => .inr ⟨hlookup, fun _ => rfl⟩
        next henqueue =>
          refine h.set h.engine fun other queue hlookup => ?_
          rw [Dict.lookup_insert_ite] at hlookup
          split at hlookup
          next heq =>
            cases hlookup
            subst heq
            exact .inl ⟨_, if_pos rfl, (h.queues _ waiting hwaiting).enqueue henqueue⟩
          next hne => exact .inr ⟨hlookup, fun _ => if_neg hne⟩
  | pumped worldId script =>
      unfold SignalHost.pumpRuntimeSignals
      split
      next hinactive =>
        refine h.set h.engine fun other queue hlookup => .inr ⟨hlookup, fun _ => if_neg ?_⟩
        rintro rfl
        cases hinactive.symm.trans hlookup
      next waiting hwaiting =>
        have hwaits := h.queues worldId waiting hwaiting
        obtain ⟨next, delivered, _, hdrain, hreachable, -⟩ := drain_handsOver
          (worldRuntimeScopeId worldId) h.engine hwaits.topics script
        rw [hdrain]
        refine h.set hreachable fun other queue hlookup => ?_
        dsimp only at hlookup
        rw [Dict.lookup_insert_ite] at hlookup
        split at hlookup
        next heq =>
          cases hlookup
          exact .inl ⟨_, if_pos heq, hwaits.capacity ▸ RuntimeSignalQueue.waits_nil⟩
        next hne => exact .inr ⟨hlookup, fun _ => if_neg hne⟩

/-- In every run what waits for a world is what it has accepted since it was activated or
pumped, in order and within its bound. A pump hands over all of it, signal by signal, to those who
subscribe to it, and the components that it calls live in the scope of this world. -/
theorem signals_first_come_first_served (hinit : signalSystem.init start)
    (hrun : signalSystem.Run start labels host) {worldId : WorldId} {queue : RuntimeSignalQueue}
    (hactive : host.activeWorlds.lookup worldId = some queue) :
    queue.queue = acceptedSignals worldId labels ∧
      queue.queue.length ≤ defaultRuntimeSignalQueueCapacity ∧
      ∀ script, ∃ next delivered calls,
        host.pumpRuntimeSignals worldId script =
          (⟨next, host.activeWorlds.insert worldId { queue with queue := [] }⟩, .ok delivered) ∧
        next.runtimeCalls = host.engine.runtimeCalls ++ calls.flatten ∧
        HandsOver (worldRuntimeScopeId worldId) script host.engine
          (acceptedSignals worldId labels) calls next delivered ∧
        List.Forall₂ (CalledWith host.engine (worldRuntimeScopeId worldId))
          (acceptedSignals worldId labels) calls := by
  have hrecorded : SignalsRecorded labels host := by
    refine Lts.Run.history_induction (P := SignalsRecorded) ?_ ?_ hrun
    · exact ⟨hinit.1, fun worldId _ hlookup => by cases (hinit.2 worldId).symm.trans hlookup⟩
    · exact fun _ _ _ _ _ hrecorded hstep => hrecorded.step hstep
  have hwaits := hrecorded.queues worldId queue hactive
  refine ⟨hwaits.waiting, hwaits.capacity ▸ hwaits.length, fun script => ?_⟩
  obtain ⟨next, delivered, calls, hdrain, -, hcalls, hhands, hcalled⟩ := drain_handsOver
    (worldRuntimeScopeId worldId) hrecorded.engine hwaits.topics script
  rw [hwaits.waiting] at hhands hcalled
  refine ⟨next, delivered, calls, ?_, hcalls, hhands, hcalled⟩
  rw [SignalHost.pumpRuntimeSignals, hactive]
  dsimp only
  rw [hdrain]
  rfl

end

/-! ## Two signals -/

/-- Two instances in the scope of a world, whose component subscribes to signals of a topic when
it is started. -/
def progressOps : List EngineOp :=
  ["left", "right"].flatMap fun name =>
    [.registerExtensionInstance ⟨name⟩ (worldRuntimeScopeId ⟨0⟩) ⟨⟨name⟩, []⟩
        [⟨⟨"main"⟩, ⟨none⟩, [], none⟩],
      .startExtensionInstance ⟨name⟩
        ⟨fun _ => ⟨[.registerRuntimeEffect (.signalSubscription "progress")], none⟩,
          fun _ => ⟨[], none⟩⟩]

/-- A host on which they run. -/
def progressHost : SignalHost :=
  ⟨(Engine.new.runAll progressOps).1, ∅⟩

/-- The world is activated and accepts two signals. -/
def progressLabels : List SignalLabel :=
  [.activated ⟨0⟩, .enqueued ⟨⟨0⟩, "progress", [1], none⟩ (.ok ()),
    .enqueued ⟨⟨0⟩, "progress", [2], none⟩ (.ok ())]

/-- What the components do while the signals are handed over: the callback of the left instance
fails. -/
def progressScript : Nat → DeliveryScript :=
  fun _ => leftFails

/-- The left instance is called for the first signal, and then it is stopped; the right instance
is called for both. -/
theorem signals_first_come_first_served_progress : ∃ host queue,
    signalSystem.Run progressHost progressLabels host ∧
      host.activeWorlds.lookup ⟨0⟩ = some queue ∧
      queue.queue = acceptedSignals ⟨0⟩ progressLabels ∧
      ∃ next delivered calls,
        host.pumpRuntimeSignals ⟨0⟩ progressScript =
          (⟨next, host.activeWorlds.insert ⟨0⟩ { queue with queue := [] }⟩, .ok delivered) ∧
        HandsOver (worldRuntimeScopeId ⟨0⟩) progressScript host.engine
          (acceptedSignals ⟨0⟩ progressLabels) calls next delivered ∧
        next.runtimeCalls.map (fun call => call.owner) =
          [⟨⟨"left"⟩, ⟨"main"⟩⟩, ⟨⟨"right"⟩, ⟨"main"⟩⟩, ⟨⟨"right"⟩, ⟨"main"⟩⟩] := by
  have hinit : signalSystem.init progressHost :=
    ⟨⟨.new, _, rfl, run_runAll .new progressOps⟩, fun _ => rfl⟩
  have hrun : signalSystem.Run progressHost progressLabels _ :=
    .cons (.activated rfl) <| .cons (.enqueued _) <| .single (.enqueued _)
  obtain ⟨hwaits, -, hpumps⟩ := @signals_first_come_first_served _ _ _ hinit hrun ⟨0⟩ _ rfl
  obtain ⟨next, delivered, calls, hpump, -, hhands, -⟩ := hpumps progressScript
  refine ⟨_, _, hrun, rfl, hwaits, next, delivered, calls, hpump, hhands, ?_⟩
  have hnext := congrArg (fun pumped => pumped.1.engine.runtimeCalls.map fun call => call.owner)
    hpump
  exact hnext.symm.trans (by decide +kernel)

end Rintawa.Host
