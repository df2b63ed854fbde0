/-
# The wake-up time of the host

One pump of the host handles the requests that guests have made, delivers signals and effects,
polls the components, and handles the requests that came up in the meantime. It returns the
time until it has to run again: the least delay that a component asked for when it was polled,
or that until the next job of an outbox. The stages of a pump are what happens in it from the
polls on, one after the other. A task that a stage schedules after its runtime was polled, and one
in a runtime that is not polled, is in neither delay.
-/

import Rintawa.Lib.Lists
import Rintawa.Storage.Wakeup
import Rintawa.WasmRuntime.Preferences
import Rintawa.WasmRuntime.RuntimePolls

namespace Rintawa.Host

open Rintawa.Lib Rintawa.Sdk Rintawa.ExtensionEngine Rintawa.Storage Rintawa.WasmRuntime

/-! ## Pumps -/

/-- The runtime, and the outboxes of the active worlds. -/
structure HostRuntime (Digest : Type) where
  runtime : RuntimeState
  activeWorlds : Dict WorldId (WorldStore Digest)

/-- What requests lead to: changes of the runtime, and worlds that are opened, written or
closed. -/
inductive HostEvent (Digest : Type)
  | runtime (event : RuntimeEvent)
  | world (worldId : WorldId) (store : WorldStore Digest)
  | closed (worldId : WorldId)

/-- What the pumps of requests do, in their order. -/
structure RequestPumps (Digest : Type) where
  worldSessions : List (HostEvent Digest)
  worldFocus : List (HostEvent Digest)
  userContentWrites : List (HostEvent Digest)
  worldCommands : List (HostEvent Digest)
  worldProjections : List (HostEvent Digest)

/-- What happens in one pump of the host. -/
structure PumpScript (Digest : Type) where
  before : RequestPumps Digest
  signals : List (HostEvent Digest)
  effects : List (HostEvent Digest)
  polls : ComponentRef → PollScript
  actions : List RuntimeEvent
  after : RequestPumps Digest

/-- The two clocks at a pump, in milliseconds. -/
structure PumpClock where
  now : Nat
  unixTime : UnixTimeMillis

/-- The largest number of 64 bits with a sign. -/
def i64Max : Int := 9223372036854775807

/-- The delay until a time. -/
def delayUntil (now wakeup : UnixTimeMillis) : Nat :=
  (min (wakeup.get - now.get) i64Max).toNat

def minOptionalDuration : Option Nat → Option Nat → Option Nat
  | some left, some right => some (min left right)
  | some value, none | none, some value => some value
  | none, none => none

section Model

variable {Digest : Type}

/-- What a pump returns: the host that it leaves, and the delay. -/
structure PumpOutcome (Digest : Type) where
  host : HostRuntime Digest
  delay : Option Nat

namespace HostRuntime

variable (host : HostRuntime Digest)

/-- Let an event happen. -/
def perform : HostEvent Digest → HostRuntime Digest
  | .runtime event => { host with runtime := host.runtime.perform event }
  | .world worldId store =>
      { host with activeWorlds := host.activeWorlds.insert worldId store }
  | .closed worldId => { host with activeWorlds := host.activeWorlds.erase worldId }

/-- Let events happen in their order. -/
def performAll (events : List (HostEvent Digest)) : HostRuntime Digest :=
  events.foldl perform host

/-- Handle the requests of guests. -/
def pumpRequests (pumps : RequestPumps Digest) : HostRuntime Digest :=
  ((((host.performAll pumps.worldSessions).performAll pumps.worldFocus).performAll
    pumps.userContentWrites).performAll pumps.worldCommands).performAll pumps.worldProjections

/-- The delay until the next job of an outbox. -/
def nextEffectWakeupDelay (now : UnixTimeMillis) : Option Nat :=
  (host.activeWorlds.values.filterMap fun store =>
    (nextWakeup store).map fun wakeup => delayUntil now wakeup).min?

/-- One pump of the host. -/
def pollRuntime (clock : PumpClock) (script : PumpScript Digest) :
    EngineResult (PumpOutcome Digest) :=
  let before := ((host.pumpRequests script.before).performAll script.signals).performAll
    script.effects
  match before.runtime.pollRuntime clock.now script.polls script.actions with
  | .error error => .error error
  | .ok (runtime, engineDelay) =>
      let after := ({ before with runtime := runtime } : HostRuntime Digest).pumpRequests
        script.after
      .ok ⟨after, minOptionalDuration engineDelay (after.nextEffectWakeupDelay clock.unixTime)⟩

end HostRuntime

/-! ## Stages -/

/-- The requests of guests, in the order in which they are handled. -/
def RequestPumps.events (pumps : RequestPumps Digest) : List (HostEvent Digest) :=
  pumps.worldSessions ++ pumps.worldFocus ++ pumps.userContentWrites ++ pumps.worldCommands ++
    pumps.worldProjections

/-- A stage of a pump: something that happens, or the poll of a component. -/
inductive PumpStage (Digest : Type)
  | event (event : HostEvent Digest)
  | poll (context : ComponentIdentity)

/-- A pump before it runs: the host that it finds, the clocks, and what guests and users do in the
meantime. -/
structure Pump (Digest : Type) where
  host : HostRuntime Digest
  clock : PumpClock
  script : PumpScript Digest

namespace Pump

variable (pump : Pump Digest)

/-- The host when the polls begin. The requests of the first half have been handled then, and the
signals and effects have been delivered. -/
def pollsBegin : HostRuntime Digest :=
  ((pump.host.performAll pump.script.before.events).performAll pump.script.signals).performAll
    pump.script.effects

/-- What a stage makes of the host. What a poll leads to in other components is in stages of its
own. -/
def runStage (host : HostRuntime Digest) : PumpStage Digest → HostRuntime Digest
  | .event event => host.perform event
  | .poll context =>
      { host with
        runtime := (host.runtime.pollComponent context pump.clock.now
          (pump.script.polls context.owner)).1 }

/-- What stages make of a host, one after the other. -/
def run (stages : List (PumpStage Digest)) (host : HostRuntime Digest) : HostRuntime Digest :=
  stages.foldl pump.runStage host

/-- The turn of a component: its poll, and what that leads to. -/
def turn (context : ComponentIdentity) : List (PumpStage Digest) :=
  .poll context :: ((pump.script.polls context.owner).others.map HostEvent.runtime).map .event

/-- The turns of the components whose instances are active when their turns come. -/
def turns : List ComponentIdentity → HostRuntime Digest → List (PumpStage Digest)
  | [], _ => []
  | context :: rest, host =>
      if host.runtime.engine.isActive context.instanceId then
        pump.turn context ++ turns rest (pump.run (pump.turn context) host)
      else turns rest host

/-- The stages of the polls. -/
def polls : List (PumpStage Digest) :=
  pump.turns pump.pollsBegin.runtime.activeComponents pump.pollsBegin

/-- The stages of a pump from the polls on. After the polls come the queued actions of users, and
the requests of the second half. -/
def stages : List (PumpStage Digest) :=
  pump.polls ++ (pump.script.actions.map HostEvent.runtime ++ pump.script.after.events).map .event

/-- The host after some stages of the pump. -/
def after (stages : List (PumpStage Digest)) : HostRuntime Digest :=
  pump.run stages pump.pollsBegin

end Pump

/-! ## Cooperative work -/

/-- A task is in a session. -/
def HasTask (session : WasmSession) (handle : Nat) (task : ActiveWasmTask) : Prop :=
  ∃ host, session.hostState = some host ∧ host.activeTasks.lookup handle = some task

/-- A task is in some runtime. -/
def InRuntime (state : RuntimeState) (runtime : ComponentRef) (handle : Nat)
    (task : ActiveWasmTask) : Prop :=
  ∃ session, state.sessions.lookup runtime = some session ∧ HasTask session handle task

/-- A task of a component of an active instance, in some runtime. -/
def Scheduled (state : RuntimeState) (runtime : ComponentRef) (handle : Nat)
    (task : ActiveWasmTask) : Prop :=
  InRuntime state runtime handle task ∧ state.engine.isActive task.owner.instanceId = true

/-- A job that is pending or leased, with the time at which it is due. -/
def Outstanding (host : HostRuntime Digest) (time : UnixTimeMillis) : Prop :=
  ∃ worldId store row, host.activeWorlds.lookup worldId = some store ∧
    row ∈ store.effectJobs ∧ wakeupTime row = some time.get

/-- The host wakes up for every task and every job that is there when the pump returns. -/
structure WakesInTime (clock : PumpClock) (outcome : PumpOutcome Digest) : Prop where
  tasks : ∀ runtime handle task, Scheduled outcome.host.runtime runtime handle task →
    ∃ delay, outcome.delay = some delay ∧ delay ≤ task.nextDue - clock.now
  jobs : ∀ time, Outstanding outcome.host time →
    ∃ delay, outcome.delay = some delay ∧ delay ≤ (time.get - clock.unixTime.get).toNat

namespace Pump

variable (pump : Pump Digest)

/-- What the poll of a session comes to in a pump. -/
def pollOf (context : ComponentIdentity) (session : WasmSession) :
    WasmSession × Except String (Option Nat) :=
  session.pollRuntime context pump.clock.now (pump.script.polls context.owner).instantiation
    (pump.script.polls context.owner).tasks

/-- A component whose runtime has a task at the end of its poll, which succeeds. -/
def PollSees (host : HostRuntime Digest) (context : ComponentIdentity) (handle : Nat)
    (task : ActiveWasmTask) : Prop :=
  ∃ session ran delay, host.runtime.sessions.lookup context.owner = some session ∧
    pump.pollOf context session = (ran, .ok delay) ∧ HasTask ran handle task

/-- Work that is due within a time and that a pump takes into account: a task that is in a runtime
at the end of its poll, what a component without a runtime answers when it is polled, or a job that
is in an outbox after the last stage. -/
inductive KnownWithin (limit : Nat) : Prop
  | task {earlier later : List (PumpStage Digest)} {context : ComponentIdentity} {handle : Nat}
      {task : ActiveWasmTask} (hpoll : pump.stages = earlier ++ .poll context :: later)
      (hsees : pump.PollSees (pump.after earlier) context handle task)
      (hdue : task.nextDue - pump.clock.now ≤ limit)
  | answer {earlier later : List (PumpStage Digest)} {context : ComponentIdentity} {delay : Nat}
      (hpoll : pump.stages = earlier ++ .poll context :: later)
      (hnone : (pump.after earlier).runtime.sessions.lookup context.owner = none)
      (hanswer : (pump.script.polls context.owner).answer = .ok (some delay))
      (hdue : delay ≤ limit)
  | job {time : UnixTimeMillis} (hjob : Outstanding (pump.after pump.stages) time)
      (hdue : delayUntil pump.clock.unixTime time ≤ limit)

/-- How a task comes to be in a runtime without being there at the end of a poll of it. The
runtime is not that of a component of an instance that is active when the polls begin, its
instance becomes inactive during the polls, its poll fails, or a stage after its poll schedules the
task. -/
inductive Late (runtime : ComponentRef) (handle : Nat) (task : ActiveWasmTask) : Prop
  | inactive (hinactive : ∀ ext ∈ pump.pollsBegin.runtime.engine.extensions.values,
      ext.state = .active → ∀ component ∈ ext.components,
        (⟨ext.instanceId, component.id⟩ : ComponentRef) ≠ runtime)
  | stopped {earlier later : List (PumpStage Digest)} (hpolls : pump.polls = earlier ++ later)
      (hstopped : (pump.after earlier).runtime.engine.isActive runtime.instanceId = false)
  | failed {earlier later : List (PumpStage Digest)} {context : ComponentIdentity}
      {session : WasmSession} {reason : String}
      (hpoll : pump.stages = earlier ++ .poll context :: later) (howner : context.owner = runtime)
      (hsession : (pump.after earlier).runtime.sessions.lookup runtime = some session)
      (hfailed : (pump.pollOf context session).2 = .error reason)
  | scheduled {earlier middle later : List (PumpStage Digest)} {context : ComponentIdentity}
      {event : HostEvent Digest}
      (hstages : pump.stages = earlier ++ .poll context :: (middle ++ .event event :: later))
      (howner : context.owner = runtime)
      (hbefore : ¬ InRuntime (pump.after (earlier ++ .poll context :: middle)).runtime
        runtime handle task)
      (hafter : InRuntime ((pump.after (earlier ++ .poll context :: middle)).perform event).runtime
        runtime handle task)

end Pump

/-! ## Delays -/

variable {limit : Nat} {context : ComponentIdentity} {state : RuntimeState}

theorem exists_min?_le_iff {delays : List Nat} :
    (∃ least, delays.min? = some least ∧ least ≤ limit) ↔ ∃ delay ∈ delays, delay ≤ limit := by
  constructor
  · rintro ⟨least, hleast, hle⟩
    exact ⟨least, (List.min?_eq_some_iff.mp hleast).1, hle⟩
  · rintro ⟨delay, hmem, hle⟩
    obtain ⟨least, hleast⟩ := Option.isSome_iff_exists.mp (List.isSome_min?_of_mem hmem)
    exact ⟨least, hleast, ((List.min?_eq_some_iff.mp hleast).2 delay hmem).trans hle⟩

theorem minOptionalDuration_le_iff {left right : Option Nat} :
    (∃ least, minOptionalDuration left right = some least ∧ least ≤ limit) ↔
      (∃ delay, left = some delay ∧ delay ≤ limit) ∨
        ∃ delay, right = some delay ∧ delay ≤ limit := by
  cases left with
  | none => cases right <;> simp [minOptionalDuration]
  | some left =>
      cases right with
      | none => simp [minOptionalDuration]
      | some right => simp [minOptionalDuration]

theorem delayUntil_mono {now first second : UnixTimeMillis} (h : first.get ≤ second.get) :
    delayUntil now first ≤ delayUntil now second := by
  unfold delayUntil
  omega

theorem delayUntil_le (now wakeup : UnixTimeMillis) :
    delayUntil now wakeup ≤ (wakeup.get - now.get).toNat := by
  unfold delayUntil
  omega

/-- The wake-up time of an outbox is that of its first job. -/
theorem nextWakeup_first {store : WorldStore Digest} {time : Int} :
    (∃ row ∈ store.effectJobs, wakeupTime row = some time) →
      ∃ wakeup, nextWakeup store = some wakeup ∧ wakeup.get ≤ time := by
  intro h
  obtain ⟨least, hleast⟩ := Option.isSome_iff_exists.mp
    (List.isSome_min?_of_mem (mem_wakeupTimes.mpr h))
  refine ⟨⟨least⟩, ?_, (List.min?_eq_some_iff.mp hleast).2 time (mem_wakeupTimes.mpr h)⟩
  rw [nextWakeup, hleast]
  rfl

theorem exists_row_of_nextWakeup {store : WorldStore Digest} {wakeup : UnixTimeMillis}
    (h : nextWakeup store = some wakeup) :
    ∃ row ∈ store.effectJobs, wakeupTime row = some wakeup.get := by
  obtain ⟨least, hleast, rfl⟩ := Option.map_eq_some_iff.mp h
  exact mem_wakeupTimes.mp (List.min?_eq_some_iff.mp hleast).1

/-- The delay until the next job is that of some job, and no job is due before. -/
theorem nextEffectWakeupDelay_le_iff {host : HostRuntime Digest} {now : UnixTimeMillis} :
    (∃ delay, host.nextEffectWakeupDelay now = some delay ∧ delay ≤ limit) ↔
      ∃ time, Outstanding host time ∧ delayUntil now time ≤ limit := by
  unfold HostRuntime.nextEffectWakeupDelay
  rw [exists_min?_le_iff]
  constructor
  · rintro ⟨delay, hmem, hle⟩
    obtain ⟨store, hstore, hdelay⟩ := List.mem_filterMap.mp hmem
    obtain ⟨wakeup, hwakeup, rfl⟩ := Option.map_eq_some_iff.mp hdelay
    obtain ⟨worldId, hworld⟩ := Dict.mem_values_iff.mp hstore
    obtain ⟨row, hrow, htime⟩ := exists_row_of_nextWakeup hwakeup
    exact ⟨wakeup, ⟨worldId, store, row, hworld, hrow, htime⟩, hle⟩
  · rintro ⟨time, ⟨worldId, store, row, hworld, hrow, htime⟩, hle⟩
    obtain ⟨wakeup, hwakeup, hfirst⟩ := nextWakeup_first ⟨row, hrow, htime⟩
    refine ⟨delayUntil now wakeup, List.mem_filterMap.mpr ⟨store,
      Dict.mem_values_iff.mpr ⟨worldId, hworld⟩, by rw [hwakeup]; rfl⟩, ?_⟩
    exact (delayUntil_mono hfirst).trans hle

/-! ## Polls -/

variable {now : Nat} {answer : Option Nat}

/-- The store of a component asks for a delay within a time exactly when it has a task that is due
within it. -/
theorem nextTaskDueIn_le_iff {host : WasmHostState} :
    (∃ delay, host.nextTaskDueIn now = some delay ∧ delay ≤ limit) ↔
      ∃ handle task, host.activeTasks.lookup handle = some task ∧ task.nextDue - now ≤ limit := by
  unfold WasmHostState.nextTaskDueIn
  rw [exists_min?_le_iff]
  constructor
  · rintro ⟨delay, hmem, hle⟩
    obtain ⟨task, htask, rfl⟩ := List.mem_map.mp hmem
    obtain ⟨handle, hlookup⟩ := Dict.mem_values_iff.mp htask
    exact ⟨handle, task, hlookup, hle⟩
  · rintro ⟨handle, task, hlookup, hle⟩
    exact ⟨_, List.mem_map.mpr ⟨task, Dict.mem_values_iff.mpr ⟨handle, hlookup⟩, rfl⟩, hle⟩

/-- A poll that succeeds asks for the time until the next task that is in the store then. -/
theorem pollRuntime_delay {session ran : WasmSession} {instantiation : GuestScript}
    {scripts : Nat → GuestScript} {delay : Option Nat}
    (h : session.pollRuntime context now instantiation scripts = (ran, .ok delay)) :
    delay = ran.hostState.bind fun host => host.nextTaskDueIn now := by
  unfold WasmSession.pollRuntime at h
  split at h
  · cases h
  · unfold WasmSession.pollStore at h
    dsimp only at h
    generalize (if session.hostState.isNone = true then
      session.runCallback .instantiate instantiation now else session) = ready at h
    split at h
    · split at h
      · cases h
      · split at h
        · cases h
        · split at h
          · cases h
          · cases h
            rfl
    · cases h

/-- A poll that succeeds asks for a delay within a time exactly when a task is in the session at its
end that is due within it. -/
theorem pollRuntime_delay_le_iff {session ran : WasmSession} {instantiation : GuestScript}
    {scripts : Nat → GuestScript}
    (h : session.pollRuntime context now instantiation scripts = (ran, .ok answer)) :
    (∃ delay, answer = some delay ∧ delay ≤ limit) ↔
      ∃ handle task, HasTask ran handle task ∧ task.nextDue - now ≤ limit := by
  rw [pollRuntime_delay h]
  constructor
  · rintro ⟨delay, hdelay, hle⟩
    obtain ⟨host, hhost, hnext⟩ := Option.bind_eq_some_iff.mp hdelay
    obtain ⟨handle, task, htask, hdue⟩ := nextTaskDueIn_le_iff.mp ⟨delay, hnext, hle⟩
    exact ⟨handle, task, ⟨host, hhost, htask⟩, hdue⟩
  · rintro ⟨handle, task, ⟨host, hhost, htask⟩, hdue⟩
    rw [hhost, Option.bind_some]
    exact nextTaskDueIn_le_iff.mpr ⟨handle, task, htask, hdue⟩

/-- The wake-up with one more component is within a time exactly when the one before is, or that of
the component. -/
theorem sooner_le_iff {nextWake : Option Nat} :
    (∃ least, RuntimeState.sooner nextWake answer = some least ∧ least ≤ limit) ↔
      (∃ least, nextWake = some least ∧ least ≤ limit) ∨
        ∃ delay, answer = some delay ∧ delay ≤ limit := by
  cases answer with
  | none => simp [RuntimeState.sooner]
  | some delay =>
      cases nextWake with
      | none => simp [RuntimeState.sooner]
      | some current => simp [RuntimeState.sooner]

/-- The engine quarantines instances without touching sessions, so a poll leaves the sessions as
the component that is polled leaves them. -/
theorem pollComponent_sessions {script : PollScript} :
    (state.pollComponent context now script).1.sessions =
      (state.pollSession context now script).1.sessions := by
  unfold RuntimeState.pollComponent
  dsimp only
  split
  · rfl
  · rfl

/-- A poll that the engine gets through returns the delay of the component, or none when the
component failed. -/
theorem pollComponent_answer {script : PollScript}
    (h : (state.pollComponent context now script).2 = .ok answer) {delay : Nat} :
    answer = some delay ↔ (state.pollSession context now script).2 = .ok (some delay) := by
  unfold RuntimeState.pollComponent at h
  dsimp only at h
  split at h
  · next asked hasked =>
      obtain ⟨_, -, rfl⟩ := map_eq_ok_iff.mp h
      rw [hasked]
      simp
  · next reason hfailed =>
      obtain ⟨_, -, rfl⟩ := map_eq_ok_iff.mp h
      rw [hfailed]
      simp

/-- The components that the engine polls are those of the active instances. -/
theorem mem_activeComponents_iff :
    context ∈ state.activeComponents ↔
      ∃ ext ∈ state.engine.extensions.values, ext.state = .active ∧
        ∃ component ∈ ext.components,
          context = ⟨ext.manifest.id, ext.instanceId, ext.scopeId, component.id⟩ := by
  unfold RuntimeState.activeComponents
  rw [List.mem_insertionSort, List.mem_flatMap]
  simp only [List.mem_filter, List.mem_map, beq_iff_eq, and_assoc, @eq_comm _ context]

/-! ## The stages of a pump -/

/-- Events that follow each other happen one after the other. -/
theorem performAll_append (host : HostRuntime Digest) (first second : List (HostEvent Digest)) :
    host.performAll (first ++ second) = (host.performAll first).performAll second :=
  List.foldl_append

/-- A pump handles its requests one after the other. -/
theorem pumpRequests_eq (host : HostRuntime Digest) (pumps : RequestPumps Digest) :
    host.pumpRequests pumps = host.performAll pumps.events := by
  simp only [HostRuntime.pumpRequests, RequestPumps.events, performAll_append]

/-- Events of the runtime leave the worlds alone. -/
theorem performAll_runtime (host : HostRuntime Digest) (events : List RuntimeEvent) :
    host.performAll (events.map .runtime) =
      { host with runtime := host.runtime.performAll events } := by
  induction events generalizing host with
  | nil => rfl
  | cons event rest ih => exact ih (host.perform (.runtime event))

namespace Pump

variable {pump : Pump Digest}

/-- Stages that follow each other run one after the other. -/
theorem run_append (first second : List (PumpStage Digest)) (host : HostRuntime Digest) :
    pump.run (first ++ second) host = pump.run second (pump.run first host) :=
  List.foldl_append

/-- Stages in which no component is polled are the events in them. -/
theorem run_events (events : List (HostEvent Digest)) (host : HostRuntime Digest) :
    pump.run (events.map .event) host = host.performAll events :=
  List.foldl_map

/-- The turn of a component is its poll with what follows from it. -/
theorem run_turn (context : ComponentIdentity) (host : HostRuntime Digest) :
    pump.run (pump.turn context) host =
      { host with
        runtime := (host.runtime.pollComponent context pump.clock.now
          (pump.script.polls context.owner)).1.performAll
            (pump.script.polls context.owner).others } :=
  (run_events _ _).trans (performAll_runtime _ _)

/-- What a component is asked for in a stage: a poll that the component answers with a delay. -/
inductive Asks (pump : Pump Digest) (host : HostRuntime Digest) (limit : Nat) :
    PumpStage Digest → Prop
  | poll {context : ComponentIdentity} {delay : Nat}
      (hanswer : (host.runtime.pollSession context pump.clock.now
        (pump.script.polls context.owner)).2 = .ok (some delay)) (hdue : delay ≤ limit) :
      Asks pump host limit (.poll context)

/-- In events nobody is polled. -/
theorem not_asks_events {events : List (HostEvent Digest)}
    {hosts : List (PumpStage Digest) → HostRuntime Digest} :
    ¬ ∃ earlier stage later, events.map PumpStage.event = earlier ++ stage :: later ∧
      Asks pump (hosts earlier) limit stage := by
  rintro ⟨earlier, stage, later, hsplit, hasks⟩
  have hmem : stage ∈ events.map PumpStage.event := by
    rw [hsplit]
    exact List.mem_append_right _ List.mem_cons_self
  obtain ⟨event, -, rfl⟩ := List.mem_map.mp hmem
  cases hasks

/-- In the turn of a component nobody else is polled. -/
theorem asks_turn_iff {host : HostRuntime Digest} :
    (∃ earlier stage later, pump.turn context = earlier ++ stage :: later ∧
      Asks pump (pump.run earlier host) limit stage) ↔ Asks pump host limit (.poll context) := by
  constructor
  · intro h
    rcases exists_place_append_iff.mp (show ∃ earlier stage later,
        [PumpStage.poll context] ++ ((pump.script.polls context.owner).others.map
          HostEvent.runtime).map .event = earlier ++ stage :: later ∧
            Asks pump (pump.run earlier host) limit stage from h)
      with ⟨earlier, stage, later, hsplit, hasks⟩ | hevents
    · cases earlier with
      | nil =>
          obtain ⟨rfl, -⟩ := List.cons.inj hsplit
          exact hasks
      | cons first earlier => simp at hsplit
    · exact absurd hevents not_asks_events
  · exact fun hasks => ⟨[], _, _, rfl, hasks⟩

/-- The engine goes through the turns of the components, and returns the earliest wake-up that was
asked for in them. -/
theorem pollComponents_turns {contexts : List ComponentIdentity} {host : HostRuntime Digest}
    {nextWake : Option Nat} {polled : RuntimeState × Option Nat}
    (h : RuntimeState.pollComponents pump.clock.now pump.script.polls contexts host.runtime
      nextWake = .ok polled) :
    pump.run (pump.turns contexts host) host = { host with runtime := polled.1 } ∧
      ∀ limit, (∃ least, polled.2 = some least ∧ least ≤ limit) ↔
        (∃ least, nextWake = some least ∧ least ≤ limit) ∨
          ∃ earlier stage later, pump.turns contexts host = earlier ++ stage :: later ∧
            Asks pump (pump.run earlier host) limit stage := by
  induction contexts generalizing host nextWake with
  | nil =>
      cases h
      exact ⟨rfl, fun limit => by simp [turns]⟩
  | cons context rest ih =>
      unfold RuntimeState.pollComponents at h
      unfold turns
      split at h
      · next hactive =>
          rw [if_pos hactive]
          split at h
          · cases h
          · next state answer hpolled =>
              have hturn : pump.run (pump.turn context) host = { host with
                  runtime := state.performAll (pump.script.polls context.owner).others } := by
                rw [run_turn, hpolled]
              have hanswer : ∀ delay, answer = some delay ↔
                  (host.runtime.pollSession context pump.clock.now
                    (pump.script.polls context.owner)).2 = .ok (some delay) :=
                fun delay => pollComponent_answer (congrArg Prod.snd hpolled)
              have hrest : RuntimeState.pollComponents pump.clock.now pump.script.polls rest
                  (pump.run (pump.turn context) host).runtime
                  (RuntimeState.sooner nextWake answer) = .ok polled := by
                rw [hturn]
                exact h
              obtain ⟨hrun, hwake⟩ := ih hrest
              refine ⟨by rw [run_append, hrun, hturn], fun limit => ?_⟩
              have hfirst : (∃ delay, answer = some delay ∧ delay ≤ limit) ↔
                  Asks pump host limit (.poll context) := by
                constructor
                · rintro ⟨delay, hdelay, hle⟩
                  exact .poll ((hanswer delay).mp hdelay) hle
                · rintro ⟨hasked, hle⟩
                  exact ⟨_, (hanswer _).mpr hasked, hle⟩
              rw [hwake, sooner_le_iff, exists_place_append_iff, asks_turn_iff, hfirst, or_assoc]
              simp only [run_append]
      · next hinactive =>
          rw [if_neg hinactive]
          exact ih h

/-- A component whose instance is active when its turn comes is polled. -/
theorem mem_turns {contexts : List ComponentIdentity} {host : HostRuntime Digest}
    (h : context ∈ contexts) :
    .poll context ∈ pump.turns contexts host ∨
      ∃ earlier later, pump.turns contexts host = earlier ++ later ∧
        (pump.run earlier host).runtime.engine.isActive context.instanceId = false := by
  induction contexts generalizing host with
  | nil => cases h
  | cons next rest ih =>
      unfold turns
      by_cases hactive : host.runtime.engine.isActive next.instanceId = true
      · rw [if_pos hactive]
        rcases List.mem_cons.mp h with rfl | hrest
        · exact .inl (List.mem_append_left _ List.mem_cons_self)
        · rcases @ih (pump.run (pump.turn next) host) hrest with
            hpolled | ⟨earlier, later, hsplit, hstopped⟩
          · exact .inl (List.mem_append_right _ hpolled)
          · refine .inr ⟨pump.turn next ++ earlier, later, by rw [hsplit, List.append_assoc], ?_⟩
            rw [run_append]
            exact hstopped
      · rw [if_neg hactive]
        rcases List.mem_cons.mp h with rfl | hrest
        · exact .inr ⟨[], _, rfl, Bool.eq_false_of_not_eq_true hactive⟩
        · exact ih hrest

/-- A pump runs its stages, and it returns the least of the delays that were asked for in them and
of that until the next job. -/
theorem pollRuntime_stages {outcome : PumpOutcome Digest}
    (h : pump.host.pollRuntime pump.clock pump.script = .ok outcome) :
    outcome.host = pump.after pump.stages ∧
      ∀ limit, (∃ delay, outcome.delay = some delay ∧ delay ≤ limit) ↔
        (∃ earlier stage later, pump.stages = earlier ++ stage :: later ∧
          Asks pump (pump.after earlier) limit stage) ∨
        ∃ time, Outstanding (pump.after pump.stages) time ∧
          delayUntil pump.clock.unixTime time ≤ limit := by
  unfold HostRuntime.pollRuntime at h
  dsimp only at h
  rw [pumpRequests_eq] at h
  split at h
  · cases h
  · next runtime engineDelay hpolled =>
      cases h
      obtain ⟨polled, hcomponents, hsame⟩ := map_eq_ok_iff.mp hpolled
      cases hsame
      obtain ⟨hrun, hwake⟩ := @pollComponents_turns _ pump
        pump.pollsBegin.runtime.activeComponents pump.pollsBegin _ _ hcomponents
      have hend : ({ pump.pollsBegin with
          runtime := polled.1.performAll pump.script.actions } :
            HostRuntime Digest).pumpRequests pump.script.after = pump.after pump.stages := by
        rw [Pump.after, stages, run_append, polls, hrun, run_events, pumpRequests_eq,
          performAll_append, performAll_runtime]
      refine ⟨hend, fun limit => ?_⟩
      rw [← hend, minOptionalDuration_le_iff, nextEffectWakeupDelay_le_iff, hwake, stages,
        exists_place_append_iff, or_iff_left not_asks_events]
      simp only [reduceCtorEq, false_and, exists_false, false_or]
      rfl

end Pump

/-! ## Wake-ups -/

namespace Pump

variable {pump : Pump Digest}

/-- A component asks for a delay within a time exactly when a task is in its runtime at the end of
its poll that is due within it, or when it has no runtime and answers so. -/
theorem asks_poll_iff {host : HostRuntime Digest} :
    Asks pump host limit (.poll context) ↔
      (∃ handle task, pump.PollSees host context handle task ∧
        task.nextDue - pump.clock.now ≤ limit) ∨
      (host.runtime.sessions.lookup context.owner = none ∧ ∃ delay,
        (pump.script.polls context.owner).answer = .ok (some delay) ∧ delay ≤ limit) := by
  have hasks : Asks pump host limit (.poll context) ↔ ∃ delay, (host.runtime.pollSession context
      pump.clock.now (pump.script.polls context.owner)).2 = .ok (some delay) ∧ delay ≤ limit :=
    ⟨fun ⟨hanswer, hdue⟩ => ⟨_, hanswer, hdue⟩, fun ⟨_, hanswer, hdue⟩ => .poll hanswer hdue⟩
  rw [hasks]
  unfold RuntimeState.pollSession
  cases hsession : host.runtime.sessions.lookup context.owner with
  | none => simp [PollSees, hsession]
  | some session =>
      dsimp only
      rw [or_iff_left (fun hnone => Option.some_ne_none _ hnone.1)]
      constructor
      · rintro ⟨delay, hanswer, hle⟩
        obtain ⟨handle, task, htask, hdue⟩ :=
          (pollRuntime_delay_le_iff (Prod.ext rfl hanswer)).mp ⟨delay, rfl, hle⟩
        exact ⟨handle, task, ⟨session, _, _, hsession, Prod.ext rfl hanswer, htask⟩, hdue⟩
      · rintro ⟨handle, task, ⟨session', ran, answer, hsession', hran, htask⟩, hdue⟩
        rw [hsession] at hsession'
        cases hsession'
        obtain ⟨delay, rfl, hle⟩ := (pollRuntime_delay_le_iff hran).mpr ⟨handle, task, htask, hdue⟩
        exact ⟨delay, congrArg Prod.snd hran, hle⟩

/-- The host wakes up within a time exactly when the pump takes work into account that is due within
it. -/
theorem wakes_within_iff {outcome : PumpOutcome Digest}
    (h : pump.host.pollRuntime pump.clock pump.script = .ok outcome) :
    (∃ delay, outcome.delay = some delay ∧ delay ≤ limit) ↔ pump.KnownWithin limit := by
  rw [(pollRuntime_stages h).2]
  constructor
  · rintro (⟨earlier, stage, later, hstages, hasks⟩ | ⟨time, hjob, hdue⟩)
    · obtain ⟨context, rfl⟩ : ∃ context, stage = .poll context := by
        cases hasks
        exact ⟨_, rfl⟩
      rcases asks_poll_iff.mp hasks with ⟨handle, task, hsees, hdue⟩ | ⟨hnone, delay, hanswer, hle⟩
      · exact .task hstages hsees hdue
      · exact .answer hstages hnone hanswer hle
    · exact .job hjob hdue
  · intro hknown
    cases hknown with
    | task hpoll hsees hdue =>
        exact .inl ⟨_, _, _, hpoll, asks_poll_iff.mpr (.inl ⟨_, _, hsees, hdue⟩)⟩
    | answer hpoll hnone hanswer hdue =>
        exact .inl ⟨_, _, _, hpoll, asks_poll_iff.mpr (.inr ⟨hnone, _, hanswer, hdue⟩)⟩
    | job hjob hdue => exact .inr ⟨_, hjob, hdue⟩

/-- A task that is in a runtime after a poll was there before, in the runtime of another component,
or the poll is that of its runtime and succeeds or fails. -/
theorem inRuntime_poll {host : HostRuntime Digest} {runtime : ComponentRef} {handle : Nat}
    {task : ActiveWasmTask}
    (h : InRuntime (pump.runStage host (.poll context)).runtime runtime handle task) :
    (context.owner ≠ runtime ∧ InRuntime host.runtime runtime handle task) ∨
      (context.owner = runtime ∧ (pump.PollSees host context handle task ∨
        ∃ session reason, host.runtime.sessions.lookup runtime = some session ∧
          (pump.pollOf context session).2 = .error reason)) := by
  obtain ⟨session, hsession, htask⟩ := h
  change AList.lookup runtime (host.runtime.pollComponent context pump.clock.now
    (pump.script.polls context.owner)).1.sessions = some session at hsession
  rw [pollComponent_sessions] at hsession
  unfold RuntimeState.pollSession at hsession
  by_cases howner : context.owner = runtime
  · refine .inr ⟨howner, ?_⟩
    subst howner
    cases hfound : host.runtime.sessions.lookup context.owner with
    | none =>
        rw [hfound] at hsession
        dsimp only at hsession
        rw [hfound] at hsession
        cases hsession
    | some found =>
        rw [hfound] at hsession
        dsimp only at hsession
        rw [AList.lookup_insert] at hsession
        cases hsession
        cases hanswer : (pump.pollOf context found).2 with
        | ok delay => exact .inl ⟨found, _, delay, hfound, Prod.ext rfl hanswer, htask⟩
        | error reason => exact .inr ⟨found, reason, rfl, hanswer⟩
  · refine .inl ⟨howner, session, ?_, htask⟩
    split at hsession
    · exact hsession
    · dsimp only at hsession
      rwa [AList.lookup_insert_ne (Ne.symm howner)] at hsession

/-- A task that is in a runtime after the last stage was there at the end of a poll of the runtime,
or it is late. -/
theorem late_of_inRuntime {runtime : ComponentRef} {handle : Nat} {task : ActiveWasmTask}
    (h : InRuntime (pump.after pump.stages).runtime runtime handle task) :
    (∃ earlier context later, pump.stages = earlier ++ .poll context :: later ∧
      pump.PollSees (pump.after earlier) context handle task) ∨ pump.Late runtime handle task := by
  have hpolled : ∀ {earlier context later}, pump.stages = earlier ++ .poll context :: later →
      context.owner = runtime →
      InRuntime (pump.runStage (pump.after earlier) (.poll context)).runtime runtime handle task →
      (∃ earlier context later, pump.stages = earlier ++ .poll context :: later ∧
        pump.PollSees (pump.after earlier) context handle task) ∨
        pump.Late runtime handle task := by
    intro earlier context later hstages howner hthere
    rcases inRuntime_poll hthere
      with ⟨hother, -⟩ | ⟨-, hsees | ⟨session, reason, hsession, hfailed⟩⟩
    · exact absurd howner hother
    · exact .inl ⟨earlier, context, later, hstages, hsees⟩
    · exact .inr (.failed hstages howner hsession hfailed)
  by_cases hmem : ∃ context, .poll context ∈ pump.stages ∧ context.owner = runtime
  · obtain ⟨context, hpoll, howner⟩ := hmem
    obtain ⟨earlier, later, hstages⟩ := List.append_of_mem hpoll
    by_cases hthere : InRuntime (pump.runStage (pump.after earlier) (.poll context)).runtime runtime
      handle task
    · exact hpolled hstages howner hthere
    · have hend : InRuntime (later.foldl pump.runStage
          (pump.runStage (pump.after earlier) (.poll context))).runtime runtime handle task := by
        rw [hstages, Pump.after, run_append] at h
        exact h
      obtain ⟨middle, stage, rest, rfl, hbefore, hafter⟩ := exists_step_of_foldl
        (P := fun host : HostRuntime Digest => InRuntime host.runtime runtime handle task)
        hthere hend
      have hmiddle : pump.after (earlier ++ .poll context :: middle) = middle.foldl pump.runStage
          (pump.runStage (pump.after earlier) (.poll context)) :=
        run_append _ _ _
      rw [← hmiddle] at hbefore hafter
      cases stage with
      | event event => exact .inr (.scheduled hstages howner hbefore hafter)
      | poll other =>
          by_cases hsame : other.owner = runtime
          · have hplace : pump.stages =
                (earlier ++ .poll context :: middle) ++ .poll other :: rest := by
              rw [hstages, List.append_assoc, List.cons_append]
            exact hpolled hplace hsame hafter
          · rcases inRuntime_poll hafter with ⟨-, hfound⟩ | ⟨hothers, -⟩
            · exact absurd hfound hbefore
            · exact absurd hothers hsame
  · right
    by_cases hactive : ∃ context ∈ pump.pollsBegin.runtime.activeComponents,
      context.owner = runtime
    · obtain ⟨context, hcontext, rfl⟩ := hactive
      rcases mem_turns hcontext with hpoll | ⟨earlier, later, hpolls, hstopped⟩
      · exact absurd ⟨context, List.mem_append_left _ hpoll, rfl⟩ hmem
      · exact .stopped hpolls hstopped
    · refine .inactive fun ext hext hstate component hcomponent howner => hactive
        ⟨⟨ext.manifest.id, ext.instanceId, ext.scopeId, component.id⟩, ?_, howner⟩
      exact mem_activeComponents_iff.mpr ⟨ext, hext, hstate, component, hcomponent, rfl⟩

end Pump

/-- A pump returns in time for all work exactly when the late tasks of active instances are due no
earlier than some work that it takes into account. The condition is about the host that the pump
finds, the clocks and what guests and users do in the stages. -/
theorem wakes_in_time_iff {pump : Pump Digest} {outcome : PumpOutcome Digest}
    (h : pump.host.pollRuntime pump.clock pump.script = .ok outcome) :
    WakesInTime pump.clock outcome ↔
      ∀ runtime handle task,
        Scheduled (pump.after pump.stages).runtime runtime handle task →
        pump.Late runtime handle task → pump.KnownWithin (task.nextDue - pump.clock.now) := by
  have hend := (Pump.pollRuntime_stages h).1
  constructor
  · intro hwakes runtime handle task hscheduled _
    rw [← hend] at hscheduled
    exact (Pump.wakes_within_iff h).mp (hwakes.tasks runtime handle task hscheduled)
  · intro hlate
    refine ⟨fun runtime handle task hscheduled => (Pump.wakes_within_iff h).mpr ?_,
      fun time houtstanding => (Pump.wakes_within_iff h).mpr ?_⟩
    · rw [hend] at hscheduled
      rcases Pump.late_of_inRuntime hscheduled.1
        with ⟨earlier, context, later, hpoll, hsees⟩ | hlater
      · exact .task hpoll hsees (Nat.le_refl _)
      · exact hlate runtime handle task hscheduled hlater
    · rw [hend] at houtstanding
      exact .job houtstanding (delayUntil_le _ _)

end Model

/-! ## A task of an action -/

/-- An active component that has spawned some tasks when it was started. -/
def startedHost (calls : List (HostEnvironment × CapabilityCall)) : HostRuntime Unit where
  runtime :=
    ⟨(Engine.new.runAll
      [.registerExtensionInstance providerContext.instanceId providerContext.scopeId
          ⟨providerContext.extensionId, []⟩ [⟨providerContext.componentId, ⟨none⟩, [], none⟩],
        .startExtensionInstance providerContext.instanceId .quiet]).1,
      (∅ : Dict _ _).insert providerContext.owner
        (providerSession.runCallback (.start providerContext) ⟨calls, .returned⟩ 0)⟩
  activeWorlds := ∅

/-- A pump without requests. A user acts in the meantime, and the component spawns a task that
runs every second. -/
def actionPump (calls : List (HostEnvironment × CapabilityCall)) : Pump Unit where
  host := startedHost calls
  clock := ⟨0, ⟨0⟩⟩
  script :=
    { before := ⟨[], [], [], [], []⟩
      signals := []
      effects := []
      polls := fun _ =>
        ⟨.ok none, ⟨[], .returned⟩, fun _ => ⟨[], .returned⟩, [], fun _ => .quiet, []⟩
      actions :=
        [.guest providerContext.owner (.uiAction providerContext)
          ⟨[(answeringEnvironment hostingServices, .spawnPeriodic 1000)], .returned⟩ 0]
      after := ⟨[], [], [], [], []⟩ }

/-- What the pump returns, and whether the component has a task under a handle then. -/
def actionEnds (calls : List (HostEnvironment × CapabilityCall)) (delay : Option Nat)
    (handle : Nat) : Bool :=
  match (actionPump calls).host.pollRuntime (actionPump calls).clock (actionPump calls).script with
  | .ok outcome =>
      (outcome.delay == delay) && outcome.host.activeWorlds.entries.isEmpty &&
        (outcome.host.runtime.sessions.values.all fun session =>
          session.hostState.all fun host =>
            host.activeTasks.entries.values.all fun task =>
              delay.all fun delay => delay ≤ task.nextDue) &&
        ((outcome.host.runtime.sessions.lookup providerContext.owner).bind fun session =>
          session.hostState.bind fun host => host.activeTasks.lookup handle).any fun task =>
            outcome.host.runtime.engine.isActive task.owner.instanceId
  | .error _ => false

/-- What a pump that ends so leaves. -/
theorem actionPump_outcome (calls : List (HostEnvironment × CapabilityCall)) (delay : Option Nat)
    (handle : Nat) (h : actionEnds calls delay handle = true) : ∃ outcome,
    (actionPump calls).host.pollRuntime (actionPump calls).clock (actionPump calls).script =
      .ok outcome ∧ outcome.delay = delay ∧ outcome.host.activeWorlds = ∅ ∧
    (∀ runtime other task, InRuntime outcome.host.runtime runtime other task →
      ∀ least, delay = some least → least ≤ task.nextDue) ∧
    ∃ task, Scheduled outcome.host.runtime providerContext.owner handle task := by
  unfold actionEnds at h
  split at h
  · next outcome houtcome =>
      simp only [Bool.and_eq_true, List.all_eq_true, Option.all_eq_true, Option.any_eq_true,
        beq_iff_eq, decide_eq_true_eq, List.isEmpty_iff] at h
      obtain ⟨⟨⟨hdelay, hworlds⟩, hdue⟩, task, htask, hactive⟩ := h
      obtain ⟨session, hsession, hstored⟩ := Option.bind_eq_some_iff.mp htask
      obtain ⟨host, hhost, hlookup⟩ := Option.bind_eq_some_iff.mp hstored
      refine ⟨outcome, houtcome, hdelay, AList.ext hworlds, ?_, task,
        ⟨session, hsession, host, hhost, hlookup⟩, hactive⟩
      rintro runtime other task ⟨session, hsession, host, hhost, hlookup⟩ least hleast
      exact hdue session (Dict.mem_values_iff.mpr ⟨_, hsession⟩) host hhost task
        (Dict.mem_values_iff.mpr ⟨_, hlookup⟩) least hleast
  · cases h

/-- A pump in which the component has a task that runs every half second, before a user acts. -/
def halfSecondPump : Pump Unit :=
  actionPump [(answeringEnvironment hostingServices, .spawnPeriodic 500)]

/-- The pump returns the time until the task that it polls, and the task of the action, which is
due later, is no reason to return earlier. -/
theorem wakes_in_time_action : ∃ outcome,
    halfSecondPump.host.pollRuntime halfSecondPump.clock halfSecondPump.script = .ok outcome ∧
    outcome.delay = some 500 ∧
    (∃ task, Scheduled outcome.host.runtime providerContext.owner 1 task) ∧
    ∀ runtime handle task,
      Scheduled (halfSecondPump.after halfSecondPump.stages).runtime runtime handle task →
      halfSecondPump.Late runtime handle task →
      halfSecondPump.KnownWithin (task.nextDue - halfSecondPump.clock.now) := by
  obtain ⟨outcome, houtcome, hdelay, hworlds, hdue, htask⟩ := actionPump_outcome
    [(answeringEnvironment hostingServices, .spawnPeriodic 500)] (some 500) 1 (by decide +kernel)
  have hwakes : WakesInTime halfSecondPump.clock outcome ↔ _ :=
    @wakes_in_time_iff _ halfSecondPump _ houtcome
  refine ⟨outcome, houtcome, hdelay, htask, hwakes.mp ⟨?_, ?_⟩⟩
  · exact fun runtime handle task hscheduled =>
      ⟨500, hdelay, hdue runtime handle task hscheduled.1 500 rfl⟩
  · rintro time ⟨worldId, store, row, hworld, -⟩
    rw [hworlds] at hworld
    cases hworld

/-- The pump returns no delay for a task that came up after the polls. -/
theorem action_without_wakeup : ∃ outcome,
    (actionPump []).host.pollRuntime (actionPump []).clock (actionPump []).script = .ok outcome ∧
    outcome.delay = none ∧ ¬ WakesInTime (actionPump []).clock outcome := by
  obtain ⟨outcome, houtcome, hnone, -, -, task, hscheduled⟩ := actionPump_outcome [] none 0
    (by decide +kernel)
  refine ⟨outcome, houtcome, hnone, fun hwakes => ?_⟩
  obtain ⟨delay, hdelay, -⟩ := hwakes.tasks _ _ _ hscheduled
  rw [hnone] at hdelay
  cases hdelay

end Rintawa.Host
