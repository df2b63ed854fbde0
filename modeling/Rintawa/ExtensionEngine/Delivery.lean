/-
# Delivery of runtime events

An event or a signal is delivered to the components of one scope that subscribe to its
topic. The subscribers are determined once, and each of them has a turn. A callback that
fails has its instance quarantined, and the delivery goes on with the next subscriber.
-/

import Rintawa.ExtensionEngine.ResolutionOrder
import Rintawa.ExtensionEngine.TargetDependencies
import Rintawa.Lib.Lists

namespace Rintawa.ExtensionEngine

open Rintawa.Lib Rintawa.Sdk Rintawa.UiRuntime

/-! ## Subscribers -/

/-- The two kinds of things that are delivered. -/
inductive RuntimeStream
  | event
  | signal
  deriving DecidableEq

namespace RuntimeStream

/-- The effect of a component that subscribes to a topic. -/
def subscription : RuntimeStream → String → RuntimeEffect
  | .event, topic => .eventSubscription topic
  | .signal, topic => .signalSubscription topic

/-- The error for a blank topic. -/
def invalidTopic : RuntimeStream → EngineError
  | .event => .invalidRuntimeEventTopic
  | .signal => .invalidRuntimeSignalTopic

end RuntimeStream

namespace RuntimeEffectRegistry

variable (registry : RuntimeEffectRegistry)

/-- The owners of an effect, in order and each of them once. -/
def owners (effect : RuntimeEffect) : List ComponentRef :=
  (((registry.effects.values.filter fun owned => decide (owned.effect = effect)).map
    fun owned => owned.owner).insertionSort componentRefLe).destutter (· ≠ ·)

/-- The subscribers to the events of a topic. -/
def eventSubscribers (topic : String) : List ComponentRef :=
  registry.owners (.eventSubscription topic)

/-- The subscribers to the signals of a topic. -/
def signalSubscribers (topic : String) : List ComponentRef :=
  registry.owners (.signalSubscription topic)

def subscribers (topic : String) : RuntimeStream → List ComponentRef
  | .event => registry.eventSubscribers topic
  | .signal => registry.signalSubscribers topic

theorem subscribers_eq (topic : String) (stream : RuntimeStream) :
    registry.subscribers topic stream = registry.owners (stream.subscription topic) := by
  cases stream with
  | event | signal => rfl

end RuntimeEffectRegistry

/-- What is sorted and has no repetitions between neighbours has none at all. -/
theorem strict_of_isChain {α : Type} {r : α → α → Prop} [Std.Antisymm r] {entries : List α}
    (hsorted : entries.Pairwise r) (hchain : entries.IsChain (· ≠ ·)) :
    entries.Pairwise fun earlier later => r earlier later ∧ earlier ≠ later := by
  induction entries with
  | nil => exact .nil
  | cons first rest ih =>
      rw [List.pairwise_cons] at hsorted
      have hrest := ih hsorted.2 hchain.tail
      refine List.pairwise_cons.mpr ⟨fun later hlater => ⟨hsorted.1 later hlater, ?_⟩, hrest⟩
      rintro rfl
      cases rest with
      | nil => cases hlater
      | cons next rest =>
          have hne : first ≠ next := (List.isChain_cons_cons.mp hchain).1
          rcases List.mem_cons.mp hlater with hsame | hlater
          · exact hne hsame
          · have hback := (List.pairwise_cons.mp hsorted.2).1 first hlater
            exact hne (antisymm_of r (hsorted.1 next List.mem_cons_self) hback)

namespace RuntimeEffectRegistry

variable (registry : RuntimeEffectRegistry)

/-- A component has an effect. -/
def Holds (owner : ComponentRef) (effect : RuntimeEffect) : Prop :=
  ∃ effectId, registry.effects.lookup effectId = some ⟨owner, effect⟩

theorem mem_owners {owner : ComponentRef} {effect : RuntimeEffect} :
    owner ∈ registry.owners effect ↔ registry.Holds owner effect := by
  unfold owners
  rw [mem_destutter_ne, List.mem_insertionSort, List.mem_map]
  constructor
  · rintro ⟨owned, howned, rfl⟩
    obtain ⟨hmem, heffect⟩ := List.mem_filter.mp howned
    obtain ⟨effectId, hlookup⟩ := Dict.mem_values_iff.mp hmem
    exact ⟨effectId, by rw [hlookup, ← of_decide_eq_true heffect]⟩
  · rintro ⟨effectId, hlookup⟩
    refine ⟨⟨owner, effect⟩, List.mem_filter.mpr ⟨?_, decide_eq_true rfl⟩, rfl⟩
    exact Dict.mem_values_iff.mpr ⟨effectId, hlookup⟩

/-- The owners are in order, and nobody is among them twice. -/
theorem owners_strict (effect : RuntimeEffect) :
    (registry.owners effect).Pairwise fun earlier later =>
      componentRefLe earlier later ∧ earlier ≠ later := by
  apply strict_of_isChain
  · exact (List.pairwise_insertionSort componentRefLe _).sublist (List.destutter_sublist _ _)
  · exact List.isChain_destutter _ _

end RuntimeEffectRegistry

/-! ## Delivery -/

/-- What the components do during a delivery: the callback of each subscriber, and the
callbacks of the instances that are quarantined when it fails. -/
structure DeliveryScript where
  handle : ComponentRef → Callback
  stops : ComponentRef → ExtensionInstanceId → InstanceScript

namespace Engine

/-- A component is one of an active instance in a scope. -/
def receives (engine : Engine) (scopeId : RuntimeScopeId) (owner : ComponentRef) : Bool :=
  (engine.extensions.lookup owner.instanceId).any fun ext =>
    decide (ext.state = .active ∧ ext.scopeId = scopeId ∧
      owner.componentId ∈ ext.components.map fun component => component.id)

/-- The engine after a callback of a running component. -/
def ranCallback (engine : Engine) (owner : ComponentRef) (entry : RuntimeCallback)
    (callback : Callback) : Engine :=
  { engine with
    toEngineFacilities := engine.runCallback engine.secrets owner (.runtime entry) callback }

section Deliveries

variable (scopeId : RuntimeScopeId) (entry : RuntimeCallback) (script : DeliveryScript)

/-- The turn of one subscriber, with the number of callbacks that succeeded. -/
def deliver (engine : Engine) (owner : ComponentRef) : Engine × EngineResult Nat :=
  if engine.receives scopeId owner then
    let ran := engine.ranCallback owner entry (script.handle owner)
    match (script.handle owner).failure with
    | none => (ran, .ok 1)
    | some _ =>
        match ran.quarantineExtensionInstance owner.instanceId (script.stops owner) with
        | (engine, .error error) => (engine, .error error)
        | (engine, .ok ()) => (engine, .ok 0)
  else (engine, .ok 0)

/-- Give every subscriber a turn, up to the first host-level failure. -/
def dispatchRuntimeSubscribers : Engine → List ComponentRef → Engine × EngineResult Nat
  | engine, [] => (engine, .ok 0)
  | engine, owner :: rest =>
      match engine.deliver scopeId entry script owner with
      | (engine, .error error) => (engine, .error error)
      | (engine, .ok delivered) =>
          let dispatched := dispatchRuntimeSubscribers engine rest
          (dispatched.1, dispatched.2.map fun later => delivered + later)

end Deliveries

variable (engine : Engine)

/-- Deliver something to the components of a scope that subscribe to its topic. -/
def dispatchInScope (stream : RuntimeStream) (scopeId : RuntimeScopeId) (topic : String)
    (payload : List UInt8) (script : DeliveryScript) : Engine × EngineResult Nat :=
  if isBlank topic then (engine, .error stream.invalidTopic)
  else
    dispatchRuntimeSubscribers scopeId (.handleEvent topic payload) script engine
      (engine.runtimeEffects.subscribers topic stream)

def dispatchRuntimeEventInScope (scopeId : RuntimeScopeId) (topic : String)
    (payload : List UInt8) (script : DeliveryScript) : Engine × EngineResult Nat :=
  engine.dispatchInScope .event scopeId topic payload script

def dispatchRuntimeSignalInScope (scopeId : RuntimeScopeId) (topic : String)
    (payload : List UInt8) (script : DeliveryScript) : Engine × EngineResult Nat :=
  engine.dispatchInScope .signal scopeId topic payload script

/-! ## Turns -/

/-- A component is one of an instance in a scope. -/
def LivesIn (scopeId : RuntimeScopeId) (owner : ComponentRef) : Prop :=
  ∃ ext, engine.extensions.lookup owner.instanceId = some ext ∧ ext.scopeId = scopeId ∧
    owner.componentId ∈ ext.components.map fun component => component.id

theorem receives_iff {engine : Engine} {scopeId : RuntimeScopeId} {owner : ComponentRef} :
    engine.receives scopeId owner = true ↔
      engine.LivesIn scopeId owner ∧ ActiveIn engine.instances owner.instanceId := by
  unfold receives
  rw [Option.any_eq_true]
  constructor
  · rintro ⟨ext, hfound, htest⟩
    obtain ⟨hactive, hscope, hcomponent⟩ := of_decide_eq_true htest
    exact ⟨⟨ext, hfound, hscope, hcomponent⟩, ext, hfound, hactive⟩
  · rintro ⟨⟨ext, hfound, hscope, hcomponent⟩, other, hother, hactive⟩
    have hsame : some ext = some other := hfound.symm.trans hother
    cases hsame
    exact ⟨ext, hfound, decide_eq_true ⟨hactive, hscope, hcomponent⟩⟩

/-- Whether a callback was one of a running component. -/
def isRuntime (call : ComponentCallback) : Bool :=
  match call.kind with
  | .runtime _ => true
  | .start | .stop => false

/-- The callbacks of running components that were run. -/
def runtimeCalls : List ComponentCallback :=
  engine.callbacks.filter isRuntime

/-- A turn of a delivery: a subscriber, and the engine that it meets. -/
structure Turn where
  engine : Engine
  owner : ComponentRef

/-- The turns of some subscribers, one after the other. -/
def turns (scopeId : RuntimeScopeId) (entry : RuntimeCallback) (script : DeliveryScript) :
    Engine → List ComponentRef → List Turn
  | _, [] => []
  | engine, owner :: rest =>
      ⟨engine, owner⟩ ::
        turns scopeId entry script (engine.deliver scopeId entry script owner).1 rest

/-! ## What shutdowns leave -/

/-- Every component is in the scope where it was. -/
def SameHomes (engine engine' : Engine) : Prop :=
  ∀ scopeId owner, engine'.LivesIn scopeId owner ↔ engine.LivesIn scopeId owner

variable {engine' : Engine}

theorem SameHomes.trans {engine engine'' : Engine} (h : SameHomes engine engine')
    (h' : SameHomes engine' engine'') : SameHomes engine engine'' :=
  fun scopeId owner => (h' scopeId owner).trans (h scopeId owner)

/-- Another state of an instance leaves its components where they are. -/
theorem sameHomes_withState {engine : Engine} {ext : ManagedExtension} {state : ExtensionState}
    (hfound : engine.extensions.lookup ext.instanceId = some ext)
    (hextensions : engine'.extensions =
      engine.extensions.insert ext.instanceId { ext with state := state }) :
    SameHomes engine engine' := by
  intro scopeId owner
  unfold LivesIn
  rw [hextensions, Dict.lookup_insert_ite]
  split
  · next heq =>
      rw [heq, hfound]
      constructor
      · rintro ⟨found, hlookup, hlives⟩
        cases hlookup
        exact ⟨ext, rfl, hlives⟩
      · rintro ⟨found, hlookup, hlives⟩
        cases hlookup
        exact ⟨_, rfl, hlives⟩
  · exact Iff.rfl

/-- Stop callbacks are no callbacks of running components. -/
theorem runtimeCalls_shutDown {engine : Engine} (hconsistent : Consistent engine)
    {ext : ManagedExtension} (hfound : engine.extensions.lookup ext.instanceId = some ext)
    (script : InstanceScript) :
    (engine.shutDown ext script).1.runtimeCalls = engine.runtimeCalls := by
  obtain ⟨ui', hset, -⟩ := Mirrors.setUiActive_false hconsistent.mirrors.ui hfound
    (by decide : ExtensionState.stopped ≠ .active)
  have hcallbacks : (engine.shutDown ext script).1.callbacks =
      engine.callbacks ++ stopLog ext ext.components.zipIdx.reverse := by
    unfold shutDown
    rw [hset]
    exact stopComponents_callbacks engine.secrets ext script _ _
  have hstops : (stopLog ext ext.components.zipIdx.reverse).filter isRuntime = [] := by
    apply List.filter_eq_nil_iff.mpr
    intro call hcall
    obtain ⟨stopped, -, rfl⟩ := List.mem_map.mp hcall
    exact Bool.false_ne_true
  unfold runtimeCalls
  rw [hcallbacks, List.filter_append, hstops, List.append_nil]

theorem ShutDowns.sameHomes {scripts : ExtensionInstanceId → InstanceScript} {engine : Engine}
    {order : List ExtensionInstanceId} (h : ShutDowns scripts engine order engine')
    (hconsistent : Consistent engine) :
    SameHomes engine engine' ∧ engine'.runtimeCalls = engine.runtimeCalls := by
  induction h with
  | nil => exact ⟨fun _ _ => Iff.rfl, rfl⟩
  | @cons engine _ ext _ found active unused after ih =>
      have hfirst := stopped_shutDown hconsistent found (scripts ext.instanceId)
      obtain ⟨hhomes, hcalls⟩ := ih hfirst.consistent
      obtain ⟨facilities', hshut, -, -⟩ :=
        hconsistent.shutDown_cases (scripts ext.instanceId) found
      have hextensions : (engine.shutDown ext (scripts ext.instanceId)).1.extensions =
          engine.extensions.insert ext.instanceId { ext with state := .stopped } := by
        rw [hshut]
      exact ⟨(sameHomes_withState found hextensions).trans hhomes,
        hcalls.trans (runtimeCalls_shutDown hconsistent found _)⟩

/-! ## One turn -/

/-- What a turn does. The component is called when it receives what is delivered. When its
callback fails, its instance and the active ones that depend on it are stopped. -/
structure Delivered (engine : Engine) (scopeId : RuntimeScopeId) (entry : RuntimeCallback)
    (script : DeliveryScript) (owner : ComponentRef) : Prop where
  reachable : engineSystem.Reachable (engine.deliver scopeId entry script owner).1
  homes : SameHomes engine (engine.deliver scopeId entry script owner).1
  calls : (engine.deliver scopeId entry script owner).1.runtimeCalls = engine.runtimeCalls ++
    if engine.receives scopeId owner then [⟨owner, .runtime entry⟩] else []
  active : ∀ other, ActiveIn (engine.deliver scopeId entry script owner).1.instances other ↔
    ActiveIn engine.instances other ∧
      ¬ (engine.receives scopeId owner = true ∧ (script.handle owner).failure ≠ none ∧
        (other = owner.instanceId ∨ engine.ActivelyDependsOn other owner.instanceId))
  result : (engine.deliver scopeId entry script owner).2 =
    .ok (if engine.receives scopeId owner && (script.handle owner).failure.isNone then 1 else 0)

section Turns

variable {engine : Engine} {scopeId : RuntimeScopeId} {owner : ComponentRef}

/-- A component that receives what is delivered is run like any running component. -/
theorem runActive_of_receives (hreceives : engine.receives scopeId owner = true)
    (entry : RuntimeCallback) (callback : Callback)
    (scripts : ExtensionInstanceId → InstanceScript) :
    engine.runActiveComponent owner entry callback scripts =
      if callback.failure.any entry.quarantines then
        (engine.ranCallback owner entry callback).quarantineExtensionInstance owner.instanceId
          scripts
      else (engine.ranCallback owner entry callback, .ok ()) := by
  obtain ⟨⟨ext, hfound, -, hcomponent⟩, other, hother, hactive⟩ := receives_iff.mp hreceives
  have hsame : some ext = some other := hfound.symm.trans hother
  cases hsame
  unfold runActiveComponent
  rw [hfound]
  dsimp only
  rw [if_pos ⟨hactive, hcomponent⟩]
  rfl

/-- Running a callback is a step of the engine. The registries do not depend on whether the
callback fails in the end, so it is the step of a callback that succeeds. -/
theorem reachable_ranCallback (h : engineSystem.Reachable engine)
    (hreceives : engine.receives scopeId owner = true) (entry : RuntimeCallback)
    (callback : Callback) : engineSystem.Reachable (engine.ranCallback owner entry callback) := by
  have hstep : engineSystem.step engine
      ⟨.runActiveComponent owner entry ⟨callback.calls, none⟩ fun _ => .quiet, .ok ()⟩
      (engine.ranCallback owner entry callback) :=
    runActive_of_receives hreceives entry ⟨callback.calls, none⟩ fun _ => .quiet
  exact h.step hstep

theorem runtimeCalls_ranCallback (entry : RuntimeCallback) (callback : Callback) :
    (engine.ranCallback owner entry callback).runtimeCalls =
      engine.runtimeCalls ++ [⟨owner, .runtime entry⟩] := by
  have hcallbacks : (engine.ranCallback owner entry callback).callbacks =
      engine.callbacks ++ [⟨owner, .runtime entry⟩] :=
    EngineFacilities.runCallback_callbacks _ _ _ _ _
  unfold runtimeCalls
  rw [hcallbacks, List.filter_append]
  rfl

variable {entry : RuntimeCallback} {script : DeliveryScript}

/-- A subscriber that receives nothing is passed over. -/
theorem delivered_of_not_receives (h : engineSystem.Reachable engine)
    (hreceives : engine.receives scopeId owner ≠ true) :
    engine.Delivered scopeId entry script owner := by
  have hdeliver : engine.deliver scopeId entry script owner = (engine, .ok 0) := by
    unfold deliver
    rw [if_neg hreceives]
  constructor
  · rw [hdeliver]
    exact h
  · rw [hdeliver]
    exact fun _ _ => Iff.rfl
  · rw [hdeliver, if_neg hreceives, List.append_nil]
  · intro other
    rw [hdeliver]
    exact ⟨fun hactive => ⟨hactive, fun hcalled => hreceives hcalled.1⟩, fun hactive => hactive.1⟩
  · rw [hdeliver, Bool.eq_false_of_not_eq_true hreceives]
    rfl

/-- A callback that succeeds is counted. -/
theorem delivered_of_success (h : engineSystem.Reachable engine)
    (hreceives : engine.receives scopeId owner = true)
    (hsuccess : (script.handle owner).failure = none) :
    engine.Delivered scopeId entry script owner := by
  have hdeliver : engine.deliver scopeId entry script owner =
      (engine.ranCallback owner entry (script.handle owner), .ok 1) := by
    unfold deliver
    rw [if_pos hreceives]
    dsimp only
    rw [hsuccess]
  constructor
  · rw [hdeliver]
    exact reachable_ranCallback h hreceives entry _
  · rw [hdeliver]
    exact fun _ _ => Iff.rfl
  · rw [hdeliver, if_pos hreceives]
    exact runtimeCalls_ranCallback entry _
  · intro other
    rw [hdeliver]
    exact ⟨fun hactive => ⟨hactive, fun hcalled => hcalled.2.1 hsuccess⟩,
      fun hactive => hactive.1⟩
  · rw [hdeliver, hreceives, hsuccess]
    rfl

/-- A callback that fails has its instance quarantined, which succeeds. -/
theorem delivered_of_failure (h : engineSystem.Reachable engine)
    (hquarantines : ∀ failure, entry.quarantines failure = true)
    (hreceives : engine.receives scopeId owner = true)
    (hfailure : (script.handle owner).failure ≠ none) :
    engine.Delivered scopeId entry script owner := by
  have hactive := (receives_iff.mp hreceives).2
  have hran := reachable_ranCallback h hreceives entry (script.handle owner)
  have hconsistent := consistent_of_reachable hran
  obtain ⟨rank, hranked, -⟩ := layered_of_reachable hran
  obtain ⟨engine', order, hquarantine, hshut, -, horder, -⟩ :=
    quarantine_order (script.stops owner) hconsistent hranked hactive
  obtain ⟨failure, hsome⟩ := Option.ne_none_iff_exists'.mp hfailure
  have hdeliver : engine.deliver scopeId entry script owner = (engine', .ok 0) := by
    unfold deliver
    rw [if_pos hreceives]
    dsimp only
    rw [hsome]
    dsimp only
    rw [hquarantine]
  have hhomes := hshut.sameHomes hconsistent
  constructor
  · rw [hdeliver]
    have hstep : engineSystem.step engine
        ⟨.runActiveComponent owner entry (script.handle owner) (script.stops owner), .ok ()⟩
        engine' := by
      have hrun := runActive_of_receives hreceives entry (script.handle owner) (script.stops owner)
      rw [hsome, Option.any_some, hquarantines, if_pos rfl, hquarantine] at hrun
      exact hrun
    exact h.step hstep
  · rw [hdeliver]
    exact hhomes.1
  · rw [hdeliver, if_pos hreceives, hhomes.2]
    exact runtimeCalls_ranCallback entry _
  · intro other
    rw [hdeliver, (hshut.stopped hconsistent).active, horder]
    exact ⟨fun hkept => ⟨hkept.1, fun hcalled => hkept.2 hcalled.2.2⟩,
      fun hkept => ⟨hkept.1, fun hstopped => hkept.2 ⟨hreceives, hfailure, hstopped⟩⟩⟩
  · rw [hdeliver, hreceives, hsome]
    rfl

/-- Every turn of a delivery goes through. -/
theorem delivered (h : engineSystem.Reachable engine) (scopeId : RuntimeScopeId) (topic : String)
    (payload : List UInt8) (script : DeliveryScript) (owner : ComponentRef) :
    engine.Delivered scopeId (.handleEvent topic payload) script owner := by
  by_cases hreceives : engine.receives scopeId owner = true
  · by_cases hsuccess : (script.handle owner).failure = none
    · exact delivered_of_success h hreceives hsuccess
    · exact delivered_of_failure h (fun _ => rfl) hreceives hsuccess
  · exact delivered_of_not_receives h hreceives

/-- The subscribers have their turns in the order given. -/
theorem turns_owners (scopeId : RuntimeScopeId) (entry : RuntimeCallback)
    (script : DeliveryScript) (engine : Engine) (subscribers : List ComponentRef) :
    (turns scopeId entry script engine subscribers).map (fun turn => turn.owner) = subscribers := by
  induction subscribers generalizing engine with
  | nil => rfl
  | cons owner rest ih => rw [turns, List.map_cons, ih]

/-- A delivery is its turns, one after the other. -/
theorem dispatch_turns (h : engineSystem.Reachable engine) (scopeId : RuntimeScopeId)
    (topic : String) (payload : List UInt8) (script : DeliveryScript)
    (subscribers : List ComponentRef) :
    (dispatchRuntimeSubscribers scopeId (.handleEvent topic payload) script engine
        subscribers).2 =
      .ok ((turns scopeId (.handleEvent topic payload) script engine subscribers).countP fun turn =>
        turn.engine.receives scopeId turn.owner && (script.handle turn.owner).failure.isNone) ∧
    (dispatchRuntimeSubscribers scopeId (.handleEvent topic payload) script engine
        subscribers).1.runtimeCalls =
      engine.runtimeCalls ++
        (((turns scopeId (.handleEvent topic payload) script engine subscribers).filter fun turn =>
          turn.engine.receives scopeId turn.owner).map fun turn =>
            ⟨turn.owner, .runtime (.handleEvent topic payload)⟩) ∧
    ∀ turn ∈ turns scopeId (.handleEvent topic payload) script engine subscribers,
      engineSystem.Reachable turn.engine ∧ SameHomes engine turn.engine := by
  induction subscribers generalizing engine with
  | nil => exact ⟨rfl, by simp [dispatchRuntimeSubscribers, turns], List.forall_mem_nil _⟩
  | cons owner rest ih =>
      have hturn := delivered h scopeId topic payload script owner
      obtain ⟨hcount, hcalls, hrest⟩ := ih hturn.reachable
      have hresult := hturn.result
      cases hdeliver : engine.deliver scopeId (.handleEvent topic payload) script owner with
      | mk next result =>
          rw [hdeliver] at hresult hcount hcalls hrest
          have hhomes := hturn.homes
          have hcall := hturn.calls
          rw [hdeliver] at hhomes hcall
          dsimp only at hresult hcount hcalls hrest hhomes hcall
          rw [dispatchRuntimeSubscribers, hdeliver, hresult, turns, hdeliver]
          dsimp only
          refine ⟨?_, ?_, ?_⟩
          · rw [hcount, List.countP_cons, Nat.add_comm]
            rfl
          · rw [hcalls, hcall, List.filter_cons, List.append_assoc]
            split <;> rfl
          · intro turn hmem
            rcases List.mem_cons.mp hmem with rfl | hmem
            · exact ⟨h, fun _ _ => Iff.rfl⟩
            · exact ⟨(hrest turn hmem).1, hhomes.trans (hrest turn hmem).2⟩

/-- A delivery is isolated and exact. Its turns are those of the components that subscribed to
the topic, each once and in order. A subscriber is called in its turn just when it lives in the
scope and its instance is still active; nobody else is called. A callback that fails stops its
instance, with the active ones that depend on it, and no other. The callbacks that succeed are
counted. -/
structure DeliversOnce (engine : Engine) (stream : RuntimeStream) (scopeId : RuntimeScopeId)
    (topic : String) (payload : List UInt8) (script : DeliveryScript) (turns : List Turn)
    (outcome : Engine × EngineResult Nat) : Prop where
  order : (turns.map fun turn => turn.owner).Pairwise fun earlier later =>
    componentRefLe earlier later ∧ earlier ≠ later
  subscribed : ∀ owner, owner ∈ turns.map (fun turn => turn.owner) ↔
    engine.runtimeEffects.Holds owner (stream.subscription topic)
  receives : ∀ turn ∈ turns, turn.engine.receives scopeId turn.owner = true ↔
    engine.LivesIn scopeId turn.owner ∧ ActiveIn turn.engine.instances turn.owner.instanceId
  calls : outcome.1.runtimeCalls = engine.runtimeCalls ++
    ((turns.filter fun turn => turn.engine.receives scopeId turn.owner).map fun turn =>
      ⟨turn.owner, .runtime (.handleEvent topic payload)⟩)
  stops : ∀ turn ∈ turns, ∀ other,
    ActiveIn (turn.engine.deliver scopeId (.handleEvent topic payload) script
      turn.owner).1.instances other ↔
    ActiveIn turn.engine.instances other ∧
      ¬ (turn.engine.receives scopeId turn.owner = true ∧
        (script.handle turn.owner).failure ≠ none ∧
        (other = turn.owner.instanceId ∨
          turn.engine.ActivelyDependsOn other turn.owner.instanceId))
  delivered : outcome.2 = .ok (turns.countP fun turn =>
    turn.engine.receives scopeId turn.owner && (script.handle turn.owner).failure.isNone)

/-- When the subscribers to a topic have their turns, each of them is called just when it is to
receive what is delivered, whatever the callbacks before it did. -/
theorem deliversOnce_subscribers (h : engineSystem.Reachable engine) (stream : RuntimeStream)
    (scopeId : RuntimeScopeId) (topic : String) (payload : List UInt8) (script : DeliveryScript) :
    engine.DeliversOnce stream scopeId topic payload script
      (turns scopeId (.handleEvent topic payload) script engine
        (engine.runtimeEffects.subscribers topic stream))
      (dispatchRuntimeSubscribers scopeId (.handleEvent topic payload) script engine
        (engine.runtimeEffects.subscribers topic stream)) := by
  obtain ⟨hcount, hcalls, hturns⟩ := dispatch_turns h scopeId topic payload script
    (engine.runtimeEffects.subscribers topic stream)
  constructor
  · rw [turns_owners, RuntimeEffectRegistry.subscribers_eq]
    exact engine.runtimeEffects.owners_strict _
  · intro owner
    rw [turns_owners, RuntimeEffectRegistry.subscribers_eq]
    exact engine.runtimeEffects.mem_owners
  · intro turn hturn
    rw [receives_iff, (hturns turn hturn).2 scopeId turn.owner]
  · exact hcalls
  · intro turn hturn
    exact (delivered (hturns turn hturn).1 scopeId topic payload script turn.owner).active
  · exact hcount

/-- Runtime events, and runtime signals, are delivered to their subscribers exactly once. -/
theorem dispatch_delivers_once (h : engineSystem.Reachable engine) (stream : RuntimeStream)
    (scopeId : RuntimeScopeId) {topic : String} (htopic : isBlank topic = false)
    (payload : List UInt8) (script : DeliveryScript) :
    engine.DeliversOnce stream scopeId topic payload script
      (turns scopeId (.handleEvent topic payload) script engine
        (engine.runtimeEffects.subscribers topic stream))
      (engine.dispatchInScope stream scopeId topic payload script) := by
  have hdispatch : engine.dispatchInScope stream scopeId topic payload script =
      dispatchRuntimeSubscribers scopeId (.handleEvent topic payload) script engine
        (engine.runtimeEffects.subscribers topic stream) := by
    unfold dispatchInScope
    rw [htopic]
    rfl
  rw [hdispatch]
  exact deliversOnce_subscribers h stream scopeId topic payload script

end Turns

/-! ## Two subscribers -/

/-- Two instances whose component subscribes to a topic when it is started. -/
def savedOps : List EngineOp :=
  ["left", "right"].flatMap fun name =>
    [.registerExtensionInstance ⟨name⟩ ⟨"default"⟩ ⟨⟨name⟩, []⟩ [⟨⟨"main"⟩, ⟨none⟩, [], none⟩],
      .startExtensionInstance ⟨name⟩
        ⟨fun _ => ⟨[.registerRuntimeEffect (.eventSubscription "saved")], none⟩,
          fun _ => ⟨[], none⟩⟩]

/-- The callback of the left instance fails. -/
def leftFails : DeliveryScript where
  handle owner :=
    if owner.instanceId = ⟨"left"⟩ then ⟨[], some ⟨"broken", false⟩⟩ else ⟨[], none⟩
  stops _ _ := .quiet

theorem dispatch_delivers_once_saved :
    (Engine.new.runAll savedOps).1.DeliversOnce .event ⟨"default"⟩ "saved" [] leftFails
      (turns ⟨"default"⟩ (.handleEvent "saved" []) leftFails (Engine.new.runAll savedOps).1
        ((Engine.new.runAll savedOps).1.runtimeEffects.subscribers "saved" .event))
      ((Engine.new.runAll savedOps).1.dispatchInScope .event ⟨"default"⟩ "saved" [] leftFails) ∧
    ((Engine.new.runAll savedOps).1.dispatchInScope .event ⟨"default"⟩ "saved" []
      leftFails).1.runtimeCalls =
        [⟨⟨⟨"left"⟩, ⟨"main"⟩⟩, .runtime (.handleEvent "saved" [])⟩,
          ⟨⟨⟨"right"⟩, ⟨"main"⟩⟩, .runtime (.handleEvent "saved" [])⟩] := by
  have hcalls : ((Engine.new.runAll savedOps).1.dispatchInScope .event ⟨"default"⟩ "saved" []
      leftFails).1.runtimeCalls =
        [⟨⟨⟨"left"⟩, ⟨"main"⟩⟩, .runtime (.handleEvent "saved" [])⟩,
          ⟨⟨⟨"right"⟩, ⟨"main"⟩⟩, .runtime (.handleEvent "saved" [])⟩] := by
    decide +kernel
  exact ⟨dispatch_delivers_once ⟨.new, _, rfl, run_runAll .new savedOps⟩ .event ⟨"default"⟩
    (by decide) [] leftFails, hcalls⟩

end Engine

end Rintawa.ExtensionEngine
