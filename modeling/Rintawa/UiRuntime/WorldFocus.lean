/-
# Focus requests

A layer asks for the focus of a world; the host drains the requests, carries them
out elsewhere, and comes back with a focus or a failure. A request has no identity
of its own in the runtime, only its layer and its world. Here every accepted
request gets a ticket, and the host knows which ticket it settles. The pending
world of a layer is that of its newest open ticket exactly when the host never
settles an older request for the world that the newest one names.
-/

import Rintawa.UiRuntime.Capabilities

namespace Rintawa.UiRuntime

open Rintawa.Lib Rintawa.Sdk

/-- An accepted request: its ticket and its world. -/
structure FocusTicket where
  number : Nat
  worldId : WorldId
  deriving DecidableEq

/-- The runtime with the open requests: the newest one of each layer, the number of
requests accepted so far, and the requests that the host has drained and not settled. -/
structure FocusState where
  ui : UiRuntimeState
  newest : Dict ComponentRef FocusTicket
  accepted : Nat
  inFlight : List (Nat × QueuedWorldFocusRequest)

def FocusState.new : FocusState :=
  ⟨.new, ∅, 0, []⟩

/-- What is visible of one step: the call, its result, and the ticket of the request that
a focus or a failure belongs to, if any. -/
structure FocusLabel where
  call : UiCall
  result : Except UiError Unit
  ticket : Option Nat

/-- The layer and the world that a focus or a failure is about. -/
def UiCall.focuses : UiCall → Option QueuedWorldFocusRequest
  | .setFocusedWorldScope owner worldId _ _ => some ⟨owner, worldId⟩
  | .recordWorldFocusFailure owner worldId _ => some ⟨owner, worldId⟩
  | _ => none

namespace FocusState

variable (state : FocusState)

/-- The drained requests with their tickets. -/
def drainedTickets : List (Nat × QueuedWorldFocusRequest) :=
  state.ui.queuedWorldFocusRequests.filterMap fun request =>
    (state.newest.lookup request.layerOwner).map fun ticket => (ticket.number, request)

/-- A request is completed or has failed. It is open no longer. -/
def settleTicket (owner : ComponentRef) (ticket : Option Nat) : FocusState :=
  match ticket with
  | none => state
  | some number =>
      { state with
        newest :=
          if (state.newest.lookup owner).any fun newest => newest.number == number then
            state.newest.erase owner
          else state.newest
        inFlight := state.inFlight.filter fun entry => entry.1 != number }

/-- The open requests after an accepted call. -/
def track (call : UiCall) (ticket : Option Nat) : FocusState :=
  match call with
  | .queueWorldFocusRequest owner worldId =>
      { state with
        newest := state.newest.insert owner ⟨state.accepted, worldId⟩
        accepted := state.accepted + 1 }
  | .drainWorldFocusRequests =>
      { state with inFlight := state.inFlight ++ state.drainedTickets }
  | .setFocusedWorldScope owner _ _ _ => state.settleTicket owner ticket
  | .recordWorldFocusFailure owner _ _ => state.settleTicket owner ticket
  | .clearFocusedWorldScope owner => { state with newest := state.newest.erase owner }
  | .detachLayer owner => { state with newest := state.newest.erase owner }
  | .unregisterInstance instanceId =>
      { state with newest := state.newest.retain fun owner _ => owner.instanceId != instanceId }
  | .setInstanceActive instanceId false =>
      { state with newest := state.newest.retain fun owner _ => owner.instanceId != instanceId }
  | _ => state

end FocusState

/-- One step. A ticket belongs to a drained request for the layer and the world of the
call; a rejected call settles nothing. -/
inductive FocusStep (state : FocusState) (label : FocusLabel) : FocusState → Prop
  | accepted {ui : UiRuntimeState} (ran : state.ui.run label.call = (ui, .ok ()))
      (result : label.result = .ok ())
      (ticket : ∀ number, label.ticket = some number →
        ∃ request, (number, request) ∈ state.inFlight ∧ label.call.focuses = some request) :
      FocusStep state label { state.track label.call label.ticket with ui := ui }
  | rejected {error : UiError} (ran : state.ui.run label.call = (state.ui, .error error))
      (result : label.result = .error error) : FocusStep state label state

/-- The transition system of the runtime and its host. -/
def focusSystem : Lts FocusState FocusLabel where
  init state := state = .new
  step := FocusStep

/-- The pending world of every layer is that of its newest open request. -/
def FocusState.PendingNewest (state : FocusState) : Prop :=
  ∀ scopeId layer, state.ui.layers.lookup scopeId = some layer →
    layer.pendingWorldId = (state.newest.lookup layer.owner).map fun ticket => ticket.worldId

/-- What every step should keep. -/
def KeepsPending (_ : List FocusLabel) (_ : FocusState) (_ : FocusLabel)
    (state' : FocusState) : Prop :=
  state'.PendingNewest

/-- A focus that passes its checks, or a failure, for the world of the newest open request
of its layer belongs to that request. -/
structure SettlesNewest (_ : List FocusLabel) (state : FocusState) (label : FocusLabel)
    (_ : FocusState) : Prop where
  focus : ∀ owner worldId scopeId descriptor entry ticket,
    label.call = .setFocusedWorldScope owner worldId scopeId descriptor →
    state.ui.checkFocus owner scopeId = .ok entry →
    state.newest.lookup owner = some ticket → ticket.worldId = worldId →
    label.ticket = some ticket.number
  failure : ∀ owner worldId diagnostic ticket,
    label.call = .recordWorldFocusFailure owner worldId diagnostic →
    state.newest.lookup owner = some ticket → ticket.worldId = worldId →
    label.ticket = some ticket.number

/-! ## Calls that leave the sessions alone -/

/-- Calls that neither touch the requests nor end a session. -/
def UiCall.keepsSessions : UiCall → Bool
  | .unregisterInstance _ | .setInstanceActive _ false | .detachLayer _
  | .queueWorldFocusRequest _ _ | .drainWorldFocusRequests | .recordWorldFocusFailure _ _ _
  | .setFocusedWorldScope _ _ _ _ | .clearFocusedWorldScope _ => false
  | _ => true

/-- The queue is the same, sessions go on with their pending worlds, and a session that is
new has none. -/
structure SessionsKept (state state' : UiRuntimeState) : Prop where
  queue : state'.queuedWorldFocusRequests = state.queuedWorldFocusRequests
  goesOn : ∀ scopeId layer, state.layers.lookup scopeId = some layer →
    ∃ layer', state'.layers.lookup scopeId = some layer' ∧ layer'.owner = layer.owner
  cameFrom : ∀ scopeId layer', state'.layers.lookup scopeId = some layer' →
    (∃ layer, state.layers.lookup scopeId = some layer ∧ layer.owner = layer'.owner ∧
      layer.pendingWorldId = layer'.pendingWorldId) ∨
    (state.layers.lookup scopeId = none ∧ layer'.pendingWorldId = none)

variable {state' : UiRuntimeState} {after before : ActiveUiLayer}

/-- Calls that change neither the layers nor the queue. -/
theorem SessionsKept.of_eq {state : UiRuntimeState}
    (hqueue : state'.queuedWorldFocusRequests = state.queuedWorldFocusRequests)
    (hlayers : state'.layers = state.layers) : SessionsKept state state' where
  queue := hqueue
  goesOn _ layer h := ⟨layer, hlayers ▸ h, rfl⟩
  cameFrom _ layer h := .inl ⟨layer, hlayers ▸ h, rfl, rfl⟩

variable {owner : ComponentRef}

/-- An attachment refreshes a session or starts one. -/
theorem SessionsKept.attachLayer {state : UiRuntimeState} {descriptor : UiLayerDescriptor}
    (h : state.attachLayer owner descriptor = (state', .ok ())) : SessionsKept state state' := by
  obtain ⟨inst, -, -, hfree, -, rfl⟩ := UiRuntimeState.attachLayer_ok h
  refine ⟨rfl, fun scopeId layer hlayer => ?_, fun scopeId layer' hlayer' => ?_⟩
  · simp only [Dict.lookup_insert_ite]
    split
    · next hsame =>
        subst hsame
        exact ⟨_, rfl, (hfree layer hlayer).symm⟩
    · exact ⟨layer, hlayer, rfl⟩
  · simp only [Dict.lookup_insert_ite] at hlayer'
    split at hlayer'
    · next hsame =>
        subst hsame
        cases hlayer'
        cases hbefore : state.layers.lookup inst.scopeId with
        | none => exact .inr ⟨rfl, by simp [UiRuntimeState.attachedLayer, hbefore]⟩
        | some layer =>
            exact .inl ⟨layer, rfl, hfree layer hbefore,
              by simp [UiRuntimeState.attachedLayer, hbefore]⟩
    · exact .inl ⟨layer', hlayer', rfl, rfl⟩

/-- Calls that keep the sessions do so when they are accepted. -/
theorem SessionsKept.run {state state' : UiRuntimeState} {call : UiCall}
    (h : state.run call = (state', .ok ())) (hkeeps : call.keepsSessions = true) :
    SessionsKept state state' := by
  cases call with
  | registerInstance instanceId scopeId surfaces layers =>
      obtain ⟨-, _, _, _, -, -, rfl⟩ := UiRuntimeState.registerInstance_ok h
      exact .of_eq rfl rfl
  | registerWorldPresentation owned =>
      obtain ⟨_, rfl⟩ := UiRuntimeState.registerWorldPresentation_ok h
      exact .of_eq rfl rfl
  | setInstanceActive instanceId isActive =>
      cases isActive with
      | false => cases hkeeps
      | true =>
          simp only [UiRuntimeState.run, UiRuntimeState.setInstanceActive] at h
          split at h <;> cases h
          exact .of_eq rfl rfl
  | attachLayer owner descriptor => exact .attachLayer h
  | attachRegisteredLayer owner =>
      obtain ⟨_, hattach⟩ := UiRuntimeState.attachRegisteredLayer_ok h
      exact .attachLayer hattach
  | clearFocusedWorldScopeForAllLayers scopeId =>
      cases h
      refine ⟨rfl, fun other layer hlayer => ?_, fun other layer' hlayer' => ?_⟩
      · refine ⟨_, by rw [Dict.lookup_mapValues, hlayer]; rfl, ?_⟩
        dsimp only
        split <;> rfl
      · simp only [Dict.lookup_mapValues, Option.map_eq_some_iff] at hlayer'
        obtain ⟨layer, hlayer, rfl⟩ := hlayer'
        refine .inl ⟨layer, hlayer, ?_, ?_⟩ <;> split <;> rfl
  | mountSurface owner snapshot =>
      obtain ⟨-, rfl⟩ := UiRuntimeState.mountSurface_ok h
      exact .of_eq rfl rfl
  | applyPatches owner batch =>
      obtain ⟨_, -, rfl⟩ := UiRuntimeState.applyPatches_ok h
      exact .of_eq rfl rfl
  | unmountSurface owner surfaceId =>
      cases UiRuntimeState.unmountSurface_ok h
      exact .of_eq rfl rfl
  | queueAction layerOwner event =>
      cases UiRuntimeState.queueAction_ok h
      exact .of_eq rfl rfl
  | drainQueuedActions =>
      cases h
      exact .of_eq rfl rfl
  | _ => cases hkeeps

/-- A call that keeps the sessions leaves the open requests as they are. -/
theorem FocusState.track_eq {state : FocusState} {call : UiCall} {ticket : Option Nat}
    (h : call.keepsSessions = true) : state.track call ticket = state := by
  cases call with
  | setInstanceActive instanceId isActive =>
      cases isActive with
      | false => cases h
      | true => rfl
  | registerInstance | registerWorldPresentation | attachLayer | attachRegisteredLayer
  | clearFocusedWorldScopeForAllLayers | mountSurface | applyPatches | unmountSurface
  | queueAction | drainQueuedActions => rfl
  | _ => cases h

/-! ## Calls that end or change a session -/

/-- The sessions and the queued requests of some owners end. All others stay as they are. -/
structure SessionsEnd (gone : ComponentRef → Bool) (state state' : UiRuntimeState) : Prop where
  queue : state'.queuedWorldFocusRequests =
    state.queuedWorldFocusRequests.filter fun request => !gone request.layerOwner
  stays : ∀ scopeId layer, state'.layers.lookup scopeId = some layer ↔
    state.layers.lookup scopeId = some layer ∧ gone layer.owner = false

/-- The session of one owner changes and keeps its owner. -/
structure SessionSet (owner : ComponentRef) (before after : ActiveUiLayer)
    (state state' : UiRuntimeState) : Prop where
  changes : ∃ scopeId, state.findLayer owner = some (scopeId, before) ∧
    ∀ other, state'.layers.lookup other =
      if other = scopeId then some after else state.layers.lookup other
  owner : after.owner = owner

/-- Putting a layer back into its scope changes one session. -/
theorem SessionSet.of_insert {state : UiRuntimeState} {scopeId : RuntimeScopeId}
    (hfound : state.findLayer owner = some (scopeId, before))
    (hlayers : state'.layers = state.layers.insert scopeId after)
    (howner : after.owner = before.owner) : SessionSet owner before after state state' where
  changes := ⟨scopeId, hfound, fun other => by rw [hlayers, Dict.lookup_insert_ite]⟩
  owner := howner.trans (UiRuntimeState.findLayer_some hfound).2

/-- A session that changes is attached under its owner, and others stay. -/
theorem SessionSet.attached {other : ComponentRef} {state : UiRuntimeState}
    (h : SessionSet owner before after state state')
    (hattached : ∃ scopeId layer, state.layers.lookup scopeId = some layer ∧ layer.owner = other) :
    ∃ scopeId layer, state'.layers.lookup scopeId = some layer ∧ layer.owner = other := by
  obtain ⟨scopeId, hfound, hlayers⟩ := h.changes
  obtain ⟨layerScope, layer, hlayer, rfl⟩ := hattached
  by_cases hsame : layerScope = scopeId
  · subst hsame
    obtain ⟨hbefore, howner⟩ := UiRuntimeState.findLayer_some hfound
    cases hlayer.symm.trans hbefore
    exact ⟨layerScope, after, by rw [hlayers, if_pos rfl], h.owner.trans howner.symm⟩
  · exact ⟨layerScope, layer, by rw [hlayers, if_neg hsame, hlayer], rfl⟩

/-- The sessions of an instance end when it is deactivated or removed. -/
theorem SessionsEnd.of_layersWithout {state : UiRuntimeState} (howned : state.LayersOwned)
    {instanceId : ExtensionInstanceId} {inst : UiExtensionInstance}
    (hinst : state.instances.lookup instanceId = some inst)
    (hlayers : state'.layers = state.layersWithout instanceId inst.scopeId)
    (hqueue : state'.queuedWorldFocusRequests = state.focusRequestsWithout instanceId) :
    SessionsEnd (fun owner => owner.instanceId == instanceId) state state' where
  queue := hqueue
  stays scopeId layer := by
    rw [hlayers, beq_eq_false_iff_ne]
    constructor
    · exact UiRuntimeState.lookup_layersWithout howned hinst
    · exact fun h => UiRuntimeState.lookup_layersWithout_of_ne h.1 h.2

/-- Detaching ends the session of one owner. -/
theorem SessionsEnd.detachLayer {state : UiRuntimeState} (howned : state.LayersOwned)
    (h : state.detachLayer owner = (state', .ok ())) :
    SessionsEnd (fun other => other == owner) state state' := by
  obtain ⟨inst, hinst, hown, rfl⟩ := UiRuntimeState.detachLayer_ok h
  refine ⟨rfl, fun scopeId layer => ?_⟩
  rw [Dict.lookup_erase_ite, beq_eq_false_iff_ne]
  constructor
  · intro hlayer
    split at hlayer
    · cases hlayer
    · next hscope =>
        refine ⟨hlayer, ?_⟩
        rintro rfl
        obtain ⟨inst', hinst', hsame⟩ := howned scopeId layer hlayer
        cases hinst.symm.trans hinst'
        exact hscope hsame.symm
  · rintro ⟨hlayer, hne⟩
    rw [if_neg, hlayer]
    rintro rfl
    exact hne (hown layer hlayer)

/-! ## Open requests -/

/-- What holds of the open requests: they belong to attached layers, tickets are given once,
a drained ticket names its layer and its world and is not queued, and the queue holds newest
requests. -/
structure FocusState.Tracked (state : FocusState) : Prop where
  owned : state.ui.LayersOwned
  attached : ∀ owner ticket, state.newest.lookup owner = some ticket →
    ∃ scopeId layer, state.ui.layers.lookup scopeId = some layer ∧ layer.owner = owner
  below : ∀ owner ticket, state.newest.lookup owner = some ticket →
    ticket.number < state.accepted
  drainedBelow : ∀ entry ∈ state.inFlight, entry.1 < state.accepted
  once : ∀ owner other ticket ticket', state.newest.lookup owner = some ticket →
    state.newest.lookup other = some ticket' → ticket.number = ticket'.number → owner = other
  drained : ∀ owner ticket, state.newest.lookup owner = some ticket →
    ∀ entry ∈ state.inFlight, entry.1 = ticket.number → entry.2 = ⟨owner, ticket.worldId⟩
  taken : ∀ owner ticket, state.newest.lookup owner = some ticket →
    ∀ entry ∈ state.inFlight, entry.1 = ticket.number →
    ∀ request ∈ state.ui.queuedWorldFocusRequests, request.layerOwner ≠ owner
  queued : ∀ request ∈ state.ui.queuedWorldFocusRequests, ∃ ticket,
    state.newest.lookup request.layerOwner = some ticket ∧ ticket.worldId = request.worldId
  single : (state.ui.queuedWorldFocusRequests.map fun request => request.layerOwner).Nodup

namespace FocusState

variable {state : FocusState}

theorem tracked_new : FocusState.new.Tracked where
  owned := UiRuntimeState.layersOwned_new
  attached _ _ h := by cases h
  below _ _ h := by cases h
  drainedBelow _ h := by cases h
  once _ _ _ _ h := by cases h
  drained _ _ h := by cases h
  taken _ _ h := by cases h
  queued _ h := by cases h
  single := List.nodup_nil

variable {ui : UiRuntimeState} {newest : Dict ComponentRef FocusTicket} {worldId : WorldId}

/-- Sessions that go on keep their open requests. -/
theorem Tracked.of_kept (h : state.Tracked) (howned : ui.LayersOwned)
    (hkept : SessionsKept state.ui ui) : Tracked { state with ui := ui } where
  owned := howned
  attached owner ticket hnewest := by
    obtain ⟨scopeId, layer, hlayer, rfl⟩ := h.attached owner ticket hnewest
    obtain ⟨layer', hlayer', howner⟩ := hkept.goesOn scopeId layer hlayer
    exact ⟨scopeId, layer', hlayer', howner⟩
  below := h.below
  drainedBelow := h.drainedBelow
  once := h.once
  drained := h.drained
  taken := by
    intro owner ticket hnewest entry hentry hnumber request hmem
    rw [hkept.queue] at hmem
    exact h.taken owner ticket hnewest entry hentry hnumber request hmem
  queued := by
    intro request hmem
    rw [hkept.queue] at hmem
    exact h.queued request hmem
  single := by
    change (ui.queuedWorldFocusRequests.map _).Nodup
    rw [hkept.queue]
    exact h.single

/-- Some open requests are dropped with their queue entries, and perhaps with their layers;
some drained ones are settled. -/
theorem Tracked.of_fewer (h : state.Tracked) (howned : ui.LayersOwned)
    {inFlight : List (Nat × QueuedWorldFocusRequest)}
    (hnewest : ∀ owner ticket, newest.lookup owner = some ticket →
      state.newest.lookup owner = some ticket)
    (hattached : ∀ owner ticket, newest.lookup owner = some ticket →
      ∃ scopeId layer, ui.layers.lookup scopeId = some layer ∧ layer.owner = owner)
    (hdrained : ∀ entry ∈ inFlight, entry ∈ state.inFlight)
    (hqueue : ui.queuedWorldFocusRequests.Sublist state.ui.queuedWorldFocusRequests)
    (hqueued : ∀ request ∈ ui.queuedWorldFocusRequests,
      newest.lookup request.layerOwner = state.newest.lookup request.layerOwner) :
    Tracked ⟨ui, newest, state.accepted, inFlight⟩ where
  owned := howned
  attached := hattached
  below owner ticket hlookup := h.below owner ticket (hnewest owner ticket hlookup)
  drainedBelow entry hmem := h.drainedBelow entry (hdrained entry hmem)
  once owner other ticket ticket' hlookup hlookup' :=
    h.once owner other ticket ticket' (hnewest owner ticket hlookup)
      (hnewest other ticket' hlookup')
  drained owner ticket hlookup entry hmem :=
    h.drained owner ticket (hnewest owner ticket hlookup) entry (hdrained entry hmem)
  taken owner ticket hlookup entry hentry hnumber request hmem :=
    h.taken owner ticket (hnewest owner ticket hlookup) entry (hdrained entry hentry) hnumber
      request (hqueue.subset hmem)
  queued request hmem := by
    rw [hqueued request hmem]
    exact h.queued request (hqueue.subset hmem)
  single := h.single.sublist (hqueue.map _)

/-- The members of a queue in which the request of one layer is replaced. -/
theorem mem_replaceQueued {queue : List QueuedWorldFocusRequest}
    (hsingle : (queue.map fun request => request.layerOwner).Nodup)
    {request : QueuedWorldFocusRequest}
    (h : request ∈ UiRuntimeState.replaceQueued owner worldId queue) :
    (request ∈ queue ∧ request.layerOwner ≠ owner) ∨ request = ⟨owner, worldId⟩ := by
  induction queue with
  | nil => cases h
  | cons queued rest ih =>
      rw [List.map_cons, List.nodup_cons] at hsingle
      unfold UiRuntimeState.replaceQueued at h
      split at h
      · next hsame =>
          rcases List.mem_cons.mp h with rfl | hmem
          · exact .inr (by rw [← hsame])
          · refine .inl ⟨List.mem_cons_of_mem _ hmem, ?_⟩
            rintro rfl
            exact hsingle.1 (hsame ▸ List.mem_map_of_mem hmem)
      · next hne =>
          rcases List.mem_cons.mp h with rfl | hmem
          · exact .inl ⟨List.mem_cons_self, hne⟩
          · rcases ih hsingle.2 hmem with ⟨hrest, hother⟩ | heq
            · exact .inl ⟨List.mem_cons_of_mem _ hrest, hother⟩
            · exact .inr heq

/-- Replacing a request keeps the owners of the queue. -/
theorem map_replaceQueued (owner : ComponentRef) (worldId : WorldId)
    (queue : List QueuedWorldFocusRequest) :
    (UiRuntimeState.replaceQueued owner worldId queue).map (fun request => request.layerOwner) =
      queue.map fun request => request.layerOwner := by
  induction queue with
  | nil => rfl
  | cons queued rest ih =>
      unfold UiRuntimeState.replaceQueued
      split
      · rfl
      · rw [List.map_cons, List.map_cons, ih]

/-- A queued request comes from a registered instance. -/
theorem Tracked.registered (h : state.Tracked) {request : QueuedWorldFocusRequest}
    (hmem : request ∈ state.ui.queuedWorldFocusRequests) :
    (state.ui.instances.lookup request.layerOwner.instanceId).isSome = true := by
  obtain ⟨ticket, hnewest, -⟩ := h.queued request hmem
  obtain ⟨scopeId, layer, hlayer, howner⟩ := h.attached _ ticket hnewest
  obtain ⟨inst, hinst, -⟩ := h.owned scopeId layer hlayer
  rw [← howner, hinst, Option.isSome_some]

/-- Sessions end with their requests. -/
theorem Tracked.of_end (h : state.Tracked) (howned : ui.LayersOwned) {gone : ComponentRef → Bool}
    (hend : SessionsEnd gone state.ui ui) (hnewest : ∀ owner, newest.lookup owner =
      if gone owner then none else state.newest.lookup owner) :
    Tracked { state with ui := ui, newest := newest } := by
  have kept : ∀ owner ticket, newest.lookup owner = some ticket →
      state.newest.lookup owner = some ticket ∧ gone owner = false := by
    intro owner ticket hlookup
    rw [hnewest] at hlookup
    split at hlookup
    · cases hlookup
    · next hstays => exact ⟨hlookup, by simpa using hstays⟩
  refine h.of_fewer howned (fun owner ticket hlookup => (kept owner ticket hlookup).1) ?_
    (fun entry hmem => hmem) (hend.queue ▸ List.filter_sublist) ?_
  · intro owner ticket hlookup
    obtain ⟨hbefore, hstays⟩ := kept owner ticket hlookup
    obtain ⟨scopeId, layer, hlayer, rfl⟩ := h.attached owner ticket hbefore
    exact ⟨scopeId, layer, (hend.stays scopeId layer).mpr ⟨hlayer, hstays⟩, rfl⟩
  · intro request hmem
    rw [hend.queue, List.mem_filter] at hmem
    rw [hnewest, if_neg (by simpa using hmem.2)]

/-- One session changes, and perhaps its newest request is closed. -/
theorem Tracked.of_set (h : state.Tracked) (howned : ui.LayersOwned)
    (hset : SessionSet owner before after state.ui ui)
    {inFlight : List (Nat × QueuedWorldFocusRequest)}
    (hnewest : ∀ other ticket, newest.lookup other = some ticket →
      state.newest.lookup other = some ticket)
    (hdrained : ∀ entry ∈ inFlight, entry ∈ state.inFlight)
    (hqueue : ui.queuedWorldFocusRequests.Sublist state.ui.queuedWorldFocusRequests)
    (hqueued : ∀ request ∈ ui.queuedWorldFocusRequests,
      newest.lookup request.layerOwner = state.newest.lookup request.layerOwner) :
    Tracked ⟨ui, newest, state.accepted, inFlight⟩ :=
  h.of_fewer howned hnewest
    (fun other ticket hlookup => hset.attached
      (h.attached other ticket (hnewest other ticket hlookup)))
    hdrained hqueue hqueued

/-- The newest requests after an insertion. -/
theorem newest_insert {other : ComponentRef} {ticket : FocusTicket}
    (h : (state.newest.insert owner ⟨state.accepted, worldId⟩).lookup other = some ticket) :
    (other = owner ∧ ticket = ⟨state.accepted, worldId⟩) ∨
      (other ≠ owner ∧ state.newest.lookup other = some ticket) := by
  rw [Dict.lookup_insert_ite] at h
  split at h
  · next hsame =>
      cases h
      exact .inl ⟨hsame, rfl⟩
  · next hne => exact .inr ⟨hne, h⟩

/-- A new request gets a ticket that was never given, and takes the place of the queued
request of its layer. -/
theorem Tracked.of_queue (h : state.Tracked) (howned : ui.LayersOwned)
    (hset : SessionSet owner before after state.ui ui)
    (hqueue : ∀ request ∈ ui.queuedWorldFocusRequests,
      (request ∈ state.ui.queuedWorldFocusRequests ∧ request.layerOwner ≠ owner) ∨
        request = ⟨owner, worldId⟩)
    (hsingle : (ui.queuedWorldFocusRequests.map fun request => request.layerOwner).Nodup) :
    Tracked ⟨ui, state.newest.insert owner ⟨state.accepted, worldId⟩, state.accepted + 1,
      state.inFlight⟩ where
  owned := howned
  attached other ticket hlookup := by
    refine hset.attached ?_
    rcases newest_insert hlookup with ⟨rfl, -⟩ | ⟨-, hbefore⟩
    · obtain ⟨scopeId, hfound, -⟩ := hset.changes
      exact ⟨scopeId, before, UiRuntimeState.findLayer_some hfound⟩
    · exact h.attached other ticket hbefore
  below other ticket hlookup := by
    rcases newest_insert hlookup with ⟨-, rfl⟩ | ⟨-, hbefore⟩
    · exact Nat.lt_succ_self _
    · exact Nat.lt_succ_of_lt (h.below other ticket hbefore)
  drainedBelow entry hmem := Nat.lt_succ_of_lt (h.drainedBelow entry hmem)
  once first second ticket ticket' hfirst hsecond hnumber := by
    rcases newest_insert hfirst with ⟨rfl, rfl⟩ | ⟨-, hbefore⟩ <;>
      rcases newest_insert hsecond with ⟨rfl, rfl⟩ | ⟨-, hbefore'⟩
    · rfl
    · exact absurd hnumber (h.below second ticket' hbefore').ne'
    · exact absurd hnumber (h.below first ticket hbefore).ne
    · exact h.once first second ticket ticket' hbefore hbefore' hnumber
  drained other ticket hlookup entry hmem hnumber := by
    rcases newest_insert hlookup with ⟨-, rfl⟩ | ⟨-, hbefore⟩
    · exact absurd hnumber (h.drainedBelow entry hmem).ne
    · exact h.drained other ticket hbefore entry hmem hnumber
  taken other ticket hlookup entry hmem hnumber request hrequest := by
    rcases newest_insert hlookup with ⟨-, rfl⟩ | ⟨hne, hbefore⟩
    · exact absurd hnumber (h.drainedBelow entry hmem).ne
    · rcases hqueue request hrequest with ⟨hqueued, -⟩ | rfl
      · exact h.taken other ticket hbefore entry hmem hnumber request hqueued
      · exact hne.symm
  queued request hmem := by
    rcases hqueue request hmem with ⟨hqueued, hne⟩ | rfl
    · rw [AList.lookup_insert_ne hne]
      exact h.queued request hqueued
    · exact ⟨_, AList.lookup_insert _, rfl⟩
  single := hsingle

/-- The members of the drained requests. -/
theorem mem_drainedTickets {entry : Nat × QueuedWorldFocusRequest}
    (h : entry ∈ state.drainedTickets) :
    ∃ ticket, entry.2 ∈ state.ui.queuedWorldFocusRequests ∧
      state.newest.lookup entry.2.layerOwner = some ticket ∧ entry.1 = ticket.number := by
  obtain ⟨request, hmem, hentry⟩ := List.mem_filterMap.mp h
  obtain ⟨ticket, hnewest, rfl⟩ := Option.map_eq_some_iff.mp hentry
  exact ⟨ticket, hmem, hnewest, rfl⟩

/-- The host takes the queued requests, which are the newest ones of their layers. -/
theorem Tracked.of_drain (h : state.Tracked) :
    Tracked { state with
      ui := state.ui.drainWorldFocusRequests.1
      inFlight := state.inFlight ++ state.drainedTickets } where
  owned := h.owned
  attached := h.attached
  below := h.below
  drainedBelow entry hmem := by
    rcases List.mem_append.mp hmem with hbefore | hnew
    · exact h.drainedBelow entry hbefore
    · obtain ⟨ticket, -, hnewest, hnumber⟩ := mem_drainedTickets hnew
      rw [hnumber]
      exact h.below _ ticket hnewest
  once := h.once
  drained owner ticket hlookup entry hmem hnumber := by
    rcases List.mem_append.mp hmem with hbefore | hnew
    · exact h.drained owner ticket hlookup entry hbefore hnumber
    · obtain ⟨ticket', hqueued, hnewest, hentry⟩ := mem_drainedTickets hnew
      obtain ⟨number, request⟩ := entry
      have howner := h.once _ owner ticket' ticket hnewest hlookup (hentry ▸ hnumber)
      obtain ⟨ticket'', hnewest', hworld⟩ := h.queued request hqueued
      subst howner
      cases hlookup.symm.trans hnewest'
      rw [hworld]
  taken _ _ _ _ _ _ _ hmem := by cases hmem
  queued _ hmem := by cases hmem
  single := List.nodup_nil

/-- The newest requests after one has been settled. -/
theorem lookup_settleTicket (owner other : ComponentRef) (ticket : Option Nat) :
    (state.settleTicket owner ticket).newest.lookup other =
      if other = owner then
        (state.newest.lookup owner).filter fun newest => decide (ticket ≠ some newest.number)
      else state.newest.lookup other := by
  by_cases hsame : other = owner
  · subst hsame
    rw [if_pos rfl]
    cases ticket with
    | none =>
        cases hnewest : state.newest.lookup other <;> simp [settleTicket, Option.filter, hnewest]
    | some number =>
        simp only [settleTicket]
        cases hnewest : state.newest.lookup other with
        | none => simp [hnewest]
        | some newest =>
            by_cases hnumber : newest.number = number
            · simp [Option.filter, hnumber]
            · simp [Option.filter, hnewest, hnumber, Ne.symm hnumber]
  · rw [if_neg hsame]
    cases ticket with
    | none => rfl
    | some number =>
        simp only [settleTicket]
        split
        · rw [AList.lookup_erase_ne hsame]
        · rfl

/-- A ticket that the host settles was drained, so no queued request is closed with it. -/
theorem Tracked.of_settle (h : state.Tracked) (howned : ui.LayersOwned) {ticket : Option Nat}
    (hset : SessionSet owner before after state.ui ui)
    (hqueue : ui.queuedWorldFocusRequests = state.ui.queuedWorldFocusRequests)
    (hticket : ∀ number, ticket = some number → (number, ⟨owner, worldId⟩) ∈ state.inFlight) :
    Tracked { state.settleTicket owner ticket with ui := ui } := by
  have haccepted : (state.settleTicket owner ticket).accepted = state.accepted := by
    cases ticket <;> rfl
  have hdrained : ∀ entry ∈ (state.settleTicket owner ticket).inFlight, entry ∈ state.inFlight := by
    cases ticket with
    | none => exact fun _ hmem => hmem
    | some number => exact fun _ hmem => (List.mem_filter.mp hmem).1
  have hnewest : ∀ other newest,
      (state.settleTicket owner ticket).newest.lookup other = some newest →
      state.newest.lookup other = some newest := by
    intro other newest hlookup
    rw [lookup_settleTicket] at hlookup
    split at hlookup
    · next hsame =>
        subst hsame
        exact (Option.filter_eq_some_iff.mp hlookup).1
    · exact hlookup
  dsimp only
  rw [haccepted]
  refine h.of_set howned hset hnewest hdrained (hqueue ▸ List.Sublist.refl _) ?_
  intro request hmem
  rw [hqueue] at hmem
  rw [lookup_settleTicket]
  split
  · next hsame =>
      obtain ⟨newest, hlookup, -⟩ := h.queued request hmem
      rw [← hsame, hlookup, Option.filter_some, if_pos]
      simp only [decide_eq_true_eq]
      intro hnumber
      exact h.taken _ newest hlookup _ (hticket _ hnumber) rfl request hmem rfl
  · rfl

/-- A layer without a focus has no requests. -/
theorem Tracked.of_clear (h : state.Tracked) (howned : ui.LayersOwned)
    (hset : SessionSet owner before after state.ui ui) (hqueue : ui.queuedWorldFocusRequests =
      state.ui.queuedWorldFocusRequests.filter fun queued => queued.layerOwner != owner) :
    Tracked { state with ui := ui, newest := state.newest.erase owner } := by
  refine h.of_set howned hset ?_ (fun _ hmem => hmem) (hqueue ▸ List.filter_sublist) ?_
  · intro other ticket hlookup
    rw [Dict.lookup_erase_ite] at hlookup
    split at hlookup
    · cases hlookup
    · exact hlookup
  · intro request hmem
    rw [hqueue, List.mem_filter] at hmem
    rw [AList.lookup_erase_ne (by simpa using hmem.2)]

/-! ## Pending worlds -/

/-- Sessions that go on keep their pending worlds, and new ones have none. -/
theorem PendingNewest.of_kept (hpending : state.PendingNewest) (h : state.Tracked)
    (howned : ui.LayersOwned) (hkept : SessionsKept state.ui ui) :
    PendingNewest { state with ui := ui } := by
  intro scopeId layer hlayer
  rcases hkept.cameFrom scopeId layer hlayer with
    ⟨before, hbefore, howner, hsame⟩ | ⟨hfree, hnone⟩
  · rw [← howner, ← hsame]
    exact hpending scopeId before hbefore
  · -- the owner had no layer, so it had no request
    rw [hnone]
    cases hnewest : state.newest.lookup layer.owner with
    | none => rfl
    | some ticket =>
        obtain ⟨layerScope, before, hbefore, howner⟩ := h.attached _ ticket hnewest
        obtain ⟨after, hafter, hsame⟩ := hkept.goesOn layerScope before hbefore
        have hfound := howned.findLayer_eq hafter
        rw [hsame, howner, howned.findLayer_eq hlayer] at hfound
        cases hfound
        cases hfree.symm.trans hbefore

/-- Sessions that do not end keep their pending worlds. -/
theorem PendingNewest.of_end (hpending : state.PendingNewest) {gone : ComponentRef → Bool}
    (hend : SessionsEnd gone state.ui ui) (hnewest : ∀ owner, newest.lookup owner =
      if gone owner then none else state.newest.lookup owner) :
    PendingNewest { state with ui := ui, newest := newest } := by
  intro scopeId layer hlayer
  obtain ⟨hbefore, hstays⟩ := (hend.stays scopeId layer).mp hlayer
  rw [hnewest, hstays]
  exact hpending scopeId layer hbefore

/-- When one session changes, its pending world has to be that of its newest request. -/
theorem PendingNewest.set_iff (hpending : state.PendingNewest) (h : state.Tracked)
    {next : FocusState} (hset : SessionSet owner before after state.ui next.ui)
    (hnewest : ∀ other, other ≠ owner → next.newest.lookup other = state.newest.lookup other) :
    next.PendingNewest ↔
      after.pendingWorldId = (next.newest.lookup owner).map fun ticket => ticket.worldId := by
  obtain ⟨scopeId, hfound, hlayers⟩ := hset.changes
  constructor
  · intro hnext
    have hafter := hnext scopeId after (by rw [hlayers, if_pos rfl])
    rwa [hset.owner] at hafter
  · intro hafter layerScope layer hlayer
    rw [hlayers] at hlayer
    split at hlayer
    · cases hlayer
      rwa [hset.owner]
    · next hne =>
        rw [hnewest, hpending layerScope layer hlayer]
        rintro rfl
        rw [h.owned.findLayer_eq hlayer] at hfound
        cases hfound
        exact hne rfl

/-- The pending world of a layer that is found. -/
theorem PendingNewest.found (hpending : state.PendingNewest)
    (hset : SessionSet owner before after state.ui ui) :
    before.pendingWorldId = (state.newest.lookup owner).map fun ticket => ticket.worldId := by
  obtain ⟨scopeId, hfound, -⟩ := hset.changes
  obtain ⟨hbefore, howner⟩ := UiRuntimeState.findLayer_some hfound
  rw [hpending scopeId before hbefore, howner]

/-- A focus or a failure clears the pending world when it is for that world. The newest
request of the layer is still right exactly when it is the one that was settled. -/
theorem PendingNewest.settle_iff (hpending : state.PendingNewest) (h : state.Tracked)
    {ticket : Option Nat} (hset : SessionSet owner before after state.ui ui)
    (hafter : after.pendingWorldId =
      if before.pendingWorldId = some worldId then none else before.pendingWorldId)
    (hticket : ∀ number, ticket = some number → (number, ⟨owner, worldId⟩) ∈ state.inFlight) :
    PendingNewest { state.settleTicket owner ticket with ui := ui } ↔
      ∀ newest, state.newest.lookup owner = some newest → newest.worldId = worldId →
        ticket = some newest.number := by
  have hothers : ∀ other, other ≠ owner →
      (state.settleTicket owner ticket).newest.lookup other = state.newest.lookup other := by
    intro other hne
    rw [lookup_settleTicket, if_neg hne]
  have hiff : PendingNewest { state.settleTicket owner ticket with ui := ui } ↔ _ :=
    hpending.set_iff h hset hothers
  rw [hiff, hafter, hpending.found hset, lookup_settleTicket, if_pos rfl]
  cases hnewest : state.newest.lookup owner with
  | none => simp
  | some newest =>
      by_cases hworld : newest.worldId = worldId
      · simp [Option.filter_some, hworld]
      · -- a ticket of another world is not the newest one
        have hother : ticket ≠ some newest.number := by
          intro hnumber
          have hentry := h.drained owner newest hnewest _ (hticket _ hnumber) rfl
          cases hentry
          exact hworld rfl
        simp [Option.filter_some, hworld, hother]

/-! ## What a step can do -/

/-- The ways in which an accepted call changes the open requests. -/
inductive Changes (state : FocusState) (call : UiCall) (ticket : Option Nat) :
    FocusState → Prop
  | kept {ui : UiRuntimeState} (other : call.focuses = none)
      (kept : SessionsKept state.ui ui) : Changes state call ticket { state with ui := ui }
  | ended {ui : UiRuntimeState} {gone : ComponentRef → Bool}
      {newest : Dict ComponentRef FocusTicket} (other : call.focuses = none)
      (ended : SessionsEnd gone state.ui ui)
      (lookups : ∀ owner, newest.lookup owner =
        if gone owner then none else state.newest.lookup owner) :
      Changes state call ticket { state with ui := ui, newest := newest }
  | queued {ui : UiRuntimeState} {owner : ComponentRef} {worldId : WorldId}
      {before after : ActiveUiLayer} (other : call.focuses = none)
      (set : SessionSet owner before after state.ui ui)
      (pending : after.pendingWorldId = some worldId)
      (queue : ∀ request ∈ ui.queuedWorldFocusRequests,
        (request ∈ state.ui.queuedWorldFocusRequests ∧ request.layerOwner ≠ owner) ∨
          request = ⟨owner, worldId⟩)
      (single : (ui.queuedWorldFocusRequests.map fun request => request.layerOwner).Nodup) :
      Changes state call ticket ⟨ui, state.newest.insert owner ⟨state.accepted, worldId⟩,
        state.accepted + 1, state.inFlight⟩
  | drained (other : call.focuses = none) :
      Changes state call ticket { state with
        ui := state.ui.drainWorldFocusRequests.1
        inFlight := state.inFlight ++ state.drainedTickets }
  | cleared {ui : UiRuntimeState} {owner : ComponentRef} {before after : ActiveUiLayer}
      (other : call.focuses = none) (set : SessionSet owner before after state.ui ui)
      (pending : after.pendingWorldId = none)
      (queue : ui.queuedWorldFocusRequests =
        state.ui.queuedWorldFocusRequests.filter fun queued => queued.layerOwner != owner) :
      Changes state call ticket { state with ui := ui, newest := state.newest.erase owner }
  | settled {ui : UiRuntimeState} {owner : ComponentRef} {worldId : WorldId}
      {before after : ActiveUiLayer} (focuses : call.focuses = some ⟨owner, worldId⟩)
      (set : SessionSet owner before after state.ui ui)
      (pending : after.pendingWorldId =
        if before.pendingWorldId = some worldId then none else before.pendingWorldId)
      (queue : ui.queuedWorldFocusRequests = state.ui.queuedWorldFocusRequests) :
      Changes state call ticket { state.settleTicket owner ticket with ui := ui }

/-- The calls that keep the sessions settle no request. -/
theorem focuses_eq_none {call : UiCall} (h : call.keepsSessions = true) : call.focuses = none := by
  cases call with
  | recordWorldFocusFailure => cases h
  | setFocusedWorldScope => cases h
  | _ => rfl

/-- Queueing changes the session of one owner and its place in the queue. -/
theorem Tracked.changes_queue (h : state.Tracked) {ticket : Option Nat}
    (ran : state.ui.queueWorldFocusRequest owner worldId = (ui, .ok ())) :
    Changes state (.queueWorldFocusRequest owner worldId) ticket
      ⟨ui, state.newest.insert owner ⟨state.accepted, worldId⟩, state.accepted + 1,
        state.inFlight⟩ := by
  obtain ⟨scopeId, layer, hfound, rfl⟩ := UiRuntimeState.queueWorldFocusRequest_ok ran
  refine .queued rfl (.of_insert hfound rfl rfl) rfl ?_ ?_
  · intro request hmem
    dsimp only at hmem
    split at hmem
    · exact mem_replaceQueued h.single hmem
    · next hnone =>
        rcases List.mem_append.mp hmem with hbefore | hnew
        · refine .inl ⟨hbefore, ?_⟩
          rintro rfl
          exact hnone (List.any_eq_true.mpr ⟨request, hbefore, by simp⟩)
        · exact .inr (List.mem_singleton.mp hnew)
  · dsimp only
    split
    · rw [map_replaceQueued]
      exact h.single
    · next hnone =>
        rw [List.map_append, List.nodup_append]
        refine ⟨h.single, by simp, ?_⟩
        rintro other hother _ hnew rfl
        obtain ⟨request, hmem, rfl⟩ := List.mem_map.mp hother
        obtain rfl := List.mem_singleton.mp hnew
        exact hnone (List.any_eq_true.mpr ⟨request, hmem, by simp⟩)

/-- An accepted call changes the open requests in one of these ways. An instance that is not
registered has neither layers nor requests. -/
theorem Tracked.changes (h : state.Tracked) {call : UiCall} {ticket : Option Nat}
    (ran : state.ui.run call = (ui, .ok ())) :
    Changes state call ticket { state.track call ticket with ui := ui } := by
  have kept : call.keepsSessions = true →
      Changes state call ticket { state.track call ticket with ui := ui } := by
    intro hkeeps
    rw [track_eq hkeeps]
    exact .kept (focuses_eq_none hkeeps) (.run ran hkeeps)
  have retained : ∀ instanceId owner,
      (state.newest.retain fun owner _ => owner.instanceId != instanceId).lookup owner =
        if owner.instanceId == instanceId then none else state.newest.lookup owner := by
    intro instanceId owner
    rw [Dict.lookup_retain]
    cases state.newest.lookup owner with
    | none => simp
    | some newest => by_cases hsame : owner.instanceId = instanceId <;> simp [Option.filter, hsame]
  cases call with
  | unregisterInstance instanceId =>
      dsimp only [track]
      simp only [UiRuntimeState.run, UiRuntimeState.unregisterInstance] at ran
      split at ran
      · next hfree =>
          cases ran
          refine .ended rfl ⟨?_, fun scopeId layer => ?_⟩ (retained instanceId)
          · symm
            rw [List.filter_eq_self]
            intro request hmem
            have hregistered := h.registered hmem
            simp only [Bool.not_eq_true', beq_eq_false_iff_ne]
            rintro rfl
            simp [hfree] at hregistered
          · refine ⟨fun hlayer => ⟨hlayer, ?_⟩, And.left⟩
            obtain ⟨inst, hinst, -⟩ := h.owned scopeId layer hlayer
            simp only [beq_eq_false_iff_ne]
            rintro rfl
            cases hfree.symm.trans hinst
      · next inst hinst =>
          cases ran
          exact .ended rfl (.of_layersWithout h.owned hinst rfl rfl) (retained instanceId)
  | setInstanceActive instanceId isActive =>
      cases isActive with
      | true => exact kept rfl
      | false =>
          dsimp only [track]
          simp only [UiRuntimeState.run, UiRuntimeState.setInstanceActive] at ran
          split at ran
          · cases ran
          · next inst hinst =>
              cases ran
              exact .ended rfl (.of_layersWithout h.owned hinst rfl rfl) (retained instanceId)
  | detachLayer owner =>
      dsimp only [track]
      refine .ended rfl (.detachLayer h.owned ran) fun other => ?_
      rw [Dict.lookup_erase_ite]
      by_cases hsame : other = owner <;> simp [hsame]
  | queueWorldFocusRequest owner worldId => exact h.changes_queue ran
  | drainWorldFocusRequests =>
      cases ran
      exact .drained rfl
  | recordWorldFocusFailure owner worldId diagnostic =>
      obtain ⟨scopeId, layer, hfound, hui⟩ := UiRuntimeState.recordWorldFocusFailure_ok ran
      split at hui
      · next hpending =>
          subst hui
          refine .settled rfl (.of_insert hfound rfl rfl) ?_ rfl
          rw [if_pos hpending]
      · next hpending =>
          subst hui
          refine @Changes.settled _ _ _ _ _ _ layer layer rfl
            ⟨⟨scopeId, hfound, fun other => ?_⟩, (UiRuntimeState.findLayer_some hfound).2⟩ ?_ rfl
          · split
            · next hsame => rw [hsame, (UiRuntimeState.findLayer_some hfound).1]
            · rfl
          · rw [if_neg hpending]
  | setFocusedWorldScope owner worldId scopeId descriptor =>
      obtain ⟨layerScope, layer, hcheck, rfl⟩ := UiRuntimeState.setFocusedWorldScope_ok ran
      exact .settled rfl (.of_insert (UiRuntimeState.checkFocus_ok hcheck).1 rfl rfl) rfl rfl
  | clearFocusedWorldScope owner =>
      obtain ⟨layerScope, layer, hfound, rfl⟩ := UiRuntimeState.clearFocusedWorldScope_ok ran
      exact .cleared rfl (.of_insert hfound rfl rfl) rfl rfl
  | _ => exact kept rfl

variable {next : FocusState} {call : UiCall} {ticket : Option Nat}

/-- A ticket that is settled was drained for the layer and the world of the call. -/
theorem drained_of_focuses (hticket : ∀ number, ticket = some number →
      ∃ request, (number, request) ∈ state.inFlight ∧ call.focuses = some request)
    (hfocuses : call.focuses = some ⟨owner, worldId⟩) (number : Nat)
    (hnumber : ticket = some number) : (number, ⟨owner, worldId⟩) ∈ state.inFlight := by
  obtain ⟨request, hmem, hrequest⟩ := hticket number hnumber
  cases hfocuses.symm.trans hrequest
  exact hmem

theorem Changes.tracked (hchanges : Changes state call ticket next) (h : state.Tracked)
    (howned : next.ui.LayersOwned)
    (hticket : ∀ number, ticket = some number →
      ∃ request, (number, request) ∈ state.inFlight ∧ call.focuses = some request) :
    next.Tracked := by
  cases hchanges with
  | kept _ hkept => exact h.of_kept howned hkept
  | ended _ hend hlookups => exact h.of_end howned hend hlookups
  | queued _ hset _ hqueue hsingle => exact h.of_queue howned hset hqueue hsingle
  | drained => exact h.of_drain
  | cleared _ hset _ hqueue => exact h.of_clear howned hset hqueue
  | settled hfocuses hset _ hqueue =>
      exact h.of_settle howned hset hqueue (drained_of_focuses hticket hfocuses)

/-- Only a focus or a failure can leave a pending world that is not that of the newest
request, and only when it settles an older one. -/
theorem Changes.pendingNewest_iff (hchanges : Changes state call ticket next)
    (hpending : state.PendingNewest) (h : state.Tracked) (howned : next.ui.LayersOwned)
    (hticket : ∀ number, ticket = some number →
      ∃ request, (number, request) ∈ state.inFlight ∧ call.focuses = some request) :
    next.PendingNewest ↔ ∀ owner worldId, call.focuses = some ⟨owner, worldId⟩ →
      ∀ newest, state.newest.lookup owner = some newest → newest.worldId = worldId →
        ticket = some newest.number := by
  have other (hnone : call.focuses = none) (hnext : next.PendingNewest) :
      next.PendingNewest ↔ ∀ owner worldId, call.focuses = some ⟨owner, worldId⟩ →
        ∀ newest, state.newest.lookup owner = some newest → newest.worldId = worldId →
          ticket = some newest.number := by
    refine ⟨fun _ owner worldId hsome => ?_, fun _ => hnext⟩
    cases hnone.symm.trans hsome
  cases hchanges with
  | kept hnone hkept => exact other hnone (hpending.of_kept h howned hkept)
  | ended hnone hend hlookups => exact other hnone (hpending.of_end hend hlookups)
  | @queued _ owner worldId _ _ hnone hset hafter =>
      refine other hnone ((hpending.set_iff h hset ?_).mpr ?_)
      · exact fun _ hne => AList.lookup_insert_ne hne
      · rw [hafter, AList.lookup_insert]
        rfl
  | drained hnone => exact other hnone hpending
  | cleared hnone hset hafter =>
      refine other hnone ((hpending.set_iff h hset ?_).mpr ?_)
      · exact fun _ hne => AList.lookup_erase_ne hne
      · rw [hafter, AList.lookup_erase]
        rfl
  | settled hfocuses hset hafter =>
      rw [hpending.settle_iff h hset hafter (drained_of_focuses hticket hfocuses)]
      constructor
      · intro hsettles owner worldId hsame
        cases hfocuses.symm.trans hsame
        exact hsettles
      · exact fun hsettles => hsettles _ _ hfocuses

variable {label : FocusLabel} {labels : List FocusLabel}

/-- Open requests stay tracked. -/
theorem Tracked.step {state' : FocusState} (h : state.Tracked)
    (hstep : FocusStep state label state') : state'.Tracked := by
  cases hstep with
  | accepted ran _ hticket => exact (h.changes ran).tracked h (h.owned.run ran) hticket
  | rejected => exact h

theorem tracked_run (h : focusSystem.Run .new labels state) : state.Tracked :=
  h.preserves (P := Tracked) (fun _ _ _ hbefore hstep => hbefore.step hstep) tracked_new

/-- For a call that is accepted the condition is about its ticket only. -/
theorem settlesNewest_iff {history : List FocusLabel} {state' : FocusState}
    (hpasses : ∀ owner worldId scopeId descriptor,
      label.call = .setFocusedWorldScope owner worldId scopeId descriptor →
      ∃ entry, state.ui.checkFocus owner scopeId = .ok entry) :
    SettlesNewest history state label state' ↔
      ∀ owner worldId, label.call.focuses = some ⟨owner, worldId⟩ →
        ∀ newest, state.newest.lookup owner = some newest → newest.worldId = worldId →
          label.ticket = some newest.number := by
  constructor
  · intro hsettles owner worldId hfocuses newest hnewest hworld
    cases hcall : label.call with
    | setFocusedWorldScope focused focusedWorld scopeId descriptor =>
        rw [hcall] at hfocuses
        cases hfocuses
        obtain ⟨entry, hcheck⟩ := hpasses owner worldId scopeId descriptor hcall
        exact hsettles.focus owner worldId scopeId descriptor entry newest hcall
          hcheck hnewest hworld
    | recordWorldFocusFailure failed failedWorld diagnostic =>
        rw [hcall] at hfocuses
        cases hfocuses
        exact hsettles.failure owner worldId diagnostic newest hcall hnewest hworld
    | _ =>
        rw [hcall] at hfocuses
        cases hfocuses
  · intro hsettles
    constructor
    · intro owner worldId scopeId descriptor entry newest hcall _
      exact hsettles owner worldId (by rw [hcall]; rfl) newest
    · intro owner worldId diagnostic newest hcall
      exact hsettles owner worldId (by rw [hcall]; rfl) newest

/-- A rejected call meets the condition: a layer that is found takes every failure, and
every focus that passes its checks. -/
theorem Tracked.settlesNewest_rejected (h : state.Tracked) {history : List FocusLabel}
    {state' : FocusState} {error : UiError}
    (ran : state.ui.run label.call = (state.ui, .error error)) :
    SettlesNewest history state label state' := by
  constructor
  · intro owner worldId scopeId descriptor entry newest hcall hcheck
    rw [hcall] at ran
    simp [UiRuntimeState.run, UiRuntimeState.setFocusedWorldScope, hcheck, settle] at ran
  · intro owner worldId diagnostic newest hcall hnewest
    obtain ⟨scopeId, layer, hlayer, rfl⟩ := h.attached owner newest hnewest
    rw [hcall] at ran
    simp only [UiRuntimeState.run, UiRuntimeState.recordWorldFocusFailure,
      h.owned.findLayer_eq hlayer] at ran
    split at ran <;> simp at ran

/-- A step keeps the pending worlds exactly when it settles no older request for the world
of the newest one. -/
theorem keepsPending_iff {state' : FocusState} (hpending : state.PendingNewest) (h : state.Tracked)
    (hstep : FocusStep state label state') :
    KeepsPending labels state label state' ↔ SettlesNewest labels state label state' := by
  cases hstep with
  | accepted ran _ hticket =>
      rw [settlesNewest_iff]
      · exact (h.changes ran).pendingNewest_iff hpending h (h.owned.run ran) hticket
      · intro owner worldId scopeId descriptor hcall
        rw [hcall] at ran
        obtain ⟨_, _, hcheck, -⟩ := UiRuntimeState.setFocusedWorldScope_ok ran
        exact ⟨_, hcheck⟩
  | rejected ran => exact ⟨fun _ => h.settlesNewest_rejected ran, fun _ => hpending⟩

/-- The pending worlds are those of the newest open requests in exactly those runs in which
no older request for the same world is settled while a newer one is open. -/
theorem world_focus_bookkeeping :
    focusSystem.RunWith KeepsPending .new labels state ↔
      focusSystem.RunWith SettlesNewest .new labels state := by
  refine Lts.runWith_congr ?_
  intro labels state label state' hbefore hstep
  refine keepsPending_iff ?_ (tracked_run hbefore.run) hstep
  cases hbefore with
  | refl => exact fun _ _ hlayer => by cases hlayer
  | snoc _ _ hkeeps => exact hkeeps

/-! ## A failure of an older request -/

/-- Carry out calls that settle nothing. -/
def callAll (state : FocusState) : List UiCall → FocusState
  | [] => state
  | call :: rest => callAll { state.track call none with ui := (state.ui.run call).1 } rest

/-- Whether all of these calls are accepted. -/
def acceptsAll (state : FocusState) : List UiCall → Bool
  | [] => true
  | call :: rest =>
      (state.ui.run call).2.isOk &&
        acceptsAll { state.track call none with ui := (state.ui.run call).1 } rest

/-- Accepted calls make a run. -/
theorem run_callAll {calls : List UiCall} (h : state.acceptsAll calls = true) :
    focusSystem.Run state (calls.map fun call => ⟨call, .ok (), none⟩) (state.callAll calls) := by
  induction calls generalizing state with
  | nil => exact .refl state
  | cons call rest ih =>
      rw [acceptsAll, Bool.and_eq_true] at h
      obtain ⟨hfirst, hrest⟩ := h
      cases hran : state.ui.run call with
      | mk ui result =>
          rw [hran] at hfirst
          cases result with
          | error error => cases hfirst
          | ok value =>
              have hstep : FocusStep state ⟨call, .ok (), none⟩
                  { state.track call none with ui := (state.ui.run call).1 } :=
                .accepted (by rw [hran]) rfl (fun _ hnone => by cases hnone)
              exact .cons hstep (ih hrest)

/-- The world that the layer asks for. -/
def harborWorld : WorldId := ⟨⟨1, by decide⟩⟩

/-- A layer asks for a world twice, and the host drains the first request. -/
def repeatCalls : List UiCall :=
  [.registerInstance ⟨"shell"⟩ ⟨"host"⟩ [] [],
    .setInstanceActive ⟨"shell"⟩ true,
    .attachLayer UiRuntimeState.shellOwner ⟨1, [uiCapabilityText]⟩,
    .queueWorldFocusRequest UiRuntimeState.shellOwner harborWorld,
    .drainWorldFocusRequests,
    .queueWorldFocusRequest UiRuntimeState.shellOwner harborWorld]

/-- The failure of the first request. -/
def staleFailure : FocusLabel :=
  ⟨.recordWorldFocusFailure UiRuntimeState.shellOwner harborWorld "unavailable", .ok (), some 0⟩

/-- The failure of the first request clears the pending world of the second one. -/
theorem stale_failure_clears_newer :
    ∃ labels state, focusSystem.Run .new (labels ++ [staleFailure]) state ∧
      state.newest.lookup UiRuntimeState.shellOwner = some ⟨1, harborWorld⟩ ∧
      ¬ state.PendingNewest := by
  have hrun : focusSystem.Run .new _ (FocusState.new.callAll repeatCalls) := run_callAll rfl
  refine ⟨_, _, hrun.snoc (.accepted rfl rfl ?_), rfl, ?_⟩
  · intro number hnumber
    cases hnumber
    exact ⟨⟨UiRuntimeState.shellOwner, harborWorld⟩, by decide, rfl⟩
  · intro hpending
    have hnone := hpending ⟨"host"⟩ _ rfl
    cases hnone

end FocusState

end Rintawa.UiRuntime
