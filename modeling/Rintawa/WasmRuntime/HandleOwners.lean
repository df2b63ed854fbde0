/-
# Owners of handles

A store gives out handles in four tables for all components that it acts for. What a run
records tells which component created which handle. Tasks and network handles carry that
component, and go when it is stopped. Uploads carry nobody: they can be used by every
component that a call is made for, and they stay when the component that began them is
stopped. Everything stays when a stop is refused, as another callback has the store.
-/

import Mathlib.Data.List.Nodup
import Rintawa.WasmRuntime.Preferences

namespace Rintawa.WasmRuntime

open Rintawa.Lib Rintawa.Sdk Rintawa.ExtensionEngine

/-! ## What a run records -/

/-- The number that a table gives to its first, second and so on entry. -/
def HandleKind.number : HandleKind → Nat → Nat
  | .task | .network => id
  | .assetUpload | .userResourceUpload => Nat.succ

/-- No table gives out a handle twice, as its numbers differ. -/
theorem HandleKind.number_injective (kind : HandleKind) : Function.Injective kind.number := by
  cases kind with
  | task | network => exact Function.injective_id
  | assetUpload | userResourceUpload => exact Nat.succ_injective

/-- The handle that a step creates in a table, and the component that it is created for. -/
def SessionLabel.creates (kind : HandleKind) : SessionLabel → Option (Nat × ComponentRef)
  | .call (some owner) _ request (.ok (.handle handle)) =>
      if request.allocates = some kind then some (handle, owner) else none
  | _ => none

/-- The handles that a run has created in a table, in order. -/
def creations (kind : HandleKind) (labels : List SessionLabel) : List (Nat × ComponentRef) :=
  labels.filterMap (SessionLabel.creates kind)

/-- A run has created a handle for a component. -/
def Created (kind : HandleKind) (handle : Nat) (owner : ComponentRef)
    (labels : List SessionLabel) : Prop :=
  (handle, owner) ∈ creations kind labels

/-- Whether a component was stopped and has not been executed since. For the engine, a
component is stopped also when its stop was refused. -/
def stoppedIn (owner : ComponentRef) (labels : List SessionLabel) : Bool :=
  labels.foldl (fun stopped label =>
    match label with
    | .begin callback => stopped && decide (callback.executionOwner ≠ some owner)
    | .finish callback _ _ | .busy callback => stopped || decide (callback.stops = some owner)
    | _ => stopped) false

/-- The last step adds the handle that it gives out. -/
theorem creations_snoc (kind : HandleKind) (labels : List SessionLabel) (label : SessionLabel) :
    creations kind (labels ++ [label]) = creations kind labels ++ (label.creates kind).toList := by
  unfold creations
  rw [List.filterMap_append]
  congr 1

/-- What was given out stays in the history. -/
theorem Created.mono {kind : HandleKind} {handle : Nat} {owner : ComponentRef}
    {labels : List SessionLabel} (h : Created kind handle owner labels) (label : SessionLabel) :
    Created kind handle owner (labels ++ [label]) := by
  unfold Created
  rw [creations_snoc]
  exact List.mem_append_left _ h

/-- A step that gives out nothing adds nothing to the history. -/
theorem created_snoc_of_none {kind : HandleKind} {handle : Nat} {owner : ComponentRef}
    {labels : List SessionLabel} {label : SessionLabel} (hnone : label.creates kind = none) :
    Created kind handle owner (labels ++ [label]) ↔ Created kind handle owner labels := by
  unfold Created
  rw [creations_snoc, hnone]
  exact iff_of_eq (by rw [Option.toList_none, List.append_nil])

/-- A component is stopped by the end of its stop, and by a stop that is refused as busy. The next
callback that executes it takes this back. -/
theorem stoppedIn_snoc (owner : ComponentRef) (labels : List SessionLabel)
    (label : SessionLabel) :
    stoppedIn owner (labels ++ [label]) =
      match label with
      | .begin callback =>
          stoppedIn owner labels && decide (callback.executionOwner ≠ some owner)
      | .finish callback _ _ | .busy callback =>
          stoppedIn owner labels || decide (callback.stops = some owner)
      | _ => stoppedIn owner labels := by
  rw [stoppedIn, List.foldl_append]
  rfl

/-- A component whose stop callback was closed is stopped. -/
theorem stoppedIn_finish {owner : ComponentRef} {callback : GuestCallback}
    (hstops : callback.stops = some owner) (labels : List SessionLabel) (exit : GuestExit)
    (now : Nat) : stoppedIn owner (labels ++ [.finish callback exit now]) = true := by
  rw [stoppedIn_snoc]
  dsimp only
  rw [decide_eq_true hstops, Bool.or_true]

/-- A component whose stop was refused is stopped for the engine. -/
theorem stoppedIn_busy {owner : ComponentRef} {callback : GuestCallback}
    (hstops : callback.stops = some owner) (labels : List SessionLabel) :
    stoppedIn owner (labels ++ [.busy callback]) = true := by
  rw [stoppedIn_snoc]
  dsimp only
  rw [decide_eq_true hstops, Bool.or_true]

/-- A stop is refused only while a service callback of another component runs. -/
theorem GuestCallback.Apart.executionOwner_ne {callback holder : GuestCallback}
    {owner : ComponentRef} (hapart : callback.Apart holder)
    (hconcurrent : holder.isService = true ∨ callback.isService = true)
    (hstops : callback.stops = some owner) : holder.executionOwner ≠ some owner := by
  cases callback with
  | stop context | targetStop context =>
      cases hstops
      cases holder with
      | service other | targetService other =>
          intro howner
          exact hapart context other rfl rfl (Option.some.inj howner).symm
      | _ => rcases hconcurrent with hservice | hservice <;> cases hservice
  | _ => cases hstops

/-! ## What is in the tables -/

namespace WasmHostState

/-- Whether a handle is in use. -/
def live (host : WasmHostState) : HandleKind → Nat → Bool
  | .task, handle => (host.activeTasks.lookup handle).isSome
  | .network, handle => (host.networkHandles.lookup handle).isSome
  | .assetUpload, handle => (host.assetUploads.lookup handle).isSome
  | .userResourceUpload, handle => (host.userResourceUploads.lookup handle).isSome

variable {host : WasmHostState}

/-- A handle in use was given out. -/
theorem numbered_of_live {kind : HandleKind} {handle : Nat}
    (h : host.live kind handle = true) :
    ∃ index < host.issued kind, handle = kind.number index := by
  cases kind with
  | task | network | assetUpload | userResourceUpload =>
      obtain ⟨value, hvalue⟩ := Option.isSome_iff_exists.mp h
      exact HandleTable.numbered _ handle value hvalue

/-- A handle that is live afterwards was live before. -/
theorem TablesWithin.live {host' : WasmHostState} (h : host.TablesWithin host')
    {kind : HandleKind} {handle : Nat} (hlive : host'.live kind handle = true) :
    host.live kind handle = true := by
  cases kind with
  | task =>
      obtain ⟨task', htask'⟩ := Option.isSome_iff_exists.mp hlive
      obtain ⟨task, htask, -⟩ := h.tasks handle task' htask'
      exact Option.isSome_iff_exists.mpr ⟨task, htask⟩
  | network =>
      obtain ⟨resource', hresource'⟩ := Option.isSome_iff_exists.mp hlive
      obtain ⟨resource, hresource, -⟩ := h.network handle resource' hresource'
      exact Option.isSome_iff_exists.mpr ⟨resource, hresource⟩
  | assetUpload =>
      change (host.assetUploads.lookup handle).isSome = true
      rw [← h.assetUploads]
      exact hlive
  | userResourceUpload =>
      change (host.userResourceUploads.lookup handle).isSome = true
      rw [← h.userResourceUploads]
      exact hlive

/-- What a component has in the tables that record components is gone. -/
theorem not_owned_of_revoked (host : WasmHostState) (owner : ComponentRef) :
    (∀ handle task,
      (host.revokeRuntimeResourcesForOwner owner).activeTasks.lookup handle = some task →
        task.owner ≠ owner) ∧
    ∀ handle resource,
      (host.revokeRuntimeResourcesForOwner owner).networkHandles.lookup handle = some resource →
        resource.owner ≠ owner := by
  refine ⟨fun handle task hlookup => ?_, fun handle resource hlookup => ?_⟩
  · have hkept := (HandleTable.lookup_retain _ handle).symm.trans hlookup
    exact bne_iff_ne.mp (Option.filter_eq_some_iff.mp hkept).2
  · have hkept := (HandleTable.lookup_retain _ handle).symm.trans hlookup
    exact bne_iff_ne.mp (Option.filter_eq_some_iff.mp hkept).2

/-! ## Calls -/

variable {env : HostEnvironment} {outcome : CallOutcome} {V : Type}

/-- A step that creates nothing in a table. -/
theorem creates_call_eq_none {owner : Option ComponentRef} {call : CapabilityCall}
    {result : Except CapabilityError CapabilityValue} {kind : HandleKind}
    (h : ∀ handle, result = .ok (.handle handle) → call.allocates ≠ some kind) :
    (SessionLabel.call owner env call result).creates kind = none := by
  unfold SessionLabel.creates
  split
  · next heq =>
      cases heq
      exact if_neg (h _ rfl)
  · rfl

/-- A call that gives out a handle does so for the component that is executed. -/
theorem creates_call_of_allocates {owner : ComponentRef} {call : CapabilityCall} {kind : HandleKind}
    {handle : Nat} (h : call.allocates = some kind) :
    (SessionLabel.call (some owner) env call (.ok (.handle handle))).creates kind =
      some (handle, owner) :=
  if_pos h

/-- What a call does to one table. It creates nothing, and nothing comes into use; or it
gives out the next handle. -/
def TableStep (host : WasmHostState) (env : HostEnvironment) (call : CapabilityCall)
    (outcome : CallOutcome) (kind : HandleKind) : Prop :=
  ((SessionLabel.call host.executionOwner env call outcome.result).creates kind = none ∧
      outcome.state.issued kind = host.issued kind ∧
      ∀ handle, outcome.state.live kind handle = true → host.live kind handle = true) ∨
    ∃ owner, host.executionOwner = some owner ∧
      (SessionLabel.call host.executionOwner env call outcome.result).creates kind =
        some (kind.number (host.issued kind), owner) ∧
      outcome.state.issued kind = host.issued kind + 1 ∧
      ∀ handle, outcome.state.live kind handle = true →
        handle = kind.number (host.issued kind) ∨ host.live kind handle = true

/-- A call that gives out nothing, and makes nothing live, is a step of the table. -/
theorem TableStep.quiet {call : CapabilityCall} {kind : HandleKind}
    (hresult : ∀ handle, outcome.result = .ok (.handle handle) → call.allocates ≠ some kind)
    (hissued : outcome.state.issued kind = host.issued kind)
    (hlive : ∀ handle, outcome.state.live kind handle = true → host.live kind handle = true) :
    host.TableStep env call outcome kind :=
  .inl ⟨creates_call_eq_none hresult, hissued, hlive⟩

/-- A call without an entry gives out nothing in any table. -/
theorem ne_of_givesOutNothing {call : CapabilityCall}
    {result : Except CapabilityError CapabilityValue} (h : call.GivesOutNothing result)
    (kind : HandleKind) :
    ∀ handle, result = .ok (.handle handle) → call.allocates ≠ some kind := by
  intro handle hresult hallocates
  cases (h handle hresult).symm.trans hallocates

/-- The only entry that is new has the next number. -/
theorem isSome_of_lookup_allocate {number : Nat → Nat} {limit handle : Nat}
    {table table' : HandleTable number V} {value : V} (h : table.allocate limit value = some table')
    (hlive : (table'.lookup handle).isSome = true) :
    handle = table.next ∨ (table.lookup handle).isSome = true := by
  rw [HandleTable.lookup_allocate h] at hlive
  split at hlive
  · next heq => exact .inl heq
  · exact .inr hlive

/-- No entry is new after a removal. -/
theorem isSome_of_lookup_remove {number : Nat → Nat} {removed handle : Nat}
    {table : HandleTable number V} (hlive : ((table.remove removed).lookup handle).isSome = true) :
    (table.lookup handle).isSome = true := by
  rw [HandleTable.lookup_remove] at hlive
  split at hlive
  · cases hlive
  · exact hlive

/-- No entry is new after a change of one. -/
theorem isSome_of_lookup_modify {number : Nat → Nat} {modified handle : Nat}
    {table : HandleTable number V} {change : V → V}
    (hlive : ((table.modify modified change).lookup handle).isSome = true) :
    (table.lookup handle).isSome = true := by
  rw [HandleTable.lookup_modify] at hlive
  split at hlive
  · rwa [Option.isSome_map] at hlive
  · exact hlive

/-- Every call steps every table. -/
theorem Performs.tableStep {call : CapabilityCall} (h : host.Performs call outcome)
    (env : HostEnvironment) (kind : HandleKind) : host.TableStep env call outcome kind := by
  cases h with
  | refused error => exact .quiet (fun _ hresult => by cases hresult) rfl fun _ hlive => hlive
  | logged message => exact .quiet (fun _ hresult => by cases hresult) rfl fun _ hlive => hlive
  | passed executes nothing | readSource source borrowed nothing =>
      exact .quiet (ne_of_givesOutNothing nothing kind) rfl fun _ hlive => hlive
  | droppedSource source borrowed | targetQueued target active | effectQueued owner effect active
  | effectWithdrawn handle active | revocationQueued handle effect active
  | registered scope isOpen =>
      refine .quiet (fun _ hresult => by cases hresult) ?_ fun handle hlive => ?_
      · cases kind with
        | task | network | assetUpload | userResourceUpload => rfl
      · cases kind with
        | task | network | assetUpload | userResourceUpload => exact hlive
  | counted counters executes nothing =>
      refine .quiet (ne_of_givesOutNothing nothing kind) ?_ fun handle hlive => ?_
      · cases kind with
        | task | network | assetUpload | userResourceUpload => rfl
      · cases kind with
        | task | network | assetUpload | userResourceUpload => exact hlive
  | taskSpawned task tasks allocates executes allocated =>
      cases kind with
      | task =>
          refine .inr ⟨task.owner, executes, ?_, HandleTable.issued_allocate allocated,
            fun handle hlive => isSome_of_lookup_allocate allocated hlive⟩
          rw [executes]
          exact creates_call_of_allocates allocates
      | network | assetUpload | userResourceUpload =>
          exact .quiet (fun _ _ hother => by cases allocates.symm.trans hother) rfl
            fun _ hlive => hlive
  | taskCancelled handle task found owned =>
      refine .quiet (fun _ hresult => by cases hresult) ?_ fun other hlive => ?_
      · cases kind with
        | task | network | assetUpload | userResourceUpload => rfl
      · cases kind with
        | task => exact isSome_of_lookup_remove hlive
        | network | assetUpload | userResourceUpload => exact hlive
  | networkOpened resource handles allocates executes allocated =>
      cases kind with
      | network =>
          refine .inr ⟨resource.owner, executes, ?_, HandleTable.issued_allocate allocated,
            fun handle hlive => isSome_of_lookup_allocate allocated hlive⟩
          rw [executes]
          exact creates_call_of_allocates allocates
      | task | assetUpload | userResourceUpload =>
          exact .quiet (fun _ _ hother => by cases allocates.symm.trans hother) rfl
            fun _ hlive => hlive
  | networkClosed handle resource found owned =>
      refine .quiet (fun _ hresult => by cases hresult) ?_ fun other hlive => ?_
      · cases kind with
        | task | network | assetUpload | userResourceUpload => rfl
      · cases kind with
        | network => exact isSome_of_lookup_remove hlive
        | task | assetUpload | userResourceUpload => exact hlive
  | assetUploadBegun upload uploads allocates executes allocated =>
      obtain ⟨owner, howner⟩ := Option.isSome_iff_exists.mp executes
      cases kind with
      | assetUpload =>
          refine .inr ⟨owner, howner, ?_, HandleTable.issued_allocate allocated,
            fun handle hlive => isSome_of_lookup_allocate allocated hlive⟩
          rw [howner]
          exact creates_call_of_allocates allocates
      | task | network | userResourceUpload =>
          exact .quiet (fun _ _ hother => by cases allocates.symm.trans hother) rfl
            fun _ hlive => hlive
  | assetUploadAppended handle bytes executes =>
      refine .quiet (fun _ hresult => by cases hresult) ?_ fun other hlive => ?_
      · cases kind with
        | task | network | assetUpload | userResourceUpload => rfl
      · cases kind with
        | assetUpload => exact isSome_of_lookup_modify hlive
        | task | network | userResourceUpload => exact hlive
  | assetUploadRemoved handle executes nothing =>
      refine .quiet (ne_of_givesOutNothing nothing kind) ?_ fun other hlive => ?_
      · cases kind with
        | task | network | assetUpload | userResourceUpload => rfl
      · cases kind with
        | assetUpload => exact isSome_of_lookup_remove hlive
        | task | network | userResourceUpload => exact hlive
  | userResourceUploadBegun upload uploads allocates executes allocated =>
      obtain ⟨owner, howner⟩ := Option.isSome_iff_exists.mp executes
      cases kind with
      | userResourceUpload =>
          refine .inr ⟨owner, howner, ?_, HandleTable.issued_allocate allocated,
            fun handle hlive => isSome_of_lookup_allocate allocated hlive⟩
          rw [howner]
          exact creates_call_of_allocates allocates
      | task | network | assetUpload =>
          exact .quiet (fun _ _ hother => by cases allocates.symm.trans hother) rfl
            fun _ hlive => hlive
  | userResourceUploadAppended handle bytes executes =>
      refine .quiet (fun _ hresult => by cases hresult) ?_ fun other hlive => ?_
      · cases kind with
        | task | network | assetUpload | userResourceUpload => rfl
      · cases kind with
        | userResourceUpload => exact isSome_of_lookup_modify hlive
        | task | network | assetUpload => exact hlive
  | userResourceUploadRemoved handle executes nothing =>
      refine .quiet (ne_of_givesOutNothing nothing kind) ?_ fun other hlive => ?_
      · cases kind with
        | task | network | assetUpload | userResourceUpload => rfl
      · cases kind with
        | userResourceUpload => exact isSome_of_lookup_remove hlive
        | task | network | assetUpload => exact hlive

/-- A task is there before a call or is created by it. -/
theorem Performs.taskOwner {call : CapabilityCall} (h : host.Performs call outcome)
    (env : HostEnvironment) {handle : Nat} {task : ActiveWasmTask}
    (hlookup : outcome.state.activeTasks.lookup handle = some task) :
    host.activeTasks.lookup handle = some task ∨
      (SessionLabel.call host.executionOwner env call outcome.result).creates .task =
        some (handle, task.owner) := by
  cases h with
  | taskSpawned spawned tasks allocates executes allocated =>
      have hallocated := (HandleTable.lookup_allocate allocated handle).symm.trans hlookup
      split at hallocated
      · next heq =>
          cases hallocated
          rw [executes, heq]
          exact .inr (creates_call_of_allocates allocates)
      · exact .inl hallocated
  | taskCancelled cancelled other found owned =>
      have hremoved := (HandleTable.lookup_remove cancelled handle).symm.trans hlookup
      split at hremoved
      · cases hremoved
      · exact .inl hremoved
  | _ => exact .inl hlookup

/-- A network handle is there before a call or is created by it. -/
theorem Performs.networkOwner {call : CapabilityCall} (h : host.Performs call outcome)
    (env : HostEnvironment) {handle : Nat} {resource : OwnedNetworkHandle}
    (hlookup : outcome.state.networkHandles.lookup handle = some resource) :
    host.networkHandles.lookup handle = some resource ∨
      (SessionLabel.call host.executionOwner env call outcome.result).creates .network =
        some (handle, resource.owner) := by
  cases h with
  | networkOpened opened handles allocates executes allocated =>
      have hallocated := (HandleTable.lookup_allocate allocated handle).symm.trans hlookup
      split at hallocated
      · next heq =>
          cases hallocated
          rw [executes, heq]
          exact .inr (creates_call_of_allocates allocates)
      · exact .inl hallocated
  | networkClosed closed other found owned =>
      have hremoved := (HandleTable.lookup_remove closed handle).symm.trans hlookup
      split at hremoved
      · cases hremoved
      · exact .inl hremoved
  | _ => exact .inl hlookup

end WasmHostState

/-! ## Drivers -/

namespace WasmSession

open WasmHostState

variable {session : WasmSession} {host : WasmHostState} {context : ComponentIdentity}

/-- A driver that opens a callback keeps the tables of the store that is there, or makes a
new one. -/
structure Opens (session session' : WasmSession) : Prop where
  store : ∀ host', session'.hostState = some host' →
    (∃ host, session.hostState = some host ∧ host.SameTables host') ∨
      session.hostState = none ∧ session.failedLifecycleCallback = none ∧
        host' = .withHostServicesAndBudget session.componentId session.taskHandlerAvailable
          session.budget
  kept : session'.hostState = none → session.hostState = none
  failed : session'.failedLifecycleCallback = session.failedLifecycleCallback
  registry : session'.registry = session.registry

/-- Every callback is opened with the tables that are there. -/
theorem opens_begin (session : WasmSession) (callback : GuestCallback) :
    session.Opens (session.begin callback) := by
  have hbegins := session.begins callback
  generalize session.begin callback = session' at hbegins ⊢
  cases hbegins with
  | refused active => exact ⟨fun host' hstore => .inl ⟨host', hstore, .refl host'⟩, id, rfl, rfl⟩
  | occupied active store same | entered active store same =>
      refine ⟨fun other hother => ?_, (fun hnone => by cases hnone), rfl, rfl⟩
      cases hother
      exact .inl ⟨_, store, same⟩
  | created active instantiates store works =>
      refine ⟨fun other hother => ?_, (fun hnone => by cases hnone), rfl, rfl⟩
      cases hother
      exact .inr ⟨store, works, rfl⟩

/-- A driver that opens a callback keeps the tables of the store that is there. A new store
has given nothing out. -/
theorem Opens.tables {session' : WasmSession} (h : session.Opens session')
    (host' : WasmHostState) (hstore : session'.hostState = some host') :
    (∃ host, session.hostState = some host ∧ host.TablesWithin host') ∨
      session.hostState = none ∧ session.failedLifecycleCallback = none ∧
        ∀ kind, host'.issued kind = 0 := by
  rcases h.store host' hstore with ⟨host, hbefore, hsame⟩ | ⟨hnone, hfailed, rfl⟩
  · exact .inl ⟨host, hbefore, .of_eq hsame.activeTasks hsame.networkHandles
      hsame.assetUploads hsame.userResourceUploads⟩
  · refine .inr ⟨hnone, hfailed, fun kind => ?_⟩
    cases kind with
    | task | network | assetUpload | userResourceUpload => rfl

/-- An instantiation begins only while there is no store. -/
theorem unissued_of_begin {callback : GuestCallback} (hidle : session.current = none)
    (hcurrent : (session.begin callback).current = some .instantiate) :
    session.hostState = none ∧ session.failedLifecycleCallback = none := by
  have hbegins := session.begins callback
  generalize session.begin callback = session' at hbegins hcurrent
  cases hbegins with
  | refused | occupied => cases hidle.symm.trans hcurrent
  | created active instantiates store works => exact ⟨store, works⟩
  | entered active store same serves other =>
      cases hcurrent
      exact absurd rfl other

/-- A stop begins with the store as it is. -/
theorem hostState_beginStop (session : WasmSession) (context : ComponentIdentity) :
    (session.begin (.stop context)).hostState = session.hostState := by
  unfold WasmSession.begin beginStop
  dsimp only
  split
  · rfl
  · next host hstore => exact hstore.symm

end WasmSession

/-! ## What the history says of the tables -/

/-- The record of a run agrees with the session that it has led to. -/
structure Recorded (labels : List SessionLabel) (session : WasmSession) : Prop where
  unissued : (session.hostState = none ∧ session.failedLifecycleCallback = none) ∨
    session.current = some .instantiate → ∀ kind, creations kind labels = []
  issued : ∀ host, session.hostState = some host → ∀ kind,
    (creations kind labels).map Prod.fst = (List.range (host.issued kind)).map kind.number
  nodup : ∀ kind, ((creations kind labels).map Prod.fst).Nodup
  tasks : ∀ host handle task, session.hostState = some host →
    host.activeTasks.lookup handle = some task → Created .task handle task.owner labels
  network : ∀ host handle resource, session.hostState = some host →
    host.networkHandles.lookup handle = some resource →
      Created .network handle resource.owner labels
  executing : ∀ callback owner, session.current = some callback →
    callback.executionOwner = some owner → stoppedIn owner labels = false
  stopping : ∀ context host, session.current = some (.stop context) →
    session.hostState = some host → host.registeredOwner = some context.owner

namespace Recorded

variable {labels : List SessionLabel} {session : WasmSession} {host : WasmHostState}

/-- A handle is created for one component only. -/
theorem creator_unique (h : Recorded labels session) {kind : HandleKind} {handle : Nat}
    {owner other : ComponentRef} (howner : Created kind handle owner labels)
    (hother : Created kind handle other labels) : owner = other := by
  have heq := List.inj_on_of_nodup_map (h.nodup kind) howner hother rfl
  exact congrArg Prod.snd heq

/-- The handles that were given out are those below the counter of the table. -/
theorem created_iff (h : Recorded labels session) (hstore : session.hostState = some host)
    {kind : HandleKind} {handle : Nat} :
    (∃ owner, Created kind handle owner labels) ↔
      ∃ index < host.issued kind, handle = kind.number index := by
  have hmem : (∃ owner, Created kind handle owner labels) ↔
      handle ∈ (creations kind labels).map Prod.fst := by
    constructor
    · rintro ⟨owner, hcreated⟩
      exact List.mem_map.mpr ⟨_, hcreated, rfl⟩
    · intro hhandle
      obtain ⟨⟨number, owner⟩, hcreated, rfl⟩ := List.mem_map.mp hhandle
      exact ⟨owner, hcreated⟩
  rw [hmem, h.issued host hstore kind, List.mem_map]
  constructor
  · rintro ⟨index, hindex, rfl⟩
    exact ⟨index, List.mem_range.mp hindex, rfl⟩
  · rintro ⟨index, hindex, rfl⟩
    exact ⟨index, List.mem_range.mpr hindex, rfl⟩

/-- The next handle was never created. -/
theorem next_fresh (h : Recorded labels session) (hstore : session.hostState = some host)
    (kind : HandleKind) (owner : ComponentRef) :
    ¬ Created kind (kind.number (host.issued kind)) owner labels := by
  intro hcreated
  obtain ⟨index, hindex, heq⟩ := (h.created_iff hstore).mp ⟨owner, hcreated⟩
  exact absurd (kind.number_injective heq) (Nat.ne_of_gt hindex)

/-- Nothing is recorded at first, and there is no store. -/
theorem init (h : wasmSystem.init session) : Recorded [] session := by
  obtain ⟨componentId, budget, tasks, targets, registry, published, services, rfl⟩ := h
  exact ⟨fun _ _ => rfl, fun _ hstore => (by cases hstore), fun _ => List.nodup_nil,
    fun _ _ _ hstore => (by cases hstore), fun _ _ _ hstore => (by cases hstore),
    fun _ _ hcurrent => (by cases hcurrent), fun _ _ hcurrent => (by cases hcurrent)⟩

/-- What a driver that opens a callback keeps. -/
theorem begin (h : Recorded labels session) {callback : GuestCallback}
    (hidle : session.current = none) (hpasses : session.Passes callback) :
    Recorded (labels ++ [.begin callback]) (session.begin callback) := by
  have hopens := WasmSession.opens_begin session callback
  have hsame : ∀ kind, creations kind (labels ++ [.begin callback]) = creations kind labels := by
    intro kind
    rw [creations_snoc]
    exact List.append_nil _
  have hopened : ∀ other, (session.begin callback).current = some other → other = callback := by
    intro other hcurrent
    rcases session.begin_current callback with hnone | hcallback
    · cases (hnone.trans hidle).symm.trans hcurrent
    · cases hcallback.symm.trans hcurrent
      rfl
  have hnothing : ∀ kind handle host', (∀ kind, host'.issued kind = 0) →
      WasmHostState.live host' kind handle = false := by
    intro kind handle host' hzero
    refine Bool.eq_false_iff.mpr fun hlive => ?_
    obtain ⟨index, hindex, -⟩ := WasmHostState.numbered_of_live hlive
    rw [hzero kind] at hindex
    cases hindex
  refine ⟨fun hunissued kind => ?_, fun host' hstore' kind => ?_, fun kind => ?_,
    fun host' handle task hstore' hlookup => ?_, fun host' handle resource hstore' hlookup => ?_,
    fun other owner hcurrent howner => ?_, fun context host' hcurrent hstore' => ?_⟩
  · rw [hsame]
    refine h.unissued (.inl ?_) kind
    rcases hunissued with ⟨hnone, hfailed⟩ | hcurrent
    · exact ⟨hopens.kept hnone, hopens.failed.symm.trans hfailed⟩
    · exact WasmSession.unissued_of_begin hidle hcurrent
  · rw [hsame]
    rcases hopens.tables host' hstore' with ⟨host, hstore, hwithin⟩ | ⟨hnone, hfailed, hzero⟩
    · rw [hwithin.issued kind]
      exact h.issued host hstore kind
    · rw [h.unissued (.inl ⟨hnone, hfailed⟩) kind, hzero kind]
      rfl
  · rw [hsame]
    exact h.nodup kind
  · rcases hopens.tables host' hstore' with ⟨host, hstore, hwithin⟩ | ⟨hnone, hfailed, hzero⟩
    · obtain ⟨before, hbefore, howner⟩ := hwithin.tasks handle task hlookup
      exact howner ▸ (h.tasks host handle before hstore hbefore).mono _
    · have hlive : host'.live .task handle = true := Option.isSome_iff_exists.mpr ⟨task, hlookup⟩
      rw [hnothing .task handle host' hzero] at hlive
      cases hlive
  · rcases hopens.tables host' hstore' with ⟨host, hstore, hwithin⟩ | ⟨hnone, hfailed, hzero⟩
    · obtain ⟨before, hbefore, howner⟩ := hwithin.network handle resource hlookup
      exact howner ▸ (h.network host handle before hstore hbefore).mono _
    · have hlive : host'.live .network handle = true :=
        Option.isSome_iff_exists.mpr ⟨resource, hlookup⟩
      rw [hnothing .network handle host' hzero] at hlive
      cases hlive
  · cases hopened other hcurrent
    rw [stoppedIn_snoc]
    dsimp only
    rw [decide_eq_false (not_not.mpr howner), Bool.and_false]
  · cases hopened _ hcurrent
    rw [WasmSession.hostState_beginStop] at hstore'
    exact hpasses.stop context host' rfl hstore'

/-- What a call keeps. -/
theorem call (h : Recorded labels session) (hguarded : session.Guarded)
    (hstore : session.hostState = some host) (env : HostEnvironment) (request : CapabilityCall) :
    Recorded
      (labels ++ [.call host.executionOwner env request (host.perform env request).result])
      { session with hostState := some (host.perform env request).state } := by
  have hperforms := WasmHostState.performs host env request
  have hissued : ∀ kind,
      (creations kind (labels ++
        [.call host.executionOwner env request (host.perform env request).result])).map Prod.fst =
      (List.range ((host.perform env request).state.issued kind)).map kind.number := by
    intro kind
    rw [creations_snoc, List.map_append, h.issued host hstore kind]
    rcases hperforms.tableStep env kind with
      ⟨hcreates, hsame, -⟩ | ⟨owner, -, hcreates, hnext, -⟩
    · rw [hcreates, hsame]
      exact List.append_nil _
    · rw [hcreates, hnext, List.range_succ, List.map_append]
      rfl
  refine ⟨?_, ?_, fun kind => ?_, ?_, ?_, fun other owner hcurrent howner => ?_,
    fun context host' hcurrent hstore' => ?_⟩
  · rintro (⟨hnone, -⟩ | hcurrent) kind
    · cases hnone
    · obtain ⟨other, hother, hserves⟩ := hguarded.running .instantiate hcurrent
      cases hstore.symm.trans hother
      rw [creations_snoc, h.unissued (.inr hcurrent) kind, hserves.owner]
      rfl
  · intro host' hstore' kind
    cases hstore'
    exact hissued kind
  · rw [hissued kind]
    exact List.nodup_range.map kind.number_injective
  · intro host' handle task hstore' hlookup
    cases hstore'
    rcases hperforms.taskOwner env hlookup with hbefore | hcreates
    · exact (h.tasks host handle task hstore hbefore).mono _
    · unfold Created
      rw [creations_snoc, hcreates]
      exact List.mem_append_right _ (List.mem_singleton_self _)
  · intro host' handle resource hstore' hlookup
    cases hstore'
    rcases hperforms.networkOwner env hlookup with hbefore | hcreates
    · exact (h.network host handle resource hstore hbefore).mono _
    · unfold Created
      rw [creations_snoc, hcreates]
      exact List.mem_append_right _ (List.mem_singleton_self _)
  · rw [stoppedIn_snoc]
    exact h.executing other owner hcurrent howner
  · cases hstore'
    have hsame := hperforms.sameComponent
    have hregistered := h.stopping context host hcurrent hstore
    unfold WasmHostState.registeredOwner at hregistered ⊢
    rw [hsame.instanceId, hsame.componentId]
    exact hregistered

/-- What a driver that closes a callback keeps. -/
theorem finish (h : Recorded labels session) (hguarded : session.Guarded)
    {callback : GuestCallback} (hrunning : session.current = some callback)
    (hstore : session.hostState = some host) (exit : GuestExit) (now : Nat) :
    Recorded (labels ++ [.finish callback exit now]) (session.finish host exit now callback) := by
  obtain ⟨other, hother, hserves⟩ := hguarded.running callback hrunning
  cases hstore.symm.trans hother
  have htables := fun host' hstore' =>
    (@WasmSession.store_of_finish session host callback host' hserves exit now hstore').2
  have hsame : ∀ kind,
      creations kind (labels ++ [.finish callback exit now]) = creations kind labels := by
    intro kind
    rw [creations_snoc]
    exact List.append_nil _
  have hclosed := @WasmSession.finish_current session host callback hserves exit now
  refine ⟨?_, fun host' hstore' kind => ?_, fun kind => ?_,
    fun host' handle task hstore' hlookup => ?_, fun host' handle resource hstore' hlookup => ?_,
    fun _ _ hcurrent => (by cases hclosed.symm.trans hcurrent),
    fun _ _ hcurrent => by cases hclosed.symm.trans hcurrent⟩
  · rintro (⟨hnone, hfailed⟩ | hcurrent) kind
    · rw [hsame]
      by_cases hcallback : callback = .instantiate
      · exact h.unissued (.inr (hcallback ▸ hrunning)) kind
      · exact absurd hfailed ((WasmSession.ends_finish hserves hcallback exit now).failed hnone)
    · cases hclosed.symm.trans hcurrent
  · rw [hsame, (htables host' hstore').issued kind]
    exact h.issued host hstore kind
  · rw [hsame]
    exact h.nodup kind
  · obtain ⟨before, hbefore, howner⟩ := (htables host' hstore').tasks handle task hlookup
    exact howner ▸ (h.tasks host handle before hstore hbefore).mono _
  · obtain ⟨before, hbefore, howner⟩ := (htables host' hstore').network handle resource hlookup
    exact howner ▸ (h.network host handle before hstore hbefore).mono _

/-- What a step keeps that creates nothing and leaves the store and its callback alone. A
component that is executed is not stopped by it. -/
theorem quiet (h : Recorded labels session) {label : SessionLabel} {session' : WasmSession}
    (hcreates : ∀ kind, label.creates kind = none)
    (hstore : session'.hostState = session.hostState)
    (hcurrent : session'.current = session.current)
    (hfailed : session'.failedLifecycleCallback = session.failedLifecycleCallback)
    (hstopped : ∀ callback owner, session.current = some callback →
      callback.executionOwner = some owner →
        stoppedIn owner (labels ++ [label]) = stoppedIn owner labels) :
    Recorded (labels ++ [label]) session' := by
  have hsame : ∀ kind, creations kind (labels ++ [label]) = creations kind labels := by
    intro kind
    rw [creations_snoc, hcreates kind]
    exact List.append_nil _
  refine ⟨fun hunissued kind => ?_, fun host hhost kind => ?_, fun kind => ?_,
    fun host handle task hhost hlookup => ?_, fun host handle resource hhost hlookup => ?_,
    fun callback owner hcallback howner => ?_, fun context host hcallback hhost => ?_⟩
  · rw [hstore, hcurrent, hfailed] at hunissued
    rw [hsame]
    exact h.unissued hunissued kind
  · rw [hsame]
    exact h.issued host (hstore.symm.trans hhost) kind
  · rw [hsame]
    exact h.nodup kind
  · exact (h.tasks host handle task (hstore.symm.trans hhost) hlookup).mono _
  · exact (h.network host handle resource (hstore.symm.trans hhost) hlookup).mono _
  · have hbefore := h.executing callback owner (hcurrent.symm.trans hcallback) howner
    exact (hstopped callback owner (hcurrent.symm.trans hcallback) howner).trans hbefore
  · exact h.stopping context host (hcurrent.symm.trans hcallback) (hstore.symm.trans hhost)

/-- What a refused callback keeps: the component that is executed is another one. -/
theorem busy (h : Recorded labels session) {callback holder : GuestCallback}
    (hheld : session.current = some holder)
    (hconcurrent : holder.isService = true ∨ callback.isService = true)
    (hapart : callback.Apart holder) :
    Recorded (labels ++ [.busy callback]) (session.refuseBusy callback) := by
  refine h.quiet (fun _ => rfl) (session.refuseBusy_hostState callback)
    (session.refuseBusy_current callback) (session.refuseBusy_failed callback) ?_
  intro other owner hother howner
  cases hheld.symm.trans hother
  have hstops : callback.stops ≠ some owner :=
    fun hstops => hapart.executionOwner_ne hconcurrent hstops howner
  rw [stoppedIn_snoc]
  dsimp only
  rw [decide_eq_false hstops, Bool.or_false]

/-- The record agrees with the session after every run. -/
theorem of_run {start : WasmSession} (hinit : wasmSystem.init start)
    (hrun : wasmSystem.Run start labels session) : Recorded labels session := by
  refine Lts.Run.history_induction (P := Recorded) (init hinit) ?_ hrun
  intro labels session label session' hbefore hrecorded hstep
  have hguarded := WasmSession.guarded_of_reachable ⟨start, labels, hinit, hbefore⟩
  cases hstep with
  | begin callback idle passes => exact hrecorded.begin idle passes
  | call env request running store scopes => exact hrecorded.call hguarded store env request
  | finish exit now running store mayLeave => exact hrecorded.finish hguarded running store exit now
  | busy callback held concurrent apart passes => exact hrecorded.busy held concurrent apart
  | engine registry targets services free =>
      exact hrecorded.quiet (fun _ => rfl) rfl rfl rfl
        fun _ owner _ _ => stoppedIn_snoc owner labels _

end Recorded

/-! ## Uses of handles -/

/-- Tables whose entries record the component that they belong to. -/
def HandleKind.recordsOwner : HandleKind → Bool
  | .task | .network => true
  | .assetUpload | .userResourceUpload => false

/-- The handle that a call uses. -/
def CapabilityCall.uses : CapabilityCall → Option (HandleKind × Nat)
  | .cancelTask handle => some (.task, handle)
  | .accept handle | .readSocket handle _ | .writeSocket handle _ | .closeHandle handle =>
      some (.network, handle)
  | .appendAssetUpload handle _ | .finishAssetUpload handle | .cancelAssetUpload handle =>
      some (.assetUpload, handle)
  | .appendResourceUpload handle _ | .finishResourceUpload handle
  | .cancelResourceUpload handle => some (.userResourceUpload, handle)
  | _ => none

namespace WasmHostState

variable (host : WasmHostState) (env : HostEnvironment)

/-- The component that an entry records. -/
def holder : HandleKind → Nat → Option ComponentRef
  | .task, handle => (host.activeTasks.lookup handle).map ActiveWasmTask.owner
  | .network, handle => (host.networkHandles.lookup handle).map OwnedNetworkHandle.owner
  | _, _ => none

/-- The component that is executed has host access and a permission. -/
def MayUse (permission : RuntimePermission) : Prop :=
  host.hostAccessActive = true ∧ ∃ owner, host.executionOwner = some owner ∧
    env.hasGrant owner permission = .ok true

/-- What lets a call use an upload: access, an upload under the handle and data that fits. No
component is looked at but the one that is executed. -/
def UploadAccepted : CapabilityCall → Prop
  | .appendAssetUpload handle bytes =>
      host.MayUse env .assetImport ∧ bytes ≠ [] ∧
        bytes.length ≤ host.budget.maxHostMessageBytes ∧
        ∃ upload, host.assetUploads.lookup handle = some upload ∧
          upload.bytes.length + bytes.length ≤ upload.expectedSize
  | .finishAssetUpload handle =>
      host.MayUse env .assetImport ∧ ∃ upload, host.assetUploads.lookup handle = some upload ∧
        upload.bytes.length = upload.expectedSize
  | .cancelAssetUpload handle =>
      host.MayUse env .assetImport ∧ ∃ upload, host.assetUploads.lookup handle = some upload
  | .appendResourceUpload handle bytes =>
      host.MayUse env .userResourceImport ∧ bytes ≠ [] ∧
        bytes.length ≤ host.budget.maxHostMessageBytes ∧
        ∃ upload, host.userResourceUploads.lookup handle = some upload ∧
          upload.bytes.length + bytes.length ≤ upload.expectedSize
  | .finishResourceUpload handle =>
      host.MayUse env .userResourceImport ∧
        ∃ upload, host.userResourceUploads.lookup handle = some upload ∧
          upload.bytes.length = upload.expectedSize
  | .cancelResourceUpload handle =>
      host.MayUse env .userResourceImport ∧
        ∃ upload, host.userResourceUploads.lookup handle = some upload
  | _ => False

/-- An outcome is a refusal, or something holds. -/
def RefusedOr (outcome : CallOutcome) (Q : Prop) : Prop :=
  (∃ error, outcome = host.refuse error) ∨ Q

variable {host env} {Q : Prop} {next : CallOutcome} {nextOf : ComponentRef → CallOutcome}

/-- A refusal needs nothing. -/
theorem refusedOr_refuse (error : CapabilityError) : host.RefusedOr (host.refuse error) Q :=
  .inl ⟨error, rfl⟩

variable {error : CapabilityError} {permission : RuntimePermission}

/-- A limit on bytes refuses, or has no say. -/
theorem refusedOr_within {bytes limit : Nat} (h : host.RefusedOr next Q) :
    host.RefusedOr (host.within bytes limit error next) Q := by
  unfold WasmHostState.within
  split
  · exact refusedOr_refuse error
  · exact h

/-- A switch refuses unless it is on. -/
theorem refusedOr_whileOn {active : Bool} (h : active = true → host.RefusedOr next Q) :
    host.RefusedOr (host.whileOn active error next) Q := by
  unfold WasmHostState.whileOn
  split
  · next hactive => exact h hactive
  · exact refusedOr_refuse error

/-- Without a component that is executed, a call is refused. -/
theorem refusedOr_asOwner
    (h : ∀ owner, host.executionOwner = some owner → host.RefusedOr (nextOf owner) Q) :
    host.RefusedOr (host.asOwner error nextOf) Q := by
  unfold WasmHostState.asOwner
  split
  · exact refusedOr_refuse error
  · next owner howner => exact h owner howner

/-- Without the permission of the component, a call is refused. -/
theorem refusedOr_asPermitted
    (h : ∀ owner, host.executionOwner = some owner → env.hasGrant owner permission = .ok true →
      host.RefusedOr (nextOf owner) Q) :
    host.RefusedOr (host.asPermitted env permission nextOf) Q := by
  refine refusedOr_asOwner fun owner howner => ?_
  split
  · exact refusedOr_refuse _
  · exact refusedOr_refuse _
  · next hgrant => exact h owner howner hgrant

/-- Without host access and the permission, a call is refused. -/
theorem refusedOr_withHostAccess
    (h : ∀ owner, host.MayUse env permission → host.RefusedOr (nextOf owner) Q) :
    host.RefusedOr (host.withHostAccess env permission nextOf) Q :=
  refusedOr_whileOn fun hactive => refusedOr_asPermitted fun owner howner hgrant =>
    h owner ⟨hactive, owner, howner, hgrant⟩

/-- With host access and the permission, a call goes on. -/
theorem withHostAccess_of_mayUse (h : host.MayUse env permission) :
    ∃ owner, host.withHostAccess env permission nextOf = nextOf owner := by
  obtain ⟨hactive, owner, howner, hgrant⟩ := h
  refine ⟨owner, ?_⟩
  unfold withHostAccess WasmHostState.whileOn asPermitted WasmHostState.asOwner
  rw [if_pos hactive, howner]
  dsimp only
  rw [hgrant]

/-- A handle that is not held by the component is refused. -/
theorem refusedOr_withNetworkHandle {owner : ComponentRef} {handle : Nat}
    {kind : NetworkHandleKind} (howner : host.executionOwner = some owner) :
    host.RefusedOr (host.withNetworkHandle owner handle kind next)
      (host.executionOwner.isSome = true ∧
        host.holder .network handle = host.executionOwner) := by
  unfold withNetworkHandle
  split
  · exact refusedOr_refuse _
  · next resource hfound =>
      split
      · next howned =>
          refine .inr ⟨isSome_executionOwner howner, ?_⟩
          rw [howner, ← howned]
          exact congrArg (Option.map OwnedNetworkHandle.owner) hfound
      · exact refusedOr_refuse _

/-- A task or a network handle is used only by the component that it records. -/
theorem perform_recorded {call : CapabilityCall} {kind : HandleKind} {handle : Nat}
    (huses : call.uses = some (kind, handle)) (hrecords : kind.recordsOwner = true) :
    host.RefusedOr (host.perform env call)
      (host.executionOwner.isSome = true ∧ host.holder kind handle = host.executionOwner) := by
  cases call with
  | cancelTask cancelled =>
      cases huses
      refine refusedOr_whileOn fun _ => refusedOr_asPermitted fun owner howner _ => ?_
      split
      · exact refusedOr_refuse _
      · next task hfound =>
          split
          · next howned =>
              refine .inr ⟨isSome_executionOwner howner, ?_⟩
              rw [howner, ← howned]
              exact congrArg (Option.map ActiveWasmTask.owner) hfound
          · exact refusedOr_refuse _
  | accept listener =>
      cases huses
      refine refusedOr_whileOn fun _ => refusedOr_asOwner fun owner howner => ?_
      split
      · exact refusedOr_refuse _
      · exact refusedOr_withNetworkHandle howner
  | readSocket socket maxBytes =>
      cases huses
      exact refusedOr_whileOn fun _ => refusedOr_asOwner fun owner howner =>
        refusedOr_within (refusedOr_withNetworkHandle howner)
  | writeSocket socket data =>
      cases huses
      exact refusedOr_whileOn fun _ => refusedOr_asOwner fun owner howner =>
        refusedOr_within (refusedOr_withNetworkHandle howner)
  | closeHandle closed =>
      cases huses
      refine refusedOr_whileOn fun _ => refusedOr_asOwner fun owner howner => ?_
      split
      · exact refusedOr_refuse _
      · next resource hfound =>
          split
          · next howned =>
              refine .inr ⟨isSome_executionOwner howner, ?_⟩
              rw [howner, ← howned]
              exact congrArg (Option.map OwnedNetworkHandle.owner) hfound
          · exact refusedOr_refuse _
  | appendAssetUpload | finishAssetUpload | cancelAssetUpload | appendResourceUpload
  | finishResourceUpload | cancelResourceUpload =>
      cases huses
      cases hrecords
  | _ => cases huses

/-- A call that is not accepted as a use of an upload is refused. -/
theorem refusedOr_uploadAccepted {call : CapabilityCall} {kind : HandleKind} {handle : Nat}
    (huses : call.uses = some (kind, handle)) (hrecords : kind.recordsOwner = false) :
    host.RefusedOr (host.perform env call)
      (host.UploadAccepted env call ∧ host.live kind handle = true) := by
  cases call with
  | appendAssetUpload used bytes =>
      cases huses
      refine refusedOr_withHostAccess fun owner hmay => ?_
      split
      · exact refusedOr_refuse _
      · next hbytes =>
          rw [not_or, Nat.not_lt] at hbytes
          split
          · exact refusedOr_refuse _
          · next upload hfound =>
              split
              · exact refusedOr_refuse _
              · next hfits =>
                  exact .inr ⟨⟨hmay, hbytes.1, hbytes.2, upload, hfound, Nat.le_of_not_lt hfits⟩,
                    Option.isSome_iff_exists.mpr ⟨upload, hfound⟩⟩
  | finishAssetUpload used =>
      cases huses
      refine refusedOr_withHostAccess fun owner hmay => ?_
      split
      · exact refusedOr_refuse _
      · next upload hfound =>
          split
          · next hcomplete =>
              exact .inr ⟨⟨hmay, upload, hfound, hcomplete⟩,
                Option.isSome_iff_exists.mpr ⟨upload, hfound⟩⟩
          · exact refusedOr_refuse _
  | cancelAssetUpload used =>
      cases huses
      refine refusedOr_withHostAccess fun owner hmay => ?_
      split
      · exact refusedOr_refuse _
      · next upload hfound =>
          exact .inr ⟨⟨hmay, upload, hfound⟩, Option.isSome_iff_exists.mpr ⟨upload, hfound⟩⟩
  | appendResourceUpload used bytes =>
      cases huses
      refine refusedOr_withHostAccess fun owner hmay => ?_
      split
      · exact refusedOr_refuse _
      · next hbytes =>
          rw [not_or, Nat.not_lt] at hbytes
          split
          · exact refusedOr_refuse _
          · next upload hfound =>
              split
              · exact refusedOr_refuse _
              · next hfits =>
                  exact .inr ⟨⟨hmay, hbytes.1, hbytes.2, upload, hfound, Nat.le_of_not_lt hfits⟩,
                    Option.isSome_iff_exists.mpr ⟨upload, hfound⟩⟩
  | finishResourceUpload used =>
      cases huses
      refine refusedOr_withHostAccess fun owner hmay => ?_
      split
      · exact refusedOr_refuse _
      · next upload hfound =>
          split
          · next hcomplete =>
              exact .inr ⟨⟨hmay, upload, hfound, hcomplete⟩,
                Option.isSome_iff_exists.mpr ⟨upload, hfound⟩⟩
          · exact refusedOr_refuse _
  | cancelResourceUpload used =>
      cases huses
      refine refusedOr_withHostAccess fun owner hmay => ?_
      split
      · exact refusedOr_refuse _
      · next upload hfound =>
          exact .inr ⟨⟨hmay, upload, hfound⟩, Option.isSome_iff_exists.mpr ⟨upload, hfound⟩⟩
  | cancelTask | accept | readSocket | writeSocket | closeHandle =>
      cases huses
      cases hrecords
  | _ => cases huses

/-- With the permission to import assets, a call goes on. -/
theorem requireAssetImportAccess_of_mayUse (h : host.MayUse env .assetImport)
    (next : CallOutcome) : host.requireAssetImportAccess env next = next :=
  (withHostAccess_of_mayUse h).choose_spec

/-- With the permission to import resources, a call goes on. -/
theorem requireUserResourceImportAccess_of_mayUse (h : host.MayUse env .userResourceImport)
    (next : CallOutcome) : host.requireUserResourceImportAccess env next = next :=
  (withHostAccess_of_mayUse h).choose_spec

/-- A use of an upload that is accepted is not refused. -/
theorem not_refused_of_uploadAccepted {call : CapabilityCall}
    (h : host.UploadAccepted env call) (error : CapabilityError) :
    host.perform env call ≠ host.refuse error := by
  intro hrefused
  cases call with
  | appendAssetUpload handle bytes =>
      obtain ⟨hmay, hnonempty, hsmall, upload, hfound, hfits⟩ := h
      change host.appendAssetUpload env handle bytes = _ at hrefused
      unfold appendAssetUpload at hrefused
      rw [requireAssetImportAccess_of_mayUse hmay,
        if_neg (not_or.mpr ⟨hnonempty, Nat.not_lt.mpr hsmall⟩), hfound] at hrefused
      dsimp only at hrefused
      rw [if_neg (Nat.not_lt.mpr hfits)] at hrefused
      cases congrArg CallOutcome.result hrefused
  | finishAssetUpload handle =>
      obtain ⟨hmay, upload, hfound, hcomplete⟩ := h
      change host.finishAssetUpload env handle = _ at hrefused
      unfold finishAssetUpload at hrefused
      rw [requireAssetImportAccess_of_mayUse hmay, hfound] at hrefused
      dsimp only at hrefused
      rw [if_pos hcomplete] at hrefused
      cases congrArg CallOutcome.requests hrefused
  | cancelAssetUpload handle =>
      obtain ⟨hmay, upload, hfound⟩ := h
      change host.cancelAssetUpload env handle = _ at hrefused
      unfold cancelAssetUpload at hrefused
      rw [requireAssetImportAccess_of_mayUse hmay, hfound] at hrefused
      cases congrArg CallOutcome.result hrefused
  | appendResourceUpload handle bytes =>
      obtain ⟨hmay, hnonempty, hsmall, upload, hfound, hfits⟩ := h
      change host.appendResourceUpload env handle bytes = _ at hrefused
      unfold appendResourceUpload at hrefused
      rw [requireUserResourceImportAccess_of_mayUse hmay,
        if_neg (not_or.mpr ⟨hnonempty, Nat.not_lt.mpr hsmall⟩), hfound] at hrefused
      dsimp only at hrefused
      rw [if_neg (Nat.not_lt.mpr hfits)] at hrefused
      cases congrArg CallOutcome.result hrefused
  | finishResourceUpload handle =>
      obtain ⟨hmay, upload, hfound, hcomplete⟩ := h
      change host.finishResourceUpload env handle = _ at hrefused
      unfold finishResourceUpload at hrefused
      rw [requireUserResourceImportAccess_of_mayUse hmay, hfound] at hrefused
      dsimp only at hrefused
      rw [if_pos hcomplete] at hrefused
      cases congrArg CallOutcome.requests hrefused
  | cancelResourceUpload handle =>
      obtain ⟨hmay, upload, hfound⟩ := h
      change host.cancelResourceUpload env handle = _ at hrefused
      unfold cancelResourceUpload at hrefused
      rw [requireUserResourceImportAccess_of_mayUse hmay, hfound] at hrefused
      cases congrArg CallOutcome.result hrefused
  | _ => exact h

end WasmHostState

namespace WasmSession

variable {session : WasmSession} {host host' : WasmHostState} {callback : GuestCallback}
  {owner : ComponentRef}

/-- Closing the stop of a component takes its tasks and network handles away. -/
theorem finish_stops (hstops : callback.stops = some owner)
    (hregistered : ∀ context, callback = .stop context →
      host.registeredOwner = some context.owner) (exit : GuestExit) (now : Nat)
    (hstore : (session.finish host exit now callback).hostState = some host') :
    ∃ closed, host.TablesWithin closed ∧ host' = closed.revokeRuntimeResourcesForOwner owner := by
  cases callback with
  | stop context =>
      cases hstops
      unfold WasmSession.finish finishStop at hstore
      dsimp only at hstore
      rw [hregistered context rfl] at hstore
      cases exit with
      | returned =>
          cases hstore
          refine ⟨{ host.discardGuestExecution with effectHandles := ∅ }, ?_, rfl⟩
          exact .of_eq rfl rfl rfl rfl
      | guestError | trapped => cases hstore
  | targetStop context =>
      cases hstops
      cases hstore
      refine ⟨host.forgetEffectHandlesForOwner context.owner, ?_, rfl⟩
      exact .of_eq rfl rfl rfl rfl
  | _ => cases hstops

/-- A stop keeps the store unless the component is trapped in its own stop. -/
theorem exists_store_of_finish_stops (hstops : callback.stops = some owner) (exit : GuestExit)
    (now : Nat) :
    (∃ host', (session.finish host exit now callback).hostState = some host') ↔
      exit = .returned ∨ callback.isHosted = true := by
  cases callback with
  | stop context =>
      cases exit with
      | returned => exact iff_of_true ⟨_, rfl⟩ (.inl rfl)
      | guestError | trapped =>
          refine iff_of_false ?_ ?_
          · rintro ⟨host', hstore⟩
            cases hstore
          · rintro (hexit | hhosted)
            · cases hexit
            · cases hhosted
  | targetStop context => exact iff_of_true ⟨_, rfl⟩ (.inr rfl)
  | _ => cases hstops

end WasmSession

/-! ## Runs -/

/-- A step uses only handles that were created for the component that the call is made for,
creates no handle a second time, and leaves nothing of a component that is stopped. -/
structure OwnsHandles (labels : List SessionLabel) (session : WasmSession) (label : SessionLabel)
    (session' : WasmSession) : Prop where
  used : ∀ owner env call result kind handle host, label = .call owner env call result →
    call.uses = some (kind, handle) → session.hostState = some host →
      host.RefusedOr (host.perform env call)
        (∃ creator, owner = some creator ∧ Created kind handle creator labels)
  fresh : ∀ kind handle owner, label.creates kind = some (handle, owner) →
    ∀ other, ¬ Created kind handle other labels
  stopped : ∀ owner host, stoppedIn owner (labels ++ [label]) = true →
    session'.hostState = some host → ∀ kind handle,
      Created kind handle owner (labels ++ [label]) → host.live kind handle = false

/-- A step stays away from what the tables lose track of. An accepted use of an upload is made
for the component that began the upload; a component has no upload left when its stop is
over; and a component whose stop is refused, because the store is busy, has nothing there. -/
structure AvoidsStrayHandles (labels : List SessionLabel) (session : WasmSession)
    (label : SessionLabel) (_ : WasmSession) : Prop where
  used : ∀ owner env call result kind handle host, label = .call owner env call result →
    call.uses = some (kind, handle) → kind.recordsOwner = false →
    session.hostState = some host → host.UploadAccepted env call →
      ∃ creator, owner = some creator ∧ Created kind handle creator labels
  finished : ∀ callback exit now owner host, label = .finish callback exit now →
    callback.stops = some owner → exit = .returned ∨ callback.isHosted = true →
    session.hostState = some host → ∀ kind handle, kind.recordsOwner = false →
      Created kind handle owner labels → host.live kind handle = false
  refused : ∀ callback owner host, label = .busy callback → callback.stops = some owner →
    session.hostState = some host → ∀ kind handle,
      Created kind handle owner labels → host.live kind handle = false

namespace Recorded

variable {labels : List SessionLabel} {session : WasmSession} {host : WasmHostState}

/-- An entry that records a component was created for it. -/
theorem created_of_holder (h : Recorded labels session) (hstore : session.hostState = some host)
    {kind : HandleKind} {handle : Nat} {owner : ComponentRef}
    (hholder : host.holder kind handle = some owner) : Created kind handle owner labels := by
  cases kind with
  | task =>
      obtain ⟨task, htask, rfl⟩ := Option.map_eq_some_iff.mp hholder
      exact h.tasks host handle task hstore htask
  | network =>
      obtain ⟨resource, hresource, rfl⟩ := Option.map_eq_some_iff.mp hholder
      exact h.network host handle resource hstore hresource
  | assetUpload | userResourceUpload => cases hholder

/-- A live entry of a table that records components was created for the component that it
records. -/
theorem holder_of_live (h : Recorded labels session) (hstore : session.hostState = some host)
    {kind : HandleKind} {handle : Nat} {owner : ComponentRef}
    (hrecords : kind.recordsOwner = true) (hcreated : Created kind handle owner labels)
    (hlive : host.live kind handle = true) : host.holder kind handle = some owner := by
  have hsome : ∃ holder, host.holder kind handle = some holder := by
    cases kind with
    | task | network =>
        obtain ⟨entry, hentry⟩ := Option.isSome_iff_exists.mp hlive
        exact ⟨entry.owner, Option.map_eq_some_iff.mpr ⟨entry, hentry, rfl⟩⟩
    | assetUpload | userResourceUpload => cases hrecords
  obtain ⟨holder, hholder⟩ := hsome
  rw [hholder, h.creator_unique (h.created_of_holder hstore hholder) hcreated]

end Recorded

section

variable {start session session' : WasmSession} {labels : List SessionLabel}
  {label : SessionLabel} {host host' : WasmHostState} {owner : ComponentRef}
  {kind : HandleKind} {handle : Nat}

/-- A handle that a step creates was not created before. -/
theorem fresh_of_recorded (h : Recorded (labels ++ [label]) session')
    (hcreates : label.creates kind = some (handle, owner)) (other : ComponentRef) :
    ¬ Created kind handle other labels := by
  intro hcreated
  have hnodup := h.nodup kind
  rw [creations_snoc, List.map_append, hcreates] at hnodup
  have hdisjoint := (List.nodup_append.mp hnodup).2.2
  exact hdisjoint _ (List.mem_map.mpr ⟨_, hcreated, rfl⟩) _ (List.mem_singleton_self _) rfl

/-- Nothing is left of a component that was stopped in a run that owns its handles. -/
theorem stopped_of_runWith (h : wasmSystem.RunWith OwnsHandles start labels session)
    (hstopped : stoppedIn owner labels = true) (hstore : session.hostState = some host)
    (hcreated : Created kind handle owner labels) : host.live kind handle = false := by
  cases h with
  | refl => cases hstopped
  | snoc _ _ howns => exact howns.stopped owner host hstopped hstore kind handle hcreated

/-- What is not live before and after a step that keeps the tables. -/
theorem not_live_of_tablesWithin (h : host.TablesWithin host')
    (hdead : host.live kind handle = false) : host'.live kind handle = false :=
  Bool.eq_false_iff.mpr fun hlive => Bool.eq_false_iff.mp hdead (h.live hlive)

/-- Between calls, uploads are as live as they were. -/
theorem live_upload_of_tablesWithin (h : host.TablesWithin host')
    (hupload : kind.recordsOwner = false) : host'.live kind handle = host.live kind handle := by
  cases kind with
  | assetUpload => exact congrArg (fun table => (table.lookup handle).isSome) h.assetUploads
  | userResourceUpload =>
      exact congrArg (fun table => (table.lookup handle).isSome) h.userResourceUploads
  | task | network => cases hupload

/-- Opening a callback brings nothing of a stopped component back. -/
theorem stopped_begin {callback : GuestCallback}
    (hbefore : wasmSystem.RunWith OwnsHandles start labels session)
    (hstopped : stoppedIn owner (labels ++ [.begin callback]) = true)
    (hstore : (session.begin callback).hostState = some host')
    (hcreated : Created kind handle owner (labels ++ [.begin callback])) :
    host'.live kind handle = false := by
  rw [stoppedIn_snoc, Bool.and_eq_true] at hstopped
  rw [created_snoc_of_none rfl] at hcreated
  rcases (WasmSession.opens_begin session callback).tables host' hstore with
    ⟨host, hstore, hwithin⟩ | ⟨-, -, hzero⟩
  · exact not_live_of_tablesWithin hwithin
      (stopped_of_runWith hbefore hstopped.1 hstore hcreated)
  · refine Bool.eq_false_iff.mpr fun hlive => ?_
    obtain ⟨index, hindex, -⟩ := WasmHostState.numbered_of_live hlive
    rw [hzero kind] at hindex
    cases hindex

/-- Calls bring nothing of a stopped component back, as they are made for others. -/
theorem stopped_call {callback : GuestCallback} (env : HostEnvironment) (call : CapabilityCall)
    (hbefore : wasmSystem.RunWith OwnsHandles start labels session)
    (hrecorded : Recorded labels session) (hserves : host.ServesCallback callback)
    (hrunning : session.current = some callback) (hstore : session.hostState = some host)
    (hstopped : stoppedIn owner labels = true)
    (hcreated : Created kind handle owner
      (labels ++ [.call host.executionOwner env call (host.perform env call).result])) :
    (host.perform env call).state.live kind handle = false := by
  refine Bool.eq_false_iff.mpr fun hlive => ?_
  have hdead : Created kind handle owner labels → host.live kind handle = false :=
    stopped_of_runWith hbefore hstopped hstore
  rcases (WasmHostState.performs host env call).tableStep env kind with
    ⟨hcreates, -, hbefore⟩ | ⟨creator, howner, hcreates, -, hbefore⟩
  · rw [created_snoc_of_none hcreates] at hcreated
    exact Bool.eq_false_iff.mp (hdead hcreated) (hbefore handle hlive)
  · have hother : creator ≠ owner := by
      rintro rfl
      have hexecuting := hrecorded.executing callback creator hrunning
        (hserves.owner.symm.trans howner)
      cases hexecuting.symm.trans hstopped
    have hearlier : Created kind handle owner labels := by
      unfold Created at hcreated
      rw [creations_snoc, hcreates, List.mem_append] at hcreated
      rcases hcreated with hearlier | hnow
      · exact hearlier
      · cases List.mem_singleton.mp hnow
        exact absurd rfl hother
    rcases hbefore handle hlive with rfl | hlive
    · exact hrecorded.next_fresh hstore kind owner hearlier
    · exact Bool.eq_false_iff.mp (hdead hearlier) hlive

/-- Closing a callback leaves nothing of a component that was stopped before, and nothing of
one that the callback stops when it has no upload left. -/
theorem stopped_finish {callback : GuestCallback} {exit : GuestExit} {now : Nat}
    (hbefore : wasmSystem.RunWith OwnsHandles start labels session)
    (hrecorded : Recorded labels session) (hserves : host.ServesCallback callback)
    (hrunning : session.current = some callback) (hstore : session.hostState = some host)
    (hrecorded' : Recorded (labels ++ [.finish callback exit now])
      (session.finish host exit now callback))
    (hown : AvoidsStrayHandles labels session (.finish callback exit now)
      (session.finish host exit now callback))
    (hstopped : stoppedIn owner (labels ++ [.finish callback exit now]) = true)
    (hstore' : (session.finish host exit now callback).hostState = some host')
    (hcreated : Created kind handle owner (labels ++ [.finish callback exit now])) :
    host'.live kind handle = false := by
  have hwithin := (WasmSession.store_of_finish hserves exit now hstore').2
  have hearlier := (created_snoc_of_none rfl).mp hcreated
  rw [stoppedIn_snoc, Bool.or_eq_true, decide_eq_true_iff] at hstopped
  rcases hstopped with hstopped | hstops
  · exact not_live_of_tablesWithin hwithin
      (stopped_of_runWith hbefore hstopped hstore hearlier)
  · cases hrecords : kind.recordsOwner with
    | false =>
        have hkept := (WasmSession.exists_store_of_finish_stops hstops exit now).mp ⟨host', hstore'⟩
        rw [live_upload_of_tablesWithin hwithin hrecords]
        exact hown.finished callback exit now owner host rfl hstops hkept hstore kind handle
          hrecords hearlier
    | true =>
        obtain ⟨closed, -, rfl⟩ := WasmSession.finish_stops hstops
          (fun context hcallback => hrecorded.stopping context host (hcallback ▸ hrunning) hstore)
          exit now hstore'
        obtain ⟨htasks, hnetwork⟩ := WasmHostState.not_owned_of_revoked closed owner
        refine Bool.eq_false_iff.mpr fun hlive => ?_
        have hholder := hrecorded'.holder_of_live hstore' hrecords hcreated hlive
        cases kind with
        | task =>
            obtain ⟨task, htask, howner⟩ := Option.map_eq_some_iff.mp hholder
            exact htasks handle task htask howner
        | network =>
            obtain ⟨resource, hresource, howner⟩ := Option.map_eq_some_iff.mp hholder
            exact hnetwork handle resource hresource howner
        | assetUpload | userResourceUpload => cases hrecords

/-- A stop that is refused leaves nothing of a component that was stopped before, and nothing of
the component that it was to stop when that has nothing there. -/
theorem stopped_busy {callback : GuestCallback}
    (hbefore : wasmSystem.RunWith OwnsHandles start labels session)
    (hown : AvoidsStrayHandles labels session (.busy callback) (session.refuseBusy callback))
    (hstopped : stoppedIn owner (labels ++ [.busy callback]) = true)
    (hstore : (session.refuseBusy callback).hostState = some host)
    (hcreated : Created kind handle owner (labels ++ [.busy callback])) :
    host.live kind handle = false := by
  rw [session.refuseBusy_hostState callback] at hstore
  have hearlier := (created_snoc_of_none rfl).mp hcreated
  rw [stoppedIn_snoc, Bool.or_eq_true, decide_eq_true_iff] at hstopped
  rcases hstopped with hstopped | hstops
  · exact stopped_of_runWith hbefore hstopped hstore hearlier
  · exact hown.refused callback owner host rfl hstops hstore kind handle hearlier

/-- What a run that owns its handles asks of a step. -/
theorem ownsHandles_iff (hinit : wasmSystem.init start)
    (hbefore : wasmSystem.RunWith OwnsHandles start labels session)
    (hstep : wasmSystem.step session label session') :
    OwnsHandles labels session label session' ↔
      AvoidsStrayHandles labels session label session' := by
  have hguarded := WasmSession.guarded_of_reachable ⟨start, labels, hinit, hbefore.run⟩
  have hrecorded := Recorded.of_run hinit hbefore.run
  have hrecorded' := Recorded.of_run hinit (hbefore.run.snoc hstep)
  constructor
  · intro howns
    refine ⟨?_, ?_, ?_⟩
    · intro owner env call result kind handle host hlabel huses _ hstore haccepted
      rcases howns.used owner env call result kind handle host hlabel huses hstore with
        ⟨error, hrefused⟩ | hcreated
      · exact absurd hrefused (WasmHostState.not_refused_of_uploadAccepted haccepted error)
      · exact hcreated
    · rintro callback exit now owner host rfl hstops hkept hstore kind handle hrecords hcreated
      cases hstep with
      | @finish _ _ _ _ running store mayLeave =>
          cases store.symm.trans hstore
          obtain ⟨same, hsame, hserves⟩ := hguarded.running callback running
          cases hstore.symm.trans hsame
          obtain ⟨host', hstore'⟩ :=
            (WasmSession.exists_store_of_finish_stops hstops exit now).mpr hkept
          have hstopped := stoppedIn_finish hstops labels exit now
          have hwithin := (WasmSession.store_of_finish hserves exit now hstore').2
          exact (live_upload_of_tablesWithin hwithin hrecords).symm.trans
            (howns.stopped owner host' hstopped hstore' kind handle (hcreated.mono _))
    · rintro callback owner host rfl hstops hstore kind handle hcreated
      cases hstep with
      | busy _ held concurrent apart passes =>
          have hkept := (session.refuseBusy_hostState callback).trans hstore
          exact howns.stopped owner host (stoppedIn_busy hstops labels) hkept kind handle
            (hcreated.mono _)
  · intro hown
    refine ⟨?_, fun kind handle owner hcreates => fresh_of_recorded hrecorded' hcreates, ?_⟩
    · intro owner env call result kind handle host hlabel huses hstore
      cases hstep with
      | begin | finish | busy | engine => cases hlabel
      | @call callback other _ _ running store scopes =>
          cases store.symm.trans hstore
          cases hlabel
          cases hrecords : kind.recordsOwner with
          | true =>
              refine (WasmHostState.perform_recorded huses hrecords).imp_right ?_
              rintro ⟨hsome, hholder⟩
              obtain ⟨creator, hcreator⟩ := Option.isSome_iff_exists.mp hsome
              exact ⟨creator, hcreator,
                hrecorded.created_of_holder hstore (hholder.trans hcreator)⟩
          | false =>
              refine (WasmHostState.refusedOr_uploadAccepted huses hrecords).imp_right ?_
              rintro ⟨haccepted, -⟩
              exact hown.used _ env call _ kind handle host rfl huses hrecords hstore haccepted
    · intro owner host' hstopped hstore' kind handle hcreated
      cases hstep with
      | begin callback idle passes => exact stopped_begin hbefore hstopped hstore' hcreated
      | call env call running store scopes =>
          obtain ⟨host, hstore, hserves⟩ := hguarded.running _ running
          cases store.symm.trans hstore
          cases hstore'
          rw [stoppedIn_snoc] at hstopped
          exact stopped_call env call hbefore hrecorded hserves running store hstopped hcreated
      | finish exit now running store mayLeave =>
          obtain ⟨host, hstore, hserves⟩ := hguarded.running _ running
          cases store.symm.trans hstore
          exact stopped_finish hbefore hrecorded hserves running store hrecorded' hown hstopped
            hstore' hcreated
      | busy callback held concurrent apart passes =>
          exact stopped_busy hbefore hown hstopped hstore' hcreated
      | engine registry targets services free =>
          rw [stoppedIn_snoc] at hstopped
          exact stopped_of_runWith hbefore hstopped hstore'
            ((created_snoc_of_none rfl).mp hcreated)

/-- The runs in which every handle is used only for the component that it was created for, no
handle is created twice and nothing is left of a component that was stopped are those in which
uploads are used only for the component that began them, no stop ends with an upload of the
stopped component, and no stop is refused whose component has something there. -/
theorem handles_follow_owner (hinit : wasmSystem.init start) :
    wasmSystem.RunWith OwnsHandles start labels session ↔
      wasmSystem.RunWith AvoidsStrayHandles start labels session :=
  Lts.runWith_congr fun _ _ _ _ hbefore hstep => ownsHandles_iff hinit hbefore hstep

/-- A step that uses no handle and stops nobody stays away from what the tables lose track of. -/
theorem avoidsStrayHandles_of_label {history : List SessionLabel}
    (huses : ∀ owner env call result, label = .call owner env call result → call.uses = none)
    (hfinishes : ∀ callback exit now, label = .finish callback exit now → callback.stops = none)
    (hrefuses : ∀ callback, label = .busy callback → callback.stops = none) :
    AvoidsStrayHandles history session label session' := by
  refine ⟨?_, ?_, ?_⟩
  · intro owner env call result kind handle host hlabel hused
    cases (huses owner env call result hlabel).symm.trans hused
  · intro callback exit now owner host hlabel hstops
    cases (hfinishes callback exit now hlabel).symm.trans hstops
  · intro callback owner host hlabel hstops
    cases (hrefuses callback hlabel).symm.trans hstops

/-- A run goes on with a step that uses no handle and stops nobody. -/
theorem run_avoiding (h : wasmSystem.RunWith AvoidsStrayHandles start labels session)
    (hstep : session.Step label session')
    (huses : ∀ owner env call result, label = .call owner env call result → call.uses = none)
    (hfinishes : ∀ callback exit now, label = .finish callback exit now → callback.stops = none)
    (hrefuses : ∀ callback, label = .busy callback → callback.stops = none) :
    wasmSystem.RunWith AvoidsStrayHandles start (labels ++ [label]) session' :=
  .snoc h hstep (avoidsStrayHandles_of_label huses hfinishes hrefuses)

/-- Until the provider is registered nothing is used and nobody is stopped. -/
theorem run_registered :
    wasmSystem.RunWith AvoidsStrayHandles loadedProvider registration providerSession := by
  refine run_registration.runWith_of_labels fun history session label session' hlabel _ _ =>
    avoidsStrayHandles_of_label ?_ ?_ ?_
  · rintro owner env call result rfl
    simp [registration] at hlabel
  · rintro callback exit now rfl
    simp only [registration, List.mem_cons, SessionLabel.finish.injEq, reduceCtorEq, false_or,
      List.not_mem_nil, or_false] at hlabel
    rcases hlabel with ⟨rfl, -⟩ | ⟨rfl, -⟩
    · rfl
    · rfl
  · rintro callback rfl
    simp [registration] at hlabel

/-- A script uploads an asset, schedules a task and is stopped. Nothing of it is left, and every
handle was used for the script only. -/
theorem handles_follow_owner_script : ∃ start labels session host,
    wasmSystem.init start ∧ wasmSystem.RunWith OwnsHandles start labels session ∧
      session.hostState = some host ∧ Created .assetUpload 1 scriptContext.owner labels ∧
      Created .task 0 scriptContext.owner labels ∧ stoppedIn scriptContext.owner labels = true ∧
      host.live .assetUpload 1 = false ∧ host.live .task 0 = false := by
  have hregistered := run_registered
  have hevent := run_avoiding hregistered
    (.begin (.targetEvent scriptContext) rfl
      (passes_hosted rfl (fun _ h => by cases h; exact .inr rfl) fun _ h => by cases h))
    (fun _ _ _ _ h => by cases h) (fun _ _ _ h => by cases h) fun _ h => by cases h
  have hbegun := run_avoiding hevent
    (.call (answeringEnvironment hostingServices) (.beginAssetUpload "image/png" 2) rfl rfl rfl)
    (fun _ _ _ _ h => by cases h; rfl) (fun _ _ _ h => by cases h) fun _ h => by cases h
  have hcreated : Created .assetUpload 1 scriptContext.owner
      (registration ++ [.begin (.targetEvent scriptContext)] ++
        [.call (some scriptContext.owner) (answeringEnvironment hostingServices)
          (.beginAssetUpload "image/png" 2) (.ok (.handle 1))]) := by
    unfold Created
    rw [creations_snoc]
    exact List.mem_append_right _ (List.mem_singleton_self _)
  have happended := hbegun.snoc
    (.call (answeringEnvironment hostingServices) (.appendAssetUpload 1 [137, 80]) rfl rfl rfl)
    ⟨fun owner env call result kind handle host hlabel hused _ _ _ => by
        cases hlabel
        cases hused
        exact ⟨_, rfl, hcreated⟩,
      fun _ _ _ _ _ h => (by cases h), fun _ _ _ h => by cases h⟩
  have hfinished := happended.snoc
    (.call (answeringEnvironment hostingServices) (.finishAssetUpload 1) rfl rfl rfl)
    ⟨fun owner env call result kind handle host hlabel hused _ _ _ => by
        cases hlabel
        cases hused
        exact ⟨_, rfl, hcreated.mono _⟩,
      fun _ _ _ _ _ h => (by cases h), fun _ _ _ h => by cases h⟩
  have hscheduled := run_avoiding hfinished
    (.call (answeringEnvironment hostingServices) (.spawnPeriodic 1000) rfl rfl rfl)
    (fun _ _ _ _ h => by cases h; rfl) (fun _ _ _ h => by cases h) fun _ h => by cases h
  have hreturned := run_avoiding hscheduled
    (.finish .returned 0 rfl rfl fun h => by cases h)
    (fun _ _ _ _ h => by cases h) (fun _ _ _ h => by cases h; rfl) fun _ h => by cases h
  have hstopping := run_avoiding hreturned
    (.begin (.targetStop scriptContext) rfl
      (passes_hosted rfl (fun _ h => by cases h; exact .inr rfl) fun _ h => by cases h))
    (fun _ _ _ _ h => by cases h) (fun _ _ _ h => by cases h) fun _ h => by cases h
  have hstopped := hstopping.snoc (.finish .returned 0 rfl rfl fun h => by cases h)
    ⟨fun _ _ _ _ _ _ _ h => (by cases h),
      fun callback exit now owner host hlabel _ _ hstore kind handle hrecords _ => by
        cases hlabel
        cases hstore
        cases kind with
        | task | network => cases hrecords
        | assetUpload | userResourceUpload => rfl,
      fun _ _ _ h => by cases h⟩
  refine ⟨_, _, _, _, init_loadedProvider,
    (handles_follow_owner init_loadedProvider).mpr hstopped, rfl, ?_, ?_,
    stoppedIn_finish rfl _ _ _, rfl, rfl⟩
  · unfold Created
    decide +kernel
  · unfold Created
    decide +kernel

/-- A script begins an upload and is stopped. The upload is still there, and its bytes are
still reserved. And a script with a task is stopped while a service of the provider is running.
The stop is refused, and the task is still there. -/
theorem handles_outlive_script :
    (∃ start labels session host, ∃ upload : PendingAssetUpload,
      wasmSystem.init start ∧ wasmSystem.Run start labels session ∧
        session.hostState = some host ∧ Created .assetUpload 1 scriptContext.owner labels ∧
        stoppedIn scriptContext.owner labels = true ∧
        host.assetUploads.lookup 1 = some upload ∧ upload.expectedSize = 4) ∧
    ∃ start labels session host task,
      wasmSystem.init start ∧ wasmSystem.Run start labels session ∧
        session.hostState = some host ∧ Created .task 0 scriptContext.owner labels ∧
        stoppedIn scriptContext.owner labels = true ∧ host.activeTasks.lookup 0 = some task ∧
        task.owner = scriptContext.owner := by
  have hregistered := run_registered
  have hevent := hregistered.run.snoc (.begin (.targetEvent scriptContext) rfl
    (passes_hosted rfl (fun _ h => by cases h; exact .inr rfl) fun _ h => by cases h))
  refine ⟨?_, ?_⟩
  · have hupload := hevent.snoc (.call (answeringEnvironment hostingServices)
      (.beginAssetUpload "image/png" 4) rfl rfl rfl)
    have hreturned := hupload.snoc (.finish .returned 0 rfl rfl fun h => by cases h)
    have hstopping := hreturned.snoc (.begin (.targetStop scriptContext) rfl
      (passes_hosted rfl (fun _ h => by cases h; exact .inr rfl) fun _ h => by cases h))
    have hstopped := hstopping.snoc (.finish .returned 0 rfl rfl fun h => by cases h)
    refine ⟨_, _, _, _, ⟨4, "image/png", []⟩, init_loadedProvider, hstopped, rfl, ?_,
      stoppedIn_finish rfl _ _ _, rfl, rfl⟩
    unfold Created
    decide +kernel
  · have htask := hevent.snoc (.call (answeringEnvironment hostingServices)
      (.spawnPeriodic 1000) rfl rfl rfl)
    have hreturned := htask.snoc (.finish .returned 0 rfl rfl fun h => by cases h)
    have hserving := hreturned.snoc (.begin (.service providerContext) rfl
      (passes_hosted rfl (fun _ h => by cases h; exact .inl rfl) fun _ h => by cases h))
    have hrefused := hserving.snoc (.busy (.targetStop scriptContext) rfl (.inl rfl)
      (fun _ _ h h' => by cases h; cases h'; decide)
      (passes_hosted rfl (fun _ h => by cases h; exact .inr rfl) fun _ h => by cases h))
    refine ⟨_, _, _, _, _, init_loadedProvider, hrefused, rfl, ?_, stoppedIn_busy rfl _, rfl, rfl⟩
    unfold Created
    decide +kernel

end

end Rintawa.WasmRuntime
