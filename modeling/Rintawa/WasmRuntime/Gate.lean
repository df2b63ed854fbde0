/-
# The capability gate

Between callbacks a store is closed: no switch is on, it acts for nobody and nothing is
asked for. A callback opens what its driver opens, for the component that it runs for, and
a call without an open callback is refused. What a driver leaves that closes a callback is
told once, for the switches and for the tables of handles.
-/

import Rintawa.WasmRuntime.CallCases
import Rintawa.WasmRuntime.Callbacks

namespace Rintawa.WasmRuntime

open Rintawa.Lib Rintawa.Sdk Rintawa.ExtensionEngine

/-! ## What callbacks open -/

namespace GuestCallback

/-- The component that a callback is executed for. Loading, registering, stopping and
dropping a component opens nothing, so these callbacks are executed for nobody. -/
def executionOwner : GuestCallback → Option ComponentRef
  | .start context | .event context | .uiAction context | .service context
  | .targetStart context | .targetEvent context | .targetUiAction context
  | .targetService context => some context.owner
  | .runtimeTask _ taskOwner _ _ => some taskOwner
  | .instantiate | .register _ | .stop _ | .targetLoad _ | .targetRegister _ | .targetStop _
  | .targetDrop => none

/-- The switches that are on during a callback. -/
def access : GuestCallback → GuestAccess
  | .start _ => { WasmHostState.openAccess with executionTargetRegistrationActive := true }
  | .event _ | .uiAction _ | .targetStart _ | .targetEvent _ | .targetUiAction _ =>
      WasmHostState.openAccess
  | .runtimeTask context taskOwner _ _ =>
      if taskOwner = context.owner then WasmHostState.openAccess
      else { WasmHostState.openAccess with runtimeEffectsActive := false }
  | .service _ | .targetService _ => WasmHostState.serviceAccess .closed
  | .instantiate | .register _ | .stop _ | .targetLoad _ | .targetRegister _ | .targetStop _
  | .targetDrop => .closed

/-- Callbacks in which a component registers. -/
def registers : GuestCallback → Bool
  | .register _ | .targetRegister _ => true
  | _ => false

/-- The sources that the guest borrows in a callback. -/
def borrowed : GuestCallback → List Nat
  | .targetLoad source => [source]
  | _ => []

end GuestCallback

namespace WasmHostState

/-- A store with some switches on, which acts for some component. Nothing is asked for
that no switch allows, and every revocation that is asked for is an operation, too. -/
structure Serves (host : WasmHostState) (access : GuestAccess) (owner : Option ComponentRef)
    (registers : Bool) (borrowed : List Nat) : Prop where
  switches : host.toGuestAccess = access
  owner : host.executionOwner = owner
  registration : registers = false → host.registrationScope = none
  effects : access.runtimeEffectsActive = false → host.pendingEffects = []
  revocations : ∀ handle ∈ host.pendingRevocations, ∃ effect,
    WasmRuntimeEffectOperation.unsubscribe handle effect ∈ host.pendingEffects
  targets : access.executionTargetRegistrationActive = false → host.pendingExecutionTargets = []
  sources : host.resourceTable.Sublist borrowed

/-- A closed store. -/
def Closed (host : WasmHostState) : Prop :=
  host.Serves .closed none false []

/-- A store that serves a callback. -/
def ServesCallback (host : WasmHostState) (callback : GuestCallback) : Prop :=
  host.Serves callback.access callback.executionOwner callback.registers callback.borrowed

variable {host : WasmHostState}

/-! ## Calls -/

/-- A call changes neither the switches nor the component that is executed, and asks only
for what a switch allows. -/
theorem Performs.serves {call : CapabilityCall} {outcome : CallOutcome} {access : GuestAccess}
    {owner : Option ComponentRef} {registers : Bool} {borrowed : List Nat}
    (hperforms : host.Performs call outcome) (h : host.Serves access owner registers borrowed) :
    outcome.state.Serves access owner registers borrowed := by
  obtain ⟨haccess, howner, hregistration, heffects, hrevocations, htargets, hsources⟩ := h
  cases hperforms with
  | refused | logged | passed | readSource | counted | taskSpawned | taskCancelled
  | networkOpened | networkClosed | assetUploadBegun | assetUploadAppended | assetUploadRemoved
  | userResourceUploadBegun | userResourceUploadAppended | userResourceUploadRemoved =>
      exact ⟨haccess, howner, hregistration, heffects, hrevocations, htargets, hsources⟩
  | droppedSource source borrowed =>
      exact ⟨haccess, howner, hregistration, heffects, hrevocations, htargets,
        List.erase_sublist.trans hsources⟩
  | targetQueued target active =>
      refine ⟨haccess, howner, hregistration, heffects, hrevocations, fun hoff => ?_, hsources⟩
      rw [haccess, hoff] at active
      cases active
  | effectQueued owner effect active executes named =>
      refine ⟨haccess, howner, hregistration, fun hoff => ?_, ?_, htargets, hsources⟩
      · rw [haccess, hoff] at active
        cases active
      · intro handle hpending
        obtain ⟨revoked, hmem⟩ := hrevocations handle hpending
        exact ⟨revoked, List.mem_append_left _ hmem⟩
  | effectWithdrawn handle active pending =>
      refine ⟨haccess, howner, hregistration, fun hoff => ?_, ?_, htargets, hsources⟩
      · rw [haccess, hoff] at active
        cases active
      · intro other hpending
        obtain ⟨revoked, hmem⟩ := hrevocations other hpending
        refine ⟨revoked, (List.mem_eraseP_of_neg ?_).mpr hmem⟩
        intro hsubscribes
        cases hsubscribes
  | revocationQueued handle effect active fresh found owned =>
      refine ⟨haccess, howner, hregistration, fun hoff => ?_, ?_, htargets, hsources⟩
      · rw [haccess, hoff] at active
        cases active
      · intro other hpending
        rcases Finset.mem_insert.mp hpending with rfl | hpending
        · exact ⟨effect, List.mem_append_right _ (List.mem_singleton_self _)⟩
        · obtain ⟨revoked, hmem⟩ := hrevocations other hpending
          exact ⟨revoked, List.mem_append_left _ hmem⟩
  | registered scope isOpen =>
      refine ⟨haccess, howner, fun hregisters => ?_, heffects, hrevocations, htargets, hsources⟩
      rw [hregistration hregisters] at isOpen
      cases isOpen

/-- A call on a store that is closed is refused and changes nothing, unless it only writes
a line to the log. -/
theorem Performs.closed {call : CapabilityCall} {outcome : CallOutcome}
    (hperforms : host.Performs call outcome) (h : host.Closed)
    (hlog : ∀ message, call ≠ .log message) : ∃ error, outcome = host.refuse error := by
  obtain ⟨haccess, howner, hregistration, -, -, -, hsources⟩ := h
  have hnobody : ¬ host.executionOwner.isSome = true := by
    rw [howner]
    exact Bool.false_ne_true
  have hno : ∀ owner, host.executionOwner ≠ some owner := by
    intro owner hsome
    exact hnobody (isSome_executionOwner hsome)
  have hsource : ∀ source, source ∉ host.resourceTable := by
    intro source hborrowed
    cases hsources.subset hborrowed
  cases hperforms with
  | refused error => exact ⟨error, rfl⟩
  | logged message => exact absurd rfl (hlog message)
  | passed executes | counted _ executes | assetUploadBegun _ _ _ executes
  | assetUploadAppended _ _ executes | assetUploadRemoved _ executes
  | userResourceUploadBegun _ _ _ executes | userResourceUploadAppended _ _ executes
  | userResourceUploadRemoved _ executes => exact absurd executes hnobody
  | readSource source borrowed | droppedSource source borrowed =>
      exact absurd borrowed (hsource source)
  | targetQueued target active =>
      rw [haccess] at active
      cases active
  | effectQueued _ _ active | effectWithdrawn _ active | revocationQueued _ _ active =>
      rw [haccess] at active
      cases active
  | registered scope isOpen =>
      rw [hregistration rfl] at isOpen
      cases isOpen
  | taskSpawned _ _ _ executes | networkOpened _ _ _ executes =>
      exact absurd executes (hno _)
  | taskCancelled _ _ _ owned | networkClosed _ _ _ owned => exact absurd owned (hno _)

/-! ## Commits -/

/-- Two stores differ at most in their effects. -/
def SameBesidesEffects (host host' : WasmHostState) : Prop :=
  ∃ handles revocations,
    host' = { host with effectHandles := handles, pendingRevocations := revocations }

/-- A store differs from itself in nothing. -/
theorem SameBesidesEffects.refl (host : WasmHostState) : host.SameBesidesEffects host :=
  ⟨host.effectHandles, host.pendingRevocations, rfl⟩

/-- Changes of the effects can be put together. -/
theorem SameBesidesEffects.trans {host' host'' : WasmHostState} (h : host.SameBesidesEffects host')
    (h' : host'.SameBesidesEffects host'') : host.SameBesidesEffects host'' := by
  obtain ⟨handles, revocations, rfl⟩ := h
  obtain ⟨handles', revocations', rfl⟩ := h'
  exact ⟨handles', revocations', rfl⟩

/-- A commit changes the effects of the store and nothing else. -/
theorem EffectCommit.run_same (caller : ComponentRef)
    (operations : List WasmRuntimeEffectOperation) (commit : EffectCommit) :
    commit.state.SameBesidesEffects (EffectCommit.run caller commit operations).1.state := by
  induction operations generalizing commit with
  | nil => exact .refl _
  | cons operation rest ih =>
      cases operation with
      | subscribe owner handle effect =>
          unfold EffectCommit.run
          split
          · exact .refl _
          · next registry effectId hregister => exact .trans ⟨_, _, rfl⟩ (ih _)
      | unsubscribe handle effect =>
          unfold EffectCommit.run
          split
          · exact .refl _
          · next registry hrevoke => exact .trans ⟨_, _, rfl⟩ (ih _)

/-- A commit that goes through leaves no revocation that was among its operations. -/
theorem EffectCommit.run_revocations {caller : ComponentRef}
    {operations : List WasmRuntimeEffectOperation} {commit : EffectCommit}
    (hrevocations : ∀ handle ∈ commit.state.pendingRevocations, ∃ effect,
      WasmRuntimeEffectOperation.unsubscribe handle effect ∈ operations)
    (hok : (EffectCommit.run caller commit operations).2 = none) :
    (EffectCommit.run caller commit operations).1.state.pendingRevocations = ∅ := by
  induction operations generalizing commit with
  | nil =>
      refine Finset.eq_empty_of_forall_notMem fun handle hpending => ?_
      obtain ⟨effect, hmem⟩ := hrevocations handle hpending
      cases hmem
  | cons operation rest ih =>
      cases operation with
      | subscribe owner handle effect =>
          unfold EffectCommit.run at hok ⊢
          split at hok
          · cases hok
          · next registry effectId hregister =>
              refine ih (fun other hpending => ?_) hok
              obtain ⟨revoked, hmem⟩ := hrevocations other hpending
              cases hmem with
              | tail _ hmem => exact ⟨revoked, hmem⟩
      | unsubscribe handle effect =>
          unfold EffectCommit.run at hok ⊢
          split at hok
          · cases hok
          · next registry hrevoke =>
              refine ih (fun other hpending => ?_) hok
              obtain ⟨hne, hpending⟩ := Finset.mem_erase.mp hpending
              obtain ⟨revoked, hmem⟩ := hrevocations other hpending
              cases hmem with
              | head => exact absurd rfl hne
              | tail _ hmem => exact ⟨revoked, hmem⟩

/-- Taking registrations back changes the effects only. -/
theorem rollBackRegistered_same (caller : ComponentRef) (handles : List String)
    (rollback : EffectRollback) :
    rollback.1.SameBesidesEffects (handles.foldl (rollBackRegistered caller) rollback).1 := by
  induction handles generalizing rollback with
  | nil => exact .refl _
  | cons handle rest ih =>
      refine .trans ?_ (ih _)
      unfold rollBackRegistered
      split
      · exact .refl _
      · split
        · exact .refl _
        · exact ⟨_, _, rfl⟩

/-- Registering again what was revoked changes the effects only. -/
theorem rollBackRevoked_same (caller : ComponentRef)
    (revoked : List (String × ActiveWasmRuntimeEffect)) (rollback : EffectRollback) :
    rollback.1.SameBesidesEffects (revoked.foldl (rollBackRevoked caller) rollback).1 := by
  induction revoked generalizing rollback with
  | nil => exact .refl _
  | cons effect rest ih =>
      refine .trans ?_ (ih _)
      unfold rollBackRevoked
      split
      · exact .refl _
      · exact ⟨_, _, rfl⟩

/-- A rollback leaves no revocation, and everything but the effects. -/
theorem rollbackRuntimeEffects_state (caller : ComponentRef) (commit : EffectCommit) :
    ∃ handles, (rollbackRuntimeEffects caller commit).1 =
      { commit.state with effectHandles := handles, pendingRevocations := ∅ } := by
  have hregistered := rollBackRegistered_same caller commit.registeredHandles.reverse
    (commit.state, commit.registry, [])
  obtain ⟨handles, revocations, heq⟩ :=
    hregistered.trans (rollBackRevoked_same caller commit.revokedEffects.reverse _)
  exact ⟨handles, congrArg (fun state : WasmHostState =>
    { state with pendingRevocations := ∅ }) heq⟩

/-- A store after a commit that has left some effects. -/
def afterCommit (host : WasmHostState) (handles : Dict String ActiveWasmRuntimeEffect) :
    WasmHostState :=
  { host with
    toGuestAccess := .closed
    executionOwner := none
    pendingEffects := []
    effectHandles := handles
    pendingRevocations := ∅ }

/-- A commit takes all that was asked for, and leaves no revocation, whether it goes
through or not. -/
theorem finishGuestExecution_state (caller : ComponentRef) (registry : RuntimeEffectRegistry)
    (hrevocations : ∀ handle ∈ host.pendingRevocations, ∃ effect,
      WasmRuntimeEffectOperation.unsubscribe handle effect ∈ host.pendingEffects) :
    ∃ handles, (host.finishGuestExecution caller registry).1 = host.afterCommit handles := by
  let taken : WasmHostState := { host with toGuestAccess := .closed, pendingEffects := [] }
  have hsame := EffectCommit.run_same caller host.pendingEffects ⟨taken, registry, [], []⟩
  unfold finishGuestExecution commitRuntimeEffects
  dsimp only
  split
  · next hok =>
      have hempty := @EffectCommit.run_revocations caller host.pendingEffects
        ⟨taken, registry, [], []⟩ hrevocations hok
      obtain ⟨handles, revocations, heq⟩ := hsame
      rw [heq] at hempty
      change revocations = ∅ at hempty
      subst hempty
      refine ⟨handles, ?_⟩
      exact congrArg (fun state : WasmHostState => { state with executionOwner := none }) heq
  · next error hfailed =>
      obtain ⟨handles, revocations, heq⟩ := hsame
      obtain ⟨restored, hrestored⟩ := rollbackRuntimeEffects_state caller
        (EffectCommit.run caller ⟨taken, registry, [], []⟩ host.pendingEffects).1
      rw [heq] at hrestored
      exact ⟨restored, congrArg (fun state : WasmHostState =>
        { state with executionOwner := none }) hrestored⟩

/-- A service callback has no access to the host. -/
theorem ServesCallback.hostAccess_of_isService {callback : GuestCallback}
    (h : host.ServesCallback callback) (hservice : callback.isService = true) :
    host.hostAccessActive = false := by
  cases callback with
  | service context | targetService context =>
      exact congrArg GuestAccess.hostAccessActive h.switches
  | _ => cases hservice

/-! ## Tables -/

/-- How many handles a table has given out. -/
def issued (host : WasmHostState) : HandleKind → Nat
  | .task => host.activeTasks.issued
  | .network => host.networkHandles.issued
  | .assetUpload => host.assetUploads.issued
  | .userResourceUpload => host.userResourceUploads.issued

/-- What a step leaves of the tables: nothing is given out, entries keep their components,
and uploads stay as they are. -/
structure TablesWithin (host host' : WasmHostState) : Prop where
  issued : ∀ kind, host'.issued kind = host.issued kind
  tasks : ∀ handle task', host'.activeTasks.lookup handle = some task' →
    ∃ task, host.activeTasks.lookup handle = some task ∧ task.owner = task'.owner
  network : ∀ handle resource', host'.networkHandles.lookup handle = some resource' →
    ∃ resource, host.networkHandles.lookup handle = some resource ∧
      resource.owner = resource'.owner
  assetUploads : host'.assetUploads = host.assetUploads
  userResourceUploads : host'.userResourceUploads = host.userResourceUploads

namespace TablesWithin

variable {host' : WasmHostState}

/-- Nothing happens to the tables. -/
theorem of_eq (htasks : host'.activeTasks = host.activeTasks)
    (hnetwork : host'.networkHandles = host.networkHandles)
    (hassets : host'.assetUploads = host.assetUploads)
    (hresources : host'.userResourceUploads = host.userResourceUploads) :
    host.TablesWithin host' := by
  refine ⟨fun kind => ?_, fun handle task' hlookup => ?_, fun handle resource' hlookup => ?_,
    hassets, hresources⟩
  · cases kind with
    | task => exact congrArg HandleTable.issued htasks
    | network => exact congrArg HandleTable.issued hnetwork
    | assetUpload => exact congrArg HandleTable.issued hassets
    | userResourceUpload => exact congrArg HandleTable.issued hresources
  · exact ⟨task', htasks ▸ hlookup, rfl⟩
  · exact ⟨resource', hnetwork ▸ hlookup, rfl⟩

/-- A store is within its own tables. -/
theorem refl (host : WasmHostState) : host.TablesWithin host :=
  of_eq rfl rfl rfl rfl

/-- Steps that give out nothing can be put together. -/
theorem trans {host'' : WasmHostState} (h : host.TablesWithin host')
    (h' : host'.TablesWithin host'') : host.TablesWithin host'' := by
  refine ⟨fun kind => (h'.issued kind).trans (h.issued kind), fun handle task'' hlookup => ?_,
    fun handle resource'' hlookup => ?_, h'.assetUploads.trans h.assetUploads,
    h'.userResourceUploads.trans h.userResourceUploads⟩
  · obtain ⟨task', htask', howner'⟩ := h'.tasks handle task'' hlookup
    obtain ⟨task, htask, howner⟩ := h.tasks handle task' htask'
    exact ⟨task, htask, howner.trans howner'⟩
  · obtain ⟨resource', hresource', howner'⟩ := h'.network handle resource'' hlookup
    obtain ⟨resource, hresource, howner⟩ := h.network handle resource' hresource'
    exact ⟨resource, hresource, howner.trans howner'⟩

/-- Revocation takes entries away, and leaves uploads alone. -/
theorem revoked (host : WasmHostState) (owner : ComponentRef) :
    host.TablesWithin (host.revokeRuntimeResourcesForOwner owner) := by
  refine ⟨fun kind => ?_, fun handle task hlookup => ?_, fun handle resource hlookup => ?_, rfl,
    rfl⟩
  · cases kind with
    | task | network | assetUpload | userResourceUpload => rfl
  · have hkept := (HandleTable.lookup_retain _ handle).symm.trans hlookup
    exact ⟨task, (Option.filter_eq_some_iff.mp hkept).1, rfl⟩
  · have hkept := (HandleTable.lookup_retain _ handle).symm.trans hlookup
    exact ⟨resource, (Option.filter_eq_some_iff.mp hkept).1, rfl⟩

/-- A component loses what it has after the tables were kept. -/
theorem then_revoked (h : host.TablesWithin host') (owner : ComponentRef) :
    host.TablesWithin (host'.revokeRuntimeResourcesForOwner owner) :=
  h.trans (revoked host' owner)

/-- A task is scheduled again after the tables were kept. -/
theorem then_rescheduled (h : host.TablesWithin host') (handle now : Nat) :
    host.TablesWithin (host'.rescheduleTask handle now) := by
  refine h.trans ⟨fun kind => ?_, fun other task' hlookup => ?_, fun _ resource hlookup =>
    ⟨resource, hlookup, rfl⟩, rfl, rfl⟩
  · cases kind with
    | task | network | assetUpload | userResourceUpload => rfl
  · have hmodified := (HandleTable.lookup_modify handle other _).symm.trans hlookup
    split at hmodified
    · obtain ⟨task, htask, rfl⟩ := Option.map_eq_some_iff.mp hmodified
      exact ⟨task, htask, rfl⟩
    · exact ⟨task', hmodified, rfl⟩

end TablesWithin

/-- Two stores have the same entries in all their tables, and ask for the same effects. -/
structure SameTables (host host' : WasmHostState) : Prop where
  activeTasks : host'.activeTasks = host.activeTasks
  networkHandles : host'.networkHandles = host.networkHandles
  assetUploads : host'.assetUploads = host.assetUploads
  userResourceUploads : host'.userResourceUploads = host.userResourceUploads
  nextEffectHandle : host'.nextEffectHandle = host.nextEffectHandle
  effectHandles : host'.effectHandles = host.effectHandles
  pendingEffects : host'.pendingEffects = host.pendingEffects
  pendingRevocations : host'.pendingRevocations = host.pendingRevocations

/-- A store has its own tables. -/
theorem SameTables.refl (host : WasmHostState) : host.SameTables host :=
  ⟨rfl, rfl, rfl, rfl, rfl, rfl, rfl, rfl⟩

/-! ## Opening and closing -/

/-- A store serves what another one serves that it agrees with. -/
theorem Serves.of_eq {access : GuestAccess} {owner : Option ComponentRef} {registers : Bool}
    {borrowed : List Nat} {host' : WasmHostState} (h : host.Serves access owner registers borrowed)
    (hswitches : host'.toGuestAccess = host.toGuestAccess)
    (howner : host'.executionOwner = host.executionOwner)
    (hscope : host'.registrationScope = host.registrationScope)
    (heffects : host'.pendingEffects = host.pendingEffects)
    (hrevocations : host'.pendingRevocations = host.pendingRevocations)
    (htargets : host'.pendingExecutionTargets = host.pendingExecutionTargets)
    (hsources : host'.resourceTable = host.resourceTable) :
    host'.Serves access owner registers borrowed := by
  refine ⟨hswitches.trans h.switches, howner.trans h.owner, ?_, ?_, ?_, ?_, ?_⟩
  · exact fun hnone => hscope.trans (h.registration hnone)
  · exact fun hoff => heffects.trans (h.effects hoff)
  · rw [hrevocations, heffects]
    exact h.revocations
  · exact fun hoff => htargets.trans (h.targets hoff)
  · rw [hsources]
    exact h.sources

/-- A closed store with some switches turned on for some component. -/
theorem Closed.opened (h : host.Closed) (access : GuestAccess) (owner : Option ComponentRef)
    (counters : ExecutionCounters) :
    Serves { host with
      executionOwner := owner
      toGuestAccess := access
      toExecutionCounters := counters } access owner false [] :=
  ⟨rfl, rfl, fun _ => h.registration rfl, fun _ => h.effects rfl, h.revocations,
    fun _ => h.targets rfl, h.sources⟩

/-- A closed store without switches serves the callbacks that open nothing. -/
theorem Closed.serves (h : host.Closed) (registers : Bool) (borrowed : List Nat) :
    host.Serves .closed none registers borrowed :=
  ⟨h.switches, h.owner, fun _ => h.registration rfl, h.effects, h.revocations, h.targets,
    h.sources.trans (List.nil_sublist borrowed)⟩

/-- Once everything is discarded a store is closed, unless sources are borrowed. -/
theorem closed_discardGuestExecution (hsources : host.resourceTable.Sublist []) :
    host.discardGuestExecution.Closed :=
  ⟨rfl, rfl, fun _ => rfl, fun _ => rfl, fun _ hpending => absurd hpending (Finset.notMem_empty _),
    fun _ => rfl, hsources⟩

/-- A commit closes the store, unless targets are waiting. -/
theorem Serves.closed_afterCommit {access : GuestAccess} {owner : Option ComponentRef}
    (h : host.Serves access owner false [])
    (htargets : access.executionTargetRegistrationActive = false)
    (handles : Dict String ActiveWasmRuntimeEffect) : (host.afterCommit handles).Closed :=
  ⟨rfl, rfl, fun _ => h.registration rfl, fun _ => rfl,
    fun _ hpending => absurd hpending (Finset.notMem_empty _), fun _ => h.targets htargets,
    h.sources⟩

/-- A context is accepted only for the component of the store. -/
theorem registeredOwner_of_validate {context : ComponentIdentity}
    (h : host.validateExecutionOwner context = .ok ()) :
    host.registeredOwner = some context.owner := by
  unfold validateExecutionOwner at h
  split at h
  · next extensionId instanceId scopeId hextension hinstance hscope =>
      split at h
      · next hsame =>
          unfold registeredOwner
          rw [hinstance, hsame]
          rfl
      · cases h
  · cases h

end WasmHostState

namespace WasmSession

open WasmHostState

/-- Between callbacks the store is closed, and during a callback it serves it. -/
structure Guarded (session : WasmSession) : Prop where
  idle : session.current = none → ∀ host, session.hostState = some host → host.Closed
  running : ∀ callback, session.current = some callback →
    ∃ host, session.hostState = some host ∧ host.ServesCallback callback

variable {session : WasmSession} {host : WasmHostState} {context : ComponentIdentity}

/-! ## Drivers that open -/

/-- What a driver does that opens a callback. It refuses it; it finds a registration in
progress; it makes a store; or it enters the callback on the store that is there, which serves
it if it was closed. The component may count as inactive afterwards. -/
inductive Begins (session : WasmSession) (callback : GuestCallback) : WasmSession → Prop
  | refused (active : Bool) : Begins session callback { session with active := active }
  | occupied {host host' : WasmHostState} (active : Bool) (store : session.hostState = some host)
      (same : host.SameTables host') (scope : host.registrationScope ≠ none) :
      Begins session callback { session with active := active, hostState := some host' }
  | created (active : Bool) (instantiates : callback = .instantiate)
      (store : session.hostState = none) (works : session.failedLifecycleCallback = none) :
      Begins session callback (enter { session with active := active } callback
        (.withHostServicesAndBudget session.componentId session.taskHandlerAvailable
          session.budget))
  | entered {host host' : WasmHostState} (active : Bool) (store : session.hostState = some host)
      (same : host.SameTables host') (serves : host.Closed → host'.ServesCallback callback)
      (other : callback ≠ .instantiate) :
      Begins session callback (enter { session with active := active } callback host')

variable {callback : GuestCallback}

/-- Whether the component counted as active does not matter. -/
theorem Begins.of_active {active : Bool} {session' : WasmSession}
    (h : Begins { session with active := active } callback session') :
    session.Begins callback session' := by
  cases h with
  | refused active => exact .refused active
  | occupied active store same scope => exact .occupied active store same scope
  | created active instantiates store works => exact .created active instantiates store works
  | entered active store same serves other => exact .entered active store same serves other

/-- What needs an instance begins with the store that is there. -/
theorem begins_withInstance {next : WasmHostState → WasmSession}
    (hnext : ∀ host, session.hostState = some host → session.Begins callback (next host)) :
    session.Begins callback (session.withInstance next) := by
  unfold withInstance
  split
  · next host hworks hstore => exact hnext host hstore
  · exact .refused session.active

/-- A registered component begins with a store of its own. -/
theorem begins_asRegistered {opened : WasmHostState → WasmHostState}
    (hsame : ∀ host : WasmHostState, host.SameTables (opened host))
    (hopened : ∀ host, host.Closed → host.registeredOwner = some context.owner →
      (opened host).ServesCallback callback) (hother : callback ≠ .instantiate) :
    session.Begins callback (session.asRegistered context callback opened) := by
  refine begins_withInstance fun host hstore => ?_
  split
  · exact .refused session.active
  · next hvalid =>
      exact .entered session.active hstore (hsame host)
        (fun hclosed => hopened host hclosed (registeredOwner_of_validate hvalid)) hother

/-- A provider begins with its store. -/
theorem begins_asHosted {opened : WasmHostState → WasmHostState}
    (hsame : ∀ host : WasmHostState, host.SameTables (opened host))
    (hopened : ∀ host, host.Closed → (opened host).ServesCallback callback)
    (hother : callback ≠ .instantiate) :
    session.Begins callback (session.asHosted callback opened) :=
  begins_withInstance fun host hstore =>
    .entered session.active hstore (hsame host) (hopened host) hother

/-- An execution opens everything a guest may use, for the component of the store. -/
theorem serves_beginGuestExecution (h : host.Closed)
    (howner : host.registeredOwner = some context.owner) :
    host.beginGuestExecution.Serves openAccess (some context.owner) false [] := by
  rw [← howner]
  exact h.opened _ _ _

/-- A service callback opens secrets, services and the user interface. -/
theorem serves_beginServiceExecution (h : host.Closed)
    (howner : host.registeredOwner = some context.owner) :
    host.beginServiceExecution.Serves (serviceAccess .closed) (some context.owner) false [] := by
  rw [← howner, ← h.switches]
  exact h.opened _ _ host.toExecutionCounters

/-- A service callback of a hosted component opens the same, for that component. -/
theorem serves_beginDelegatedServiceExecution (h : host.Closed) (owner : ComponentRef) :
    (host.beginDelegatedServiceExecution owner).Serves (serviceAccess .closed) (some owner)
      false [] := by
  rw [← h.switches]
  exact h.opened _ _ host.toExecutionCounters

/-- A start opens execution targets, too. -/
theorem serves_beginStartExecution (h : host.Closed)
    (howner : host.registeredOwner = some context.owner) :
    host.beginStartExecution.ServesCallback (.start context) := by
  have hopened := serves_beginGuestExecution h howner
  exact ⟨rfl, hopened.owner, fun _ => hopened.registration rfl, (fun hoff => by cases hoff),
    hopened.revocations, fun _ => rfl, hopened.sources⟩

/-- A registration is served with a scope and no switch. -/
theorem begins_beginRegister (session : WasmSession) (context : ComponentIdentity) :
    session.Begins (.register context) (session.beginRegister context) := by
  refine begins_withInstance fun host hstore => ?_
  split
  · exact .refused session.active
  · next opened hopened =>
      unfold beginRegistration at hopened
      split at hopened
      · cases hopened
      · split at hopened
        · cases hopened
        · cases hopened
          refine .entered session.active hstore ⟨rfl, rfl, rfl, rfl, rfl, rfl, rfl, rfl⟩
            (fun hclosed => ?_) nofun
          exact ⟨hclosed.switches, hclosed.owner, (fun hoff => by cases hoff), hclosed.effects,
            hclosed.revocations, hclosed.targets, hclosed.sources⟩

/-- A task is served for the component that has started it, if it is due. -/
theorem begins_beginTask (session : WasmSession) (context : ComponentIdentity)
    (taskOwner : ComponentRef) (handle now : Nat) :
    session.Begins (.runtimeTask context taskOwner handle now)
      (session.beginTask context taskOwner handle now) := by
  refine begins_withInstance fun host _ => ?_
  split
  · exact .refused session.active
  · split
    · refine begins_asRegistered (fun host => ?_) (fun host hclosed howner => ?_) nofun
      · split
        · exact ⟨rfl, rfl, rfl, rfl, rfl, rfl, rfl, rfl⟩
        · exact ⟨rfl, rfl, rfl, rfl, rfl, rfl, rfl, rfl⟩
      · unfold ServesCallback
        dsimp only [GuestCallback.access, GuestCallback.executionOwner]
        split
        · next hown =>
            subst hown
            exact serves_beginGuestExecution hclosed howner
        · exact hclosed.opened _ _ _
    · exact .refused session.active

/-- A hosted registration is served with a scope and no component. -/
theorem begins_beginTargetRegister (session : WasmSession) (context : ComponentIdentity) :
    session.Begins (.targetRegister context) (session.beginTargetRegister context) := by
  refine begins_withInstance fun host hstore => ?_
  unfold beginTargetComponentRegistration
  dsimp only
  cases hscope : host.registrationScope with
  | some scope =>
      exact .occupied session.active hstore ⟨rfl, rfl, rfl, rfl, rfl, rfl, rfl, rfl⟩
        fun hnone => by cases hscope.symm.trans hnone
  | none =>
      refine .entered session.active hstore ⟨rfl, rfl, rfl, rfl, rfl, rfl, rfl, rfl⟩
        (fun hclosed => ?_) nofun
      exact ⟨rfl, rfl, (fun hoff => by cases hoff), fun _ => hclosed.effects rfl,
        hclosed.revocations, fun _ => hclosed.targets rfl, hclosed.sources⟩

/-- Every driver that opens a callback does one of these things. -/
theorem begins (session : WasmSession) (callback : GuestCallback) :
    session.Begins callback (session.begin callback) := by
  cases callback with
  | instantiate =>
      unfold WasmSession.begin instantiate
      dsimp only
      split
      · next hworks hnone => exact .created session.active rfl hnone hworks
      · exact .refused session.active
  | register context => exact begins_beginRegister session context
  | start context =>
      refine @Begins.of_active session (.start context) false _ ?_
      exact begins_asRegistered (fun _ => ⟨rfl, rfl, rfl, rfl, rfl, rfl, rfl, rfl⟩)
        (fun _ hclosed howner => serves_beginStartExecution hclosed howner) nofun
  | stop context =>
      unfold WasmSession.begin beginStop
      dsimp only
      split
      · exact .refused false
      · next host hstore =>
          exact .entered false hstore (.refl host) (fun hclosed => hclosed.serves _ _) nofun
  | event context =>
      unfold WasmSession.begin beginEvent
      dsimp only
      split
      · exact begins_asRegistered (fun _ => ⟨rfl, rfl, rfl, rfl, rfl, rfl, rfl, rfl⟩)
          (fun _ hclosed howner => serves_beginGuestExecution hclosed howner) nofun
      · exact .refused session.active
  | runtimeTask context taskOwner handle now =>
      exact begins_beginTask session context taskOwner handle now
  | uiAction context =>
      exact begins_asRegistered (fun _ => ⟨rfl, rfl, rfl, rfl, rfl, rfl, rfl, rfl⟩)
        (fun _ hclosed howner => serves_beginGuestExecution hclosed howner) nofun
  | service context =>
      exact begins_asRegistered (fun _ => ⟨rfl, rfl, rfl, rfl, rfl, rfl, rfl, rfl⟩)
        (fun _ hclosed howner => serves_beginServiceExecution hclosed howner) nofun
  | targetLoad source =>
      unfold WasmSession.begin beginTargetLoad
      dsimp only
      split
      · refine begins_asHosted (fun _ => ⟨rfl, rfl, rfl, rfl, rfl, rfl, rfl, rfl⟩)
          (fun host hclosed => ?_) nofun
        refine ⟨hclosed.switches, hclosed.owner, hclosed.registration, hclosed.effects,
          hclosed.revocations, hclosed.targets, ?_⟩
        exact hclosed.sources.append (List.Sublist.refl [source])
      · exact .refused session.active
  | targetRegister context => exact begins_beginTargetRegister session context
  | targetStart context | targetEvent context | targetUiAction context =>
      exact begins_asHosted (fun _ => ⟨rfl, rfl, rfl, rfl, rfl, rfl, rfl, rfl⟩)
        (fun _ hclosed => hclosed.opened _ _ _) nofun
  | targetStop context | targetDrop =>
      exact begins_asHosted .refl (fun _ hclosed => hclosed.serves _ _) nofun
  | targetService context =>
      exact begins_asHosted (fun _ => ⟨rfl, rfl, rfl, rfl, rfl, rfl, rfl, rfl⟩)
        (fun _ hclosed => serves_beginDelegatedServiceExecution hclosed context.owner) nofun

/-- A driver opens its own callback or none. -/
theorem begin_current (session : WasmSession) (callback : GuestCallback) :
    (session.begin callback).current = session.current ∨
      (session.begin callback).current = some callback := by
  have hbegins := session.begins callback
  generalize session.begin callback = session' at hbegins ⊢
  cases hbegins with
  | refused | occupied => exact .inl rfl
  | created | entered => exact .inr rfl

/-- A session that enters a callback has a store that serves it. -/
theorem guarded_enter (h : host.ServesCallback callback) :
    (session.enter callback host).Guarded := by
  refine ⟨(fun hidle => by cases hidle), fun other hcurrent => ?_⟩
  cases hcurrent
  exact ⟨host, rfl, h⟩

/-- A driver that opens a callback leaves a store that serves it, and one that refuses it
leaves a closed store. -/
theorem Guarded.begin (h : session.Guarded) (hidle : session.current = none)
    (callback : GuestCallback) : (session.begin callback).Guarded := by
  have hbegins := session.begins callback
  generalize session.begin callback = session' at hbegins ⊢
  cases hbegins with
  | refused active => exact ⟨h.idle, h.running⟩
  | occupied active store same scope => exact absurd ((h.idle hidle _ store).registration rfl) scope
  | created active instantiates store works =>
      subst instantiates
      exact guarded_enter ⟨rfl, rfl, fun _ => rfl, fun _ => rfl,
        fun _ hpending => absurd hpending (Finset.notMem_empty _), fun _ => rfl, .refl []⟩
  | entered active store same serves other =>
      exact guarded_enter (serves (h.idle hidle _ store))

/-! ## Drivers that close -/

/-- What a driver leaves that has closed a callback: a closed store with tables that gave
nothing out, or none, and then the component has failed for good. -/
structure Ends (host : WasmHostState) (session : WasmSession) : Prop where
  current : session.current = none
  closed : ∀ host', session.hostState = some host' → host'.Closed
  tables : ∀ host', session.hostState = some host' → host.TablesWithin host'
  failed : session.hostState = none → session.failedLifecycleCallback ≠ none

variable {host' : WasmHostState}

/-- A session ends with the store that it is left with. -/
theorem ends_leave (hclosed : host'.Closed) (htables : host.TablesWithin host') :
    Ends host (session.leave host') := by
  refine ⟨rfl, fun other hstore => ?_, fun other hstore => ?_, fun hnone => by cases hnone⟩
  · cases hstore
    exact hclosed
  · cases hstore
    exact htables

/-- A session whose store is dropped records the failure. -/
theorem ends_discard (operation : String) : Ends host (session.discard operation) :=
  ⟨rfl, fun _ hstore => (by cases hstore), fun _ hstore => (by cases hstore),
    fun _ hfailed => by cases hfailed⟩

/-- An abort closes the store, as long as nothing is borrowed, and leaves it. -/
theorem ends_abort (hsources : host'.resourceTable.Sublist []) (h : host.TablesWithin host') :
    Ends host (session.abort context host') := by
  have hclosed := closed_discardGuestExecution hsources
  refine ⟨rfl, fun other hstore => ?_, fun other hstore => ?_, fun hnone => by cases hnone⟩
  · cases hstore
    exact hclosed.of_eq rfl rfl rfl rfl rfl rfl rfl
  · cases hstore
    change host.TablesWithin (revokeRuntimeResourcesForOwner _ context.owner)
    refine .then_revoked (h.trans ?_) _
    exact .of_eq rfl rfl rfl rfl

variable {owner : Option ComponentRef} {access : GuestAccess}
  {committed failed : WasmSession → WasmHostState → WasmSession}

/-- A commit changes the effects and none of the tables. -/
theorem tablesWithin_afterCommit (host : WasmHostState)
    (handles : Dict String ActiveWasmRuntimeEffect) :
    host.TablesWithin (host.afterCommit handles) :=
  .of_eq rfl rfl rfl rfl

/-- A callback of a guest ends if it does so after a commit and after a rollback. -/
theorem ends_finishGuest (h : host.Serves access owner false [])
    (hcommitted : ∀ session handles, Ends host (committed session (host.afterCommit handles)))
    (hfailed : ∀ session handles, Ends host (failed session (host.afterCommit handles))) :
    Ends host (session.finishGuest context host committed failed) := by
  obtain ⟨handles, hstate⟩ :=
    finishGuestExecution_state context.owner session.registry h.revocations
  unfold finishGuest
  split
  · next host' registry hfinish =>
      rw [hfinish] at hstate
      cases hstate
      exact hcommitted _ handles
  · next host' registry error hfinish =>
      rw [hfinish] at hstate
      cases hstate
      exact hfailed _ handles

/-- An activation closes the store and leaves it, whether the targets are published or not. -/
theorem ends_activate (h : host.Serves access owner false [])
    (handles : Dict String ActiveWasmRuntimeEffect) :
    Ends host (session.activate context (host.afterCommit handles)) := by
  have hclosed : (host.afterCommit handles).takePendingExecutionTargets.1.Closed :=
    ⟨rfl, rfl, fun _ => h.registration rfl, fun _ => rfl,
      fun _ hpending => absurd hpending (Finset.notMem_empty _), fun _ => rfl, h.sources⟩
  have hleft := @ends_leave session host _ hclosed (.of_eq rfl rfl rfl rfl)
  unfold WasmSession.activate
  dsimp only
  split
  · exact ⟨hleft.current, hleft.closed, hleft.tables, hleft.failed⟩
  · split
    · exact ⟨hleft.current, hleft.closed, hleft.tables, hleft.failed⟩
    · exact hleft

/-- A start ends with a closed store, or without one after a failure. -/
theorem ends_finishStart (h : host.ServesCallback (.start context)) (exit : GuestExit) :
    Ends host (session.finishStart context host exit) := by
  cases exit with
  | returned =>
      unfold finishStart
      dsimp only
      refine ends_finishGuest h (fun session handles => ?_) (fun session handles => ?_)
      · exact ends_activate h handles
      · exact ends_leave (closed_discardGuestExecution h.sources) (.of_eq rfl rfl rfl rfl)
  | guestError | trapped => exact ends_discard _

/-- A stop revokes what the component holds, or drops the store. -/
theorem ends_finishStop (h : host.ServesCallback (.stop context)) (exit : GuestExit) :
    Ends host (session.finishStop host exit) := by
  have hclosed := closed_discardGuestExecution h.sources
  cases exit with
  | returned =>
      refine ends_leave ?_ ?_
      · split
        · exact hclosed.of_eq rfl rfl rfl rfl rfl rfl rfl
        · exact hclosed.of_eq rfl rfl rfl rfl rfl rfl rfl
      · split
        · exact .of_eq rfl rfl rfl rfl
        · refine .then_revoked ?_ _
          exact .of_eq rfl rfl rfl rfl
  | guestError | trapped => exact ends_discard _

/-- An event callback closes the store again, and keeps it also when it fails. -/
theorem ends_finishEvent (h : host.Serves access owner false [])
    (htargets : access.executionTargetRegistrationActive = false) (exit : GuestExit) :
    Ends host (session.finishEvent context host exit) := by
  cases exit with
  | returned =>
      unfold finishEvent
      dsimp only
      refine ends_finishGuest h (fun session handles => ?_) (fun session handles => ?_)
      · exact ends_leave (h.closed_afterCommit htargets handles) (tablesWithin_afterCommit _ _)
      · exact ends_abort h.sources (tablesWithin_afterCommit _ _)
  | guestError | trapped => exact ends_abort h.sources (.refl host)

/-- The store is closed, or dropped after a failure. -/
theorem ends_finishOrInvalidate (h : host.Serves access owner false []) {operation : String}
    (hcommitted : ∀ session handles, Ends host (committed session (host.afterCommit handles)))
    (exit : GuestExit) :
    Ends host (session.finishOrInvalidate context operation host committed exit) := by
  cases exit with
  | returned =>
      unfold finishOrInvalidate
      dsimp only
      refine ends_finishGuest h hcommitted fun session handles => ?_
      exact ends_discard operation
  | guestError | trapped => exact ends_discard _

/-- A task that has run is due again, under the same handle and for the same component. One
of a hosted component that fails loses what it holds. -/
theorem ends_finishTask {taskOwner : ComponentRef} {handle now due : Nat}
    (h : host.ServesCallback (.runtimeTask context taskOwner handle due)) (exit : GuestExit) :
    Ends host (session.finishTask context taskOwner handle now host exit) := by
  have hdiscarded := closed_discardGuestExecution h.sources
  unfold finishTask
  split
  · next hown =>
      refine ends_finishOrInvalidate h (fun session handles => ?_) exit
      have hclosed := h.closed_afterCommit (by rw [GuestCallback.access, if_pos hown]; rfl) handles
      exact ends_leave (hclosed.of_eq rfl rfl rfl rfl rfl rfl rfl)
        (.then_rescheduled (tablesWithin_afterCommit _ _) handle now)
  · split
    · refine ends_leave (hdiscarded.of_eq rfl rfl rfl rfl rfl rfl rfl) (.then_rescheduled ?_ _ _)
      exact .of_eq rfl rfl rfl rfl
    · refine ends_leave (hdiscarded.of_eq rfl rfl rfl rfl rfl rfl rfl) (.then_revoked ?_ _)
      exact .of_eq rfl rfl rfl rfl

/-- Closing a registration leaves a closed store, whether it is taken or cancelled. -/
theorem closed_afterRegistration {registers : Bool} (h : host.Serves .closed owner registers [])
    (howner : owner = none) : ({ host with registrationScope := none } : WasmHostState).Closed :=
  ⟨h.switches, h.owner.trans howner, fun _ => rfl, h.effects, h.revocations, h.targets, h.sources⟩

/-- The end of a registration closes the store, and does nothing to its tables. -/
theorem ends_finishRegistration (h : host.Serves .closed none true []) :
    Ends host (session.leave host.finishRegistration.1) := by
  unfold finishRegistration
  split
  · next hnone =>
      exact ends_leave ⟨h.switches, h.owner, fun _ => hnone, h.effects, h.revocations, h.targets,
        h.sources⟩ (.refl host)
  · exact ends_leave (closed_afterRegistration h rfl) (.of_eq rfl rfl rfl rfl)

/-- However a callback ends, its driver leaves a closed store or records the failure. An
instantiation that fails is left out, as it may be tried again. -/
theorem ends_finish (h : host.ServesCallback callback) (hcallback : callback ≠ .instantiate)
    (exit : GuestExit) (now : Nat) : Ends host (session.finish host exit now callback) := by
  cases callback with
  | instantiate => exact absurd rfl hcallback
  | register context =>
      cases exit with
      | returned => exact ends_finishRegistration h
      | guestError | trapped =>
          have hclosed := closed_afterRegistration h rfl
          exact ends_leave (hclosed.of_eq rfl rfl rfl rfl rfl rfl rfl) (.of_eq rfl rfl rfl rfl)
  | start context => exact ends_finishStart h exit
  | stop context => exact ends_finishStop h exit
  | event context => exact ends_finishEvent h rfl exit
  | runtimeTask context taskOwner handle due => exact ends_finishTask h exit
  | uiAction context =>
      refine ends_finishOrInvalidate h (fun session handles => ?_) exit
      exact ends_leave (h.closed_afterCommit rfl handles) (tablesWithin_afterCommit _ _)
  | service context | targetService context =>
      refine ends_leave ⟨?_, rfl, h.registration, fun _ => h.effects rfl, h.revocations,
        fun _ => h.targets rfl, h.sources⟩ (.of_eq rfl rfl rfl rfl)
      change { GuestAccess.closed with runtimeEffectsActive := host.runtimeEffectsActive } = _
      rw [h.switches]
      rfl
  | targetLoad source =>
      refine ends_leave ⟨h.switches, h.owner, h.registration, h.effects, h.revocations,
        h.targets, ?_⟩ (.of_eq rfl rfl rfl rfl)
      have hsources : host.resourceTable.Sublist [source] := h.sources
      have herased := hsources.erase source
      rwa [List.erase_cons_head] at herased
  | targetRegister context =>
      cases exit with
      | returned => exact ends_finishRegistration h
      | guestError | trapped =>
          exact ends_leave (closed_afterRegistration h rfl) (.of_eq rfl rfl rfl rfl)
  | targetStart context | targetEvent context | targetUiAction context =>
      exact ends_finishEvent h rfl exit
  | targetStop context =>
      refine ends_leave ⟨h.switches, h.owner, h.registration, h.effects, ?_, h.targets,
        h.sources⟩ (.then_revoked ?_ _)
      · intro handle hpending
        exact h.revocations handle (Finset.mem_filter.mp hpending).1
      · exact .of_eq rfl rfl rfl rfl
  | targetDrop => exact ends_leave h (.refl host)

/-- However a callback ends, its driver leaves a closed store that has given nothing out. -/
theorem store_of_finish (h : host.ServesCallback callback) (exit : GuestExit) (now : Nat)
    (hstore : (session.finish host exit now callback).hostState = some host') :
    host'.Closed ∧ host.TablesWithin host' := by
  by_cases hcallback : callback = .instantiate
  · subst hcallback
    cases exit with
    | returned =>
        cases hstore
        exact ⟨h, .refl host⟩
    | guestError | trapped => cases hstore
  · have hends := @ends_finish session host callback h hcallback exit now
    exact ⟨hends.closed host' hstore, hends.tables host' hstore⟩

/-- A driver closes the callback that is open. -/
theorem finish_current (h : host.ServesCallback callback) (exit : GuestExit) (now : Nat) :
    (session.finish host exit now callback).current = none := by
  by_cases hcallback : callback = .instantiate
  · subst hcallback
    cases exit <;> rfl
  · exact (ends_finish h hcallback exit now).current

/-- A session is guarded once its callback has ended. -/
theorem guarded_finish (h : host.ServesCallback callback) (exit : GuestExit) (now : Nat) :
    (session.finish host exit now callback).Guarded :=
  ⟨fun _ _ hstore => (store_of_finish h exit now hstore).1, fun _ hcurrent => by
    cases (finish_current h exit now).symm.trans hcurrent⟩

/-! ## Runs -/

/-- Every reachable session is guarded. -/
theorem guarded_of_reachable (h : wasmSystem.Reachable session) : session.Guarded := by
  refine h.induction ?_ ?_
  · rintro session ⟨componentId, budget, tasks, targets, registry, published, services, rfl⟩
    exact ⟨fun _ _ hstore => (by cases hstore), fun _ hcurrent => (by cases hcurrent)⟩
  · intro session label session' _ hguarded hstep
    cases hstep with
    | begin callback idle passes => exact hguarded.begin idle callback
    | call env call running store scopes =>
        obtain ⟨host, hstore, hserves⟩ := hguarded.running _ running
        cases store.symm.trans hstore
        refine ⟨fun hidle => ?_, fun callback hcurrent => ?_⟩
        · cases running.symm.trans hidle
        · cases running.symm.trans hcurrent
          exact ⟨_, rfl, (performs _ env call).serves hserves⟩
    | finish exit now running store mayLeave =>
        obtain ⟨host, hstore, hserves⟩ := hguarded.running _ running
        cases store.symm.trans hstore
        exact guarded_finish hserves exit now
    | busy callback held concurrent apart passes =>
        constructor
        · rw [refuseBusy_current, refuseBusy_hostState]
          exact hguarded.idle
        · rw [refuseBusy_current, refuseBusy_hostState]
          exact hguarded.running
    | engine registry targets services free => exact ⟨hguarded.idle, hguarded.running⟩

end WasmSession

namespace WasmHostState

/-- Nothing is on, the store acts for nobody, and nothing is asked for. -/
structure Quiet (host : WasmHostState) : Prop where
  switches : host.toGuestAccess = .closed
  owner : host.executionOwner = none
  effects : host.pendingEffects = []
  revocations : host.pendingRevocations = ∅

/-- Every call is refused and does nothing, apart from lines for the log. -/
def RefusesCalls (host : WasmHostState) : Prop :=
  ∀ env call, (∀ message, call ≠ CapabilityCall.log message) →
    ∃ error, host.perform env call = host.refuse error

/-- A store without access to effects, tasks, the network and the host. -/
structure WithoutRuntimeAccess (host : WasmHostState) : Prop where
  effects : host.runtimeEffectsActive = false
  tasks : host.taskAccessActive = false
  network : host.networkAccessActive = false
  hostAccess : host.hostAccessActive = false

variable {host : WasmHostState}

/-- A closed store asks for nothing. -/
theorem Closed.quiet (h : host.Closed) : host.Quiet := by
  refine ⟨h.switches, h.owner, h.effects rfl, Finset.eq_empty_of_forall_notMem ?_⟩
  intro handle hpending
  obtain ⟨effect, hmem⟩ := h.revocations handle hpending
  rw [h.effects rfl] at hmem
  cases hmem

/-- A closed store refuses every call. -/
theorem Closed.refusesCalls (h : host.Closed) : host.RefusesCalls :=
  fun env call hlog => (performs host env call).closed h hlog

end WasmHostState

namespace GuestCallback

/-- Callbacks that open nothing. -/
def opensNothing (callback : GuestCallback) : Bool :=
  callback.executionOwner.isNone && !callback.registers && callback.borrowed.isEmpty

/-- A callback that executes no component opens nothing. -/
theorem access_of_executionOwner_eq_none {callback : GuestCallback}
    (h : callback.executionOwner = none) : callback.access = .closed := by
  cases callback with
  | start | event | runtimeTask | uiAction | service | targetStart | targetEvent | targetUiAction
  | targetService => cases h
  | instantiate | register | stop | targetLoad | targetRegister | targetStop | targetDrop => rfl

end GuestCallback

open WasmHostState

/-- In every run a store is quiet between callbacks and refuses every call. A start, event,
task, UI action or service callback is executed for the component of the context or of the
task, and for nobody else, with the switches of that callback; a service callback reaches
neither effects nor tasks, the network or the host. The other callbacks are executed for
nobody and with no switch on. -/
theorem guest_capability_gate {session : WasmSession} {host : WasmHostState}
    (h : wasmSystem.Reachable session) (hstore : session.hostState = some host) :
    (session.current = none → host.Quiet ∧ host.RefusesCalls) ∧
      ∀ callback, session.current = some callback →
        host.executionOwner = callback.executionOwner ∧
        host.toGuestAccess = callback.access ∧
        (callback.executionOwner = none → host.toGuestAccess = .closed) ∧
        (callback.isService = true → host.WithoutRuntimeAccess) ∧
        (callback.opensNothing = true → host.Quiet ∧ host.RefusesCalls) := by
  have hguarded := WasmSession.guarded_of_reachable h
  refine ⟨fun hidle => ?_, fun callback hcurrent => ?_⟩
  · have hclosed := hguarded.idle hidle host hstore
    exact ⟨hclosed.quiet, hclosed.refusesCalls⟩
  · obtain ⟨other, hother, hserves⟩ := hguarded.running callback hcurrent
    cases hstore.symm.trans hother
    refine ⟨hserves.owner, hserves.switches, fun hnobody => ?_, fun hservice => ?_,
      fun hnothing => ?_⟩
    · exact hserves.switches.trans (GuestCallback.access_of_executionOwner_eq_none hnobody)
    · have haccess : host.toGuestAccess = serviceAccess .closed := by
        cases callback with
        | service context | targetService context => exact hserves.switches
        | _ => cases hservice
      exact ⟨by rw [haccess]; rfl, by rw [haccess]; rfl, by rw [haccess]; rfl,
        by rw [haccess]; rfl⟩
    · have hclosed : host.Closed := by
        cases callback with
        | instantiate | stop | targetStop | targetDrop => exact hserves
        | _ => cases hnothing
      exact ⟨hclosed.quiet, hclosed.refusesCalls⟩

/-- A component that hosts scripts, in the default scope. -/
def providerContext : ComponentIdentity :=
  ⟨⟨"script-host"⟩, ⟨"script-host"⟩, ⟨"default"⟩, ⟨"main"⟩⟩

/-- A script of a world, which the provider hosts. -/
def scriptContext : ComponentIdentity :=
  ⟨⟨"script"⟩, ⟨"script"⟩, ⟨"world-1"⟩, ⟨"main"⟩⟩

/-- An instance that is registered without contracts. -/
def serviceInstanceOf (context : ComponentIdentity) : ServiceExtensionInstance :=
  ⟨context.extensionId, context.scopeId, true, [], [], [], (∅ : Dict _ _).insert context.componentId
    ⟨none⟩⟩

/-- The service runtime after the provider and the script were registered. -/
def hostingServices : ServiceRuntimeState :=
  { ServiceRuntimeState.new with
    instances := ((∅ : Dict _ _).insert providerContext.instanceId
      (serviceInstanceOf providerContext)).insert scriptContext.instanceId
        (serviceInstanceOf scriptContext) }

/-- The engine passes the contexts of the provider and the script. -/
theorem passes_hosted {session : WasmSession} {callback : GuestCallback}
    (hservices : session.services = hostingServices)
    (hcontext : ∀ context, callback.runtimeContext = some context →
      context = providerContext ∨ context = scriptContext)
    (hstop : ∀ context, callback ≠ .stop context) : session.Passes callback := by
  refine ⟨fun context hpassed => ?_, fun context _ hstops => absurd hstops (hstop context)⟩
  rw [hservices]
  rcases hcontext context hpassed with rfl | rfl
  · decide +kernel
  · decide +kernel

/-- The provider once it was instantiated and registered. -/
def providerSession : WasmSession :=
  { WasmSession.loaded ⟨"main"⟩ {} true true .new .new hostingServices with
    hostState := some
      { WasmHostState.withHostServicesAndBudget ⟨"main"⟩ true {} with
        extensionId := some providerContext.extensionId
        instanceId := some providerContext.instanceId
        scopeId := some providerContext.scopeId } }

/-- A component that was loaded, with the services in which the provider and the script are
registered. -/
def loadedProvider : WasmSession :=
  .loaded ⟨"main"⟩ {} true true .new .new hostingServices

/-- The session of a component that was loaded is one of the first ones. -/
theorem init_loadedProvider : wasmSystem.init loadedProvider :=
  ⟨_, _, _, _, _, _, _, rfl⟩

/-- What happens until the provider is registered. -/
def registration : List SessionLabel :=
  [.begin .instantiate, .finish .instantiate .returned 0,
    .begin (.register providerContext), .finish (.register providerContext) .returned 0]

/-- The provider is instantiated and registered. -/
theorem run_registration : wasmSystem.Run loadedProvider registration providerSession := by
  have hinstantiating : wasmSystem.Run loadedProvider [.begin .instantiate] _ :=
    .single (.begin .instantiate rfl (passes_hosted rfl nofun nofun))
  have hinstantiated := hinstantiating.snoc (.finish .returned 0 rfl rfl nofun)
  have hregistering := hinstantiated.snoc
    (.begin (.register providerContext) rfl (passes_hosted rfl nofun nofun))
  have hregistered := hregistering.snoc (.finish .returned 0 rfl rfl nofun)
  exact hregistered

/-- The session of the provider occurs. -/
theorem reachable_providerSession : wasmSystem.Reachable providerSession :=
  ⟨_, _, init_loadedProvider, run_registration⟩

/-- The engine passes on the stop of the provider. -/
theorem passes_stop : providerSession.Passes (.stop providerContext) := by
  refine ⟨fun context hcontext => ?_, fun context host hstop hstore => ?_⟩
  · cases hcontext
    decide +kernel
  · cases hstop
    cases hstore
    rfl

/-- The provider refuses every call while nothing runs. In an event of the script the calls are
those of the script, in a service callback of the provider there is no access to the runtime, and
the stop callback of the provider is refused every call. -/
theorem guest_capability_gate_provider :
    (∃ host, providerSession.hostState = some host ∧ host.Quiet ∧ host.RefusesCalls) ∧
    (∃ session host, wasmSystem.Reachable session ∧
      session.current = some (.targetEvent scriptContext) ∧ session.hostState = some host ∧
      host.executionOwner = some scriptContext.owner ∧
      host.toGuestAccess = WasmHostState.openAccess) ∧
    (∃ session host, wasmSystem.Reachable session ∧
      session.current = some (.service providerContext) ∧ session.hostState = some host ∧
      host.executionOwner = some providerContext.owner ∧ host.WithoutRuntimeAccess) ∧
    ∃ session host, wasmSystem.Reachable session ∧
      session.current = some (.stop providerContext) ∧ session.hostState = some host ∧
      host.RefusesCalls := by
  have hevent := reachable_providerSession.step (.begin (.targetEvent scriptContext) rfl
    (passes_hosted rfl (fun _ h => by cases h; exact .inr rfl) nofun))
  have hservice := reachable_providerSession.step (.begin (.service providerContext) rfl
    (passes_hosted rfl (fun _ h => by cases h; exact .inl rfl) nofun))
  have hstop := reachable_providerSession.step (.begin (.stop providerContext) rfl passes_stop)
  have heventGate := (guest_capability_gate hevent rfl).2 _ rfl
  have hserviceGate := (guest_capability_gate hservice rfl).2 _ rfl
  have hstopGate := (guest_capability_gate hstop rfl).2 _ rfl
  exact ⟨⟨_, rfl, (guest_capability_gate reachable_providerSession rfl).1 rfl⟩,
    ⟨_, _, hevent, rfl, rfl, heventGate.1, heventGate.2.1⟩,
    ⟨_, _, hservice, rfl, rfl, hserviceGate.1, hserviceGate.2.2.2.1 rfl⟩,
    ⟨_, _, hstop, rfl, rfl, (hstopGate.2.2.2.2 rfl).2⟩⟩

/-- While it is stopped, a component is not the one that is executed. -/
theorem stop_executed_for_nobody : ∃ session host context,
    wasmSystem.Reachable session ∧ session.current = some (.stop context) ∧
      session.hostState = some host ∧ host.executionOwner ≠ some context.owner := by
  have hstopping := reachable_providerSession.step
    (.begin (.stop providerContext) rfl passes_stop)
  exact ⟨_, _, _, hstopping, rfl, rfl, fun howner => by cases howner⟩

end Rintawa.WasmRuntime
