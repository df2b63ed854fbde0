/-
# What calls do

One case for each way in which a call changes the host state, with what has let it
through. Everything else is refused, and changes nothing.
-/

import Rintawa.WasmRuntime.HostAccess

namespace Rintawa.WasmRuntime

open Rintawa.Lib Rintawa.Sdk Rintawa.ExtensionEngine

/-! ## Cases -/

/-- The tables of handles that components own entries of. -/
inductive HandleKind
  | task
  | network
  | assetUpload
  | userResourceUpload
  deriving DecidableEq

/-- The table in which a call gives out a handle. -/
def CapabilityCall.allocates : CapabilityCall → Option HandleKind
  | .spawnPeriodic _ => some .task
  | .listenLoopback _ | .connectLoopback _ | .accept _ => some .network
  | .beginAssetUpload _ _ => some .assetUpload
  | .beginResourceUpload _ _ _ => some .userResourceUpload
  | _ => none

/-- A result gives out a handle only when its call may. -/
def CapabilityCall.GivesOutNothing (call : CapabilityCall)
    (result : Except CapabilityError CapabilityValue) : Prop :=
  ∀ handle, result = .ok (.handle handle) → call.allocates = none

namespace WasmHostState

/-- The ways in which a call is handled. -/
inductive Performs (host : WasmHostState) : CapabilityCall → CallOutcome → Prop
  | refused {call : CapabilityCall} (error : CapabilityError) :
      Performs host call (host.refuse error)
  | logged (message : String) : Performs host (.log message) (host.log message)
  | passed {call : CapabilityCall} {requests : List HostRequest}
      {result : Except CapabilityError CapabilityValue}
      (executes : host.executionOwner.isSome = true) (nothing : call.GivesOutNothing result) :
      Performs host call ⟨host, requests, result⟩
  | readSource {call : CapabilityCall} {requests : List HostRequest}
      {result : Except CapabilityError CapabilityValue} (source : Nat)
      (borrowed : source ∈ host.resourceTable) (nothing : call.GivesOutNothing result) :
      Performs host call ⟨host, requests, result⟩
  | droppedSource (source : Nat) (borrowed : source ∈ host.resourceTable) :
      Performs host (.sourceDrop source)
        ⟨{ host with resourceTable := host.resourceTable.erase source }, [], .ok .done⟩
  | targetQueued (target : String) (active : host.executionTargetRegistrationActive = true) :
      Performs host (.registerTarget target)
        ⟨{ host with pendingExecutionTargets := host.pendingExecutionTargets ++ [target] }, [],
          .ok .done⟩
  | effectQueued {call : CapabilityCall} (owner : ComponentRef) (effect : RuntimeEffect)
      (active : host.runtimeEffectsActive = true) (executes : host.executionOwner = some owner)
      (named : isBlank effect.topic = false) :
      Performs host call
        ⟨{ host with
            nextEffectHandle := host.nextEffectHandle + 1
            pendingEffects := host.pendingEffects ++
              [.subscribe owner (effectHandle host.nextEffectHandle) effect] }, [],
          .ok (.content (effectHandle host.nextEffectHandle))⟩
  | effectWithdrawn {call : CapabilityCall} (handle : String)
      (active : host.runtimeEffectsActive = true)
      (pending : host.pendingEffects.any
        (WasmRuntimeEffectOperation.subscribes handle) = true) :
      Performs host call
        ⟨{ host with
            pendingEffects :=
              host.pendingEffects.eraseP (WasmRuntimeEffectOperation.subscribes handle) }, [],
          .ok .done⟩
  | revocationQueued {call : CapabilityCall} (handle : String) (effect : ActiveWasmRuntimeEffect)
      (active : host.runtimeEffectsActive = true)
      (fresh : handle ∉ host.pendingRevocations)
      (found : host.effectHandles.lookup handle = some effect)
      (owned : host.executionOwner = some effect.owner) :
      Performs host call
        ⟨{ host with
            pendingRevocations := insert handle host.pendingRevocations
            pendingEffects := host.pendingEffects ++ [.unsubscribe handle effect] }, [],
          .ok .done⟩
  | registered {call : CapabilityCall} (scope : WasmRegistrationScope)
      (isOpen : host.registrationScope.isSome = true) :
      Performs host call ⟨{ host with registrationScope := some scope }, [], .ok .done⟩
  | counted {call : CapabilityCall} {requests : List HostRequest}
      {result : Except CapabilityError CapabilityValue} (counters : ExecutionCounters)
      (executes : host.executionOwner.isSome = true) (nothing : call.GivesOutNothing result) :
      Performs host call ⟨{ host with toExecutionCounters := counters }, requests, result⟩
  | taskSpawned {call : CapabilityCall} (task : ActiveWasmTask)
      (tasks : HandleTable id ActiveWasmTask) (allocates : call.allocates = some .task)
      (executes : host.executionOwner = some task.owner)
      (allocated : host.activeTasks.allocate counterLimit task = some tasks) :
      Performs host call
        ⟨{ host with activeTasks := tasks }, [], .ok (.handle host.activeTasks.next)⟩
  | taskCancelled (handle : Nat) (task : ActiveWasmTask)
      (found : host.activeTasks.lookup handle = some task)
      (owned : host.executionOwner = some task.owner) :
      Performs host (.cancelTask handle)
        ⟨{ host with activeTasks := host.activeTasks.remove handle }, [], .ok .done⟩
  | networkOpened {call : CapabilityCall} {requests : List HostRequest}
      (resource : OwnedNetworkHandle) (handles : HandleTable id OwnedNetworkHandle)
      (allocates : call.allocates = some .network)
      (executes : host.executionOwner = some resource.owner)
      (allocated : host.networkHandles.allocate counterLimit resource = some handles) :
      Performs host call
        ⟨{ host with networkHandles := handles }, requests, .ok (.handle host.networkHandles.next)⟩
  | networkClosed (handle : Nat) (resource : OwnedNetworkHandle)
      (found : host.networkHandles.lookup handle = some resource)
      (owned : host.executionOwner = some resource.owner) :
      Performs host (.closeHandle handle)
        ⟨{ host with networkHandles := host.networkHandles.remove handle }, [], .ok .done⟩
  | assetUploadBegun {call : CapabilityCall} (upload : PendingAssetUpload)
      (uploads : HandleTable Nat.succ PendingAssetUpload)
      (allocates : call.allocates = some .assetUpload)
      (executes : host.executionOwner.isSome = true)
      (allocated : host.assetUploads.allocate counterLimit upload = some uploads) :
      Performs host call
        ⟨{ host with assetUploads := uploads }, [], .ok (.handle host.assetUploads.next)⟩
  | assetUploadAppended (handle : Nat) (bytes : List UInt8)
      (executes : host.executionOwner.isSome = true) :
      Performs host (.appendAssetUpload handle bytes)
        ⟨{ host with
            assetUploads := host.assetUploads.modify handle fun upload =>
              { upload with bytes := upload.bytes ++ bytes } }, [], .ok .done⟩
  | assetUploadRemoved {call : CapabilityCall} {requests : List HostRequest}
      {result : Except CapabilityError CapabilityValue} (handle : Nat)
      (executes : host.executionOwner.isSome = true) (nothing : call.GivesOutNothing result) :
      Performs host call
        ⟨{ host with assetUploads := host.assetUploads.remove handle }, requests, result⟩
  | userResourceUploadBegun {call : CapabilityCall} (upload : PendingUserResourceUpload)
      (uploads : HandleTable Nat.succ PendingUserResourceUpload)
      (allocates : call.allocates = some .userResourceUpload)
      (executes : host.executionOwner.isSome = true)
      (allocated : host.userResourceUploads.allocate counterLimit upload = some uploads) :
      Performs host call
        ⟨{ host with userResourceUploads := uploads }, [],
          .ok (.handle host.userResourceUploads.next)⟩
  | userResourceUploadAppended (handle : Nat) (bytes : List UInt8)
      (executes : host.executionOwner.isSome = true) :
      Performs host (.appendResourceUpload handle bytes)
        ⟨{ host with
            userResourceUploads := host.userResourceUploads.modify handle fun upload =>
              { upload with bytes := upload.bytes ++ bytes } }, [], .ok .done⟩
  | userResourceUploadRemoved {call : CapabilityCall} {requests : List HostRequest}
      {result : Except CapabilityError CapabilityValue} (handle : Nat)
      (executes : host.executionOwner.isSome = true) (nothing : call.GivesOutNothing result) :
      Performs host call
        ⟨{ host with userResourceUploads := host.userResourceUploads.remove handle }, requests,
          result⟩

/-! ## Combinators -/

namespace Performs

variable {host : WasmHostState} {env : HostEnvironment} {call : CapabilityCall}
  {error : CapabilityError} {next : CallOutcome} {nextOf : ComponentRef → CallOutcome}

/-- A limit on bytes refuses, or lets the call go on. -/
theorem within {bytes limit : Nat} (h : host.Performs call next) :
    host.Performs call (host.within bytes limit error next) := by
  unfold WasmHostState.within
  split
  · exact .refused error
  · exact h

/-- A switch lets the call go on only while it is on. -/
theorem whileOn {active : Bool} (h : active = true → host.Performs call next) :
    host.Performs call (host.whileOn active error next) := by
  unfold WasmHostState.whileOn
  split
  · next hactive => exact h hactive
  · exact .refused error

/-- A call goes on for the component that is executed. -/
theorem asOwner
    (h : ∀ owner, host.executionOwner = some owner → host.Performs call (nextOf owner)) :
    host.Performs call (host.asOwner error nextOf) := by
  unfold WasmHostState.asOwner
  split
  · exact .refused error
  · next owner howner => exact h owner howner

variable {permission : RuntimePermission} {request : CapabilityCall} {messageBytes : Nat}

/-- A call goes on for the component, if it has the permission. -/
theorem asPermitted
    (h : ∀ owner, host.executionOwner = some owner → host.Performs call (nextOf owner)) :
    host.Performs call (host.asPermitted env permission nextOf) := by
  refine asOwner fun owner howner => ?_
  split
  · exact .refused _
  · exact .refused _
  · exact h owner howner

/-- Host access is a switch and a permission. -/
theorem withHostAccess
    (h : ∀ owner, host.executionOwner = some owner → host.Performs call (nextOf owner)) :
    host.Performs call (host.withHostAccess env permission nextOf) :=
  whileOn fun _ => asPermitted h

/-- A call that gives out no handle may be passed on once a component is executed. -/
theorem forward {owner : ComponentRef} {request : HostRequest}
    (howner : host.executionOwner = some owner) (hallocates : call.allocates = none) :
    host.Performs call (host.forward env request) :=
  .passed (by rw [howner]; rfl) fun _ _ => hallocates

/-- With host access, a call without a handle is passed on. -/
theorem hostForward {request : ComponentRef → HostRequest} (hallocates : call.allocates = none) :
    host.Performs call (host.withHostAccess env permission fun owner =>
      host.forward env (request owner)) :=
  withHostAccess fun _ howner => forward howner hallocates

/-- A source that is borrowed is read through the host. -/
theorem source {source : Nat} {request : HostRequest} (hallocates : call.allocates = none) :
    host.Performs call (host.withSource source (host.forward env request)) := by
  unfold withSource
  split
  · next hborrowed => exact .readSource source hborrowed fun _ _ => hallocates
  · exact .refused _

/-- Service calls are passed on. -/
theorem useServices (hallocates : call.allocates = none) :
    host.Performs call (host.useServices env request) :=
  whileOn fun _ => asOwner fun _ howner => forward howner hallocates

/-- A registration changes the scope that is open for it, or is refused. -/
theorem inRegistration
    {change : WasmRegistrationScope → Except CapabilityError WasmRegistrationScope} :
    host.Performs call (host.inRegistration change) := by
  unfold WasmHostState.inRegistration
  split
  · exact .refused _
  · next scope hscope =>
      split
      · exact .refused _
      · next scope' hchange => exact .registered scope' (by rw [hscope]; rfl)

/-- Calls of the control plane are passed on under their permission. -/
theorem useControlPlane (hallocates : call.allocates = none) :
    host.Performs call (host.useControlPlane env permission messageBytes error request) :=
  withHostAccess fun _ howner => within (forward howner hallocates)

/-- Preferences are used in the scope of the store. -/
theorem usePreferences (hallocates : call.allocates = none) :
    host.Performs call (host.usePreferences env messageBytes request) := by
  refine whileOn fun _ => ?_
  split
  · exact .refused _
  · exact asOwner fun _ howner => within (forward howner hallocates)

/-- The world session is changed within its limits. -/
theorem changeWorldSession {messageBytes : List Nat} (hallocates : call.allocates = none) :
    host.Performs call (host.changeWorldSession env messageBytes request) := by
  refine withHostAccess fun owner howner => ?_
  have hexecutes : host.executionOwner.isSome = true := by
    rw [howner]
    rfl
  unfold consumeWorldSessionMutationBudget
  split
  · exact .refused _
  · split
    · exact .counted _ hexecutes fun _ _ => hallocates
    · exact .counted _ hexecutes fun _ _ => hallocates

/-- A surface is changed if its message parses. -/
theorem changeSurface {parses : Bool} (hallocates : call.allocates = none) :
    host.Performs call (host.changeSurface env messageBytes parses request) :=
  whileOn fun _ => within (whileOn fun _ => asOwner fun _ howner => forward howner hallocates)

/-- A layer acts for the component that is executed. -/
theorem asLayer {parses : Bool} (hallocates : call.allocates = none) :
    host.Performs call (host.asLayer env messageBytes parses request) :=
  whileOn fun _ => within (whileOn fun _ => asOwner fun _ howner => forward howner hallocates)

end Performs

/-! ## The calls -/

variable {host : WasmHostState} {env : HostEnvironment}

variable {owner : ComponentRef}

/-- Some component is executed. -/
theorem isSome_executionOwner (h : host.executionOwner = some owner) :
    host.executionOwner.isSome = true := by
  rw [h]
  rfl

/-- A subscription is queued under the next handle. -/
theorem performs_subscribe {call : CapabilityCall} (effect : RuntimeEffect) :
    host.Performs call (host.subscribeRuntimeEffect effect) := by
  refine .whileOn fun hactive => ?_
  split
  · exact .refused _
  · next hnamed =>
      refine .asOwner fun owner howner => ?_
      split
      · exact .effectQueued owner effect hactive howner (Bool.eq_false_iff.mpr hnamed)
      · exact .refused _

/-- A subscription of the same callback is dropped. The end of an older one is queued. -/
theorem performs_unsubscribe {call : CapabilityCall} (handle : String) :
    host.Performs call (host.unsubscribeRuntimeEffect handle) := by
  refine .whileOn fun hactive => ?_
  split
  · next hpending => exact .effectWithdrawn handle hactive hpending
  · split
    · exact .refused _
    · next hfresh =>
        split
        · exact .refused _
        · next effect hfound =>
            split
            · next howned => exact .revocationQueued handle effect hactive hfresh hfound howned
            · exact .refused _

/-- A new task gets a handle in the table of tasks. -/
theorem performs_spawnPeriodic (intervalMs : Nat) :
    host.Performs (.spawnPeriodic intervalMs) (host.spawnPeriodic env intervalMs) := by
  refine .whileOn fun _ => .whileOn fun _ => .asPermitted fun owner howner => ?_
  split
  · exact .refused _
  · split
    · exact .refused _
    · split
      · exact .refused _
      · next tasks hallocated => exact .taskSpawned _ tasks rfl howner hallocated

/-- Only a task of the component itself is taken out of the table. -/
theorem performs_cancelTask (handle : Nat) :
    host.Performs (.cancelTask handle) (host.cancelTask env handle) := by
  refine .whileOn fun _ => .asPermitted fun owner howner => ?_
  split
  · exact .refused _
  · next task hfound =>
      split
      · next howned => exact .taskCancelled handle task hfound (howned ▸ howner)
      · exact .refused _

/-- A new resource gets a handle in the network table. -/
theorem performs_allocateNetworkHandle {call : CapabilityCall} {kind : NetworkHandleKind}
    {requests : List HostRequest} (howner : host.executionOwner = some owner)
    (hallocates : call.allocates = some .network) :
    host.Performs call (host.allocateNetworkHandle owner kind requests) := by
  have hexecutes := isSome_executionOwner howner
  unfold allocateNetworkHandle
  split
  · exact .passed hexecutes fun _ h => by cases h
  · split
    · exact .passed hexecutes fun _ h => by cases h
    · next handles hallocated => exact .networkOpened _ handles hallocates howner hallocated

/-- A listener is opened by the host and then gets its handle. -/
theorem performs_listenLoopback (port : Nat) :
    host.Performs (.listenLoopback port) (host.listenLoopback env port) := by
  refine .whileOn fun _ => .asPermitted fun owner howner => ?_
  dsimp only
  split
  · exact .passed (isSome_executionOwner howner) fun _ h => by cases h
  · exact performs_allocateNetworkHandle howner rfl

/-- A socket is opened by the host and then gets its handle. -/
theorem performs_connectLoopback (port : Nat) :
    host.Performs (.connectLoopback port) (host.connectLoopback env port) := by
  refine .whileOn fun _ => ?_
  split
  · exact .refused _
  · refine .asPermitted fun owner howner => ?_
    dsimp only
    split
    · exact .passed (isSome_executionOwner howner) fun _ h => by cases h
    · exact performs_allocateNetworkHandle howner rfl

/-- A call goes on only with a handle that the component holds. -/
theorem Performs.withNetworkHandle {call : CapabilityCall} {handle : Nat} {kind : NetworkHandleKind}
    {next : CallOutcome} (h : host.Performs call next) :
    host.Performs call (host.withNetworkHandle owner handle kind next) := by
  unfold WasmHostState.withNetworkHandle
  split
  · exact .refused _
  · split
    · split
      · exact h
      · exact .refused _
    · exact .refused _

/-- What a listener accepts is a socket with a handle of its own. -/
theorem performs_accept (listener : Nat) :
    host.Performs (.accept listener) (host.accept env listener) := by
  refine .whileOn fun _ => .asOwner fun owner howner => ?_
  have hexecutes := isSome_executionOwner howner
  split
  · exact .refused _
  · refine .withNetworkHandle ?_
    dsimp only
    split
    · exact .passed hexecutes fun _ h => by cases h
    · exact .passed hexecutes fun _ h => by cases h
    · exact performs_allocateNetworkHandle howner rfl

/-- Reading a socket leaves its entry. -/
theorem performs_readSocket (socket maxBytes : Nat) :
    host.Performs (.readSocket socket maxBytes) (host.readSocket env socket maxBytes) := by
  refine .whileOn fun _ => .asOwner fun owner howner => .within (.withNetworkHandle ?_)
  split
  · exact .passed (isSome_executionOwner howner) fun _ _ => rfl
  · exact .forward howner rfl

/-- Only a handle of the component itself is closed. -/
theorem performs_closeHandle (handle : Nat) :
    host.Performs (.closeHandle handle) (host.closeHandle handle) := by
  refine .whileOn fun _ => .asOwner fun owner howner => ?_
  split
  · exact .refused _
  · next resource hfound =>
      split
      · next howned => exact .networkClosed handle resource hfound (howned ▸ howner)
      · exact .refused _

/-- An upload for which there is room gets a handle. -/
theorem performs_beginAssetUpload (mediaType : String) (expectedSize : Nat) :
    host.Performs (.beginAssetUpload mediaType expectedSize)
      (host.beginAssetUpload env mediaType expectedSize) := by
  refine .withHostAccess fun owner howner => ?_
  split
  · exact .refused _
  · split
    · exact .refused _
    · split
      · exact .refused _
      · next uploads hallocated =>
          exact .assetUploadBegun _ uploads rfl (isSome_executionOwner howner) hallocated

/-- A chunk is added to the entry of the upload. -/
theorem performs_appendAssetUpload (handle : Nat) (bytes : List UInt8) :
    host.Performs (.appendAssetUpload handle bytes) (host.appendAssetUpload env handle bytes) := by
  refine .withHostAccess fun owner howner => ?_
  split
  · exact .refused _
  · split
    · exact .refused _
    · split
      · exact .refused _
      · exact .assetUploadAppended handle bytes (isSome_executionOwner howner)

/-- A finished upload is taken out of the table before it is imported. -/
theorem performs_finishAssetUpload (handle : Nat) :
    host.Performs (.finishAssetUpload handle) (host.finishAssetUpload env handle) := by
  refine .withHostAccess fun owner howner => ?_
  split
  · exact .refused _
  · split
    · exact .assetUploadRemoved handle (isSome_executionOwner howner) fun _ _ => rfl
    · exact .refused _

/-- A cancelled upload is taken out of the table. -/
theorem performs_cancelAssetUpload (handle : Nat) :
    host.Performs (.cancelAssetUpload handle) (host.cancelAssetUpload env handle) := by
  refine .withHostAccess fun owner howner => ?_
  split
  · exact .refused _
  · exact .assetUploadRemoved handle (isSome_executionOwner howner) fun _ _ => rfl

/-- An upload for which there is room gets a handle. -/
theorem performs_beginResourceUpload (mediaType : String) (name : Option String)
    (expectedSize : Nat) :
    host.Performs (.beginResourceUpload mediaType name expectedSize)
      (host.beginResourceUpload env mediaType name expectedSize) := by
  refine .withHostAccess fun owner howner => ?_
  split
  · exact .refused _
  · split
    · exact .refused _
    · split
      · exact .refused _
      · next uploads hallocated =>
          exact .userResourceUploadBegun _ uploads rfl (isSome_executionOwner howner) hallocated

/-- A chunk is added to the entry of the upload. -/
theorem performs_appendResourceUpload (handle : Nat) (bytes : List UInt8) :
    host.Performs (.appendResourceUpload handle bytes)
      (host.appendResourceUpload env handle bytes) := by
  refine .withHostAccess fun owner howner => ?_
  split
  · exact .refused _
  · split
    · exact .refused _
    · split
      · exact .refused _
      · exact .userResourceUploadAppended handle bytes (isSome_executionOwner howner)

/-- A finished upload is taken out of the table before it is imported. -/
theorem performs_finishResourceUpload (handle : Nat) :
    host.Performs (.finishResourceUpload handle) (host.finishResourceUpload env handle) := by
  refine .withHostAccess fun owner howner => ?_
  split
  · exact .refused _
  · split
    · exact .userResourceUploadRemoved handle (isSome_executionOwner howner) fun _ _ => rfl
    · exact .refused _

/-- A cancelled upload is taken out of the table. -/
theorem performs_cancelResourceUpload (handle : Nat) :
    host.Performs (.cancelResourceUpload handle) (host.cancelResourceUpload env handle) := by
  refine .withHostAccess fun owner howner => ?_
  split
  · exact .refused _
  · exact .userResourceUploadRemoved handle (isSome_executionOwner howner) fun _ _ => rfl

/-- A resource is read through the host. -/
theorem performs_readResource (reference : Option String) (maximumBytes : Nat) :
    host.Performs (.readResource reference maximumBytes)
      (host.readResource env reference maximumBytes) := by
  refine .withHostAccess fun owner howner => ?_
  split
  · exact .refused _
  · split
    · exact .refused _
    · exact .forward howner rfl

/-- A resource is released through the host. -/
theorem performs_releaseResource (reference : Option String) :
    host.Performs (.releaseResource reference) (host.releaseResource env reference) := by
  refine .withHostAccess fun owner howner => ?_
  split
  · exact .refused _
  · exact .forward howner rfl

/-- A write is counted before it is passed on. -/
theorem performs_consumeUserContentWrite {call : CapabilityCall} {request : HostRequest}
    (howner : host.executionOwner = some owner) (hallocates : call.allocates = none) :
    host.Performs call (host.consumeUserContentWriteBudget fun counted =>
      counted.forward env request) := by
  unfold consumeUserContentWriteBudget
  split
  · exact .refused _
  · exact .counted _ (isSome_executionOwner howner) fun _ _ => hallocates

/-- A command is counted before it is passed on. -/
theorem performs_submitCommand (messageBytes : Nat) (request : String) :
    host.Performs (.submitCommand messageBytes request)
      (host.submitCommand env messageBytes request) := by
  refine .withHostAccess fun owner howner => ?_
  have hexecutes := isSome_executionOwner howner
  unfold consumeWorldCommandSubmissionBudget
  split
  · exact .refused _
  · unfold WasmHostState.within
    split
    · exact .counted _ hexecutes fun _ _ => rfl
    · exact .counted _ hexecutes fun _ _ => rfl

/-- A read is counted before it is passed on. -/
theorem performs_requestRead (messageBytes : Nat) (request : String) :
    host.Performs (.requestRead messageBytes request)
      (host.requestRead env messageBytes request) := by
  refine .withHostAccess fun owner howner => .within ?_
  unfold consumeWorldProjectionReadBudget
  split
  · exact .refused _
  · exact .counted _ (isSome_executionOwner howner) fun _ _ => rfl

/-- An execution target waits for the end of the callback. -/
theorem performs_registerTarget (target : String) :
    host.Performs (.registerTarget target) (host.registerTarget target) := by
  refine .whileOn fun hactive => ?_
  split
  · exact .refused _
  · split
    · exact .refused _
    · split
      · exact .refused _
      · exact .targetQueued target hactive

/-- A source that is dropped is borrowed no longer. -/
theorem performs_sourceDrop (source : Nat) :
    host.Performs (.sourceDrop source) (host.sourceDrop source) := by
  unfold sourceDrop withSource
  split
  · next hborrowed => exact .droppedSource source hborrowed
  · exact .refused _

/-- The current context is asked for with the scope of the component. -/
theorem performs_currentContext : host.Performs .currentContext (host.currentContext env) := by
  refine .asOwner fun owner howner => ?_
  split
  · exact .refused _
  · exact .forward howner rfl

/-- A secret is read for the component that is executed. -/
theorem performs_readSecret (path : Option SecretPath) :
    host.Performs (.readSecret path) (host.readSecret env path) := by
  refine .whileOn fun _ => .asOwner fun owner howner => ?_
  split
  · exact .refused _
  · exact .forward howner rfl

/-- A preferred provider is set by the host. -/
theorem performs_setPreferredProvider (scopeId contractId : String) (contractVersion : Nat)
    (instanceId componentId : String) :
    host.Performs
      (.setPreferredProvider scopeId contractId contractVersion instanceId componentId)
      (host.setPreferredProvider env scopeId contractId contractVersion instanceId
        componentId) := by
  refine .withHostAccess fun owner howner => ?_
  split
  · exact .refused _
  · exact .forward howner rfl

/-- A preferred provider is cleared by the host. -/
theorem performs_clearPreferredProvider (scopeId contractId : String) (contractVersion : Nat) :
    host.Performs (.clearPreferredProvider scopeId contractId contractVersion)
      (host.clearPreferredProvider env scopeId contractId contractVersion) := by
  refine .withHostAccess fun owner howner => ?_
  split
  · exact .refused _
  · exact .forward howner rfl

/-- A capability is added to the scope of the registration. -/
theorem performs_registerCapability (name : String) :
    host.Performs (.registerCapability name) (host.registerCapability name) := by
  unfold registerCapability
  exact .inRegistration

/-- A capability is taken out of the scope of the registration. -/
theorem performs_unregisterCapability (name : String) :
    host.Performs (.unregisterCapability name) (host.unregisterCapability name) := by
  unfold unregisterCapability
  exact .inRegistration

/-- Every call is handled in one of the ways. -/
theorem performs (host : WasmHostState) (env : HostEnvironment) (call : CapabilityCall) :
    host.Performs call (host.perform env call) := by
  cases call with
  | registerTarget target => exact performs_registerTarget target
  | sourcePaths source => exact .source rfl
  | sourceResolveComponentEntry source entry => exact .source rfl
  | sourceResolveRelative source baseFile entry =>
      cases baseFile with
      | none => exact .refused _
      | some baseFile => exact .source rfl
  | sourceRead source path =>
      cases path with
      | none => exact .refused _
      | some path => exact .source rfl
  | sourceDrop source => exact performs_sourceDrop source
  | log message => exact .logged message
  | publishEvent topic payload => exact .refused _
  | currentContext => exact performs_currentContext
  | subscribeEvent topic => exact performs_subscribe _
  | unsubscribeEvent handle => exact performs_unsubscribe handle
  | subscribeSignal topic => exact performs_subscribe _
  | unsubscribeSignal handle => exact performs_unsubscribe handle
  | spawnPeriodic intervalMs => exact performs_spawnPeriodic intervalMs
  | cancelTask handle => exact performs_cancelTask handle
  | readSecret path => exact performs_readSecret path
  | defineContract definition => exact .inRegistration
  | provideContract contract requiredSecretRead =>
      cases requiredSecretRead with
      | none => exact .refused _
      | some requirements => exact .inRegistration
  | consumeContract contract required requiredSecretRead =>
      cases requiredSecretRead with
      | none => exact .refused _
      | some requirements => exact .inRegistration
  | registerCapability name => exact performs_registerCapability name
  | unregisterCapability name => exact performs_unregisterCapability name
  | registerWorldSchema messageBytes schema =>
      cases schema with
      | none => exact .within (.refused _)
      | some schema => exact .within .inRegistration
  | callService contract payload => exact .useServices rfl
  | listProviders contract => exact .useServices rfl
  | callProvider provider payload => exact .useServices rfl
  | importRtw bytes => exact .withHostAccess fun _ howner => .within (.forward howner rfl)
  | importAsset bytes mediaType =>
      exact .withHostAccess fun _ howner => .within (.within (.forward howner rfl))
  | beginAssetUpload mediaType expectedSize =>
      exact performs_beginAssetUpload mediaType expectedSize
  | appendAssetUpload handle bytes => exact performs_appendAssetUpload handle bytes
  | finishAssetUpload handle => exact performs_finishAssetUpload handle
  | cancelAssetUpload handle => exact performs_cancelAssetUpload handle
  | importResource bytes mediaType name =>
      exact .withHostAccess fun _ howner => .within (.within (.within (.forward howner rfl)))
  | beginResourceUpload mediaType name expectedSize =>
      exact performs_beginResourceUpload mediaType name expectedSize
  | appendResourceUpload handle bytes => exact performs_appendResourceUpload handle bytes
  | finishResourceUpload handle => exact performs_finishResourceUpload handle
  | cancelResourceUpload handle => exact performs_cancelResourceUpload handle
  | readResource reference maximumBytes => exact performs_readResource reference maximumBytes
  | releaseResource reference => exact performs_releaseResource reference
  | listItems content => exact .withHostAccess fun _ howner => .within (.forward howner rfl)
  | readUserContent id => exact .withHostAccess fun _ howner => .within (.forward howner rfl)
  | requestImport rtw =>
      exact .withHostAccess fun _ howner => .within (performs_consumeUserContentWrite howner rfl)
  | requestReplace id rtw =>
      exact .withHostAccess fun _ howner =>
        .within (.within (performs_consumeUserContentWrite howner rfl))
  | writeStatus operationId =>
      exact .withHostAccess fun _ howner => .within (.forward howner rfl)
  | listWorlds => exact .hostForward rfl
  | createWorld => exact .changeWorldSession rfl
  | setMetadata worldId title description cover => exact .changeWorldSession rfl
  | deleteWorld worldId => exact .changeWorldSession rfl
  | setActive worldId active => exact .changeWorldSession rfl
  | submitCommand messageBytes request => exact performs_submitCommand messageBytes request
  | requestRead messageBytes request => exact performs_requestRead messageBytes request
  | readStatus operationId =>
      exact .withHostAccess fun _ howner => .within (.forward howner rfl)
  | getPreference key => exact .usePreferences rfl
  | setPreference key value => exact .usePreferences rfl
  | deletePreference key => exact .usePreferences rfl
  | inspectArtifact digest => exact .useControlPlane rfl
  | listComponents => exact .useControlPlane rfl
  | grantPolicy scopeId instanceId componentId permission => exact .useControlPlane rfl
  | revokePolicy scopeId instanceId componentId permission => exact .useControlPlane rfl
  | listComponentsInScope scopeId => exact .useControlPlane rfl
  | listActivations => exact .useControlPlane rfl
  | selectArtifact digest enabled => exact .useControlPlane rfl
  | setEnabled subject enabled => exact .useControlPlane rfl
  | setWorldDefault subject worldDefault => exact .useControlPlane rfl
  | removeActivation subject => exact .useControlPlane rfl
  | listActivationsInScope scopeId => exact .useControlPlane rfl
  | selectArtifactInScope scopeId digest enabled => exact .useControlPlane rfl
  | setEnabledInScope scopeId subject enabled => exact .useControlPlane rfl
  | setPreferredProvider scopeId contractId contractVersion instanceId componentId =>
      exact performs_setPreferredProvider scopeId contractId contractVersion instanceId componentId
  | clearPreferredProvider scopeId contractId contractVersion =>
      exact performs_clearPreferredProvider scopeId contractId contractVersion
  | removeActivationInScope scopeId subject => exact .useControlPlane rfl
  | listenLoopback port => exact performs_listenLoopback port
  | connectLoopback port => exact performs_connectLoopback port
  | accept listener => exact performs_accept listener
  | readSocket socket maxBytes => exact performs_readSocket socket maxBytes
  | writeSocket socket data =>
      exact .whileOn fun _ => .asOwner fun _ howner =>
        .within (.withNetworkHandle (.forward howner rfl))
  | closeHandle handle => exact performs_closeHandle handle
  | httpGet url maxBytes => exact .hostForward rfl
  | registerSurface messageBytes surface =>
      cases surface with
      | none => exact .within (.refused _)
      | some surface => exact .within .inRegistration
  | registerLayer messageBytes layer => exact .within .inRegistration
  | registerWorldPresentation messageBytes presentation =>
      cases presentation with
      | none => exact .within (.refused _)
      | some presentation => exact .within .inRegistration
  | mountSurface messageBytes snapshot => exact .changeSurface rfl
  | patchSurface messageBytes batch => exact .changeSurface rfl
  | unmountSurface surfaceId => exact .changeSurface rfl
  | presentationSurfaces => exact .asLayer rfl
  | readPresentedAsset digest => exact .asLayer rfl
  | presentationState => exact .asLayer rfl
  | requestWorldFocus messageBytes worldId => exact .asLayer rfl
  | clearWorldFocus => exact .asLayer rfl
  | dispatchAction messageBytes event => exact .asLayer rfl

/-! ## What no call changes -/

/-- Two stores are of one component, with the same registration and limits. -/
structure SameComponent (host host' : WasmHostState) : Prop where
  budget : host'.budget = host.budget
  componentId : host'.componentId = host.componentId
  extensionId : host'.extensionId = host.extensionId
  instanceId : host'.instanceId = host.instanceId
  scopeId : host'.scopeId = host.scopeId

/-- No call changes which component the store is of. -/
theorem Performs.sameComponent {call : CapabilityCall} {outcome : CallOutcome}
    (h : host.Performs call outcome) : host.SameComponent outcome.state := by
  cases h with
  | _ => exact ⟨rfl, rfl, rfl, rfl, rfl⟩

end WasmHostState

end Rintawa.WasmRuntime
