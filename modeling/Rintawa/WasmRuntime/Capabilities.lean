/-
# Capabilities of a guest

A guest reaches its host through calls. A call is refused, changes the host state or is
passed on to the host; what the host answers is given from outside, for one call at a
time. Arguments that are parsed come parsed, with none for those that do not parse.
-/

import Rintawa.WasmRuntime.State

namespace Rintawa.WasmRuntime

open Rintawa.Lib Rintawa.Sdk Rintawa.ExtensionEngine

/-! ## Calls -/

/-- What a call is refused with. -/
inductive CapabilityError
  | accessNotActive | runtimeNotActive | registrationNotActive | permissionDenied | unavailable
  | messageTooLarge | rejected | limitExceeded
  | invalidTopic | unknownEffect | unknownTask | invalidInterval
  | unknownHandle | wrongKind | invalidPort
  | invalidPath | invalidSecretPattern | invalidWorldSchema | invalidTarget | invalidPayload
  | invalidResource | invalidDigest
  | duplicateContract | duplicateWorldSchema | duplicateSurface | duplicateLayer
  | duplicateWorldPresentation | targetConflict
  | host (reason : String)
  deriving DecidableEq, Repr

/-- What a call returns. -/
inductive CapabilityValue
  | done
  | nothing
  | handle (number : Nat)
  | content (text : String)
  deriving DecidableEq, Repr

/-- The calls of a guest, by interface. -/
inductive CapabilityCall
  -- execution-targets
  | registerTarget (target : String)
  | sourcePaths (source : Nat)
  | sourceResolveComponentEntry (source : Nat) (entry : String)
  | sourceResolveRelative (source : Nat) (baseFile : Option String) (entry : String)
  | sourceRead (source : Nat) (path : Option String)
  | sourceDrop (source : Nat)
  -- host
  | log (message : String)
  | publishEvent (topic : String) (payload : List UInt8)
  -- runtime-context
  | currentContext
  -- runtime-effects
  | subscribeEvent (topic : String)
  | unsubscribeEvent (handle : String)
  | subscribeSignal (topic : String)
  | unsubscribeSignal (handle : String)
  -- runtime-tasks
  | spawnPeriodic (intervalMs : Nat)
  | cancelTask (handle : Nat)
  -- secrets
  | readSecret (path : Option SecretPath)
  -- registration and world-registration
  | defineContract (definition : ContractDefinition)
  | provideContract (contract : ContractKey)
      (requiredSecretRead : Option (List ContractGrantRequirement))
  | consumeContract (contract : ContractKey) (required : Bool)
      (requiredSecretRead : Option (List ContractGrantRequirement))
  | registerCapability (name : String)
  | unregisterCapability (name : String)
  | registerWorldSchema (messageBytes : Nat) (schema : Option WorldSchemaContribution)
  -- services
  | callService (contract : ContractKey) (payload : List UInt8)
  | listProviders (contract : ContractKey)
  | callProvider (provider : Nat) (payload : List UInt8)
  -- artifact-store and asset-store
  | importRtw (bytes : List UInt8)
  | importAsset (bytes : List UInt8) (mediaType : String)
  | beginAssetUpload (mediaType : String) (expectedSize : Nat)
  | appendAssetUpload (handle : Nat) (bytes : List UInt8)
  | finishAssetUpload (handle : Nat)
  | cancelAssetUpload (handle : Nat)
  -- user-resources
  | importResource (bytes : List UInt8) (mediaType : String) (name : Option String)
  | beginResourceUpload (mediaType : String) (name : Option String) (expectedSize : Nat)
  | appendResourceUpload (handle : Nat) (bytes : List UInt8)
  | finishResourceUpload (handle : Nat)
  | cancelResourceUpload (handle : Nat)
  | readResource (reference : Option String) (maximumBytes : Nat)
  | releaseResource (reference : Option String)
  -- user-content
  | listItems (content : Option String)
  | readUserContent (id : String)
  | requestImport (rtw : List UInt8)
  | requestReplace (id : String) (rtw : List UInt8)
  | writeStatus (operationId : String)
  -- world-sessions, world-commands and world-projections
  | listWorlds
  | createWorld
  | setMetadata (worldId title : String) (description : Option String)
      (cover : Option (String × String))
  | deleteWorld (worldId : String)
  | setActive (worldId : String) (active : Bool)
  | submitCommand (messageBytes : Nat) (request : String)
  | requestRead (messageBytes : Nat) (request : String)
  | readStatus (operationId : String)
  -- preferences
  | getPreference (key : String)
  | setPreference (key value : String)
  | deletePreference (key : String)
  -- runtime-policy and scoped-runtime-policy
  | inspectArtifact (digest : String)
  | listComponents
  | grantPolicy (scopeId instanceId componentId permission : String)
  | revokePolicy (scopeId instanceId componentId permission : String)
  | listComponentsInScope (scopeId : String)
  -- composition
  | listActivations
  | selectArtifact (digest : String) (enabled : Option Bool)
  | setEnabled (subject : String) (enabled : Bool)
  | setWorldDefault (subject : String) (worldDefault : Bool)
  | removeActivation (subject : String)
  -- scoped-composition
  | listActivationsInScope (scopeId : String)
  | selectArtifactInScope (scopeId digest : String) (enabled : Option Bool)
  | setEnabledInScope (scopeId subject : String) (enabled : Bool)
  | setPreferredProvider (scopeId contractId : String) (contractVersion : Nat)
      (providerInstanceId providerComponentId : String)
  | clearPreferredProvider (scopeId contractId : String) (contractVersion : Nat)
  | removeActivationInScope (scopeId subject : String)
  -- network and http-fetch
  | listenLoopback (port : Nat)
  | connectLoopback (port : Nat)
  | accept (listener : Nat)
  | readSocket (socket maxBytes : Nat)
  | writeSocket (socket : Nat) (data : List UInt8)
  | closeHandle (handle : Nat)
  | httpGet (url : String) (maxBytes : Nat)
  -- portable-ui and ui-layer
  | registerSurface (messageBytes : Nat) (surface : Option UiSurfaceContribution)
  | registerLayer (messageBytes : Nat) (layer : UiLayerDescriptor)
  | registerWorldPresentation (messageBytes : Nat)
      (presentation : Option WorldPresentationDescriptor)
  | mountSurface (messageBytes : Nat) (snapshot : Option UiSurfaceSnapshot)
  | patchSurface (messageBytes : Nat) (batch : Option UiPatchBatch)
  | unmountSurface (surfaceId : String)
  | presentationSurfaces
  | readPresentedAsset (digest : String)
  | presentationState
  | requestWorldFocus (messageBytes : Nat) (worldId : Option WorldId)
  | clearWorldFocus
  | dispatchAction (messageBytes : Nat) (event : Option UiActionEvent)

/-- A call as it is passed on: with the component and the runtime scope that the host
state adds, where it adds them. -/
structure HostRequest where
  call : CapabilityCall
  owner : Option ComponentRef
  scopeId : Option RuntimeScopeId

/-- What the host says while one call is handled: the time, the runtime permissions, which
a poisoned lock hides, the scope in which an instance is registered and the answers to
what is passed on. -/
structure HostEnvironment where
  now : Nat
  hasGrant : ComponentRef → RuntimePermission → Except Unit Bool
  componentScopeId : ComponentRef → Option RuntimeScopeId
  answer : HostRequest → Except CapabilityError CapabilityValue

/-- What a call leads to: another host state, what was passed on, and the result. -/
structure CallOutcome where
  state : WasmHostState
  requests : List HostRequest
  result : Except CapabilityError CapabilityValue

namespace WasmHostState

variable (state : WasmHostState) (env : HostEnvironment)

/-- A call that is refused does nothing. -/
def refuse (error : CapabilityError) : CallOutcome :=
  ⟨state, [], .error error⟩

/-- A call that is passed on. -/
def forward (request : HostRequest) : CallOutcome :=
  ⟨state, [request], env.answer request⟩

/-- Go on within a limit. -/
def within (bytes limit : Nat) (error : CapabilityError) (next : CallOutcome) : CallOutcome :=
  if limit < bytes then state.refuse error else next

/-- Go on while a switch is on. -/
def whileOn (active : Bool) (error : CapabilityError) (next : CallOutcome) : CallOutcome :=
  if active then next else state.refuse error

/-- Go on for the component that is executed. -/
def asOwner (error : CapabilityError) (next : ComponentRef → CallOutcome) : CallOutcome :=
  match state.executionOwner with
  | none => state.refuse error
  | some owner => next owner

/-- Go on for the component that is executed when it has a permission. -/
def asPermitted (permission : RuntimePermission) (next : ComponentRef → CallOutcome) :
    CallOutcome :=
  state.asOwner .permissionDenied fun owner =>
    match env.hasGrant owner permission with
    | .error () => state.refuse .unavailable
    | .ok false => state.refuse .permissionDenied
    | .ok true => next owner

/-- Go on for the component that is executed when it has host access and a permission. -/
def withHostAccess (permission : RuntimePermission) (next : ComponentRef → CallOutcome) :
    CallOutcome :=
  state.whileOn state.hostAccessActive .accessNotActive (state.asPermitted env permission next)

/-! ## Execution targets and artifact sources -/

/-- Ask for an execution target to be published once the start callback has succeeded. -/
def registerTarget (target : String) : CallOutcome :=
  state.whileOn state.executionTargetRegistrationActive .runtimeNotActive <|
    match validateComponentTarget target with
    | .error _ => state.refuse .invalidTarget
    | .ok () =>
        if target = wasmComponentTargetV1 then state.refuse .invalidTarget
        else if target ∈ state.pendingExecutionTargets then state.refuse .targetConflict
        else
          ⟨{ state with pendingExecutionTargets := state.pendingExecutionTargets ++ [target] }, [],
            .ok .done⟩

/-- Use a source of an artifact that the guest has. -/
def withSource (source : Nat) (next : CallOutcome) : CallOutcome :=
  if source ∈ state.resourceTable then next else state.refuse .unavailable

/-- List the paths of a borrowed source. -/
def sourcePaths (source : Nat) : CallOutcome :=
  state.withSource source (state.forward env ⟨.sourcePaths source, none, none⟩)

/-- Find the entry of a component in a source. -/
def sourceResolveComponentEntry (source : Nat) (entry : String) : CallOutcome :=
  state.withSource source
    (state.forward env ⟨.sourceResolveComponentEntry source entry, none, none⟩)

/-- Find a path relative to another one in a source. -/
def sourceResolveRelative (source : Nat) (baseFile : Option String) (entry : String) :
    CallOutcome :=
  match baseFile with
  | none => state.refuse .invalidPath
  | some baseFile =>
      state.withSource source
        (state.forward env ⟨.sourceResolveRelative source (some baseFile) entry, none, none⟩)

/-- Read a file of a source. -/
def sourceRead (source : Nat) (path : Option String) : CallOutcome :=
  match path with
  | none => state.refuse .invalidPath
  | some path =>
      state.withSource source (state.forward env ⟨.sourceRead source (some path), none, none⟩)

/-- Give a source back. -/
def sourceDrop (source : Nat) : CallOutcome :=
  state.withSource source
    ⟨{ state with resourceTable := state.resourceTable.erase source }, [], .ok .done⟩

/-! ## Logging, events and context -/

/-- A line for the log. No switch guards it. -/
def log (message : String) : CallOutcome :=
  ⟨state, [⟨.log message, none, none⟩], .ok .done⟩

/-- Publishing events is not there. -/
def publishEvent : CallOutcome :=
  state.refuse .unavailable

/-- The scope of the component that is executed, and its world. -/
def currentContext : CallOutcome :=
  state.asOwner .accessNotActive fun owner =>
    match env.componentScopeId owner with
    | none => state.refuse .rejected
    | some scopeId => state.forward env ⟨.currentContext, none, some scopeId⟩

/-! ## Runtime effects -/

/-- The handle of an effect by its number. -/
def effectHandle (number : Nat) : String :=
  "effect-" ++ toString number

/-- Ask for an effect. Its handle is a new one. -/
def subscribeRuntimeEffect (effect : RuntimeEffect) : CallOutcome :=
  state.whileOn state.runtimeEffectsActive .runtimeNotActive <|
    if isBlank effect.topic then state.refuse .invalidTopic
    else
      state.asOwner .runtimeNotActive fun owner =>
        if state.nextEffectHandle + 1 < counterLimit then
          let handle := effectHandle state.nextEffectHandle
          ⟨{ state with
              nextEffectHandle := state.nextEffectHandle + 1
              pendingEffects := state.pendingEffects ++ [.subscribe owner handle effect] }, [],
            .ok (.content handle)⟩
        else state.refuse .runtimeNotActive

/-- Whether an operation asks for the effect of a handle. -/
def WasmRuntimeEffectOperation.subscribes (handle : String) : WasmRuntimeEffectOperation → Bool
  | .subscribe _ pending _ => pending == handle
  | .unsubscribe _ _ => false

/-- Give an effect up: one that was only asked for in this callback, or an own one. -/
def unsubscribeRuntimeEffect (handle : String) : CallOutcome :=
  state.whileOn state.runtimeEffectsActive .runtimeNotActive <|
    if state.pendingEffects.any (WasmRuntimeEffectOperation.subscribes handle) then
      ⟨{ state with
          pendingEffects :=
            state.pendingEffects.eraseP (WasmRuntimeEffectOperation.subscribes handle) }, [],
        .ok .done⟩
    else if handle ∈ state.pendingRevocations then state.refuse .unknownEffect
    else
      match state.effectHandles.lookup handle with
      | none => state.refuse .unknownEffect
      | some effect =>
          if state.executionOwner = some effect.owner then
            ⟨{ state with
                pendingRevocations := insert handle state.pendingRevocations
                pendingEffects := state.pendingEffects ++ [.unsubscribe handle effect] }, [],
              .ok .done⟩
          else state.refuse .unknownEffect

/-- Subscribe to an event. -/
def subscribeEvent (topic : String) : CallOutcome :=
  state.subscribeRuntimeEffect (.eventSubscription topic)

/-- End the subscription to an event. -/
def unsubscribeEvent (handle : String) : CallOutcome :=
  state.unsubscribeRuntimeEffect handle

/-- Subscribe to a signal. -/
def subscribeSignal (topic : String) : CallOutcome :=
  state.subscribeRuntimeEffect (.signalSubscription topic)

/-- End the subscription to a signal. -/
def unsubscribeSignal (handle : String) : CallOutcome :=
  state.unsubscribeRuntimeEffect handle

/-! ## Tasks -/

/-- How many entries of a table a component owns. -/
def ownedCount {number : Nat → Nat} {V : Type} (table : HandleTable number V)
    (ownerOf : V → ComponentRef) (owner : ComponentRef) : Nat :=
  (table.entries.values.filter fun value => ownerOf value == owner).length

/-- Schedule a periodic task. -/
def spawnPeriodic (intervalMs : Nat) : CallOutcome :=
  state.whileOn state.taskAccessActive .runtimeNotActive <|
    state.whileOn state.taskHandlerAvailable .unavailable <|
      state.asPermitted env .backgroundTask fun owner =>
        if intervalMs < state.budget.minBackgroundTaskIntervalMs ∨ intervalMs = 0 then
          state.refuse .invalidInterval
        else if state.budget.maxBackgroundTasks ≤
            ownedCount state.activeTasks ActiveWasmTask.owner owner then
          state.refuse .limitExceeded
        else
          match state.activeTasks.allocate counterLimit
              ⟨owner, intervalMs, env.now + intervalMs⟩ with
          | none => state.refuse .unavailable
          | some tasks =>
              ⟨{ state with activeTasks := tasks }, [], .ok (.handle state.activeTasks.next)⟩

/-- Cancel an own task. -/
def cancelTask (handle : Nat) : CallOutcome :=
  state.whileOn state.taskAccessActive .runtimeNotActive <|
    state.asPermitted env .backgroundTask fun owner =>
      match state.activeTasks.lookup handle with
      | none => state.refuse .unknownTask
      | some task =>
          if task.owner = owner then
            ⟨{ state with activeTasks := state.activeTasks.remove handle }, [], .ok .done⟩
          else state.refuse .unknownTask

/-! ## Secrets and services -/

/-- Read a secret as the component that is executed. -/
def readSecret (path : Option SecretPath) : CallOutcome :=
  state.whileOn state.secretAccessActive .accessNotActive <|
    state.asOwner .accessNotActive fun owner =>
      match path with
      | none => state.refuse .invalidPath
      | some path => state.forward env ⟨.readSecret (some path), some owner, none⟩

/-- Use services as the component that is executed. -/
def useServices (call : CapabilityCall) : CallOutcome :=
  state.whileOn state.serviceAccessActive .unavailable <|
    state.asOwner .unavailable fun owner => state.forward env ⟨call, some owner, none⟩

/-- Call the service that a contract is bound to. -/
def callService (contract : ContractKey) (payload : List UInt8) : CallOutcome :=
  state.useServices env (.callService contract payload)

/-- List the providers of a contract. -/
def listProviders (contract : ContractKey) : CallOutcome :=
  state.useServices env (.listProviders contract)

/-- Call a provider by its handle. -/
def callProvider (provider : Nat) (payload : List UInt8) : CallOutcome :=
  state.useServices env (.callProvider provider payload)

end WasmHostState

end Rintawa.WasmRuntime
