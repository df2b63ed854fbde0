/-
# Access to the host

The capabilities that register, upload, talk to the network or reach the control plane
of the host, and the dispatch of all calls.
-/

import Mathlib.Algebra.GroupWithZero.Nat
import Rintawa.WasmRuntime.Capabilities

namespace Rintawa.WasmRuntime

open Rintawa.Lib Rintawa.Sdk Rintawa.ExtensionEngine

namespace WasmHostState

variable (state : WasmHostState) (env : HostEnvironment)

/-! ## Registration -/

/-- Change the registration that is open. -/
def inRegistration (next : WasmRegistrationScope → Except CapabilityError WasmRegistrationScope) :
    CallOutcome :=
  match state.registrationScope with
  | none => state.refuse .registrationNotActive
  | some scope =>
      match next scope with
      | .error error => state.refuse error
      | .ok scope => ⟨{ state with registrationScope := some scope }, [], .ok .done⟩

/-- Append an entry whose key is not there yet. -/
def appendNew {V K : Type} [BEq K] (key : V → K) (error : CapabilityError) (entries : List V)
    (value : V) : Except CapabilityError (List V) :=
  if entries.any fun entry => key entry == key value then .error error
  else .ok (entries ++ [value])

/-- Define a contract in the registration. -/
def defineContract (definition : ContractDefinition) : CallOutcome :=
  state.inRegistration fun scope =>
    (appendNew ContractDefinition.contract .duplicateContract scope.definitions definition).map
      fun definitions => { scope with definitions := definitions }

/-- Provide a contract in the registration. -/
def provideContract (contract : ContractKey)
    (requiredSecretRead : Option (List ContractGrantRequirement)) : CallOutcome :=
  match requiredSecretRead with
  | none => state.refuse .invalidSecretPattern
  | some requirements =>
      state.inRegistration fun scope =>
        (appendNew ContractProvider.contract .duplicateContract scope.providers
          ⟨contract, requirements⟩).map fun providers => { scope with providers := providers }

/-- Consume a contract in the registration. -/
def consumeContract (contract : ContractKey) (required : Bool)
    (requiredSecretRead : Option (List ContractGrantRequirement)) : CallOutcome :=
  match requiredSecretRead with
  | none => state.refuse .invalidSecretPattern
  | some requirements =>
      state.inRegistration fun scope =>
        (appendNew ContractConsumer.contract .duplicateContract scope.consumers
          ⟨contract, required, requirements⟩).map fun consumers =>
            { scope with consumers := consumers }

/-- Register a capability. A repetition changes nothing. -/
def registerCapability (name : String) : CallOutcome :=
  state.inRegistration fun scope =>
    .ok (if name ∈ scope.capabilities then scope
      else { scope with capabilities := scope.capabilities ++ [name] })

/-- Take a capability back out of the registration. -/
def unregisterCapability (name : String) : CallOutcome :=
  state.inRegistration fun scope =>
    .ok { scope with capabilities := scope.capabilities.filter fun other => other != name }

/-- Contribute a schema to worlds. -/
def registerWorldSchema (messageBytes : Nat) (schema : Option WorldSchemaContribution) :
    CallOutcome :=
  state.within messageBytes state.budget.maxHostMessageBytes .messageTooLarge <|
    match schema with
    | none => state.refuse .invalidWorldSchema
    | some schema =>
        state.inRegistration fun scope =>
          (appendNew WorldSchemaContribution.key .duplicateWorldSchema scope.worldSchemas
            schema).map fun schemas => { scope with worldSchemas := schemas }

/-- Contribute a surface. -/
def registerSurface (messageBytes : Nat) (surface : Option UiSurfaceContribution) : CallOutcome :=
  state.within messageBytes state.budget.maxHostMessageBytes .messageTooLarge <|
    match surface with
    | none => state.refuse .invalidPayload
    | some surface =>
        state.inRegistration fun scope =>
          (appendNew UiSurfaceContribution.id .duplicateSurface scope.uiSurfaces surface).map
            fun surfaces => { scope with uiSurfaces := surfaces }

/-- Contribute a layer. -/
def registerLayer (messageBytes : Nat) (layer : UiLayerDescriptor) : CallOutcome :=
  state.within messageBytes state.budget.maxHostMessageBytes .messageTooLarge <|
    state.inRegistration fun scope =>
      if scope.uiLayer.isSome then .error .duplicateLayer
      else .ok { scope with uiLayer := some layer }

/-- Contribute the presentation of a world. -/
def registerWorldPresentation (messageBytes : Nat)
    (presentation : Option WorldPresentationDescriptor) : CallOutcome :=
  state.within messageBytes state.budget.maxHostMessageBytes .messageTooLarge <|
    match presentation with
    | none => state.refuse .invalidPayload
    | some presentation =>
        state.inRegistration fun scope =>
          if scope.worldPresentation.isSome then .error .duplicateWorldPresentation
          else .ok { scope with worldPresentation := some presentation }

/-! ## Artifacts, assets and resources -/

/-- Import an artifact. -/
def importRtw (bytes : List UInt8) : CallOutcome :=
  state.withHostAccess env .artifactImport fun _ =>
    state.within bytes.length state.budget.maxArtifactImportBytes .messageTooLarge
      (state.forward env ⟨.importRtw bytes, none, none⟩)

/-- Go on with access to the assets of the host. -/
def requireAssetImportAccess (next : CallOutcome) : CallOutcome :=
  state.withHostAccess env .assetImport fun _ => next

/-- Import an asset at once. -/
def importAsset (bytes : List UInt8) (mediaType : String) : CallOutcome :=
  state.requireAssetImportAccess env <|
    state.within bytes.length state.budget.maxAssetImportBytes .messageTooLarge <|
      state.within mediaType.utf8ByteSize state.budget.maxHostMessageBytes .messageTooLarge
        (state.forward env ⟨.importAsset bytes mediaType, none, none⟩)

/-- The bytes that uploads have reserved. -/
def reservedBytes {V : Type} (uploads : HandleTable Nat.succ V) (expectedSize : V → Nat) : Nat :=
  (uploads.entries.values.map expectedSize).sum

/-- Reserve the bytes of an asset. -/
def beginAssetUpload (mediaType : String) (expectedSize : Nat) : CallOutcome :=
  state.requireAssetImportAccess env <|
    if expectedSize = 0 ∨ state.budget.maxAssetImportBytes < expectedSize ∨
        mediaType.utf8ByteSize = 0 ∨
        state.budget.maxHostMessageBytes < mediaType.utf8ByteSize then
      state.refuse .messageTooLarge
    else if state.budget.maxAssetImportBytes <
        reservedBytes state.assetUploads PendingAssetUpload.expectedSize + expectedSize then
      state.refuse .rejected
    else
      match state.assetUploads.allocate counterLimit ⟨expectedSize, mediaType, []⟩ with
      | none => state.refuse .rejected
      | some uploads =>
          ⟨{ state with assetUploads := uploads }, [], .ok (.handle state.assetUploads.next)⟩

/-- Append a chunk to an upload of an asset. -/
def appendAssetUpload (handle : Nat) (bytes : List UInt8) : CallOutcome :=
  state.requireAssetImportAccess env <|
    if bytes = [] ∨ state.budget.maxHostMessageBytes < bytes.length then
      state.refuse .messageTooLarge
    else
      match state.assetUploads.lookup handle with
      | none => state.refuse .rejected
      | some upload =>
          if upload.expectedSize < upload.bytes.length + bytes.length then
            state.refuse .messageTooLarge
          else
            ⟨{ state with
                assetUploads := state.assetUploads.modify handle fun upload =>
                  { upload with bytes := upload.bytes ++ bytes } }, [], .ok .done⟩

/-- Import an asset whose bytes are all there. -/
def finishAssetUpload (handle : Nat) : CallOutcome :=
  state.requireAssetImportAccess env <|
    match state.assetUploads.lookup handle with
    | none => state.refuse .rejected
    | some upload =>
        if upload.bytes.length = upload.expectedSize then
          forward { state with assetUploads := state.assetUploads.remove handle } env
            ⟨.importAsset upload.bytes upload.mediaType, none, none⟩
        else state.refuse .rejected

/-- Give an upload of an asset up. -/
def cancelAssetUpload (handle : Nat) : CallOutcome :=
  state.requireAssetImportAccess env <|
    match state.assetUploads.lookup handle with
    | none => state.refuse .rejected
    | some _ =>
        ⟨{ state with assetUploads := state.assetUploads.remove handle }, [], .ok .done⟩

/-- Go on with access to the user resources of the host. -/
def requireUserResourceImportAccess (next : CallOutcome) : CallOutcome :=
  state.withHostAccess env .userResourceImport fun _ => next

/-- The bytes of an optional text. -/
def optionBytes (text : Option String) : Nat :=
  (text.map String.utf8ByteSize).getD 0

/-- Import a resource at once. -/
def importResource (bytes : List UInt8) (mediaType : String) (name : Option String) :
    CallOutcome :=
  state.requireUserResourceImportAccess env <|
    state.within bytes.length state.budget.maxArtifactImportBytes .messageTooLarge <|
      state.within mediaType.utf8ByteSize state.budget.maxHostMessageBytes .messageTooLarge <|
        state.within (optionBytes name) state.budget.maxHostMessageBytes .messageTooLarge
          (state.forward env ⟨.importResource bytes mediaType name, none, none⟩)

/-- Reserve the bytes of a user resource. -/
def beginResourceUpload (mediaType : String) (name : Option String) (expectedSize : Nat) :
    CallOutcome :=
  state.requireUserResourceImportAccess env <|
    if expectedSize = 0 ∨ state.budget.maxArtifactImportBytes < expectedSize ∨
        mediaType.utf8ByteSize = 0 ∨
        state.budget.maxHostMessageBytes < mediaType.utf8ByteSize ∨ name = some "" ∨
        state.budget.maxHostMessageBytes < optionBytes name then
      state.refuse .messageTooLarge
    else if state.budget.maxArtifactImportBytes <
        reservedBytes state.userResourceUploads PendingUserResourceUpload.expectedSize +
          expectedSize then
      state.refuse .rejected
    else
      match state.userResourceUploads.allocate counterLimit ⟨expectedSize, mediaType, name, []⟩
        with
      | none => state.refuse .rejected
      | some uploads =>
          ⟨{ state with userResourceUploads := uploads }, [],
            .ok (.handle state.userResourceUploads.next)⟩

/-- Append a chunk to an upload of a resource. -/
def appendResourceUpload (handle : Nat) (bytes : List UInt8) : CallOutcome :=
  state.requireUserResourceImportAccess env <|
    if bytes = [] ∨ state.budget.maxHostMessageBytes < bytes.length then
      state.refuse .messageTooLarge
    else
      match state.userResourceUploads.lookup handle with
      | none => state.refuse .rejected
      | some upload =>
          if upload.expectedSize < upload.bytes.length + bytes.length then
            state.refuse .messageTooLarge
          else
            ⟨{ state with
                userResourceUploads := state.userResourceUploads.modify handle fun upload =>
                  { upload with bytes := upload.bytes ++ bytes } }, [], .ok .done⟩

/-- Import a user resource whose bytes are all there. -/
def finishResourceUpload (handle : Nat) : CallOutcome :=
  state.requireUserResourceImportAccess env <|
    match state.userResourceUploads.lookup handle with
    | none => state.refuse .rejected
    | some upload =>
        if upload.bytes.length = upload.expectedSize then
          forward { state with userResourceUploads := state.userResourceUploads.remove handle }
            env ⟨.importResource upload.bytes upload.mediaType upload.name, none, none⟩
        else state.refuse .rejected

/-- Give an upload of a resource up. -/
def cancelResourceUpload (handle : Nat) : CallOutcome :=
  state.requireUserResourceImportAccess env <|
    match state.userResourceUploads.lookup handle with
    | none => state.refuse .rejected
    | some _ =>
        ⟨{ state with userResourceUploads := state.userResourceUploads.remove handle }, [],
          .ok .done⟩

/-- Read a resource up to a number of bytes. -/
def readResource (reference : Option String) (maximumBytes : Nat) : CallOutcome :=
  state.withHostAccess env .userResourceRead fun _ =>
    if maximumBytes = 0 ∨ state.budget.maxArtifactImportBytes < maximumBytes then
      state.refuse .messageTooLarge
    else
      match reference with
      | none => state.refuse .invalidResource
      | some reference =>
          state.forward env ⟨.readResource (some reference) maximumBytes, none, none⟩

/-- Release a resource. -/
def releaseResource (reference : Option String) : CallOutcome :=
  state.withHostAccess env .userResourceRead fun _ =>
    match reference with
    | none => state.refuse .invalidResource
    | some reference => state.forward env ⟨.releaseResource (some reference), none, none⟩

/-! ## User content -/

/-- List the items, or those of one kind of content. -/
def listItems (content : Option String) : CallOutcome :=
  state.withHostAccess env .userContentRead fun _ =>
    state.within (optionBytes content) state.budget.maxHostMessageBytes .messageTooLarge
      (state.forward env ⟨.listItems content, none, none⟩)

/-- Read an item. -/
def readUserContent (id : String) : CallOutcome :=
  state.withHostAccess env .userContentRead fun _ =>
    state.within id.utf8ByteSize state.budget.maxHostMessageBytes .messageTooLarge
      (state.forward env ⟨.readUserContent id, none, none⟩)

/-- Count a write of user content, up to the limit. -/
def consumeUserContentWriteBudget (next : WasmHostState → CallOutcome) : CallOutcome :=
  if state.budget.maxUserContentWritesPerExecution ≤ state.userContentWritesThisExecution then
    state.refuse .limitExceeded
  else
    next { state with
      userContentWritesThisExecution := state.userContentWritesThisExecution + 1 }

/-- Ask for the import of an item. -/
def requestImport (rtw : List UInt8) : CallOutcome :=
  state.withHostAccess env .userContentWrite fun owner =>
    state.within rtw.length state.budget.maxArtifactImportBytes .messageTooLarge <|
      state.consumeUserContentWriteBudget fun counted =>
        counted.forward env ⟨.requestImport rtw, some owner, none⟩

/-- Ask for the replacement of an item. -/
def requestReplace (id : String) (rtw : List UInt8) : CallOutcome :=
  state.withHostAccess env .userContentWrite fun owner =>
    state.within id.utf8ByteSize state.budget.maxHostMessageBytes .messageTooLarge <|
      state.within rtw.length state.budget.maxArtifactImportBytes .messageTooLarge <|
        state.consumeUserContentWriteBudget fun counted =>
          counted.forward env ⟨.requestReplace id rtw, some owner, none⟩

/-- Ask how a write has gone. -/
def writeStatus (operationId : String) : CallOutcome :=
  state.withHostAccess env .userContentWrite fun owner =>
    state.within operationId.utf8ByteSize state.budget.maxHostMessageBytes .messageTooLarge
      (state.forward env ⟨.writeStatus operationId, some owner, none⟩)

/-! ## Worlds -/

/-- List the worlds. -/
def listWorlds : CallOutcome :=
  state.withHostAccess env .worldSessionRead fun _ => state.forward env ⟨.listWorlds, none, none⟩

/-- Count a change of a world session, up to the limit. -/
def consumeWorldSessionMutationBudget (next : WasmHostState → CallOutcome) : CallOutcome :=
  if state.budget.maxWorldSessionMutationsPerExecution ≤
      state.worldSessionMutationsThisExecution then
    state.refuse .limitExceeded
  else
    next { state with
      worldSessionMutationsThisExecution := state.worldSessionMutationsThisExecution + 1 }

/-- Change a world session. A call that is too large is counted, too. -/
def changeWorldSession (messageBytes : List Nat) (call : CapabilityCall) : CallOutcome :=
  state.withHostAccess env .worldSessionWrite fun _ =>
    state.consumeWorldSessionMutationBudget fun counted =>
      if messageBytes.any fun bytes => decide (state.budget.maxHostMessageBytes < bytes) then
        counted.refuse .messageTooLarge
      else counted.forward env ⟨call, none, none⟩

/-- Create a world. -/
def createWorld : CallOutcome :=
  state.changeWorldSession env [] .createWorld

/-- Set what is shown of a world. -/
def setMetadata (worldId title : String) (description : Option String)
    (cover : Option (String × String)) : CallOutcome :=
  state.changeWorldSession env
    [worldId.utf8ByteSize, title.utf8ByteSize, optionBytes description,
      (cover.map fun cover => cover.1.utf8ByteSize + cover.2.utf8ByteSize).getD 0]
    (.setMetadata worldId title description cover)

/-- Delete a world. -/
def deleteWorld (worldId : String) : CallOutcome :=
  state.changeWorldSession env [worldId.utf8ByteSize] (.deleteWorld worldId)

/-- Activate a world, or end it. -/
def setActive (worldId : String) (active : Bool) : CallOutcome :=
  state.changeWorldSession env [worldId.utf8ByteSize] (.setActive worldId active)

/-- Count a command for a world, up to the limit. -/
def consumeWorldCommandSubmissionBudget (next : WasmHostState → CallOutcome) : CallOutcome :=
  if state.budget.maxWorldCommandSubmissionsPerExecution ≤
      state.worldCommandSubmissionsThisExecution then
    state.refuse .limitExceeded
  else
    next { state with
      worldCommandSubmissionsThisExecution := state.worldCommandSubmissionsThisExecution + 1 }

/-- Submit a command to a world. -/
def submitCommand (messageBytes : Nat) (request : String) : CallOutcome :=
  state.withHostAccess env .worldCommandSubmit fun _ =>
    state.consumeWorldCommandSubmissionBudget fun counted =>
      counted.within messageBytes state.budget.maxHostMessageBytes .messageTooLarge
        (counted.forward env ⟨.submitCommand messageBytes request, none, none⟩)

/-- Count a read of a projection, up to the limit. -/
def consumeWorldProjectionReadBudget (next : WasmHostState → CallOutcome) : CallOutcome :=
  if state.budget.maxWorldProjectionReadsPerExecution ≤
      state.worldProjectionReadsThisExecution then
    state.refuse .limitExceeded
  else
    next { state with
      worldProjectionReadsThisExecution := state.worldProjectionReadsThisExecution + 1 }

/-- Ask for a read of a projection. -/
def requestRead (messageBytes : Nat) (request : String) : CallOutcome :=
  state.withHostAccess env .worldProjectionRead fun owner =>
    state.within messageBytes state.budget.maxHostMessageBytes .messageTooLarge <|
      state.consumeWorldProjectionReadBudget fun counted =>
        counted.forward env ⟨.requestRead messageBytes request, some owner, none⟩

/-- Ask how a read has gone. -/
def readStatus (operationId : String) : CallOutcome :=
  state.withHostAccess env .worldProjectionRead fun owner =>
    state.within operationId.utf8ByteSize state.budget.maxHostMessageBytes .messageTooLarge
      (state.forward env ⟨.readStatus operationId, some owner, none⟩)

/-! ## Preferences -/

/-- The scope and the component whose preferences are used. The scope is the one that the
component of the store was registered in. -/
def preferenceOwner (next : RuntimeScopeId → ComponentRef → CallOutcome) : CallOutcome :=
  state.whileOn state.hostAccessActive .accessNotActive <|
    match state.scopeId with
    | none => state.refuse .accessNotActive
    | some scopeId => state.asOwner .accessNotActive fun owner => next scopeId owner

/-- Use the preferences of the component that is executed. -/
def usePreferences (messageBytes : Nat) (call : CapabilityCall) : CallOutcome :=
  state.preferenceOwner fun scopeId owner =>
    state.within messageBytes state.budget.maxHostMessageBytes .messageTooLarge
      (state.forward env ⟨call, some owner, some scopeId⟩)

/-- Read a preference. -/
def getPreference (key : String) : CallOutcome :=
  state.usePreferences env key.utf8ByteSize (.getPreference key)

/-- Set a preference. -/
def setPreference (key value : String) : CallOutcome :=
  state.usePreferences env (key.utf8ByteSize + value.utf8ByteSize) (.setPreference key value)

/-- Delete a preference. -/
def deletePreference (key : String) : CallOutcome :=
  state.usePreferences env key.utf8ByteSize (.deletePreference key)

/-! ## Runtime policy and composition -/

/-- Reach the control plane with a permission and a message of limited size. -/
def useControlPlane (permission : RuntimePermission) (messageBytes : Nat)
    (error : CapabilityError) (call : CapabilityCall) : CallOutcome :=
  state.withHostAccess env permission fun _ =>
    state.within messageBytes state.budget.maxHostMessageBytes error
      (state.forward env ⟨call, none, none⟩)

/-- Look at the policy of an artifact. -/
def inspectArtifact (digest : String) : CallOutcome :=
  state.useControlPlane env .runtimePolicyRead digest.utf8ByteSize .messageTooLarge
    (.inspectArtifact digest)

/-- List the permissions of the components of the baseline. -/
def listComponents : CallOutcome :=
  state.useControlPlane env .runtimePolicyRead 0 .messageTooLarge .listComponents

/-- Grant a permission to a component. -/
def grantPolicy (scopeId instanceId componentId permission : String) : CallOutcome :=
  state.useControlPlane env .runtimePolicyWrite
    (scopeId.utf8ByteSize + instanceId.utf8ByteSize + componentId.utf8ByteSize +
      permission.utf8ByteSize) .messageTooLarge
    (.grantPolicy scopeId instanceId componentId permission)

/-- Take a permission from a component. -/
def revokePolicy (scopeId instanceId componentId permission : String) : CallOutcome :=
  state.useControlPlane env .runtimePolicyWrite
    (scopeId.utf8ByteSize + instanceId.utf8ByteSize + componentId.utf8ByteSize +
      permission.utf8ByteSize) .messageTooLarge
    (.revokePolicy scopeId instanceId componentId permission)

/-- List the permissions of the components of a scope. -/
def listComponentsInScope (scopeId : String) : CallOutcome :=
  state.useControlPlane env .runtimePolicyRead scopeId.utf8ByteSize .messageTooLarge
    (.listComponentsInScope scopeId)

/-- List what the baseline activates. -/
def listActivations : CallOutcome :=
  state.useControlPlane env .compositionRead 0 .rejected .listActivations

/-- Select an imported artifact in the baseline. -/
def selectArtifact (digest : String) (enabled : Option Bool) : CallOutcome :=
  state.useControlPlane env .compositionWrite digest.utf8ByteSize .invalidDigest
    (.selectArtifact digest enabled)

/-- Enable or disable an activation. -/
def setEnabled (subject : String) (enabled : Bool) : CallOutcome :=
  state.useControlPlane env .compositionWrite subject.utf8ByteSize .rejected
    (.setEnabled subject enabled)

/-- Make an activation a default of worlds, or not. -/
def setWorldDefault (subject : String) (worldDefault : Bool) : CallOutcome :=
  state.useControlPlane env .compositionWrite subject.utf8ByteSize .rejected
    (.setWorldDefault subject worldDefault)

/-- Remove an activation. -/
def removeActivation (subject : String) : CallOutcome :=
  state.useControlPlane env .compositionWrite subject.utf8ByteSize .rejected
    (.removeActivation subject)

/-- List what the profile of a scope activates. -/
def listActivationsInScope (scopeId : String) : CallOutcome :=
  state.useControlPlane env .compositionRead scopeId.utf8ByteSize .rejected
    (.listActivationsInScope scopeId)

/-- Select an artifact in the profile of a scope. -/
def selectArtifactInScope (scopeId digest : String) (enabled : Option Bool) : CallOutcome :=
  state.useControlPlane env .compositionWrite (scopeId.utf8ByteSize + digest.utf8ByteSize)
    .rejected (.selectArtifactInScope scopeId digest enabled)

/-- Enable or disable an activation of a scope. -/
def setEnabledInScope (scopeId subject : String) (enabled : Bool) : CallOutcome :=
  state.useControlPlane env .compositionWrite (scopeId.utf8ByteSize + subject.utf8ByteSize)
    .rejected (.setEnabledInScope scopeId subject enabled)

/-- Prefer a provider of a contract in a scope. -/
def setPreferredProvider (scopeId contractId : String) (contractVersion : Nat)
    (providerInstanceId providerComponentId : String) : CallOutcome :=
  state.withHostAccess env .compositionWrite fun _ =>
    if state.budget.maxHostMessageBytes < scopeId.utf8ByteSize + contractId.utf8ByteSize +
        providerInstanceId.utf8ByteSize + providerComponentId.utf8ByteSize ∨
        scopeId = "" ∨ contractId = "" ∨ contractVersion = 0 ∨ providerInstanceId = "" ∨
        providerComponentId = "" then
      state.refuse .rejected
    else
      state.forward env ⟨.setPreferredProvider scopeId contractId contractVersion
        providerInstanceId providerComponentId, none, none⟩

/-- Prefer no provider of a contract in a scope. -/
def clearPreferredProvider (scopeId contractId : String) (contractVersion : Nat) : CallOutcome :=
  state.withHostAccess env .compositionWrite fun _ =>
    if state.budget.maxHostMessageBytes < scopeId.utf8ByteSize + contractId.utf8ByteSize ∨
        scopeId = "" ∨ contractId = "" ∨ contractVersion = 0 then
      state.refuse .rejected
    else
      state.forward env
        ⟨.clearPreferredProvider scopeId contractId contractVersion, none, none⟩

/-- Remove an activation of a scope. -/
def removeActivationInScope (scopeId subject : String) : CallOutcome :=
  state.useControlPlane env .compositionWrite (scopeId.utf8ByteSize + subject.utf8ByteSize)
    .rejected (.removeActivationInScope scopeId subject)

/-! ## Network -/

/-- Keep a socket under a new handle. What was asked of the system before stays asked. -/
def allocateNetworkHandle (owner : ComponentRef) (kind : NetworkHandleKind)
    (requests : List HostRequest) : CallOutcome :=
  if state.budget.maxNetworkHandles ≤
      ownedCount state.networkHandles OwnedNetworkHandle.owner owner then
    ⟨state, requests, .error .limitExceeded⟩
  else
    match state.networkHandles.allocate counterLimit ⟨owner, kind⟩ with
    | none => ⟨state, requests, .error .unavailable⟩
    | some handles =>
        ⟨{ state with networkHandles := handles }, requests,
          .ok (.handle state.networkHandles.next)⟩

/-- Listen on a local port. -/
def listenLoopback (port : Nat) : CallOutcome :=
  state.whileOn state.networkAccessActive .accessNotActive <|
    state.asPermitted env .loopbackListen fun owner =>
      let request : HostRequest := ⟨.listenLoopback port, none, none⟩
      match env.answer request with
      | .error error => ⟨state, [request], .error error⟩
      | .ok _ => state.allocateNetworkHandle owner .listener [request]

/-- Connect to a local port. -/
def connectLoopback (port : Nat) : CallOutcome :=
  state.whileOn state.networkAccessActive .accessNotActive <|
    if port = 0 then state.refuse .invalidPort
    else
      state.asPermitted env .loopbackConnect fun owner =>
        let request : HostRequest := ⟨.connectLoopback port, none, none⟩
        match env.answer request with
        | .error error => ⟨state, [request], .error error⟩
        | .ok _ => state.allocateNetworkHandle owner .stream [request]

/-- Use an own network handle of one kind. -/
def withNetworkHandle (owner : ComponentRef) (handle : Nat) (kind : NetworkHandleKind)
    (next : CallOutcome) : CallOutcome :=
  match state.networkHandles.lookup handle with
  | none => state.refuse .unknownHandle
  | some resource =>
      if resource.owner = owner then
        if resource.kind = kind then next else state.refuse .wrongKind
      else state.refuse .unknownHandle

/-- Accept a connection, if there is one. -/
def accept (listener : Nat) : CallOutcome :=
  state.whileOn state.networkAccessActive .accessNotActive <|
    state.asOwner .permissionDenied fun owner =>
      if state.budget.maxNetworkHandles ≤
          ownedCount state.networkHandles OwnedNetworkHandle.owner owner then
        state.refuse .limitExceeded
      else
        state.withNetworkHandle owner listener .listener <|
          let request : HostRequest := ⟨.accept listener, none, none⟩
          match env.answer request with
          | .error error => ⟨state, [request], .error error⟩
          | .ok .nothing => ⟨state, [request], .ok .nothing⟩
          | .ok _ => state.allocateNetworkHandle owner .stream [request]

/-- Read from a socket of the component. -/
def readSocket (socket maxBytes : Nat) : CallOutcome :=
  state.whileOn state.networkAccessActive .accessNotActive <|
    state.asOwner .permissionDenied fun owner =>
      state.within maxBytes state.budget.maxNetworkIoBytes .messageTooLarge <|
        state.withNetworkHandle owner socket .stream <|
          if maxBytes = 0 then ⟨state, [], .ok .nothing⟩
          else state.forward env ⟨.readSocket socket maxBytes, none, none⟩

/-- Write to a socket of the component. -/
def writeSocket (socket : Nat) (data : List UInt8) : CallOutcome :=
  state.whileOn state.networkAccessActive .accessNotActive <|
    state.asOwner .permissionDenied fun owner =>
      state.within data.length state.budget.maxNetworkIoBytes .messageTooLarge <|
        state.withNetworkHandle owner socket .stream
          (state.forward env ⟨.writeSocket socket data, none, none⟩)

/-- Close an own network handle of any kind. -/
def closeHandle (handle : Nat) : CallOutcome :=
  state.whileOn state.networkAccessActive .accessNotActive <|
    state.asOwner .permissionDenied fun owner =>
      match state.networkHandles.lookup handle with
      | none => state.refuse .unknownHandle
      | some resource =>
          if resource.owner = owner then
            ⟨{ state with networkHandles := state.networkHandles.remove handle }, [], .ok .done⟩
          else state.refuse .unknownHandle

/-- Fetch a document. The addresses that may be reached are checked behind the call. -/
def httpGet (url : String) (maxBytes : Nat) : CallOutcome :=
  state.withHostAccess env .httpFetch fun _ =>
    state.forward env ⟨.httpGet url maxBytes, none, none⟩

/-! ## User interface -/

/-- Change a surface of the component that is executed. -/
def changeSurface (messageBytes : Nat) (parses : Bool) (call : CapabilityCall) : CallOutcome :=
  state.whileOn state.uiAccessActive .unavailable <|
    state.within messageBytes state.budget.maxHostMessageBytes .messageTooLarge <|
      state.whileOn parses .invalidPayload <|
        state.asOwner .unavailable fun owner => state.forward env ⟨call, some owner, none⟩

/-- Mount a snapshot of a surface. -/
def mountSurface (messageBytes : Nat) (snapshot : Option UiSurfaceSnapshot) : CallOutcome :=
  state.changeSurface env messageBytes snapshot.isSome (.mountSurface messageBytes snapshot)

/-- Patch a mounted surface. -/
def patchSurface (messageBytes : Nat) (batch : Option UiPatchBatch) : CallOutcome :=
  state.changeSurface env messageBytes batch.isSome (.patchSurface messageBytes batch)

/-- Unmount a surface. -/
def unmountSurface (surfaceId : String) : CallOutcome :=
  state.changeSurface env surfaceId.utf8ByteSize true (.unmountSurface surfaceId)

/-- Act as a layer. -/
def asLayer (messageBytes : Nat) (parses : Bool) (call : CapabilityCall) : CallOutcome :=
  state.whileOn state.uiAccessActive .accessNotActive <|
    state.within messageBytes state.budget.maxHostMessageBytes .messageTooLarge <|
      state.whileOn parses .invalidPayload <|
        state.asOwner .accessNotActive fun owner => state.forward env ⟨call, some owner, none⟩

/-- Read the surfaces that the layer shows. -/
def presentationSurfaces : CallOutcome :=
  state.asLayer env 0 true .presentationSurfaces

/-- Read an asset that a shown surface refers to. -/
def readPresentedAsset (digest : String) : CallOutcome :=
  state.asLayer env digest.utf8ByteSize true (.readPresentedAsset digest)

/-- Read the state of the focus on worlds. -/
def presentationState : CallOutcome :=
  state.asLayer env 0 true .presentationState

/-- Ask for the focus on a world. -/
def requestWorldFocus (messageBytes : Nat) (worldId : Option WorldId) : CallOutcome :=
  state.asLayer env messageBytes worldId.isSome (.requestWorldFocus messageBytes worldId)

/-- Give the focus up. -/
def clearWorldFocus : CallOutcome :=
  state.asLayer env 0 true .clearWorldFocus

/-- Send an action to the owner of a surface. -/
def dispatchAction (messageBytes : Nat) (event : Option UiActionEvent) : CallOutcome :=
  state.asLayer env messageBytes event.isSome (.dispatchAction messageBytes event)

/-! ## Dispatch -/

/-- Handle a call. -/
def perform : CapabilityCall → CallOutcome
  | .registerTarget target => state.registerTarget target
  | .sourcePaths source => state.sourcePaths env source
  | .sourceResolveComponentEntry source entry => state.sourceResolveComponentEntry env source entry
  | .sourceResolveRelative source baseFile entry =>
      state.sourceResolveRelative env source baseFile entry
  | .sourceRead source path => state.sourceRead env source path
  | .sourceDrop source => state.sourceDrop source
  | .log message => state.log message
  | .publishEvent _ _ => state.publishEvent
  | .currentContext => state.currentContext env
  | .subscribeEvent topic => state.subscribeEvent topic
  | .unsubscribeEvent handle => state.unsubscribeEvent handle
  | .subscribeSignal topic => state.subscribeSignal topic
  | .unsubscribeSignal handle => state.unsubscribeSignal handle
  | .spawnPeriodic intervalMs => state.spawnPeriodic env intervalMs
  | .cancelTask handle => state.cancelTask env handle
  | .readSecret path => state.readSecret env path
  | .defineContract definition => state.defineContract definition
  | .provideContract contract requiredSecretRead =>
      state.provideContract contract requiredSecretRead
  | .consumeContract contract required requiredSecretRead =>
      state.consumeContract contract required requiredSecretRead
  | .registerCapability name => state.registerCapability name
  | .unregisterCapability name => state.unregisterCapability name
  | .registerWorldSchema messageBytes schema => state.registerWorldSchema messageBytes schema
  | .callService contract payload => state.callService env contract payload
  | .listProviders contract => state.listProviders env contract
  | .callProvider provider payload => state.callProvider env provider payload
  | .importRtw bytes => state.importRtw env bytes
  | .importAsset bytes mediaType => state.importAsset env bytes mediaType
  | .beginAssetUpload mediaType expectedSize => state.beginAssetUpload env mediaType expectedSize
  | .appendAssetUpload handle bytes => state.appendAssetUpload env handle bytes
  | .finishAssetUpload handle => state.finishAssetUpload env handle
  | .cancelAssetUpload handle => state.cancelAssetUpload env handle
  | .importResource bytes mediaType name => state.importResource env bytes mediaType name
  | .beginResourceUpload mediaType name expectedSize =>
      state.beginResourceUpload env mediaType name expectedSize
  | .appendResourceUpload handle bytes => state.appendResourceUpload env handle bytes
  | .finishResourceUpload handle => state.finishResourceUpload env handle
  | .cancelResourceUpload handle => state.cancelResourceUpload env handle
  | .readResource reference maximumBytes => state.readResource env reference maximumBytes
  | .releaseResource reference => state.releaseResource env reference
  | .listItems content => state.listItems env content
  | .readUserContent id => state.readUserContent env id
  | .requestImport rtw => state.requestImport env rtw
  | .requestReplace id rtw => state.requestReplace env id rtw
  | .writeStatus operationId => state.writeStatus env operationId
  | .listWorlds => state.listWorlds env
  | .createWorld => state.createWorld env
  | .setMetadata worldId title description cover =>
      state.setMetadata env worldId title description cover
  | .deleteWorld worldId => state.deleteWorld env worldId
  | .setActive worldId active => state.setActive env worldId active
  | .submitCommand messageBytes request => state.submitCommand env messageBytes request
  | .requestRead messageBytes request => state.requestRead env messageBytes request
  | .readStatus operationId => state.readStatus env operationId
  | .getPreference key => state.getPreference env key
  | .setPreference key value => state.setPreference env key value
  | .deletePreference key => state.deletePreference env key
  | .inspectArtifact digest => state.inspectArtifact env digest
  | .listComponents => state.listComponents env
  | .grantPolicy scopeId instanceId componentId permission =>
      state.grantPolicy env scopeId instanceId componentId permission
  | .revokePolicy scopeId instanceId componentId permission =>
      state.revokePolicy env scopeId instanceId componentId permission
  | .listComponentsInScope scopeId => state.listComponentsInScope env scopeId
  | .listActivations => state.listActivations env
  | .selectArtifact digest enabled => state.selectArtifact env digest enabled
  | .setEnabled subject enabled => state.setEnabled env subject enabled
  | .setWorldDefault subject worldDefault => state.setWorldDefault env subject worldDefault
  | .removeActivation subject => state.removeActivation env subject
  | .listActivationsInScope scopeId => state.listActivationsInScope env scopeId
  | .selectArtifactInScope scopeId digest enabled =>
      state.selectArtifactInScope env scopeId digest enabled
  | .setEnabledInScope scopeId subject enabled =>
      state.setEnabledInScope env scopeId subject enabled
  | .setPreferredProvider scopeId contractId contractVersion instanceId componentId =>
      state.setPreferredProvider env scopeId contractId contractVersion instanceId componentId
  | .clearPreferredProvider scopeId contractId contractVersion =>
      state.clearPreferredProvider env scopeId contractId contractVersion
  | .removeActivationInScope scopeId subject => state.removeActivationInScope env scopeId subject
  | .listenLoopback port => state.listenLoopback env port
  | .connectLoopback port => state.connectLoopback env port
  | .accept listener => state.accept env listener
  | .readSocket socket maxBytes => state.readSocket env socket maxBytes
  | .writeSocket socket data => state.writeSocket env socket data
  | .closeHandle handle => state.closeHandle handle
  | .httpGet url maxBytes => state.httpGet env url maxBytes
  | .registerSurface messageBytes surface => state.registerSurface messageBytes surface
  | .registerLayer messageBytes layer => state.registerLayer messageBytes layer
  | .registerWorldPresentation messageBytes presentation =>
      state.registerWorldPresentation messageBytes presentation
  | .mountSurface messageBytes snapshot => state.mountSurface env messageBytes snapshot
  | .patchSurface messageBytes batch => state.patchSurface env messageBytes batch
  | .unmountSurface surfaceId => state.unmountSurface env surfaceId
  | .presentationSurfaces => state.presentationSurfaces env
  | .readPresentedAsset digest => state.readPresentedAsset env digest
  | .presentationState => state.presentationState env
  | .requestWorldFocus messageBytes worldId => state.requestWorldFocus env messageBytes worldId
  | .clearWorldFocus => state.clearWorldFocus env
  | .dispatchAction messageBytes event => state.dispatchAction env messageBytes event

end WasmHostState

end Rintawa.WasmRuntime
