/-
# The UI runtime

Extension instances register surfaces and layers; active layers see the surfaces
of their own scope and of one focused world. Every operation takes the lock of the
state, so operations are functions from states to states with a result. The lock
is not poisoned.
-/

import Mathlib.Data.Finset.Dedup
import Rintawa.Lib.Text
import Rintawa.UiRuntime.Validation

namespace Rintawa.UiRuntime

open Rintawa.Lib Rintawa.Sdk

def maxQueuedActions : Nat := 64
def maxQueuedWorldFocusRequests : Nat := 64
def maxWorldFocusDiagnosticBytes : Nat := 2 * 1024

/-! ## The state -/

/-- Static surface declaration with its owning component. -/
structure OwnedUiSurfaceContribution where
  owner : ComponentRef
  contribution : UiSurfaceContribution
  deriving DecidableEq

/-- Static layer descriptor with its owning component. -/
structure OwnedUiLayerDescriptor where
  owner : ComponentRef
  descriptor : UiLayerDescriptor
  deriving DecidableEq

/-- World presentation descriptor with its owning component. -/
structure OwnedWorldPresentationDescriptor where
  owner : ComponentRef
  descriptor : WorldPresentationDescriptor
  deriving DecidableEq

/-- Mounted presentation as layers see it. -/
structure UiPresentationSurface where
  owner : ComponentRef
  context : Option UiPresentationContext
  contribution : UiSurfaceContribution
  snapshot : UiSurfaceSnapshot
  deriving DecidableEq

/-- Validated action for its owning component. -/
structure UiActionDispatch where
  owner : ComponentRef
  event : UiActionEvent
  deriving DecidableEq

/-- Renderer action queued by an active layer. -/
structure QueuedUiAction where
  layerOwner : ComponentRef
  event : UiActionEvent
  deriving DecidableEq

/-- Deferred request of a layer to focus a world. -/
structure QueuedWorldFocusRequest where
  layerOwner : ComponentRef
  worldId : WorldId
  deriving DecidableEq

/-- The key of a surface: its instance and its name. -/
structure UiSurfaceKey where
  instanceId : ExtensionInstanceId
  surfaceId : UiSurfaceId
  deriving DecidableEq

/-- What is kept of an instance. -/
structure UiExtensionInstance where
  scopeId : RuntimeScopeId
  isActive : Bool
  surfaces : List UiSurfaceId

/-- The scope that shows the focused world. -/
structure FocusedPresentationScope where
  scopeId : RuntimeScopeId
  worldId : WorldId
  descriptor : WorldPresentationDescriptor

/-- An attached layer. Its capabilities are those of its descriptor. -/
structure ActiveUiLayer where
  owner : ComponentRef
  descriptor : UiLayerDescriptor
  capabilities : Finset UiCapabilityId
  focusedScope : Option FocusedPresentationScope
  pendingWorldId : Option WorldId
  lastFocusError : Option String
  capabilities_eq : capabilities = descriptor.capabilities.toFinset

/-- The state of the UI runtime. -/
structure UiRuntimeState where
  instances : Dict ExtensionInstanceId UiExtensionInstance
  registeredSurfaces : Dict UiSurfaceKey OwnedUiSurfaceContribution
  registeredLayers : Dict ComponentRef UiLayerDescriptor
  registeredWorldPresentations : Dict ComponentRef WorldPresentationDescriptor
  mountedSurfaces : Dict UiSurfaceKey UiSurfaceSnapshot
  layers : Dict RuntimeScopeId ActiveUiLayer
  queuedActions : List QueuedUiAction
  queuedWorldFocusRequests : List QueuedWorldFocusRequest

/-- A runtime without instances. -/
def UiRuntimeState.new : UiRuntimeState :=
  ⟨∅, ∅, ∅, ∅, ∅, ∅, [], []⟩

/-- What an operation leaves and returns. -/
abbrev UiOutcome := UiRuntimeState × Except UiError Unit

/-- An operation that checks everything before it changes anything. -/
def settle (state : UiRuntimeState) (next : Except UiError UiRuntimeState) : UiOutcome :=
  match next with
  | .ok next => (next, .ok ())
  | .error error => (state, .error error)

/-- Diagnostics are cut at the last character that fits. -/
def boundedWorldFocusDiagnostic (diagnostic : String) : String :=
  if diagnostic.utf8ByteSize ≤ maxWorldFocusDiagnosticBytes then diagnostic
  else String.ofList (charsWithin maxWorldFocusDiagnosticBytes diagnostic.toList)

/-- Whether a layer attached in one scope sees the surfaces of another one. -/
def ActiveUiLayer.sees (layerScope : RuntimeScopeId) (layer : ActiveUiLayer)
    (scopeId : RuntimeScopeId) : Bool :=
  decide (layerScope = scopeId) ||
    layer.focusedScope.any fun focused => decide (focused.scopeId = scopeId)

/-- Capabilities that a surface needs: those it declares and those of its nodes. -/
def surfaceCapabilities (contribution : UiSurfaceContribution) (snapshot : UiSurfaceSnapshot) :
    List UiCapabilityId :=
  contribution.requiredCapabilities ++ requiredCapabilities snapshot

/-- Every capability that a surface needs is there. -/
def ensureSurfaceSupported (capabilities : Finset UiCapabilityId)
    (contribution : UiSurfaceContribution) (snapshot : UiSurfaceSnapshot) :
    Except UiError Unit :=
  (surfaceCapabilities contribution snapshot).forM fun capability =>
    require (decide (capability ∈ capabilities)) (.unsupportedCapability capability.asStr)

/-- The value under a key, or an error. -/
def found {α : Type} (value : Option α) (error : UiError) : Except UiError α :=
  match value with
  | some value => .ok value
  | none => .error error

namespace UiRuntimeState

variable (state : UiRuntimeState)

/-- The attached layer of an owner, with its scope. -/
def findLayer (owner : ComponentRef) : Option (RuntimeScopeId × ActiveUiLayer) :=
  state.layers.pairs.find? fun entry => entry.2.owner == owner

/-! ## Registration -/

/-- The identifiers of the surfaces of one registration. -/
def surfaceIds (instanceId : ExtensionInstanceId) :
    List UiSurfaceId → List OwnedUiSurfaceContribution → Except UiError (List UiSurfaceId)
  | seen, [] => .ok seen
  | seen, owned :: rest => do
      require (owned.owner.instanceId == instanceId) (.surfaceNotOwned owned.contribution.id.asStr)
      require (!seen.contains owned.contribution.id)
        (.surfaceAlreadyRegistered owned.contribution.id.asStr)
      surfaceIds instanceId (owned.contribution.id :: seen) rest

/-- The layers of one registration belong to the instance and have different owners. -/
def checkLayers (instanceId : ExtensionInstanceId) :
    List ComponentRef → List OwnedUiLayerDescriptor → Except UiError Unit
  | _, [] => .ok ()
  | seen, layer :: rest => do
      require (layer.owner.instanceId == instanceId) .layerNotOwner
      require (!seen.contains layer.owner) .layerAlreadyRegistered
      checkLayers instanceId (layer.owner :: seen) rest

/-- Register the static surfaces and layers of one instance. -/
def registerInstance (instanceId : ExtensionInstanceId) (scopeId : RuntimeScopeId)
    (surfaces : List OwnedUiSurfaceContribution) (layers : List OwnedUiLayerDescriptor) :
    UiOutcome :=
  settle state do
    require (state.instances.lookup instanceId).isNone
      (.instanceAlreadyRegistered instanceId.asStr)
    let ids ← surfaceIds instanceId [] surfaces
    checkLayers instanceId [] layers
    return { state with
      registeredSurfaces := surfaces.foldl
        (fun registered owned => registered.insert ⟨instanceId, owned.contribution.id⟩ owned)
        state.registeredSurfaces
      registeredLayers := layers.foldl
        (fun registered layer => registered.insert layer.owner layer.descriptor)
        state.registeredLayers
      instances := state.instances.insert instanceId ⟨scopeId, false, ids⟩ }

/-- Register the presentation descriptor of a component for its own surface. -/
def registerWorldPresentation (owned : OwnedWorldPresentationDescriptor) : UiOutcome :=
  settle state do
    require (state.instances.lookup owned.owner.instanceId).isSome
      (.instanceNotRegistered owned.owner.instanceId.asStr)
    require (state.registeredWorldPresentations.lookup owned.owner).isNone
      .worldPresentationAlreadyRegistered
    let surface ← found (state.registeredSurfaces.lookup
        ⟨owned.owner.instanceId, owned.descriptor.entrySurfaceId⟩)
      (.surfaceNotRegistered owned.descriptor.entrySurfaceId.asStr)
    require (surface.owner == owned.owner)
      (.surfaceNotOwned owned.descriptor.entrySurfaceId.asStr)
    return { state with
      registeredWorldPresentations :=
        state.registeredWorldPresentations.insert owned.owner owned.descriptor }

/-- The presentation descriptor of a component. -/
def registeredWorldPresentationDescriptor (owner : ComponentRef) :
    Except UiError WorldPresentationDescriptor :=
  found (state.registeredWorldPresentations.lookup owner) .worldPresentationNotRegistered

/-- The keys of the surfaces of an instance. -/
def surfaceKeys (instanceId : ExtensionInstanceId) (inst : UiExtensionInstance) :
    List UiSurfaceKey :=
  inst.surfaces.map fun surfaceId => ⟨instanceId, surfaceId⟩

/-- Actions that an instance neither submitted nor would receive. -/
def actionsWithout (instanceId : ExtensionInstanceId) : List QueuedUiAction :=
  state.queuedActions.filter fun queued =>
    queued.layerOwner.instanceId != instanceId && queued.event.ownerInstanceId != instanceId

/-- Focus requests of the layers of other instances. -/
def focusRequestsWithout (instanceId : ExtensionInstanceId) : List QueuedWorldFocusRequest :=
  state.queuedWorldFocusRequests.filter fun queued => queued.layerOwner.instanceId != instanceId

/-- The layers without the one that an instance has in its scope. -/
def layersWithout (instanceId : ExtensionInstanceId) (scopeId : RuntimeScopeId) :
    Dict RuntimeScopeId ActiveUiLayer :=
  if (state.layers.lookup scopeId).any fun layer => layer.owner.instanceId == instanceId then
    state.layers.erase scopeId
  else state.layers

/-- Remove one instance and all of its state. -/
def unregisterInstance (instanceId : ExtensionInstanceId) : UiOutcome :=
  match state.instances.lookup instanceId with
  | none => (state, .ok ())
  | some inst =>
      ({ instances := state.instances.erase instanceId
         registeredSurfaces := state.registeredSurfaces.eraseAll (surfaceKeys instanceId inst)
         registeredLayers := state.registeredLayers.retain fun owner _ =>
           owner.instanceId != instanceId
         registeredWorldPresentations := state.registeredWorldPresentations.retain fun owner _ =>
           owner.instanceId != instanceId
         mountedSurfaces := state.mountedSurfaces.eraseAll (surfaceKeys instanceId inst)
         layers := state.layersWithout instanceId inst.scopeId
         queuedActions := state.actionsWithout instanceId
         queuedWorldFocusRequests := state.focusRequestsWithout instanceId }, .ok ())

/-- Change the activation of an instance. Deactivation revokes what it presents. -/
def setInstanceActive (instanceId : ExtensionInstanceId) (isActive : Bool) : UiOutcome :=
  match state.instances.lookup instanceId with
  | none => (state, .error (.instanceNotRegistered instanceId.asStr))
  | some inst =>
      let instances := state.instances.insert instanceId { inst with isActive := isActive }
      if isActive then ({ state with instances := instances }, .ok ())
      else
        ({ state with
            instances := instances
            mountedSurfaces := state.mountedSurfaces.eraseAll (surfaceKeys instanceId inst)
            layers := state.layersWithout instanceId inst.scopeId
            queuedActions := state.actionsWithout instanceId
            queuedWorldFocusRequests := state.focusRequestsWithout instanceId }, .ok ())

/-! ## Layers -/

/-- The static descriptor of a layer candidate. -/
def registeredLayerDescriptor (owner : ComponentRef) : Except UiError UiLayerDescriptor :=
  found (state.registeredLayers.lookup owner) .layerNotRegistered

/-- Every mounted surface of an active instance in the given scopes is supported. -/
def ensureMountedSupported (capabilities : Finset UiCapabilityId)
    (visible : RuntimeScopeId → Bool) : Except UiError Unit :=
  state.mountedSurfaces.pairs.forM fun (key, snapshot) =>
    match state.instances.lookup key.instanceId with
    | none => .ok ()
    | some inst =>
        if visible inst.scopeId && inst.isActive then do
          let registered ← found (state.registeredSurfaces.lookup key)
            (.surfaceNotRegistered key.surfaceId.asStr)
          ensureSurfaceSupported capabilities registered.contribution snapshot
        else .ok ()

/-- The layer that an attachment puts into a scope. It inherits the focus of the layer
that it refreshes. -/
def attachedLayer (scopeId : RuntimeScopeId) (owner : ComponentRef)
    (descriptor : UiLayerDescriptor) : ActiveUiLayer where
  owner := owner
  descriptor := descriptor
  capabilities := descriptor.capabilities.toFinset
  focusedScope := (state.layers.lookup scopeId).bind fun layer => layer.focusedScope
  pendingWorldId := (state.layers.lookup scopeId).bind fun layer => layer.pendingWorldId
  lastFocusError := (state.layers.lookup scopeId).bind fun layer => layer.lastFocusError
  capabilities_eq := rfl

/-- Attach or refresh the layer of a scope. -/
def attachLayer (owner : ComponentRef) (descriptor : UiLayerDescriptor) : UiOutcome :=
  settle state do
    let inst ← found (state.instances.lookup owner.instanceId)
      (.instanceNotRegistered owner.instanceId.asStr)
    require inst.isActive .ownerInactive
    require (decide (descriptor.protocolMajor = portableUiProtocolMajor))
      (.unsupportedProtocol portableUiProtocolMajor descriptor.protocolMajor)
    require ((state.layers.lookup inst.scopeId).all fun layer => layer.owner == owner)
      .layerAlreadyAttached
    let layer := state.attachedLayer inst.scopeId owner descriptor
    state.ensureMountedSupported layer.capabilities (layer.sees inst.scopeId)
    return { state with layers := state.layers.insert inst.scopeId layer }

/-- Attach a layer under its registered descriptor. -/
def attachRegisteredLayer (owner : ComponentRef) : UiOutcome :=
  match state.registeredLayerDescriptor owner with
  | .error error => (state, .error error)
  | .ok descriptor => state.attachLayer owner descriptor

/-- Detach the layer that an owner has in its scope. Surfaces stay. -/
def detachLayer (owner : ComponentRef) : UiOutcome :=
  settle state do
    let inst ← found (state.instances.lookup owner.instanceId)
      (.instanceNotRegistered owner.instanceId.asStr)
    require ((state.layers.lookup inst.scopeId).all fun layer => layer.owner == owner)
      .layerNotOwner
    return { state with
      layers := state.layers.erase inst.scopeId
      queuedWorldFocusRequests := state.queuedWorldFocusRequests.filter fun queued =>
        queued.layerOwner != owner }

/-- The layer of a scope. -/
def activeLayer (scopeId : RuntimeScopeId) : Option (ComponentRef × UiLayerDescriptor) :=
  (state.layers.lookup scopeId).map fun layer => (layer.owner, layer.descriptor)

/-! ## World focus -/

/-- Replace the world of the queued request of a layer. -/
def replaceQueued (owner : ComponentRef) (worldId : WorldId) :
    List QueuedWorldFocusRequest → List QueuedWorldFocusRequest
  | [] => []
  | queued :: rest =>
      if queued.layerOwner = owner then { queued with worldId := worldId } :: rest
      else queued :: replaceQueued owner worldId rest

/-- Queue a deferred focus request. Requests of one layer coalesce to the newest. -/
def queueWorldFocusRequest (owner : ComponentRef) (worldId : WorldId) : UiOutcome :=
  match state.findLayer owner with
  | none => (state, .error .layerNotOwner)
  | some (scopeId, _) =>
      if state.queuedWorldFocusRequests.any (fun queued => queued.layerOwner == owner) then
        markPending { state with
          queuedWorldFocusRequests :=
            replaceQueued owner worldId state.queuedWorldFocusRequests } scopeId
      else if maxQueuedWorldFocusRequests ≤ state.queuedWorldFocusRequests.length then
        (state, .error .worldFocusQueueFull)
      else
        markPending { state with
          queuedWorldFocusRequests := state.queuedWorldFocusRequests ++ [⟨owner, worldId⟩] } scopeId
where
  /-- Show the request as pending in the layer of the scope. -/
  markPending (state : UiRuntimeState) (scopeId : RuntimeScopeId) : UiOutcome :=
    match state.layers.lookup scopeId with
    | none => (state, .error .layerNotOwner)
    | some layer =>
        ({ state with
            layers := state.layers.insert scopeId
              { layer with pendingWorldId := some worldId, lastFocusError := none } }, .ok ())

/-- Take all queued focus requests. -/
def drainWorldFocusRequests : UiRuntimeState × List QueuedWorldFocusRequest :=
  ({ state with queuedWorldFocusRequests := [] }, state.queuedWorldFocusRequests)

/-- Record that a focus request failed, unless another world is pending. -/
def recordWorldFocusFailure (owner : ComponentRef) (worldId : WorldId) (diagnostic : String) :
    UiOutcome :=
  match state.findLayer owner with
  | none => (state, .error .layerNotOwner)
  | some (scopeId, layer) =>
      if layer.pendingWorldId = some worldId then
        ({ state with
            layers := state.layers.insert scopeId
              { layer with
                pendingWorldId := none
                lastFocusError := some (boundedWorldFocusDiagnostic diagnostic) } }, .ok ())
      else (state, .ok ())

/-- The checks of a focus, with the layer that it is for. -/
def checkFocus (owner : ComponentRef) (scopeId : RuntimeScopeId) :
    Except UiError (RuntimeScopeId × ActiveUiLayer) := do
  let (layerScope, layer) ← found (state.findLayer owner) .layerNotOwner
  require (layerScope != scopeId) .scopeNotVisible
  state.ensureMountedSupported layer.capabilities fun visible => visible == scopeId
  return (layerScope, layer)

/-- Import the scope of a focused world into the session of a layer. -/
def setFocusedWorldScope (owner : ComponentRef) (worldId : WorldId) (scopeId : RuntimeScopeId)
    (descriptor : WorldPresentationDescriptor) : UiOutcome :=
  settle state do
    let (layerScope, layer) ← state.checkFocus owner scopeId
    return { state with
      layers := state.layers.insert layerScope
        { layer with
          focusedScope := some ⟨scopeId, worldId, descriptor⟩
          pendingWorldId :=
            if layer.pendingWorldId = some worldId then none else layer.pendingWorldId
          lastFocusError := none } }

/-- Clear the focus of a layer, and its requests. -/
def clearFocusedWorldScope (owner : ComponentRef) : UiOutcome :=
  settle state do
    let (layerScope, layer) ← found (state.findLayer owner) .layerNotOwner
    return { state with
      layers := state.layers.insert layerScope
        { layer with focusedScope := none, pendingWorldId := none, lastFocusError := none }
      queuedWorldFocusRequests := state.queuedWorldFocusRequests.filter fun queued =>
        queued.layerOwner != owner }

/-- Clear one focused scope from every layer. -/
def clearFocusedWorldScopeForAllLayers (scopeId : RuntimeScopeId) : UiOutcome :=
  ({ state with
      layers := state.layers.mapValues fun _ layer =>
        if layer.focusedScope.any fun focused => focused.scopeId == scopeId then
          { layer with focusedScope := none }
        else layer }, .ok ())

/-- The world that a layer has in focus. -/
def focusedWorldForLayer (owner : ComponentRef) : Except UiError (Option WorldId) := do
  let (_, layer) ← found (state.findLayer owner) .layerNotOwner
  return layer.focusedScope.map fun focused => focused.worldId

/-! ## Surfaces -/

/-- Every layer that sees a scope supports a surface in it. -/
def ensureLayersSupport (scopeId : RuntimeScopeId) (contribution : UiSurfaceContribution)
    (snapshot : UiSurfaceSnapshot) : Except UiError Unit :=
  state.layers.pairs.forM fun (layerScope, layer) =>
    if layer.sees layerScope scopeId then
      ensureSurfaceSupported layer.capabilities contribution snapshot
    else .ok ()

/-- The registration of a surface that belongs to a component. -/
def ownedSurface (owner : ComponentRef) (surfaceId : UiSurfaceId) :
    Except UiError OwnedUiSurfaceContribution := do
  let registered ← found (state.registeredSurfaces.lookup ⟨owner.instanceId, surfaceId⟩)
    (.surfaceNotRegistered surfaceId.asStr)
  require (registered.owner == owner) (.surfaceNotOwned surfaceId.asStr)
  return registered

/-- The checks of a mount. -/
def checkMount (owner : ComponentRef) (snapshot : UiSurfaceSnapshot) : Except UiError Unit := do
  validateSnapshot snapshot
  let registered ← state.ownedSurface owner snapshot.surfaceId
  require (state.mountedSurfaces.lookup ⟨owner.instanceId, snapshot.surfaceId⟩).isNone
    (.surfaceAlreadyMounted snapshot.surfaceId.asStr)
  let inst ← found (state.instances.lookup owner.instanceId)
    (.instanceNotRegistered owner.instanceId.asStr)
  state.ensureLayersSupport inst.scopeId registered.contribution snapshot

/-- Mount the first snapshot of a registered surface. -/
def mountSurface (owner : ComponentRef) (snapshot : UiSurfaceSnapshot) : UiOutcome :=
  settle state do
    state.checkMount owner snapshot
    return { state with
      mountedSurfaces :=
        state.mountedSurfaces.insert ⟨owner.instanceId, snapshot.surfaceId⟩ snapshot }

/-- The children of a container, or an error. -/
def containerChildren (parent : UiNodeId) (node : UiNode) : Except UiError (List UiNodeId) := do
  require node.kind.isContainer (.nodeNotContainer parent.asStr)
  return node.kind.children

/-- Put back a container with other children. -/
def putChildren (nodes : Dict UiNodeId UiNode) (parent : UiNodeId) (node : UiNode)
    (children : List UiNodeId) : Dict UiNodeId UiNode :=
  nodes.insert parent { node with kind := node.kind.withChildren children }

/-- Apply one patch to a node map. -/
def applyPatch (nodes : Dict UiNodeId UiNode) : UiPatch → Except UiError (Dict UiNodeId UiNode)
  | .upsertNode node => .ok (nodes.insert node.id node)
  | .removeNode nodeId => do
      require (nodes.lookup nodeId).isSome (.nodeNotFound nodeId.asStr)
      return nodes.erase nodeId
  | .insertChild parent index child => do
      require (nodes.lookup child).isSome (.nodeNotFound child.asStr)
      let node ← found (nodes.lookup parent) (.nodeNotFound parent.asStr)
      let children ← containerChildren parent node
      require (decide (index ≤ children.length)) (.invalidChildIndex parent.asStr index)
      return putChildren nodes parent node (children.insertIdx index child)
  | .removeChild parent child => do
      let node ← found (nodes.lookup parent) (.nodeNotFound parent.asStr)
      let children ← containerChildren parent node
      require (children.contains child) (.childNotFound parent.asStr child.asStr)
      return putChildren nodes parent node (children.erase child)
  | .moveChild parent child index => do
      let node ← found (nodes.lookup parent) (.nodeNotFound parent.asStr)
      let children ← containerChildren parent node
      require (children.contains child) (.childNotFound parent.asStr child.asStr)
      let children := children.erase child
      require (decide (index ≤ children.length)) (.invalidChildIndex parent.asStr index)
      return putChildren nodes parent node (children.insertIdx index child)

/-- Apply a list of patches in order. -/
def applyPatchList : Dict UiNodeId UiNode → List UiPatch →
    Except UiError (Dict UiNodeId UiNode)
  | nodes, [] => .ok nodes
  | nodes, patch :: rest => do
      let nodes ← applyPatch nodes patch
      applyPatchList nodes rest

/-- Apply patches to a snapshot. The rebuilt nodes are sorted by identifier. -/
def applyPatchOperations (snapshot : UiSurfaceSnapshot) (patches : List UiPatch) :
    Except UiError UiSurfaceSnapshot := do
  let nodes ← nodeMap snapshot
  let nodes ← applyPatchList nodes patches
  return { snapshot with
    nodes := nodes.values.insertionSort fun a b => a.id.asStr ≤ b.id.asStr }

/-- The checks of a patch batch, with the snapshot that it results in. -/
def patchedSnapshot (owner : ComponentRef) (batch : UiPatchBatch) :
    Except UiError UiSurfaceSnapshot := do
  require (decide (batch.patches.length ≤ defaultMaxPatchOperations))
    (.patchBatchTooLarge batch.patches.length defaultMaxPatchOperations)
  let registered ← state.ownedSurface owner batch.surfaceId
  let current ← found (state.mountedSurfaces.lookup ⟨owner.instanceId, batch.surfaceId⟩)
    (.surfaceNotMounted batch.surfaceId.asStr)
  require (decide (current.revision = batch.baseRevision))
    (.revisionMismatch current.revision batch.baseRevision)
  require (decide (batch.baseRevision + 1 = batch.nextRevision) &&
      decide (batch.baseRevision + 1 < 2 ^ 64))
    (.invalidRevision batch.baseRevision batch.nextRevision)
  let patched ← applyPatchOperations current batch.patches
  let next := { patched with revision := batch.nextRevision }
  validateSnapshot next
  let inst ← found (state.instances.lookup owner.instanceId)
    (.instanceNotRegistered owner.instanceId.asStr)
  state.ensureLayersSupport inst.scopeId registered.contribution next
  return next

/-- Apply one atomic patch batch to a mounted surface. -/
def applyPatches (owner : ComponentRef) (batch : UiPatchBatch) : UiOutcome :=
  settle state do
    let next ← state.patchedSnapshot owner batch
    return { state with
      mountedSurfaces :=
        state.mountedSurfaces.insert ⟨owner.instanceId, batch.surfaceId⟩ next }

/-- Remove the snapshot of a surface. -/
def unmountSurface (owner : ComponentRef) (surfaceId : UiSurfaceId) : UiOutcome :=
  settle state do
    let _ ← state.ownedSurface owner surfaceId
    require (state.mountedSurfaces.lookup ⟨owner.instanceId, surfaceId⟩).isSome
      (.surfaceNotMounted surfaceId.asStr)
    return { state with
      mountedSurfaces := state.mountedSurfaces.erase ⟨owner.instanceId, surfaceId⟩ }

/-! ## Presentation -/

/-- Sort key of presented surfaces. -/
def presentsBefore (left right : UiPresentationSurface) : Bool :=
  decide (left.owner.instanceId.asStr < right.owner.instanceId.asStr) ||
    (decide (left.owner.instanceId.asStr = right.owner.instanceId.asStr) &&
      decide (left.contribution.id.asStr ≤ right.contribution.id.asStr))

/-- The context of a scope, when there are contexts and the scope is in one. -/
def visibleContext (contexts : Option (RuntimeScopeId → Option UiPresentationContext))
    (scopeId : RuntimeScopeId) : Option (Option UiPresentationContext) :=
  match contexts with
  | some contexts => (contexts scopeId).map some
  | none => some none

/-- One mounted surface of an active instance, in the contexts given. -/
def presentation (contexts : Option (RuntimeScopeId → Option UiPresentationContext))
    (key : UiSurfaceKey) (snapshot : UiSurfaceSnapshot) : Option UiPresentationSurface := do
  let registered ← state.registeredSurfaces.lookup key
  let inst ← state.instances.lookup key.instanceId
  guard inst.isActive
  let context ← visibleContext contexts inst.scopeId
  return ⟨registered.owner, context, registered.contribution, snapshot⟩

/-- The mounted surfaces of active instances, in a stable order. -/
def collectPresentations (contexts : Option (RuntimeScopeId → Option UiPresentationContext)) :
    List UiPresentationSurface :=
  (state.mountedSurfaces.pairs.filterMap fun entry =>
    state.presentation contexts entry.1 entry.2).insertionSort
      fun left right => presentsBefore left right = true

/-- All active mounted surfaces. -/
def presentationSurfaces : List UiPresentationSurface :=
  state.collectPresentations none

/-- The contexts of the scopes that a layer sees. -/
def layerContexts (layerScope : RuntimeScopeId) (layer : ActiveUiLayer)
    (scopeId : RuntimeScopeId) : Option UiPresentationContext :=
  match layer.focusedScope with
  | some focused =>
      if scopeId = focused.scopeId then some (.focusedWorld focused.worldId)
      else if scopeId = layerScope then some .layerLocal
      else none
  | none => if scopeId = layerScope then some .layerLocal else none

/-- The surfaces that one layer sees. -/
def presentationSurfacesForLayer (owner : ComponentRef) :
    Except UiError (List UiPresentationSurface) := do
  let (layerScope, layer) ← found (state.findLayer owner) .layerNotOwner
  return state.collectPresentations (some (layerContexts layerScope layer))

/-! ## Actions -/

/-- Validate an event of a layer and resolve the owner of its surface. -/
def routeAction (layerOwner : ComponentRef) (event : UiActionEvent) :
    Except UiError UiActionDispatch := do
  let (layerScope, layer) ← found (state.findLayer layerOwner) .layerNotOwner
  let target ← found (state.instances.lookup event.ownerInstanceId)
    (.instanceNotRegistered event.ownerInstanceId.asStr)
  require (layer.sees layerScope target.scopeId) .scopeNotVisible
  require target.isActive .ownerInactive
  let registered ← found (state.registeredSurfaces.lookup
      ⟨event.ownerInstanceId, event.surfaceId⟩) (.surfaceNotRegistered event.surfaceId.asStr)
  let snapshot ← found (state.mountedSurfaces.lookup
      ⟨event.ownerInstanceId, event.surfaceId⟩) (.surfaceNotMounted event.surfaceId.asStr)
  require (decide (snapshot.revision = event.surfaceRevision))
    (.revisionMismatch snapshot.revision event.surfaceRevision)
  let node ← found (snapshot.nodes.find? fun node => node.id == event.nodeId)
    (.nodeNotFound event.nodeId.asStr)
  require (node.kind.hasAction event.actionId)
    (.actionNotBound event.surfaceId.asStr event.nodeId.asStr event.actionId.asStr)
  require (node.kind.isActionEnabled event.actionId)
    (.actionDisabled event.nodeId.asStr event.actionId.asStr)
  require (node.kind.acceptsActionPayload event.actionId event.payload)
    (.invalidActionPayload event.nodeId.asStr event.actionId.asStr)
  return ⟨registered.owner, event⟩

/-- Validate and queue one action. -/
def queueAction (layerOwner : ComponentRef) (event : UiActionEvent) : UiOutcome :=
  settle state do
    let _ ← state.routeAction layerOwner event
    require (decide (state.queuedActions.length < maxQueuedActions)) .actionQueueFull
    return { state with queuedActions := state.queuedActions ++ [⟨layerOwner, event⟩] }

/-- Take all queued actions. -/
def drainQueuedActions : UiRuntimeState × List QueuedUiAction :=
  ({ state with queuedActions := [] }, state.queuedActions)

end UiRuntimeState

end Rintawa.UiRuntime
