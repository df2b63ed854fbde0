/-
# Portable surfaces, patches and errors

Components declare surfaces, mount snapshots of them and change mounted snapshots
by patch batches. A layer renders the surfaces of its own scope and of at most one
focused world, and sends semantic actions back.
-/

import Rintawa.Sdk.UiNodes
import Rintawa.Sdk.World

namespace Rintawa.Sdk

def portableUiProtocolMajor : Nat := 1

/-! ## Surfaces and layers -/

/-- Abstract placement requested for a surface. -/
inductive UiPlacementHint
  | primary | secondary | sidebar | settings | dialog | status | overlay
  deriving DecidableEq, Repr

/-- Activity metadata associated with surfaces. -/
structure UiActivityContribution where
  id : UiActivityId
  label : String
  iconSlot : Option UiIconSlotId
  deriving DecidableEq, Repr

/-- Declares one portable surface. -/
structure UiSurfaceContribution where
  id : UiSurfaceId
  placement : UiPlacementHint
  semantic : Option ContractKey
  activity : Option UiActivityContribution
  traits : List UiSurfaceTraitId
  requiredCapabilities : List UiCapabilityId
  deriving DecidableEq, Repr

/-- The portable capabilities implemented by one layer. -/
structure UiLayerDescriptor where
  protocolMajor : Nat
  capabilities : List UiCapabilityId
  deriving DecidableEq, Repr

/-- The initial presentation entry point of one component of a world. -/
structure WorldPresentationDescriptor where
  entrySurfaceId : UiSurfaceId
  presentationIntent : Option ContractKey
  deriving DecidableEq, Repr

/-- The context that a surface has in one presentation session. -/
inductive UiPresentationContext
  | layerLocal
  | focusedWorld (worldId : WorldId)
  deriving DecidableEq, Repr

/-! ## Snapshots, patches and actions -/

/-- Full presentation snapshot of one mounted surface. -/
structure UiSurfaceSnapshot where
  surfaceId : UiSurfaceId
  revision : Nat
  root : UiNodeId
  nodes : List UiNode
  deriving DecidableEq, Repr

/-- Minimal incremental operations. -/
inductive UiPatch
  | upsertNode (node : UiNode)
  | removeNode (nodeId : UiNodeId)
  | insertChild (parent : UiNodeId) (index : Nat) (child : UiNodeId)
  | removeChild (parent child : UiNodeId)
  | moveChild (parent child : UiNodeId) (index : Nat)
  deriving DecidableEq, Repr

/-- Atomic ordered patch batch for one mounted surface. -/
structure UiPatchBatch where
  surfaceId : UiSurfaceId
  baseRevision : Nat
  nextRevision : Nat
  patches : List UiPatch
  deriving DecidableEq, Repr

/-- One semantic action emitted by a layer. -/
structure UiActionEvent where
  ownerInstanceId : ExtensionInstanceId
  surfaceId : UiSurfaceId
  nodeId : UiNodeId
  actionId : UiActionId
  surfaceRevision : Nat
  payload : UiActionPayload
  deriving DecidableEq, Repr

/-! ## Errors -/

/-- Failure while registering, mounting, patching or dispatching portable UI. -/
inductive UiError
  | instanceAlreadyRegistered (instanceId : String)
  | instanceNotRegistered (instanceId : String)
  | runtimeUnavailable
  | layerUnavailable
  | actionQueueFull
  | worldFocusQueueFull
  | layerAlreadyRegistered
  | layerNotRegistered
  | worldPresentationAlreadyRegistered
  | worldPresentationNotRegistered
  | layerAlreadyAttached
  | layerNotOwner
  | scopeNotVisible
  | unsupportedProtocol (expected actual : Nat)
  | unsupportedCapability (capability : String)
  | surfaceAlreadyRegistered (surface : String)
  | surfaceNotRegistered (surface : String)
  | surfaceNotOwned (surface : String)
  | surfaceNotMounted (surface : String)
  | surfaceAlreadyMounted (surface : String)
  | revisionMismatch (expected actual : Nat)
  | invalidRevision (base next : Nat)
  | surfaceTooLarge (actual maximum : Nat)
  | patchBatchTooLarge (actual maximum : Nat)
  | duplicateNode (node : String)
  | nodeNotFound (node : String)
  | rootNotFound (node : String)
  | nodeNotContainer (node : String)
  | invalidChildIndex (parent : String) (index : Nat)
  | childNotFound (parent child : String)
  | rootHasParent (node : String)
  | multipleParents (node : String)
  | orphanNode (node : String)
  | cycleDetected (node : String)
  | invalidLayout (reason : String)
  | actionNotBound (surface node action : String)
  | actionDisabled (node action : String)
  | invalidActionPayload (node action : String)
  | ownerInactive
  deriving DecidableEq, Repr

/-- A text in the quotes of the displayed errors. -/
def quoted (text : String) : String :=
  "`" ++ text ++ "`"

/-- The displayed error. -/
def UiError.display : UiError → String
  | .instanceAlreadyRegistered instanceId =>
      "extension instance " ++ quoted instanceId ++ " is already registered with the UI Runtime"
  | .instanceNotRegistered instanceId =>
      "extension instance " ++ quoted instanceId ++ " is not registered with the UI Runtime"
  | .runtimeUnavailable => "UI Runtime is unavailable"
  | .layerUnavailable => "UI Layer is unavailable"
  | .actionQueueFull => "UI action queue is full"
  | .worldFocusQueueFull => "UI Layer World-focus queue is full"
  | .layerAlreadyRegistered => "UI Layer descriptor is already registered for this component"
  | .layerNotRegistered => "component did not register a UI Layer descriptor"
  | .worldPresentationAlreadyRegistered =>
      "World presentation descriptor is already registered for this component"
  | .worldPresentationNotRegistered =>
      "component did not register a World presentation descriptor"
  | .layerAlreadyAttached => "a different UI Layer is already attached"
  | .layerNotOwner => "caller is not the active UI Layer"
  | .scopeNotVisible => "UI target runtime scope is not visible to the active layer"
  | .unsupportedProtocol expected actual =>
      "unsupported portable UI protocol version: expected " ++ toString expected ++ ", got " ++
        toString actual
  | .unsupportedCapability capability => "unsupported UI capability " ++ quoted capability
  | .surfaceAlreadyRegistered surface =>
      "UI surface " ++ quoted surface ++ " is already registered"
  | .surfaceNotRegistered surface => "UI surface " ++ quoted surface ++ " is not registered"
  | .surfaceNotOwned surface => "UI surface " ++ quoted surface ++ " is owned by another component"
  | .surfaceNotMounted surface => "UI surface " ++ quoted surface ++ " is not mounted"
  | .surfaceAlreadyMounted surface => "UI surface " ++ quoted surface ++ " is already mounted"
  | .revisionMismatch expected actual =>
      "UI surface revision mismatch: expected " ++ toString expected ++ ", got " ++
        toString actual
  | .invalidRevision base next =>
      "invalid UI revision transition " ++ toString base ++ " -> " ++ toString next
  | .surfaceTooLarge actual maximum =>
      "UI surface contains " ++ toString actual ++ " nodes, exceeding the " ++
        toString maximum ++ "-node limit"
  | .patchBatchTooLarge actual maximum =>
      "UI patch batch contains " ++ toString actual ++ " operations, exceeding the " ++
        toString maximum ++ "-operation limit"
  | .duplicateNode node => "duplicate UI node " ++ quoted node
  | .nodeNotFound node => "UI node " ++ quoted node ++ " does not exist"
  | .rootNotFound node => "UI root node " ++ quoted node ++ " does not exist"
  | .nodeNotContainer node => "UI node " ++ quoted node ++ " cannot contain children"
  | .invalidChildIndex parent index =>
      "UI child index " ++ toString index ++ " is invalid for parent " ++ quoted parent
  | .childNotFound parent child =>
      "UI parent " ++ quoted parent ++ " does not contain child " ++ quoted child
  | .rootHasParent node => "UI root node " ++ quoted node ++ " cannot have a parent"
  | .multipleParents node => "UI node " ++ quoted node ++ " has multiple parents"
  | .orphanNode node => "UI node " ++ quoted node ++ " is orphaned from the surface root"
  | .cycleDetected node => "UI tree contains a cycle at node " ++ quoted node
  | .invalidLayout reason => "invalid UI layout: " ++ reason
  | .actionNotBound surface node action =>
      "UI action " ++ quoted action ++ " is not bound to node " ++ quoted node ++
        " on surface " ++ quoted surface
  | .actionDisabled node action =>
      "UI action " ++ quoted action ++ " on node " ++ quoted node ++ " is disabled"
  | .invalidActionPayload node action =>
      "invalid payload for UI action " ++ quoted action ++ " on node " ++ quoted node
  | .ownerInactive => "UI surface owner is not active"

end Rintawa.Sdk
