/-
# Registries of running components

Runtime effects and execution targets belong to components and go when their instances
stop. Runtime permissions are granted by the host and go when their instances are
unregistered.
-/

import Rintawa.Lib.Dict
import Rintawa.Lib.Text
import Rintawa.Sdk.Contributions
import Rintawa.Sdk.Manifest
import Rintawa.Sdk.Services

namespace Rintawa.ExtensionEngine

open Rintawa.Lib Rintawa.Sdk

/-! ## Runtime effects -/

/-- An effect with the component that owns it. -/
structure OwnedRuntimeEffect where
  owner : ComponentRef
  effect : RuntimeEffect
  deriving DecidableEq

/-- What an effect operation of a component can be refused with. -/
inductive RuntimeEffectError
  | invalidRuntimeEffect (reason : String)
  | runtimeEffectNotOwned (effectId : String)
  | sequenceOverflowed
  deriving DecidableEq, Repr

/-- The effects that are in force, with the next number. -/
structure RuntimeEffectRegistry where
  nextEffectSequence : Nat
  effects : Dict RuntimeEffectId OwnedRuntimeEffect

/-- Topics are not blank. -/
def validateRuntimeEffect : RuntimeEffect → Except RuntimeEffectError Unit
  | .eventSubscription topic =>
      if isBlank topic then
        .error (.invalidRuntimeEffect "event subscription topic must not be empty")
      else .ok ()
  | .signalSubscription topic =>
      if isBlank topic then
        .error (.invalidRuntimeEffect "signal subscription topic must not be empty")
      else .ok ()

namespace RuntimeEffectRegistry

def new : RuntimeEffectRegistry :=
  ⟨0, ∅⟩

variable (registry : RuntimeEffectRegistry)

/-- The identifier that the next effect of a component gets. -/
def nextEffectId (owner : ComponentRef) : RuntimeEffectId :=
  ⟨owner.instanceId.asStr ++ "." ++ owner.componentId.asStr ++ ".effect." ++
    toString registry.nextEffectSequence⟩

/-- Register an effect under the next number. The counter has 64 bits and stops there. -/
def register (owner : ComponentRef) (effect : RuntimeEffect) :
    RuntimeEffectRegistry × Except RuntimeEffectError RuntimeEffectId :=
  match validateRuntimeEffect effect with
  | .error error => (registry, .error error)
  | .ok () =>
      if registry.nextEffectSequence + 1 < counterLimit then
        (⟨registry.nextEffectSequence + 1,
          registry.effects.insert (registry.nextEffectId owner) ⟨owner, effect⟩⟩,
          .ok (registry.nextEffectId owner))
      else (registry, .error .sequenceOverflowed)

/-- Revoke an effect of the caller. -/
def revoke (effectId : RuntimeEffectId) (caller : ComponentRef) :
    RuntimeEffectRegistry × Except RuntimeEffectError Unit :=
  if (registry.effects.lookup effectId).any fun owned => owned.owner == caller then
    ({ registry with effects := registry.effects.erase effectId }, .ok ())
  else (registry, .error (.runtimeEffectNotOwned effectId.asStr))

/-- Remove the effects of one instance. -/
def revokeInstance (instanceId : ExtensionInstanceId) : RuntimeEffectRegistry :=
  { registry with
    effects := registry.effects.retain fun _ owned => owned.owner.instanceId != instanceId }

/-- Remove the effects of one component. -/
def revokeComponent (owner : ComponentRef) : RuntimeEffectRegistry :=
  { registry with effects := registry.effects.retain fun _ owned => owned.owner != owner }

end RuntimeEffectRegistry

/-! ## Runtime permissions -/

/-- The runtime permissions that the host granted. -/
structure RuntimePermissionManager where
  grants : Dict ComponentRef (List RuntimePermission)

namespace RuntimePermissionManager

def new : RuntimePermissionManager :=
  ⟨∅⟩

variable (manager : RuntimePermissionManager)

/-- Grant a permission. A grant that is there changes nothing. -/
def grant (owner : ComponentRef) (permission : RuntimePermission) : RuntimePermissionManager :=
  let permissions := (manager.grants.lookup owner).getD []
  if permission ∈ permissions then manager
  else ⟨manager.grants.insert owner (permissions ++ [permission])⟩

def hasGrant (owner : ComponentRef) (permission : RuntimePermission) : Bool :=
  (manager.grants.lookup owner).any fun permissions => permissions.contains permission

/-- Revoke every permission of a component. -/
def revokeComponent (owner : ComponentRef) : RuntimePermissionManager :=
  ⟨manager.grants.erase owner⟩

end RuntimePermissionManager

/-! ## Execution targets -/

/-- A dependency on the component that instantiated another one. -/
structure ExecutionTargetDependency where
  componentId : ComponentId
  target : ComponentTarget
  provider : ComponentRef
  deriving DecidableEq

/-- What the registration of an execution target can be refused with. -/
inductive ExecutionTargetError
  | invalidComponentHostTarget
  | duplicateComponentHostTarget (target : String)
  deriving DecidableEq, Repr

/-- The owners of the hosts, by target. -/
structure ExecutionTargetRegistry where
  hosts : Dict String ComponentRef

/-- The built-in target is reserved. -/
def validateTarget (target : String) : Except ExecutionTargetError Unit :=
  match validateComponentTarget target with
  | .error _ => .error .invalidComponentHostTarget
  | .ok () =>
      if target = wasmComponentTargetV1 then .error (.duplicateComponentHostTarget target)
      else .ok ()

namespace ExecutionTargetRegistry

def new : ExecutionTargetRegistry :=
  ⟨∅⟩

variable (registry : ExecutionTargetRegistry)

/-- Register the host of a target. -/
def register (owner : ComponentRef) (target : String) :
    ExecutionTargetRegistry × Except ExecutionTargetError Unit :=
  match validateTarget target with
  | .error error => (registry, .error error)
  | .ok () =>
      if (registry.hosts.lookup target).isSome then
        (registry, .error (.duplicateComponentHostTarget target))
      else (⟨registry.hosts.insert target owner⟩, .ok ())

/-- The owner of a target. -/
def owner (target : String) : Option ComponentRef :=
  registry.hosts.lookup target

/-- Remove the targets of one component. -/
def revokeComponent (owner : ComponentRef) : ExecutionTargetRegistry :=
  ⟨registry.hosts.retain fun _ registered => registered != owner⟩

/-- Remove the targets of one instance. -/
def revokeInstance (instanceId : ExtensionInstanceId) : ExecutionTargetRegistry :=
  ⟨registry.hosts.retain fun _ registered => registered.instanceId != instanceId⟩

end ExecutionTargetRegistry

end Rintawa.ExtensionEngine
