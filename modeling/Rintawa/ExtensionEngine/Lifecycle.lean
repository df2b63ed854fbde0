/-
# Lifecycle of extension instances

Instances are registered, started, stopped, started again and unregistered. A start that
fails is rolled back; a component whose callback fails has its instance quarantined,
together with the active instances that depend on it. The callbacks of components are
given from outside, for one operation at a time.
-/

import Rintawa.ExtensionEngine.Engine

namespace Rintawa.ExtensionEngine

open Rintawa.Lib Rintawa.Sdk Rintawa.UiRuntime

/-- A component that is handed to the engine, with what its register callback does. -/
structure Component where
  id : ComponentId
  handle : ServiceComponent
  registration : List RegistrationCall
  registrationFailure : Option String

/-- The start and stop callbacks of the components of one instance, by position. -/
structure InstanceScript where
  start : Nat → Callback
  stop : Nat → Callback

/-- Callbacks that do nothing. -/
def InstanceScript.quiet : InstanceScript :=
  ⟨fun _ => ⟨[], none⟩, fun _ => ⟨[], none⟩⟩

/-- Whether a failure of a callback quarantines the instance of its component. User
interface actions only do when they discard the runtime of the component. -/
def RuntimeCallback.quarantines (entry : RuntimeCallback) (failure : CallbackFailure) : Bool :=
  match entry with
  | .handleUiAction _ => failure.invalidatesRuntime
  | _ => true

/-! ## Registration -/

/-- The components of an instance by their identifiers. The last one counts. -/
def componentsById (components : List ManagedComponent) : Dict ComponentId ServiceComponent :=
  components.foldl (fun byId component => byId.insert component.id component.handle) ∅

/-- Every component of an instance is found. -/
theorem isSome_componentsById {components : List ManagedComponent} {componentId : ComponentId}
    (h : componentId ∈ components.map fun component => component.id) :
    ((componentsById components).lookup componentId).isSome = true := by
  have general : ∀ (rest : List ManagedComponent) (byId : Dict ComponentId ServiceComponent),
      (byId.lookup componentId).isSome = true ∨
        componentId ∈ (rest.map fun component => component.id) →
      ((rest.foldl (fun byId component => byId.insert component.id component.handle)
        byId).lookup componentId).isSome = true := by
    intro rest
    induction rest with
    | nil =>
        intro byId hfound
        simpa using hfound
    | cons component rest ih =>
        intro byId hfound
        refine ih _ ?_
        rw [Dict.lookup_insert_ite]
        by_cases heq : componentId = component.id
        · simp [heq]
        · simpa [heq] using hfound
  exact general components ∅ (.inr h)

/-- What the service runtime is told about an instance. -/
def ManagedExtension.serviceRegistration (ext : ManagedExtension) :
    ServiceInstanceRegistration where
  instanceId := ext.instanceId
  extensionId := ext.manifest.id
  scopeId := ext.scopeId
  definitions := ext.contractDefinitions
  providers := ext.contractProviders
  consumers := ext.contractConsumers
  components := componentsById ext.components
  providers_owned entry hentry :=
    ⟨(ext.providers_owned entry hentry).1,
      isSome_componentsById (ext.providers_owned entry hentry).2⟩
  consumers_owned entry hentry := (ext.consumers_owned entry hentry).1

/-- Run the register callbacks of the components, in order. -/
def registerComponents {instanceId : ExtensionInstanceId} {componentIds : List ComponentId}
    (context : RegistrationBuffers.Context) :
    (components : List Component) → (∀ component ∈ components, component.id ∈ componentIds) →
      RegistrationBuffers instanceId componentIds →
      EngineResult (RegistrationBuffers instanceId componentIds)
  | [], _, buffers => .ok buffers
  | component :: rest, hids, buffers =>
      match component.registrationFailure with
      | some reason =>
          .error (.lifecycleFailed context.extensionId.asStr component.id.asStr reason)
      | none =>
          registerComponents context rest (fun other hother => hids other (.tail component hother))
            (RegistrationBuffers.afterAll ⟨component.id, hids component (.head rest)⟩ context
              buffers component.registration)

/-- The component as the engine keeps it. -/
def Component.managed (component : Component) : ManagedComponent :=
  ⟨component.id, component.handle⟩

theorem managed_ids (components : List Component) :
    ((components.map Component.managed).map fun component => component.id) =
      components.map fun component => component.id := by
  rw [List.map_map]
  rfl

namespace Engine

variable (engine : Engine)

/-- Register an instance in the service runtime. -/
def registerServices (ext : ManagedExtension) : EngineResult Engine :=
  if engine.servicesPoisoned then .error .serviceRuntimeUnavailable
  else
    match engine.services.registerInstance ext.serviceRegistration with
    | none => .error .serviceRuntimeUnavailable
    | some services => .ok { engine with services := services }

/-- Change the UI runtime, unless its lock is poisoned. -/
def changeUi (change : UiRuntimeState → UiOutcome) : Engine × Except UiError Unit :=
  if engine.uiPoisoned then (engine, .error .runtimeUnavailable)
  else
    let outcome := change engine.ui
    ({ engine with ui := outcome.1 }, outcome.2)

/-- Register the presentations of worlds, in order. -/
def registerWorldPresentations :
    Engine → List OwnedWorldPresentationDescriptor → Engine × Except UiError Unit
  | engine, [] => (engine, .ok ())
  | engine, presentation :: rest =>
      match engine.changeUi fun ui => ui.registerWorldPresentation presentation with
      | (engine, .error error) => (engine, .error error)
      | (engine, .ok ()) => registerWorldPresentations engine rest

/-- Remove an instance from the service runtime. -/
def unregisterServices (instanceId : ExtensionInstanceId) : Engine :=
  { engine with services := engine.services.unregisterInstance instanceId }

/-- Remove an instance from the UI runtime. -/
def unregisterUi (instanceId : ExtensionInstanceId) : Engine :=
  { engine with ui := (engine.ui.unregisterInstance instanceId).1 }

/-- Keep a new instance, with its contributions. -/
def keep (ext : ManagedExtension) : Engine :=
  { engine with
    activeContributions := engine.activeContributions ∪ ext.contributionKeys
    extensions := engine.extensions.insert ext.instanceId ext }

/-- Register an instance everywhere, or nowhere. -/
def enroll (ext : ManagedExtension) (surfaces : List OwnedUiSurfaceContribution)
    (layers : List OwnedUiLayerDescriptor)
    (presentations : List OwnedWorldPresentationDescriptor) : EngineOutcome :=
  match engine.registerServices ext with
  | .error error => (engine, .error error)
  | .ok engine =>
      match engine.changeUi fun ui =>
          ui.registerInstance ext.instanceId ext.scopeId surfaces layers with
      | (engine, .error error) => (engine.unregisterServices ext.instanceId, .error (.ui error))
      | (engine, .ok ()) =>
          match engine.registerWorldPresentations presentations with
          | (engine, .error error) =>
              ((engine.unregisterUi ext.instanceId).unregisterServices ext.instanceId,
                .error (.ui error))
          | (engine, .ok ()) => (engine.keep ext, .ok ())

/-- The instance that a registration results in. -/
def managedExtension (instanceId : ExtensionInstanceId) (scopeId : RuntimeScopeId)
    (manifest : ExtensionManifest) (components : List Component)
    (dependencies : List ExecutionTargetDependency)
    (buffers : RegistrationBuffers instanceId (components.map fun component => component.id)) :
    ManagedExtension where
  instanceId := instanceId
  scopeId := scopeId
  manifest := manifest
  state := .registered
  components := components.map Component.managed
  contributions := buffers.contributions
  worldSchemas := buffers.worldSchemas
  contractDefinitions := buffers.contractDefinitions
  contractProviders := buffers.contractProviders
  contractConsumers := buffers.contractConsumers
  executionTargetDependencies := dependencies
  contributions_nodup := buffers.contributions_nodup
  definitions_owned := by
    rw [managed_ids]
    exact buffers.definitions_owned
  providers_owned := by
    rw [managed_ids]
    exact buffers.providers_owned
  consumers_owned := by
    rw [managed_ids]
    exact buffers.consumers_owned
  consumers_nodup := buffers.consumers_nodup

/-- Register an instance that was instantiated through some execution targets. -/
def registerExtensionInstanceWithTargetDependencies (instanceId : ExtensionInstanceId)
    (scopeId : RuntimeScopeId) (manifest : ExtensionManifest) (components : List Component)
    (dependencies : List ExecutionTargetDependency) : EngineOutcome :=
  match manifest.validate with
  | .error error => (engine, .error (.manifestValidation error))
  | .ok () =>
      if (engine.extensions.lookup instanceId).isSome then
        (engine, .error (.extensionInstanceAlreadyExists instanceId.asStr))
      else
        match registerComponents ⟨manifest.id, scopeId, engine.activeContributions⟩ components
            (fun _ hmem => List.mem_map_of_mem hmem)
            (.empty instanceId (components.map fun component => component.id)) with
        | .error error => (engine, .error error)
        | .ok buffers =>
            match engine.validateContractDefinitions scopeId buffers.contractDefinitions with
            | .error error => (engine, .error error)
            | .ok () =>
                engine.enroll
                  (managedExtension instanceId scopeId manifest components dependencies buffers)
                  buffers.uiSurfaces buffers.uiLayers buffers.worldPresentations

/-- Register an instance. -/
def registerExtensionInstance (instanceId : ExtensionInstanceId) (scopeId : RuntimeScopeId)
    (manifest : ExtensionManifest) (components : List Component) : EngineOutcome :=
  engine.registerExtensionInstanceWithTargetDependencies instanceId scopeId manifest components []

/-! ## Start -/

/-- The contributions of a stopped instance become active again, unless one of them is
active already. Those of a registered instance are active. -/
def reclaimContributions (ext : ManagedExtension) : EngineResult Engine :=
  if ext.state = .stopped then
    match ext.contributions.find? fun owned =>
        decide ((ext.scopeId, owned.descriptor.id) ∈ engine.activeContributions) with
    | some owned =>
        .error (.lifecycleFailed ext.manifest.id.asStr "engine"
          ("contribution conflict on restart in scope `" ++ ext.scopeId.asStr ++ "`: `" ++
            owned.descriptor.id.asStr ++ "`"))
    | none =>
        .ok { engine with
          activeContributions := engine.activeContributions ∪ ext.contributionKeys }
  else .ok engine

/-- A start that is rolled back leaves no contributions of a stopped instance. -/
def withdrawContributions (ext : ManagedExtension) : Engine :=
  if ext.state = .stopped then
    { engine with activeContributions := engine.activeContributions \ ext.contributionKeys }
  else engine

/-- Why a callback failed, for the component that it belongs to. -/
def stopFailure (component : ManagedComponent) (failure : CallbackFailure) :
    ComponentStopFailure :=
  ⟨component.id.asStr, failure.reason⟩

/-- Run the stop callbacks of some components, in the order given. All of them run. -/
def stopComponents (secrets : SecretManager) (ext : ManagedExtension) (script : InstanceScript) :
    EngineFacilities → List (ManagedComponent × Nat) →
      EngineFacilities × List ComponentStopFailure
  | facilities, [] => (facilities, [])
  | facilities, (component, index) :: rest =>
      let stopped := stopComponents secrets ext script
        (facilities.runCallback secrets (ext.principal component) .stop (script.stop index)) rest
      (stopped.1,
        ((script.stop index).failure.map (stopFailure component)).toList ++ stopped.2)

/-- A start callback that failed, with the failures of the stop callbacks after it. -/
structure StartFailure where
  componentId : String
  reason : String
  rollbackFailures : List ComponentStopFailure
  deriving DecidableEq

/-- Run the start callbacks, in order. After one that fails, its component and those
that started before are stopped, last first. -/
def startComponents (secrets : SecretManager) (ext : ManagedExtension) (script : InstanceScript) :
    EngineFacilities → List (ManagedComponent × Nat) → List (ManagedComponent × Nat) →
      EngineFacilities × Option StartFailure
  | facilities, _, [] => (facilities, none)
  | facilities, started, (component, index) :: rest =>
      let ran :=
        facilities.runCallback secrets (ext.principal component) .start (script.start index)
      match (script.start index).failure with
      | none => startComponents secrets ext script ran ((component, index) :: started) rest
      | some failure =>
          let stopped := stopComponents secrets ext script ran ((component, index) :: started)
          (stopped.1, some ⟨component.id.asStr, failure.reason, stopped.2⟩)

/-- The error of a start callback that failed. -/
def StartFailure.toError (ext : ManagedExtension) (failure : StartFailure) : EngineError :=
  if failure.rollbackFailures.isEmpty then
    .lifecycleFailed ext.manifest.id.asStr failure.componentId failure.reason
  else
    .startupRollbackFailed ext.manifest.id.asStr failure.componentId failure.reason
      failure.rollbackFailures

/-- Undo a start after the callbacks have been rolled back. -/
def abandonStart (ext : ManagedExtension) (failure : StartFailure) : EngineOutcome :=
  match (engine.revokeInstance ext.instanceId).setUiActive ext.instanceId false with
  | (facilities, .error error) =>
      ({ engine with toEngineFacilities := facilities }, .error (.ui error))
  | (facilities, .ok ()) =>
      (({ engine with toEngineFacilities := facilities.deactivateServices ext.instanceId } :
        Engine).withdrawContributions ext, .error (failure.toError ext))

/-- Activate an instance in the UI runtime and then in the service runtime. -/
def finalizeStart (instanceId : ExtensionInstanceId) (facilities : EngineFacilities) :
    EngineFacilities × Option FinalizationError :=
  match facilities.setUiActive instanceId true with
  | (facilities, .error error) => (facilities, some (.ui error))
  | (facilities, .ok ()) =>
      match facilities.activateServices instanceId with
      | none => (facilities, some .serviceRuntimeUnavailable)
      | some facilities => (facilities, none)

/-- Undo a start whose callbacks all succeeded. -/
def abandonFinalization (ext : ManagedExtension) (script : InstanceScript)
    (error : FinalizationError) : EngineOutcome :=
  let stopped := stopComponents engine.secrets ext script
    (engine.deactivateServices ext.instanceId) ext.components.zipIdx.reverse
  let deactivated := stopped.1.setUiActive ext.instanceId false
  let failures :=
    match deactivated.2 with
    | .ok () => stopped.2
    | .error error => stopped.2 ++ [⟨"engine-ui", error.display⟩]
  (({ engine with toEngineFacilities := deactivated.1.revokeInstance ext.instanceId } :
      Engine).withdrawContributions ext,
    .error (if failures.isEmpty then error.toEngineError
      else .startupRollbackFailed ext.manifest.id.asStr "engine" error.display failures))

/-- Run the callbacks of a start and activate the instance. -/
def launch (ext : ManagedExtension) (script : InstanceScript) : EngineOutcome :=
  match startComponents engine.secrets ext script engine.toEngineFacilities []
      ext.components.zipIdx with
  | (facilities, some failure) =>
      abandonStart { engine with toEngineFacilities := facilities } ext failure
  | (facilities, none) =>
      match finalizeStart ext.instanceId facilities with
      | (facilities, some error) =>
          abandonFinalization { engine with toEngineFacilities := facilities } ext script error
      | (facilities, none) =>
          ({ engine with
              toEngineFacilities := facilities
              extensions := engine.extensions.insert ext.instanceId
                { ext with state := .active } }, .ok ())

/-- Start an instance whose required composition is there. -/
def startExtensionInstance (instanceId : ExtensionInstanceId) (script : InstanceScript) :
    EngineOutcome :=
  match engine.instanceOf instanceId with
  | .error error => (engine, .error error)
  | .ok ext =>
      if ext.state = .active then (engine, .ok ())
      else
        match engine.planExtensionActivation [instanceId] with
        | .error error => (engine, .error error)
        | .ok _ =>
            match engine.reclaimContributions ext with
            | .error error => (engine, .error error)
            | .ok engine => engine.launch ext script

/-! ## Stop -/

/-- Stop an instance that is not stopped. -/
def shutDown (ext : ManagedExtension) (script : InstanceScript) : EngineOutcome :=
  match engine.setUiActive ext.instanceId false with
  | (facilities, .error error) =>
      ({ engine with toEngineFacilities := facilities }, .error (.ui error))
  | (facilities, .ok ()) =>
      let stopped := stopComponents engine.secrets ext script
        (facilities.deactivateServices ext.instanceId) ext.components.zipIdx.reverse
      ({ engine with
          toEngineFacilities := stopped.1.revokeInstance ext.instanceId
          activeContributions := engine.activeContributions \ ext.contributionKeys
          extensions := engine.extensions.insert ext.instanceId { ext with state := .stopped } },
        if stopped.2.isEmpty then .ok () else .error (.stopFailed ext.manifest.id.asStr stopped.2))

/-- Stop an instance, perhaps only when no other one was instantiated through it. -/
def stopExtensionInstanceInner (instanceId : ExtensionInstanceId) (script : InstanceScript)
    (enforceProviderGuard : Bool) : EngineOutcome :=
  match engine.instanceOf instanceId with
  | .error error => (engine, .error error)
  | .ok ext =>
      if ext.state = .stopped then (engine, .ok ())
      else if enforceProviderGuard then
        match engine.ensureExecutionTargetProviderNotInUse instanceId with
        | .error error => (engine, .error error)
        | .ok () => engine.shutDown ext script
      else engine.shutDown ext script

/-- Stop an instance. -/
def stopExtensionInstance (instanceId : ExtensionInstanceId) (script : InstanceScript) :
    EngineOutcome :=
  engine.stopExtensionInstanceInner instanceId script true

/-! ## Quarantine -/

/-- The active instances that were instantiated through another one, in order. -/
def activeDependentsOf (instanceId : ExtensionInstanceId) : List ExtensionInstanceId :=
  (engine.executionTargetDependentsOf instanceId).filter fun dependent =>
    engine.isActive dependent

/-- The engine with the instances that a quarantine has visited. -/
abbrev QuarantineState := Engine × List ExtensionInstanceId

/-- Quarantine some instances, up to the first host-level failure. -/
def quarantineEach
    (quarantine : QuarantineState → ExtensionInstanceId → QuarantineState × EngineResult Unit) :
    QuarantineState → List ExtensionInstanceId → QuarantineState × EngineResult Unit
  | state, [] => (state, .ok ())
  | state, instanceId :: rest =>
      match quarantine state instanceId with
      | (state, .error error) => (state, .error error)
      | (state, .ok ()) => quarantineEach quarantine state rest

/-- Failures of stop callbacks do not stop a quarantine. -/
def containStopFailure (outcome : EngineOutcome) : EngineOutcome :=
  match outcome.2 with
  | .error (.stopFailed _ _) => (outcome.1, .ok ())
  | _ => outcome

/-- Quarantine the active dependents of an instance and then the instance. Every level
visits an instance that was not visited before; the depth bounds the levels. -/
def quarantineRecursive (scripts : ExtensionInstanceId → InstanceScript) :
    Nat → QuarantineState → ExtensionInstanceId → QuarantineState × EngineResult Unit
  | 0, state, _ => (state, .ok ())
  | depth + 1, (engine, visited), instanceId =>
      if instanceId ∈ visited then ((engine, visited), .ok ())
      else
        match quarantineEach (quarantineRecursive scripts depth) (engine, instanceId :: visited)
            (engine.activeDependentsOf instanceId) with
        | (state, .error error) => (state, .error error)
        | ((engine, visited), .ok ()) =>
            let outcome := containStopFailure
              (engine.stopExtensionInstanceInner instanceId (scripts instanceId) false)
            ((outcome.1, visited), outcome.2)

/-- The levels that a quarantine may need: one for every instance, one for the start and
one to find that everything was visited. -/
def quarantineDepth : Nat :=
  engine.extensions.keys.length + 2

/-- Quarantine an instance with its active dependents. -/
def quarantineExtensionInstance (instanceId : ExtensionInstanceId)
    (scripts : ExtensionInstanceId → InstanceScript) : EngineOutcome :=
  let outcome := quarantineRecursive scripts engine.quarantineDepth (engine, []) instanceId
  (outcome.1.1, outcome.2)

/-! ## Unregistration -/

/-- Forget an instance with everything that was granted to its components. -/
def forget (ext : ManagedExtension) : Engine :=
  let manifestOwners := ext.manifest.components.map fun component =>
    (⟨ext.instanceId, component.id⟩ : ComponentRef)
  let owners := ext.components.map fun component => ext.principal component
  { engine with
    extensions := engine.extensions.erase ext.instanceId
    activeContributions := engine.activeContributions \ ext.contributionKeys
    secrets := (manifestOwners ++ owners).foldl
      (fun secrets owner => secrets.revokeComponent owner) engine.secrets
    runtimePermissions := manifestOwners.foldl
      (fun permissions owner => permissions.revokeComponent owner) engine.runtimePermissions
    services := engine.services.unregisterInstance ext.instanceId
    ui := (engine.ui.unregisterInstance ext.instanceId).1
    executionTargets := engine.executionTargets.revokeInstance ext.instanceId }

/-- Unregister an instance. An active one is stopped first. -/
def unregisterExtensionInstance (instanceId : ExtensionInstanceId) (script : InstanceScript) :
    EngineOutcome :=
  match engine.ensureExecutionTargetProviderNotInUse instanceId with
  | .error error => (engine, .error error)
  | .ok () =>
      match engine.instanceOf instanceId with
      | .error error => (engine, .error error)
      | .ok ext =>
          if ext.state = .active then
            match engine.stopExtensionInstance instanceId script with
            | (engine, .error error) => (engine, .error error)
            | (engine, .ok ()) => (engine.forget ext, .ok ())
          else (engine.forget ext, .ok ())

/-! ## Other callbacks -/

/-- Run a callback of a component that is running. When it fails in a way that
quarantines, its instance is quarantined with the active dependents. -/
def runActiveComponent (owner : ComponentRef) (entry : RuntimeCallback) (callback : Callback)
    (scripts : ExtensionInstanceId → InstanceScript) : EngineOutcome :=
  match engine.extensions.lookup owner.instanceId with
  | none => (engine, .ok ())
  | some ext =>
      if ext.state = .active ∧ owner.componentId ∈ ext.components.map fun component => component.id
      then
        let ran : Engine :=
          { engine with
            toEngineFacilities := engine.runCallback engine.secrets owner (.runtime entry)
              callback }
        if callback.failure.any entry.quarantines then
          ran.quarantineExtensionInstance owner.instanceId scripts
        else (ran, .ok ())
      else (engine, .ok ())

end Engine

end Rintawa.ExtensionEngine
