/-
# Loading extension artifacts

An archive is loaded in one go: its manifest is read, its execution targets are resolved,
its components are instantiated and the instance is registered. When a required target
has no host yet, nothing is done and the load is deferred. What the archive holds and what
instantiating a component yields is given from outside.
-/

import Rintawa.ExtensionEngine.Lifecycle

namespace Rintawa.ExtensionEngine

open Rintawa.Lib Rintawa.Sdk

/-- A required component whose execution target is not available yet. -/
structure DeferredExecutionTarget where
  componentId : ComponentId
  target : ComponentTarget
  deriving DecidableEq

/-- A load that made no side effects, with the targets that it waits for. -/
structure DeferredExtensionLoad where
  extensionId : ExtensionId
  firstMissingRequiredTarget : DeferredExecutionTarget
  additionalMissingRequiredTargets : List DeferredExecutionTarget
  deriving DecidableEq

/-- Every required target that is not available, in the order of the manifest. -/
def DeferredExtensionLoad.missingRequiredTargets (load : DeferredExtensionLoad) :
    List DeferredExecutionTarget :=
  load.firstMissingRequiredTarget :: load.additionalMissingRequiredTargets

/-- A load that registered an instance. -/
structure RegisteredExtensionLoad where
  extensionId : ExtensionId
  canPublishExecutionTargets : Bool
  deriving DecidableEq

/-- A load registers the instance or waits for targets. -/
inductive RtwExtensionLoadOutcome
  | loaded (load : RegisteredExtensionLoad)
  | deferred (load : DeferredExtensionLoad)
  deriving DecidableEq

/-- A WebAssembly component that was compiled. It takes its identifier from the manifest. -/
structure WasmComponent where
  handle : ServiceComponent
  registration : List RegistrationCall
  registrationFailure : Option String
  supportsExecutionTargetProvider : Bool

/-- An archive, with what instantiating its components yields, by position. -/
structure RtwArchive where
  manifest : EngineResult ExtensionManifest
  wasmEngine : EngineResult Unit
  wasmComponent : Nat → EngineResult WasmComponent
  hostedComponent : Nat → Except String Component

/-- Read the manifest of an archive and validate it. -/
def RtwArchive.readManifest (archive : RtwArchive) : EngineResult ExtensionManifest :=
  match archive.manifest with
  | .error error => .error error
  | .ok manifest =>
      match manifest.validate with
      | .error error => .error (.manifestValidation error)
      | .ok () => .ok manifest

/-- Components that were instantiated. -/
structure LoadedComponents where
  components : List Component
  dependencies : List ExecutionTargetDependency
  canPublishExecutionTargets : Bool

namespace LoadedComponents

def empty : LoadedComponents :=
  ⟨[], [], false⟩

variable (loaded : LoadedComponents)

/-- One more WebAssembly component. -/
def addWasm (descriptor : ComponentDescriptor) (component : WasmComponent) : LoadedComponents where
  components := loaded.components ++
    [⟨descriptor.id, component.handle, component.registration, component.registrationFailure⟩]
  dependencies := loaded.dependencies
  canPublishExecutionTargets :=
    loaded.canPublishExecutionTargets || component.supportsExecutionTargetProvider

/-- One more component that the owner of a target instantiated. -/
def addHosted (descriptor : ComponentDescriptor) (owner : ComponentRef) (component : Component) :
    LoadedComponents where
  components := loaded.components ++ [component]
  dependencies := loaded.dependencies ++ [⟨descriptor.id, descriptor.target, owner⟩]
  canPublishExecutionTargets := loaded.canPublishExecutionTargets

end LoadedComponents

/-- Whether a component runs on the built-in target. -/
def isWasmTarget (descriptor : ComponentDescriptor) : Bool :=
  descriptor.target.asStr == wasmComponentTargetV1

namespace Engine

variable (engine : Engine)

/-- The required components whose targets have no host, in order. -/
def missingRequiredTargets (components : List ComponentDescriptor) :
    List DeferredExecutionTarget :=
  (components.filter fun descriptor =>
    !isWasmTarget descriptor && descriptor.required &&
      (engine.executionTargets.owner descriptor.target.asStr).isNone).map fun descriptor =>
        ⟨descriptor.id, descriptor.target⟩

/-- Instantiate components in order. Optional components without a host are left out. -/
def instantiateComponents (archive : RtwArchive) :
    LoadedComponents → List (ComponentDescriptor × Nat) → EngineResult LoadedComponents
  | loaded, [] => .ok loaded
  | loaded, (descriptor, index) :: rest =>
      if isWasmTarget descriptor then
        match archive.wasmComponent index with
        | .error error => .error error
        | .ok component => instantiateComponents archive (loaded.addWasm descriptor component) rest
      else
        match engine.executionTargets.owner descriptor.target.asStr with
        | none => instantiateComponents archive loaded rest
        | some owner =>
            match archive.hostedComponent index with
            | .error source =>
                .error (.componentHostFailed descriptor.id.asStr descriptor.target.asStr source)
            | .ok component =>
                instantiateComponents archive (loaded.addHosted descriptor owner component) rest

/-- The engine for WebAssembly components, when there are any. -/
def prepareWasm (archive : RtwArchive) (components : List ComponentDescriptor) :
    EngineResult Unit :=
  if components.any isWasmTarget then archive.wasmEngine else .ok ()

/-- Load an archive, or defer it. -/
def tryLoadArchive (archive : RtwArchive) (instanceId : ExtensionInstanceId)
    (scopeId : RuntimeScopeId) : Engine × EngineResult RtwExtensionLoadOutcome :=
  match archive.readManifest with
  | .error error => (engine, .error error)
  | .ok manifest =>
      match engine.missingRequiredTargets manifest.components with
      | first :: additional => (engine, .ok (.deferred ⟨manifest.id, first, additional⟩))
      | [] =>
          match prepareWasm archive manifest.components with
          | .error error => (engine, .error error)
          | .ok () =>
              match engine.instantiateComponents archive .empty manifest.components.zipIdx with
              | .error error => (engine, .error error)
              | .ok loaded =>
                  let registered := engine.registerExtensionInstanceWithTargetDependencies
                    instanceId scopeId manifest loaded.components loaded.dependencies
                  (registered.1, registered.2.map fun _ =>
                    .loaded ⟨manifest.id, loaded.canPublishExecutionTargets⟩)

/-- Load the artifact that a store gives. One that has to wait for targets is refused. -/
def loadStoredExtension (artifact : EngineResult RtwArchive) (instanceId : ExtensionInstanceId)
    (scopeId : RuntimeScopeId) : Engine × EngineResult ExtensionId :=
  match artifact with
  | .error error => (engine, .error error)
  | .ok archive =>
      let outcome := engine.tryLoadArchive archive instanceId scopeId
      (outcome.1,
        match outcome.2 with
        | .error error => .error error
        | .ok (.loaded load) => .ok load.extensionId
        | .ok (.deferred load) =>
            let missing := load.firstMissingRequiredTarget
            .error (.unsupportedRequiredComponentTarget missing.componentId.asStr
              missing.target.asStr))

/-- What loading an artifact leaves is what loading its archive leaves. -/
theorem loadStoredExtension_ok (archive : RtwArchive) (instanceId : ExtensionInstanceId)
    (scopeId : RuntimeScopeId) :
    (engine.loadStoredExtension (.ok archive) instanceId scopeId).1 =
      (engine.tryLoadArchive archive instanceId scopeId).1 :=
  rfl

end Engine

end Rintawa.ExtensionEngine
