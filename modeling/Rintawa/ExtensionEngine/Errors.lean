/-
# Errors of the extension engine

The errors that the modelled operations return, with their fields.
-/

import Rintawa.ExtensionEngine.Activation
import Rintawa.ExtensionEngine.Registries
import Rintawa.Sdk.Ui

namespace Rintawa.ExtensionEngine

open Rintawa.Sdk

/-- A component whose stop callback failed, with the reason. -/
structure ComponentStopFailure where
  componentId : String
  reason : String
  deriving DecidableEq, Repr

/-- The errors of the engine. -/
inductive EngineError
  | artifact (reason : String)
  | unsupportedRequiredComponentTarget (componentId target : String)
  | componentHostFailed (componentId target source : String)
  | executionTarget (source : ExecutionTargetError)
  | executionTargetOwnerInactive (instanceId componentId : String)
  | executionTargetProviderInUse (providerInstanceId : String) (dependents : List String)
  | manifestValidation (source : ManifestValidationError)
  | secretPermissionNotRequested (extensionId componentId pattern : String)
  | secretComponentNotFound (extensionId componentId : String)
  | runtimePermissionNotRequested (extensionId componentId permission : String)
  | runtimePermissionComponentNotFound (extensionId componentId : String)
  | ui (source : UiError)
  | serviceRuntimeUnavailable
  | activationPlan (source : ActivationPlanError)
  | platformContractDefinitionReserved (contract scopeId : String)
  | platformContractReservationConflict (contract scopeId : String)
  | contractDefinitionConflict (contract existing incoming : String)
  | extensionInstanceNotFound (instanceId : String)
  | extensionInstanceAlreadyExists (instanceId : String)
  | invalidRuntimeEventTopic
  | invalidRuntimeSignalTopic
  | lifecycleFailed (extensionId componentId reason : String)
  | stopFailed (extensionId : String) (failures : List ComponentStopFailure)
  | startupRollbackFailed (extensionId componentId startReason : String)
      (rollbackFailures : List ComponentStopFailure)
  | invalidState (reason : String)
  deriving DecidableEq

/-- What an operation of the engine returns. -/
abbrev EngineResult (α : Type) : Type :=
  Except EngineError α

/-- What the last step of a start can fail with. -/
inductive FinalizationError
  | ui (source : UiError)
  | serviceRuntimeUnavailable
  deriving DecidableEq

namespace FinalizationError

def toEngineError : FinalizationError → EngineError
  | .ui source => .ui source
  | .serviceRuntimeUnavailable => .serviceRuntimeUnavailable

/-- The displayed error. -/
def display : FinalizationError → String
  | .ui source => "portable UI error: " ++ source.display
  | .serviceRuntimeUnavailable => "service runtime is unavailable"

end FinalizationError

end Rintawa.ExtensionEngine
