/-
# Executing durable effects

A handler is a service bound to one world and one effect schema. It is called
with the claimed job and may answer anything. An answer is accepted when its
diagnostic is bounded, or when its follow-up command is tied to the job by its
identity, its principal, its correlation and its causation.
-/

import Rintawa.Sdk.Services
import Rintawa.Storage.Outbox

namespace Rintawa.WorldRuntime

open Rintawa.Lib Rintawa.Sdk Rintawa.World Rintawa.Storage

def maxWorldEffectDiagnosticBytes : Nat := 8 * 1024

/-- The only valid follow-up command identity for one durable effect job. -/
def effectCompletionCommandId (jobId : EffectJobId) : CommandId :=
  .fromBytes jobId.intoBytes

/-- Durable effect execution envelope sent to a handler. -/
structure WorldEffectServiceRequest where
  worldId : WorldId
  job : StoredEffectJob
  leaseExpiresAt : UnixTimeMillis
  completionCommandId : CommandId

def WorldEffectServiceRequest.new (claim : ClaimedEffectJob) : WorldEffectServiceRequest where
  worldId := claim.job.worldId
  job := claim.job
  leaseExpiresAt := claim.leaseExpiresAt
  completionCommandId := effectCompletionCommandId claim.job.id

/-- Result produced by one effect-handler invocation. -/
inductive WorldEffectServiceResponse
  | complete (command : Option WorldCommand)
  | retry (reason : String)
  | cancel (reason : String)

/-- Protocol or transport failure while invoking an effect handler. -/
inductive WorldEffectServiceError
  | worldMismatch
  | schemaMismatch
  | transport (error : ServiceCallError)
  | invalidResponse
  | diagnosticTooLarge
  | commandIdMismatch
  | commandPrincipalMismatch
  | commandCorrelationMismatch
  | commandCausationMismatch
  deriving DecidableEq, Repr

/-- The displayed handler error. -/
def WorldEffectServiceError.display : WorldEffectServiceError → String
  | .worldMismatch => "effect handler binding belongs to another world"
  | .schemaMismatch => "effect handler received a mismatched effect schema"
  | .transport error => "effect service transport failed: " ++ error.display
  | .invalidResponse => "invalid effect service response"
  | .diagnosticTooLarge => "effect service returned an oversized diagnostic"
  | .commandIdMismatch =>
      "effect follow-up command id must be derived from the durable job id"
  | .commandPrincipalMismatch =>
      "effect follow-up command must preserve the durable job principal"
  | .commandCorrelationMismatch =>
      "effect follow-up command must preserve the durable job correlation id"
  | .commandCausationMismatch =>
      "effect follow-up command must be caused by the durable effect job"

/-- Effect handler bound to one exact schema and world scope. -/
structure ServiceWorldEffectHandler where
  worldId : WorldId
  effectSchema : SchemaKey

/-- Check that a response is bounded, or tied to its job. -/
def validateResponse (job : StoredEffectJob) :
    WorldEffectServiceResponse → Except WorldEffectServiceError Unit
  | .retry reason | .cancel reason =>
      if reason.utf8ByteSize > maxWorldEffectDiagnosticBytes then .error .diagnosticTooLarge
      else .ok ()
  | .complete none => .ok ()
  | .complete (some command) =>
      if command.id ≠ effectCompletionCommandId job.id then .error .commandIdMismatch
      else if command.principal ≠ job.provenance.principal then
        .error .commandPrincipalMismatch
      else if command.correlationId ≠ job.provenance.correlationId then
        .error .commandCorrelationMismatch
      else if command.causation ≠ some (.effect job.id) then .error .commandCausationMismatch
      else .ok ()

/-- Execute one claimed job. The service is called only for the bound world and
schema, and its answer is given. -/
def ServiceWorldEffectHandler.execute (handler : ServiceWorldEffectHandler)
    (call : WorldEffectServiceRequest → ServiceAnswer WorldEffectServiceResponse)
    (claim : ClaimedEffectJob) : Except WorldEffectServiceError WorldEffectServiceResponse :=
  if claim.job.worldId ≠ handler.worldId then .error .worldMismatch
  else if claim.job.schema ≠ handler.effectSchema then .error .schemaMismatch
  else
    match call (.new claim) with
    | .failed error => .error (.transport error)
    | .undecodable => .error .invalidResponse
    | .response response => do
        validateResponse claim.job response
        return response

/-- A follow-up command is accepted exactly when it is tied to its job. -/
theorem validateResponse_complete_iff {job : StoredEffectJob} {command : WorldCommand} :
    validateResponse job (.complete (some command)) = .ok () ↔
      command.id = effectCompletionCommandId job.id ∧
        command.principal = job.provenance.principal ∧
        command.correlationId = job.provenance.correlationId ∧
        command.causation = some (.effect job.id) := by
  simp only [validateResponse]
  split
  · next h => simp [h]
  · split
    · next h => simp [h]
    · split
      · next h => simp [h]
      · split <;> simp_all

/-- Every response that an execution returns has been checked. -/
theorem validateResponse_of_execute {handler : ServiceWorldEffectHandler}
    {call : WorldEffectServiceRequest → ServiceAnswer WorldEffectServiceResponse}
    {claim : ClaimedEffectJob} {response : WorldEffectServiceResponse}
    (h : handler.execute call claim = .ok response) :
    validateResponse claim.job response = .ok () := by
  unfold ServiceWorldEffectHandler.execute at h
  split at h
  · cases h
  · split at h
    · cases h
    · split at h
      · cases h
      · cases h
      · obtain ⟨⟨⟩, hvalid, h⟩ := bind_eq_ok_iff.mp h
        cases h
        exact hvalid

end Rintawa.WorldRuntime
