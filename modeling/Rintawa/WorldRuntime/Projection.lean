/-
# World projections

A projection is a view of a pinned snapshot that an extension builds for one
principal. Its provider reads the snapshot only through requests that the host
answers, and every answer passes a filter: what belongs to another owner looks
absent.
-/

import Rintawa.Sdk.Services
import Rintawa.Sdk.WorldProjection
import Rintawa.WorldRuntime.ReadRounds
import Rintawa.WorldRuntime.Snapshot

namespace Rintawa.WorldRuntime

open Rintawa.Lib Rintawa.Sdk Rintawa.World Rintawa.Storage

def maxWorldProjectionServiceRounds : Nat := 8

def maxWorldProjectionServiceReads : Nat := 256

/-- Failure while resolving one policy-filtered world projection. -/
inductive WorldProjectionError
  | crossWorldBinding
  | schemaUnavailable (schema : SchemaKey)
  | schemaKindMismatch (schema : SchemaKey)
  | schemaOwnerMismatch (schema : SchemaKey)
  | inputTooLarge (actualBytes maximumBytes : Nat)
  | read (error : StorageError)
  | transport (error : ServiceCallError)
  | responseDecode
  | emptyReadRound
  | repeatedRead
  | readLimitExceeded
  | roundLimitExceeded
  | diagnosticTooLarge
  | rejected (reason : String)
  | failed (reason : String)
  | invalidOutput (error : WorldError)
  deriving DecidableEq

/-- Projection evaluator bound to one exact world, schema and owner. -/
structure ServiceWorldProjection where
  worldId : WorldId
  projectionSchema : SchemaKey
  projectionOwner : ExtensionId

/-- The service that supplies a projection. It sees the calls made so far, so it
may behave differently every time. -/
abbrev WorldProjectionServiceClient :=
  List WorldProjectionServiceRequest → ServiceAnswer WorldProjectionServiceResponse

/-- A read error of a projection. -/
def liftRead {α : Type} : Except StorageError α → Except WorldProjectionError α
  | .ok value => .ok value
  | .error error => .error (.read error)

/-! ## Filtered reads -/

def encodeEntity (entity : EntityRecord) : WorldSystemEntityRecord :=
  ⟨entity.id, entity.schema⟩

def encodeRelation (relation : RelationRecord) : WorldSystemRelationRecord :=
  ⟨relation.id, relation.schema, relation.from, relation.to⟩

def encodeFacetTarget : FacetTarget → WorldSystemFacetTarget
  | .world => .world
  | .entity id => .entity id
  | .relation id => .relation id

def decodeFacetTarget : WorldSystemFacetTarget → FacetTarget
  | .world => .world
  | .entity id => .entity id
  | .relation id => .relation id

def encodeFacet (facet : FacetRecord) : WorldSystemFacetRecord :=
  ⟨encodeFacetTarget facet.target, facet.schema, facet.payload⟩

section Project

variable {Digest : Type} (deps : Dependencies Digest) (snapshot : WorldSnapshot)

/-- Whether a schema of a kind is registered for an owner. -/
def schemaOwnedBy (schema : SchemaKey) (owner : ExtensionId) (kind : SchemaKind) :
    Except StorageError Bool := do
  match ← snapshot.loadSchemaDefinition deps schema with
  | none => return false
  | some definition => return decide (definition.kind = kind) && decide (definition.owner = owner)

/-- Keep a loaded record only when the owner has its schema. -/
def ownedRecord {Record : Type} (owner : ExtensionId) (kind : SchemaKind)
    (schemaOf : Record → SchemaKey) (loaded : Except StorageError (Option Record)) :
    Except StorageError (Option Record) := do
  match ← loaded with
  | none => return none
  | some record =>
      if ← schemaOwnedBy deps snapshot (schemaOf record) owner kind then return some record
      else return none

/-- The answer to one read. -/
def resolveRead (principal : PrincipalId) (projectionOwner : ExtensionId) :
    WorldProjectionReadRequest → Except StorageError WorldProjectionReadResult
  | .entity entityId => do
      let value ← ownedRecord deps snapshot projectionOwner .entity EntityRecord.schema
        (snapshot.loadEntity entityId)
      return .entity entityId (value.map encodeEntity)
  | .relation relationId => do
      let value ← ownedRecord deps snapshot projectionOwner .relation RelationRecord.schema
        (snapshot.loadRelation relationId)
      return .relation relationId (value.map encodeRelation)
  | .facet target schema => do
      if ← schemaOwnedBy deps snapshot schema projectionOwner .facet then
        let value ← snapshot.loadFacet deps (decodeFacetTarget target) schema
        return .facet target schema (value.map encodeFacet)
      else return .facet target schema none
  | .canControl actorEntity commandSchema => do
      if ← schemaOwnedBy deps snapshot commandSchema projectionOwner .command then
        let allowed ← snapshot.principalCanControl principal actorEntity commandSchema
        return .canControl actorEntity commandSchema allowed
      else return .canControl actorEntity commandSchema false

/-! ## The evaluation -/

def validateDiagnostic (reason : String) : Except WorldProjectionError String :=
  if reason.utf8ByteSize > maxWorldProjectionDiagnosticBytes then .error .diagnosticTooLarge
  else .ok reason

def projectionLimits : RoundLimits WorldProjectionError where
  maxReads := maxWorldProjectionServiceReads
  emptyReadRound := .emptyReadRound
  readLimitExceeded := .readLimitExceeded
  repeatedRead := .repeatedRead
  roundLimitExceeded := .roundLimitExceeded

/-- Check the completed value against the projection schema. -/
def completeProjection (registry : SchemaRegistry) (projection : ServiceWorldProjection)
    (principal : PrincipalId) (value : JsonValue) :
    Except WorldProjectionError WorldProjectionView :=
  match registry.validatePayload projection.projectionSchema .projection value with
  | .error error => .error (.invalidOutput error)
  | .ok () =>
      .ok ⟨snapshot.worldId, snapshot.position, projection.projectionSchema, principal, value⟩

/-- How one answer of the service continues the evaluation. -/
def projectionAnswer (registry : SchemaRegistry) (projection : ServiceWorldProjection)
    (principal : PrincipalId) :
    ServiceAnswer WorldProjectionServiceResponse →
      RoundAnswer WorldProjectionReadRequest WorldProjectionError WorldProjectionView
  | .failed error => .final (.error (.transport error))
  | .undecodable => .final (.error .responseDecode)
  | .response (.complete value) =>
      .final (completeProjection snapshot registry projection principal value)
  | .response (.rejected reason) =>
      .final (validateDiagnostic reason >>= fun reason => .error (.rejected reason))
  | .response (.failed reason) =>
      .final (validateDiagnostic reason >>= fun reason => .error (.failed reason))
  | .response (.read requests) => .read requests

/-- The registry for the output of a projection, once the binding and the input
have been checked. -/
def openProjection (projection : ServiceWorldProjection) (input : JsonValue) :
    Except WorldProjectionError SchemaRegistry := do
  if snapshot.worldId ≠ projection.worldId then .error .crossWorldBinding
  else
    match ← liftRead (snapshot.loadSchemaDefinition deps projection.projectionSchema) with
    | none => .error (.schemaUnavailable projection.projectionSchema)
    | some definition =>
        if definition.kind ≠ .projection then
          .error (.schemaKindMismatch projection.projectionSchema)
        else if definition.owner ≠ projection.projectionOwner then
          .error (.schemaOwnerMismatch projection.projectionSchema)
        else if input.json.toText.utf8ByteSize > maxWorldProjectionInputBytes then
          .error (.inputTooLarge input.json.toText.utf8ByteSize maxWorldProjectionInputBytes)
        else
          match SchemaRegistry.new.register deps.validatorFor definition with
          | .error error => .error (.invalidOutput error)
          | .ok (registry, _) => .ok registry

/-- The requests that a projection sends to its service, and its result. -/
def ServiceWorldProjection.project (projection : ServiceWorldProjection)
    (client : WorldProjectionServiceClient) (principal : PrincipalId) (input : JsonValue) :
    List WorldProjectionServiceRequest × Except WorldProjectionError WorldProjectionView :=
  match openProjection deps snapshot projection input with
  | .error error => ([], .error error)
  | .ok registry =>
      evaluateRounds projectionLimits
        (fun request =>
          liftRead (resolveRead deps snapshot principal projection.projectionOwner request))
        (fun reads => ⟨snapshot.worldId, snapshot.position, projection.projectionSchema,
          principal, input, reads⟩)
        (fun calls => projectionAnswer snapshot registry projection principal (client calls))
        maxWorldProjectionServiceRounds [] ([], [])

end Project

end Rintawa.WorldRuntime
