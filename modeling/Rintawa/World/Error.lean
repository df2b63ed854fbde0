/-
# Errors of the authoritative world model
-/

import Rintawa.World.Authority

namespace Rintawa.World

open Rintawa.Sdk

/-- Errors returned by feature-neutral world operations. -/
inductive WorldError
  | schemaConflict (key : SchemaKey) (existingOwner incomingOwner : String)
  | invalidSchemaDefinition (key : SchemaKey) (reason : String)
  | schemaNotRegistered (key : SchemaKey)
  | schemaKindMismatch (key : SchemaKey) (expected actual : SchemaKind)
  | payloadValidationFailed (key : SchemaKey) (instancePath reason : String)
  | emptyControlScope
  | controlGrantAlreadyExists (id : ControlGrantId)
  | controlGrantNotFound (id : ControlGrantId)
  | actorUnauthorized (principal : PrincipalId) (actor : ActorRef) (command : SchemaKey)
  | emptyTransaction
  | duplicateEventId (id : WorldEventId)
  | duplicateEffectJobId (id : EffectJobId)
  | commandIdConflict (id : CommandId)
  | worldEventAlreadyExists (id : WorldEventId)
  | effectJobAlreadyExists (id : EffectJobId)
  | worldChangedSinceEvaluation (evaluated actual : Nat)
  | staleWorldPosition (expected actual : Nat)
  | commitPositionOverflow
  | entityAlreadyExists (id : EntityId)
  | entityNotFound (id : EntityId)
  | relationAlreadyExists (id : RelationId)
  | relationNotFound (id : RelationId)
  | relationEndpointNotFound (relationId : RelationId) (entityId : EntityId)
  | facetTargetNotFound
  deriving DecidableEq, Repr

end Rintawa.World
