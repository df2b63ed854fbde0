/-
# The protocol of world systems

A system that lives behind a service is called with a fixed command and the reads answered so
far. It either asks for more reads or ends the evaluation with proposals.
-/

import Rintawa.Sdk.WorldProjection

namespace Rintawa.Sdk

open Rintawa.Lib

/-- Role on whose behalf a command executes, as providers see it. -/
inductive WorldSystemActor
  | principal (id : PrincipalId)
  | entity (id : EntityId)

/-- Reference to the operation that directly caused a command, as providers see it. -/
inductive WorldSystemCausation
  | command (id : CommandId)
  | event (id : WorldEventId)
  | effect (id : EffectJobId)

/-- Immutable command envelope visible to a provider. -/
structure WorldSystemCommand where
  id : CommandId
  schema : SchemaKey
  principal : PrincipalId
  actor : WorldSystemActor
  expectedPosition : Option Nat
  causation : Option WorldSystemCausation
  correlationId : CorrelationId
  effectiveAt : Option UnixTimeMillis
  payload : JsonValue

/-- One bounded authoritative read requested while evaluating a command. -/
inductive WorldSystemReadRequest
  | entity (entityId : EntityId)
  | relation (relationId : RelationId)
  | facet (target : WorldSystemFacetTarget) (schema : SchemaKey)
  deriving DecidableEq

/-- One read result returned to the provider. -/
inductive WorldSystemReadResult
  | entity (entityId : EntityId) (value : Option WorldSystemEntityRecord)
  | relation (relationId : RelationId) (value : Option WorldSystemRelationRecord)
  | facet (target : WorldSystemFacetTarget) (schema : SchemaKey)
      (value : Option WorldSystemFacetRecord)

/-- Stateless continuation envelope sent to a system provider. -/
structure WorldSystemServiceRequest where
  worldId : WorldId
  snapshotPosition : Nat
  command : WorldSystemCommand
  reads : List WorldSystemReadResult

/-- Mutation proposed by a provider. Control grants cannot be proposed. -/
inductive WorldSystemMutation
  | createEntity (entityId : EntityId) (schema : SchemaKey)
  | deleteEntity (entityId : EntityId)
  | createRelation (relationId : RelationId) (schema : SchemaKey) («from» «to» : EntityId)
  | deleteRelation (relationId : RelationId)
  | setFacet (target : WorldSystemFacetTarget) (schema : SchemaKey) (payload : JsonValue)
  | removeFacet (target : WorldSystemFacetTarget) (schema : SchemaKey)

/-- Event proposed by a provider. The host allocates its identity. -/
structure WorldSystemEventProposal where
  schema : SchemaKey
  payload : JsonValue

/-- Effect proposed by a provider. The host allocates its identity. -/
structure WorldSystemEffectProposal where
  schema : SchemaKey
  payload : JsonValue

/-- Transaction proposed by a provider. -/
structure WorldSystemTransaction where
  mutations : List WorldSystemMutation
  events : List WorldSystemEventProposal
  effects : List WorldSystemEffectProposal

/-- Response produced by one system service invocation. -/
inductive WorldSystemServiceResponse
  | transaction (transaction : WorldSystemTransaction)
  | read (requests : List WorldSystemReadRequest)
  | rejected (reason : String)
  | failed (reason : String)

end Rintawa.Sdk
