/-
# The protocol of world projections

A projection provider is called with a fixed principal and the reads answered so
far. It either asks for more reads or ends the projection.
-/

import Rintawa.Sdk.World

namespace Rintawa.Sdk

open Rintawa.Lib

def maxWorldProjectionInputBytes : Nat := 64 * 1024

def maxWorldProjectionDiagnosticBytes : Nat := 8 * 1024

/-- Target of a facet as providers see it. -/
inductive WorldSystemFacetTarget
  | world
  | entity (id : EntityId)
  | relation (id : RelationId)
  deriving DecidableEq

/-- An entity as systems read it. -/
structure WorldSystemEntityRecord where
  id : EntityId
  schema : SchemaKey
  deriving DecidableEq

/-- A relation as systems read it. -/
structure WorldSystemRelationRecord where
  id : RelationId
  schema : SchemaKey
  «from» : EntityId
  «to» : EntityId
  deriving DecidableEq

/-- A facet as systems read it. -/
structure WorldSystemFacetRecord where
  target : WorldSystemFacetTarget
  schema : SchemaKey
  payload : JsonValue

/-- One bounded authoritative read requested while building a projection. -/
inductive WorldProjectionReadRequest
  | entity (entityId : EntityId)
  | relation (relationId : RelationId)
  | facet (target : WorldSystemFacetTarget) (schema : SchemaKey)
  | canControl (actorEntity : EntityId) (commandSchema : SchemaKey)
  deriving DecidableEq

/-- One read result returned to the projection provider. -/
inductive WorldProjectionReadResult
  | entity (entityId : EntityId) (value : Option WorldSystemEntityRecord)
  | relation (relationId : RelationId) (value : Option WorldSystemRelationRecord)
  | facet (target : WorldSystemFacetTarget) (schema : SchemaKey)
      (value : Option WorldSystemFacetRecord)
  | canControl (actorEntity : EntityId) (commandSchema : SchemaKey) (allowed : Bool)

/-- Stateless continuation envelope sent to a projection provider. -/
structure WorldProjectionServiceRequest where
  worldId : WorldId
  snapshotPosition : Nat
  projectionSchema : SchemaKey
  principal : PrincipalId
  input : JsonValue
  reads : List WorldProjectionReadResult

/-- Response produced by one projection service invocation. -/
inductive WorldProjectionServiceResponse
  | complete (value : JsonValue)
  | read (requests : List WorldProjectionReadRequest)
  | rejected (reason : String)
  | failed (reason : String)

/-- One immutable policy-filtered view produced at a world position. -/
structure WorldProjectionView where
  worldId : WorldId
  snapshotPosition : Nat
  schema : SchemaKey
  principal : PrincipalId
  value : JsonValue

end Rintawa.Sdk
