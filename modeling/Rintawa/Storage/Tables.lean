/-
# The tables of one world database

One structure a row, one list a table, rows in insertion order. Schema keys are
stored as two columns, enumerations as integer codes, and documents as their
JSON text. The seven state tables, which mutations change, are grouped; the
remaining tables only grow, except for the delivery columns of effect jobs.
-/

import Rintawa.Storage.Error
import Rintawa.World.Transaction

namespace Rintawa.Storage

open Rintawa.Lib Rintawa.Sdk Rintawa.World

/-- The two columns that hold a schema key. -/
structure SchemaColumns where
  schemaId : String
  schemaVersion : Nat
  deriving DecidableEq, Repr

/-- The columns of a schema key. -/
def schemaColumns (key : SchemaKey) : SchemaColumns :=
  ⟨key.id.asStr, key.version.get⟩

theorem schemaColumns_injective : Function.Injective schemaColumns := by
  intro a b h
  simp only [schemaColumns, SchemaColumns.mk.injEq] at h
  exact SchemaKey.ext_columns h.1 h.2

/-- A row of `world_schemas`. -/
structure SchemaRow where
  schema : SchemaColumns
  kind : Nat
  ownerExtensionId : String
  definitionJson : String
  deriving DecidableEq

/-- A row of `world_commits`. -/
structure CommitRow (Digest : Type) where
  commitPosition : Nat
  commandId : CommandId
  commandSchema : SchemaColumns
  principalId : PrincipalId
  actorKind : Nat
  actorId : Uuid
  causationKind : Option Nat
  causationId : Option Uuid
  correlationId : CorrelationId
  expectedPosition : Option Nat
  effectiveAtMs : Option Int
  recordedAtMs : Int
  commandPayloadJson : String
  commandDigest : Digest

/-- A row of `entities`. -/
structure EntityRow where
  entityId : EntityId
  schema : SchemaColumns
  createdPosition : Nat
  deriving DecidableEq

/-- A row of `control_grants`. -/
structure ControlGrantRow where
  grantId : ControlGrantId
  principalId : PrincipalId
  actorEntityId : EntityId
  scopeKind : Nat
  validThroughPosition : Option Nat
  createdPosition : Nat
  deriving DecidableEq

/-- A row of `control_grant_schemas`. -/
structure ControlGrantSchemaRow where
  grantId : ControlGrantId
  schema : SchemaColumns
  deriving DecidableEq

/-- A row of `relations`. -/
structure RelationRow where
  relationId : RelationId
  schema : SchemaColumns
  fromEntityId : EntityId
  toEntityId : EntityId
  createdPosition : Nat
  deriving DecidableEq

/-- A row of `world_facets`. -/
structure WorldFacetRow where
  schema : SchemaColumns
  payloadJson : String
  updatedPosition : Nat
  deriving DecidableEq

/-- A row of `entity_facets`. -/
structure EntityFacetRow where
  entityId : EntityId
  schema : SchemaColumns
  payloadJson : String
  updatedPosition : Nat
  deriving DecidableEq

/-- A row of `relation_facets`. -/
structure RelationFacetRow where
  relationId : RelationId
  schema : SchemaColumns
  payloadJson : String
  updatedPosition : Nat
  deriving DecidableEq

/-- A row of `world_mutations`. -/
structure MutationRow where
  commitPosition : Nat
  mutationIndex : Nat
  formatVersion : Nat
  mutationJson : String
  deriving DecidableEq

/-- A row of `world_events`. -/
structure EventRow where
  eventId : WorldEventId
  commitPosition : Nat
  eventIndex : Nat
  schema : SchemaColumns
  payloadJson : String
  deriving DecidableEq

/-- A row of `effect_jobs`. -/
structure EffectJobRow where
  jobId : EffectJobId
  commitPosition : Nat
  jobIndex : Nat
  schema : SchemaColumns
  payloadJson : String
  status : Nat
  attemptCount : Nat
  availableAtMs : Int
  leaseExpiresAtMs : Option Int
  lastError : Option String
  deriving DecidableEq

/-- The tables that hold current state. -/
structure StateTables where
  entities : List EntityRow
  controlGrants : List ControlGrantRow
  controlGrantSchemas : List ControlGrantSchemaRow
  relations : List RelationRow
  worldFacets : List WorldFacetRow
  entityFacets : List EntityFacetRow
  relationFacets : List RelationFacetRow
  deriving DecidableEq

/-- State tables without rows. -/
def StateTables.empty : StateTables := ⟨[], [], [], [], [], [], []⟩

/-- The database of one world. -/
structure WorldStore (Digest : Type) where
  worldId : WorldId
  commitPosition : Nat
  worldSchemas : List SchemaRow
  worldCommits : List (CommitRow Digest)
  state : StateTables
  worldMutations : List MutationRow
  worldEvents : List EventRow
  effectJobs : List EffectJobRow

/-- A newly created world. -/
def WorldStore.create (Digest : Type) (worldId : WorldId) : WorldStore Digest where
  worldId := worldId
  commitPosition := 0
  worldSchemas := []
  worldCommits := []
  state := .empty
  worldMutations := []
  worldEvents := []
  effectJobs := []

/-- The keys that rows of the state tables may refer to in other tables. -/
structure ParentKeys where
  schemas : List SchemaColumns
  commits : List Nat

/-- Every key on the left can be referred to on the right. -/
structure ParentKeys.Within (parents parents' : ParentKeys) : Prop where
  schemas : parents.schemas ⊆ parents'.schemas
  commits : parents.commits ⊆ parents'.commits

/-- The referable keys of a database. -/
def WorldStore.parentKeys {Digest : Type} (store : WorldStore Digest) : ParentKeys :=
  ⟨store.worldSchemas.map SchemaRow.schema, store.worldCommits.map CommitRow.commitPosition⟩

/-! ## Integer columns -/

/-- The first unsigned position that a signed 64-bit column cannot hold. -/
def positionLimit : Nat := 2 ^ 63

/-- The first index that an unsigned 32-bit integer cannot hold. -/
def indexLimit : Nat := 2 ^ 32

/-- Positions are stored as signed 64-bit integers. -/
def positionToSql (position : Nat) : Except StorageError Nat :=
  if position < positionLimit then .ok position
  else .error (.indexOutOfRange "commit_position")

/-- Indices are stored as unsigned 32-bit integers. -/
def indexToSql (index : Nat) (label : String) : Except StorageError Nat :=
  if index < indexLimit then .ok index else .error (.indexOutOfRange label)

theorem positionToSql_eq_ok_iff {position stored : Nat} :
    positionToSql position = .ok stored ↔ position < positionLimit ∧ stored = position := by
  unfold positionToSql
  split <;> simp_all [eq_comm]

theorem indexToSql_eq_ok_iff {index stored : Nat} {label : String} :
    indexToSql index label = .ok stored ↔ index < indexLimit ∧ stored = index := by
  unfold indexToSql
  split <;> simp_all [eq_comm]

/-- An optional position, converted when present. -/
def optionPositionToSql : Option Nat → Except StorageError (Option Nat)
  | none => .ok none
  | some position => (positionToSql position).map some

theorem optionPositionToSql_eq_ok_iff {position stored : Option Nat} :
    optionPositionToSql position = .ok stored ↔
      (∀ value ∈ position, value < positionLimit) ∧ stored = position := by
  cases position with
  | none => simp [optionPositionToSql, eq_comm]
  | some value =>
      by_cases hfits : value < positionLimit
      · simp [optionPositionToSql, positionToSql, hfits, Except.map, eq_comm]
      · simp [optionPositionToSql, positionToSql, hfits, Except.map]

end Rintawa.Storage
