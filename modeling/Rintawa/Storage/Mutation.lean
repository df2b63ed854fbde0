/-
# Applying mutations to the state tables

Each mutation is a few guarded statements. Deleting a row deletes the rows that
refer to it: an entity takes its grants, relations and facets with it, a relation
its facets, and a grant its schema rows. A characterization of success for each
mutation follows the definitions; all later reasoning uses only that.
-/

import Rintawa.Storage.Codec

namespace Rintawa.Storage

open Rintawa.Lib Rintawa.Sdk Rintawa.World

namespace StateTables

def entityExists (s : StateTables) (id : EntityId) : Bool :=
  (s.entities.map EntityRow.entityId).contains id

def relationExists (s : StateTables) (id : RelationId) : Bool :=
  (s.relations.map RelationRow.relationId).contains id

def grantExists (s : StateTables) (id : ControlGrantId) : Bool :=
  (s.controlGrants.map ControlGrantRow.grantId).contains id

variable {s : StateTables}

@[simp]
theorem entityExists_iff {id : EntityId} :
    s.entityExists id = true ↔ id ∈ s.entities.map EntityRow.entityId := by
  simp only [entityExists, List.contains_iff_mem]

@[simp]
theorem relationExists_iff {id : RelationId} :
    s.relationExists id = true ↔ id ∈ s.relations.map RelationRow.relationId := by
  simp only [relationExists, List.contains_iff_mem]

@[simp]
theorem grantExists_iff {id : ControlGrantId} :
    s.grantExists id = true ↔ id ∈ s.controlGrants.map ControlGrantRow.grantId := by
  simp only [grantExists, List.contains_iff_mem]

/-! ## Deletion with cascades -/

/-- Delete grants and, with them, their schema rows. -/
def deleteGrants (s : StateTables) (doomed : ControlGrantRow → Bool) : StateTables :=
  { s with
    controlGrants := s.controlGrants.filter fun grant => !doomed grant
    controlGrantSchemas := s.controlGrantSchemas.filter fun row =>
      !(s.controlGrants.any fun grant => doomed grant && decide (grant.grantId = row.grantId)) }

/-- Delete relations and, with them, their facets. -/
def deleteRelations (s : StateTables) (doomed : RelationRow → Bool) : StateTables :=
  { s with
    relations := s.relations.filter fun relation => !doomed relation
    relationFacets := s.relationFacets.filter fun row =>
      !(s.relations.any fun relation =>
        doomed relation && decide (relation.relationId = row.relationId)) }

/-- Whether a relation has the entity as an endpoint. -/
def touches (id : EntityId) (relation : RelationRow) : Bool :=
  decide (relation.fromEntityId = id) || decide (relation.toEntityId = id)

/-- Delete an entity and everything that refers to it. -/
def deleteEntity (s : StateTables) (id : EntityId) : StateTables :=
  { (s.deleteGrants fun grant => decide (grant.actorEntityId = id)).deleteRelations
      (touches id) with
    entities := s.entities.filter fun row => !decide (row.entityId = id)
    entityFacets := s.entityFacets.filter fun row => !decide (row.entityId = id) }

/-! ## Insertion -/

def insertEntity (s : StateTables) (position : Nat) (entity : EntityRecord) : StateTables :=
  { s with
    entities := s.entities ++ [⟨entity.id, schemaColumns entity.schema, position⟩] }

def insertRelation (s : StateTables) (position : Nat) (relation : RelationRecord) :
    StateTables :=
  { s with
    relations := s.relations ++ [⟨relation.id, schemaColumns relation.schema, relation.from,
      relation.to, position⟩] }

/-- Write a facet row, replacing the one under the same target and schema. -/
def upsertFacet (s : StateTables) (position : Nat) (facet : FacetRecord) : StateTables :=
  let payloadJson := facet.payload.json.toText
  let schema := schemaColumns facet.schema
  match facet.target with
  | .world =>
      { s with
        worldFacets := upsert WorldFacetRow.schema s.worldFacets
          ⟨schema, payloadJson, position⟩ }
  | .entity id =>
      { s with
        entityFacets := upsert (fun row => (row.entityId, row.schema)) s.entityFacets
          ⟨id, schema, payloadJson, position⟩ }
  | .relation id =>
      { s with
        relationFacets := upsert (fun row => (row.relationId, row.schema)) s.relationFacets
          ⟨id, schema, payloadJson, position⟩ }

/-- Delete the facet row under a target and a schema, if there is one. -/
def deleteFacet (s : StateTables) (target : FacetTarget) (schema : SchemaColumns) :
    StateTables :=
  match target with
  | .world =>
      { s with
        worldFacets := s.worldFacets.filter fun row => !decide (row.schema = schema) }
  | .entity id =>
      { s with
        entityFacets := s.entityFacets.filter fun row =>
          !(decide (row.entityId = id) && decide (row.schema = schema)) }
  | .relation id =>
      { s with
        relationFacets := s.relationFacets.filter fun row =>
          !(decide (row.relationId = id) && decide (row.schema = schema)) }

end StateTables

/-! ## The statements of one mutation -/

/-- The foreign key to `world_schemas`. -/
def ParentKeys.requireSchema (parents : ParentKeys) (schema : SchemaColumns) :
    Except StorageError Unit :=
  ensure (parents.schemas.contains schema) (.sqlite .foreignKey)

/-- The foreign key to `world_commits`. -/
def ParentKeys.requireCommit (parents : ParentKeys) (position : Nat) :
    Except StorageError Unit :=
  ensure (parents.commits.contains position) (.sqlite .foreignKey)

variable {parents : ParentKeys} {result : Unit} {position : Nat} {s : StateTables}

@[simp]
theorem ParentKeys.requireSchema_eq_ok_iff {schema : SchemaColumns} :
    parents.requireSchema schema = .ok result ↔ schema ∈ parents.schemas := by
  simp [ParentKeys.requireSchema]

@[simp]
theorem ParentKeys.requireCommit_eq_ok_iff :
    parents.requireCommit position = .ok result ↔ position ∈ parents.commits := by
  simp [ParentKeys.requireCommit]

def ensureRelationEndpoint (s : StateTables) (relationId : RelationId) (entityId : EntityId) :
    Except StorageError Unit :=
  ensure (s.entityExists entityId) (.world (.relationEndpointNotFound relationId entityId))

/-- A facet can only be attached to a target that exists. -/
def ensureFacetTarget (s : StateTables) : FacetTarget → Except StorageError Unit
  | .world => .ok ()
  | .entity id => ensure (s.entityExists id) (.world .facetTargetNotFound)
  | .relation id => ensure (s.relationExists id) (.world .facetTargetNotFound)

def setFacet (parents : ParentKeys) (s : StateTables) (position : Nat) (facet : FacetRecord) :
    Except StorageError StateTables := do
  ensureFacetTarget s facet.target
  parents.requireSchema (schemaColumns facet.schema)
  parents.requireCommit position
  return s.upsertFacet position facet

def removeFacet (s : StateTables) (target : FacetTarget) (schema : SchemaKey) :
    Except StorageError StateTables := do
  ensureFacetTarget s target
  return s.deleteFacet target (schemaColumns schema)

/-- The stored code of a scope. -/
def scopeKindCode : ControlScope → Nat
  | .anyCommand => 1
  | .exactSchemas _ => 2

/-- The schemas that a scope lists. -/
def scopeSchemas : ControlScope → List SchemaKey
  | .anyCommand => []
  | .exactSchemas schemas => schemas.keys

/-- Insert one scope row for each listed schema. -/
def insertGrantSchemas (parents : ParentKeys) (grantId : ControlGrantId) :
    List SchemaKey → List ControlGrantSchemaRow →
    Except StorageError (List ControlGrantSchemaRow)
  | [], rows => .ok rows
  | schema :: schemas, rows => do
      let next ← insertUnique (StorageError.sqlite .primaryKey) id rows
        ⟨grantId, schemaColumns schema⟩
      parents.requireSchema (schemaColumns schema)
      insertGrantSchemas parents grantId schemas next

def grantControl (parents : ParentKeys) (s : StateTables) (position : Nat)
    (grant : ControlGrant) : Except StorageError StateTables := do
  ensure (s.entityExists grant.actorEntity) (.world (.entityNotFound grant.actorEntity))
  ensure (!s.grantExists grant.id) (.world (.controlGrantAlreadyExists grant.id))
  let validThrough ← optionPositionToSql grant.validThroughPosition
  parents.requireCommit position
  let schemaRows ← insertGrantSchemas parents grant.id (scopeSchemas grant.scope)
    s.controlGrantSchemas
  return { s with
    controlGrants := s.controlGrants ++ [⟨grant.id, grant.principal, grant.actorEntity,
      scopeKindCode grant.scope, validThrough, position⟩]
    controlGrantSchemas := schemaRows }

/-- Apply one mutation to the state tables. -/
def applyMutation (parents : ParentKeys) (s : StateTables) (position : Nat) :
    WorldMutation → Except StorageError StateTables
  | .createEntity entity => do
      ensure (!s.entityExists entity.id) (.world (.entityAlreadyExists entity.id))
      parents.requireSchema (schemaColumns entity.schema)
      parents.requireCommit position
      return s.insertEntity position entity
  | .deleteEntity entityId => do
      ensure (s.entityExists entityId) (.world (.entityNotFound entityId))
      return s.deleteEntity entityId
  | .createRelation relation => do
      ensure (!s.relationExists relation.id) (.world (.relationAlreadyExists relation.id))
      ensureRelationEndpoint s relation.id relation.from
      ensureRelationEndpoint s relation.id relation.to
      parents.requireSchema (schemaColumns relation.schema)
      parents.requireCommit position
      return s.insertRelation position relation
  | .deleteRelation relationId => do
      ensure (s.relationExists relationId) (.world (.relationNotFound relationId))
      return s.deleteRelations fun relation => decide (relation.relationId = relationId)
  | .setFacet facet => setFacet parents s position facet
  | .removeFacet target schema => removeFacet s target schema
  | .grantControl grant => grantControl parents s position grant
  | .revokeControl grantId => do
      ensure (s.grantExists grantId) (.world (.controlGrantNotFound grantId))
      return s.deleteGrants fun grant => decide (grant.grantId = grantId)

/-! ## When a mutation succeeds -/

/-- The target of a facet exists. -/
def StateTables.HasTarget (s : StateTables) : FacetTarget → Prop
  | .world => True
  | .entity id => id ∈ s.entities.map EntityRow.entityId
  | .relation id => id ∈ s.relations.map RelationRow.relationId

@[simp]
theorem ensureFacetTarget_eq_ok_iff {target : FacetTarget} :
    ensureFacetTarget s target = .ok result ↔ s.HasTarget target := by
  cases target <;> simp [ensureFacetTarget, StateTables.HasTarget]

/-- The grant row of a grant made at a position. -/
def grantRow (grant : ControlGrant) (position : Nat) : ControlGrantRow :=
  ⟨grant.id, grant.principal, grant.actorEntity, scopeKindCode grant.scope,
    grant.validThroughPosition, position⟩

/-- The scope rows of a grant. -/
def grantSchemaRows (grant : ControlGrant) : List ControlGrantSchemaRow :=
  (scopeSchemas grant.scope).map fun schema => ⟨grant.id, schemaColumns schema⟩

/-- The state tables with one more grant. -/
def StateTables.insertGrant (s : StateTables) (position : Nat) (grant : ControlGrant) :
    StateTables :=
  { s with
    controlGrants := s.controlGrants ++ [grantRow grant position]
    controlGrantSchemas := s.controlGrantSchemas ++ grantSchemaRows grant }

/-- The guard of a mutation together with its effect. -/
def Applies (parents : ParentKeys) (s : StateTables) (position : Nat)
    (mutation : WorldMutation) (s' : StateTables) : Prop :=
  match mutation with
  | .createEntity entity =>
      entity.id ∉ s.entities.map EntityRow.entityId ∧
        schemaColumns entity.schema ∈ parents.schemas ∧ position ∈ parents.commits ∧
        s' = s.insertEntity position entity
  | .deleteEntity entityId =>
      entityId ∈ s.entities.map EntityRow.entityId ∧ s' = s.deleteEntity entityId
  | .createRelation relation =>
      relation.id ∉ s.relations.map RelationRow.relationId ∧
        relation.from ∈ s.entities.map EntityRow.entityId ∧
        relation.to ∈ s.entities.map EntityRow.entityId ∧
        schemaColumns relation.schema ∈ parents.schemas ∧ position ∈ parents.commits ∧
        s' = s.insertRelation position relation
  | .deleteRelation relationId =>
      relationId ∈ s.relations.map RelationRow.relationId ∧
        s' = s.deleteRelations fun relation => decide (relation.relationId = relationId)
  | .setFacet facet =>
      s.HasTarget facet.target ∧ schemaColumns facet.schema ∈ parents.schemas ∧
        position ∈ parents.commits ∧ s' = s.upsertFacet position facet
  | .removeFacet target schema =>
      s.HasTarget target ∧ s' = s.deleteFacet target (schemaColumns schema)
  | .grantControl grant =>
      grant.actorEntity ∈ s.entities.map EntityRow.entityId ∧
        grant.id ∉ s.controlGrants.map ControlGrantRow.grantId ∧
        (∀ value ∈ grant.validThroughPosition, value < positionLimit) ∧
        position ∈ parents.commits ∧
        (∀ schema ∈ scopeSchemas grant.scope, schemaColumns schema ∈ parents.schemas ∧
          ⟨grant.id, schemaColumns schema⟩ ∉ s.controlGrantSchemas) ∧
        (scopeSchemas grant.scope).Nodup ∧ s' = s.insertGrant position grant
  | .revokeControl grantId =>
      grantId ∈ s.controlGrants.map ControlGrantRow.grantId ∧
        s' = s.deleteGrants fun grant => decide (grant.grantId = grantId)

theorem insertGrantSchemas_eq_ok_iff {parents : ParentKeys} {grantId : ControlGrantId} :
    ∀ {schemas : List SchemaKey} {rows rows' : List ControlGrantSchemaRow},
      insertGrantSchemas parents grantId schemas rows = .ok rows' ↔
        (∀ schema ∈ schemas, schemaColumns schema ∈ parents.schemas ∧
          ⟨grantId, schemaColumns schema⟩ ∉ rows) ∧ schemas.Nodup ∧
        rows' = rows ++ schemas.map fun schema => ⟨grantId, schemaColumns schema⟩
  | [], rows, rows' => by simp [insertGrantSchemas, eq_comm]
  | schema :: schemas, rows, rows' => by
      simp only [insertGrantSchemas, bind_eq_ok_iff, insertUnique_eq_ok_iff, List.map_id, id,
        ParentKeys.requireSchema_eq_ok_iff, insertGrantSchemas_eq_ok_iff]
      constructor
      · rintro ⟨next, ⟨hfree, rfl⟩, _, hregistered, hrest, hnodup, rfl⟩
        have hnot : schema ∉ schemas := fun hmem => (hrest schema hmem).2 (by simp)
        refine ⟨?_, List.nodup_cons.mpr ⟨hnot, hnodup⟩, by simp⟩
        intro other hother
        rcases List.mem_cons.mp hother with rfl | hmem
        · exact ⟨hregistered, hfree⟩
        · obtain ⟨hparent, hnotin⟩ := hrest other hmem
          exact ⟨hparent, fun hin => hnotin (List.mem_append_left _ hin)⟩
      · rintro ⟨hall, hnodup, rfl⟩
        obtain ⟨hnot, hnodup⟩ := List.nodup_cons.mp hnodup
        obtain ⟨hregistered, hfree⟩ := hall schema List.mem_cons_self
        refine ⟨_, ⟨hfree, rfl⟩, (), hregistered, ?_, hnodup, by simp⟩
        intro other hother
        obtain ⟨hparent, hnotin⟩ := hall other (List.mem_cons_of_mem _ hother)
        refine ⟨hparent, fun hin => ?_⟩
        rcases List.mem_append.mp hin with hin | hlast
        · exact hnotin hin
        · simp only [List.mem_singleton, ControlGrantSchemaRow.mk.injEq, true_and] at hlast
          exact hnot (schemaColumns_injective hlast ▸ hother)

/-- A mutation succeeds exactly when its guard holds, and then has its effect. -/
theorem applyMutation_eq_ok_iff {s' : StateTables} {mutation : WorldMutation} :
    applyMutation parents s position mutation = .ok s' ↔
      Applies parents s position mutation s' := by
  cases mutation with
  | grantControl grant =>
      simp only [applyMutation, grantControl, bind_eq_ok_iff, Applies,
        ensure_eq_ok_iff, optionPositionToSql_eq_ok_iff, insertGrantSchemas_eq_ok_iff,
        StateTables.entityExists_iff, Bool.not_eq_true', ParentKeys.requireCommit_eq_ok_iff,
        pure, Except.pure, Except.ok.injEq, ← Bool.not_eq_true, StateTables.grantExists_iff]
      constructor
      · rintro ⟨_, hactor, _, hfree, _, ⟨hvalid, rfl⟩, _, hcommit, _, ⟨hscope, hnodup, rfl⟩, rfl⟩
        exact ⟨hactor, hfree, hvalid, hcommit, hscope, hnodup, rfl⟩
      · rintro ⟨hactor, hfree, hvalid, hcommit, hscope, hnodup, rfl⟩
        exact ⟨(), hactor, (), hfree, _, ⟨hvalid, rfl⟩, (), hcommit, _, ⟨hscope, hnodup, rfl⟩,
          rfl⟩
  | _ =>
      simp [applyMutation, setFacet, removeFacet, ensureRelationEndpoint, bind_eq_ok_iff,
        Applies, ← Bool.not_eq_true, pure, Except.pure, @eq_comm _ s']

/-- A mutation that succeeds still succeeds, with the same effect, when more
keys can be referred to. -/
theorem applyMutation_mono {parents' : ParentKeys} {s' : StateTables} {mutation : WorldMutation}
    (hwithin : parents.Within parents') (h : applyMutation parents s position mutation = .ok s') :
    applyMutation parents' s position mutation = .ok s' := by
  rw [applyMutation_eq_ok_iff] at h ⊢
  cases mutation with
  | createEntity entity =>
      obtain ⟨hfree, hschema, hcommit, heffect⟩ := h
      exact ⟨hfree, hwithin.schemas hschema, hwithin.commits hcommit, heffect⟩
  | deleteEntity entityId => exact h
  | createRelation relation =>
      obtain ⟨hfree, hfrom, hto, hschema, hcommit, heffect⟩ := h
      exact ⟨hfree, hfrom, hto, hwithin.schemas hschema, hwithin.commits hcommit, heffect⟩
  | deleteRelation relationId => exact h
  | setFacet facet =>
      obtain ⟨htarget, hschema, hcommit, heffect⟩ := h
      exact ⟨htarget, hwithin.schemas hschema, hwithin.commits hcommit, heffect⟩
  | removeFacet target schema => exact h
  | grantControl grant =>
      obtain ⟨hactor, hfree, hvalid, hcommit, hscope, hnodup, heffect⟩ := h
      refine ⟨hactor, hfree, hvalid, hwithin.commits hcommit, ?_, hnodup, heffect⟩
      intro schema hschema
      obtain ⟨hparent, hnotin⟩ := hscope schema hschema
      exact ⟨hwithin.schemas hparent, hnotin⟩
  | revokeControl grantId => exact h

end Rintawa.Storage
