/-
# Current-state records and mutations
-/

import Rintawa.World.Authority

namespace Rintawa.World

open Rintawa.Lib Rintawa.Sdk

/-- One typed entity in authoritative current state. -/
structure EntityRecord where
  id : EntityId
  schema : SchemaKey
  deriving DecidableEq

/-- The members of an entity, in the order of its fields. -/
def EntityRecord.toJson (entity : EntityRecord) : Json :=
  .object [("id", entity.id.toJson), ("schema", entity.schema.toJson)]

/-- One typed directed relation between two entities. -/
structure RelationRecord where
  id : RelationId
  schema : SchemaKey
  «from» : EntityId
  «to» : EntityId
  deriving DecidableEq

/-- The members of a relation, in the order of its fields. -/
def RelationRecord.toJson (relation : RelationRecord) : Json :=
  .object [("id", relation.id.toJson), ("schema", relation.schema.toJson),
    ("from", relation.from.toJson), ("to", relation.to.toJson)]

/-- Target that owns one extension-defined facet. -/
inductive FacetTarget
  | world
  | entity (id : EntityId)
  | relation (id : RelationId)
  deriving DecidableEq

/-- The kind of the target comes first, then its id. -/
def FacetTarget.toJson : FacetTarget → Json
  | .world => .object [("kind", .string "world")]
  | .entity id => .object [("kind", .string "entity"), ("id", id.toJson)]
  | .relation id => .object [("kind", .string "relation"), ("id", id.toJson)]

/-- The text of a target determines it. -/
theorem FacetTarget.toJson_injective {a b : FacetTarget} (h : a.toJson = b.toJson) :
    a = b := by
  cases a <;> cases b <;> simp [FacetTarget.toJson] at h ⊢
  · exact OpaqueWorldId.toJson_injective h
  · exact OpaqueWorldId.toJson_injective h

/-- One current facet value attached to a world-state target. -/
structure FacetRecord where
  target : FacetTarget
  schema : SchemaKey
  payload : JsonValue

/-- The members of a facet, in the order of its fields. -/
def FacetRecord.toJson (facet : FacetRecord) : Json :=
  .object [("target", facet.target.toJson), ("schema", facet.schema.toJson),
    ("payload", facet.payload.json)]

/-- One generic current-state mutation within an atomic world transaction. -/
inductive WorldMutation
  | createEntity (entity : EntityRecord)
  | deleteEntity (entityId : EntityId)
  | createRelation (relation : RelationRecord)
  | deleteRelation (relationId : RelationId)
  | setFacet (facet : FacetRecord)
  | removeFacet (target : FacetTarget) (schema : SchemaKey)
  | grantControl (grant : ControlGrant)
  | revokeControl (grantId : ControlGrantId)

/-- The serialized form of a mutation in the append-only log. -/
def WorldMutation.toJson : WorldMutation → Json
  | .createEntity entity =>
      .object [("operation", .string "create-entity"), ("entity", entity.toJson)]
  | .deleteEntity entityId =>
      .object [("operation", .string "delete-entity"), ("entity_id", entityId.toJson)]
  | .createRelation relation =>
      .object [("operation", .string "create-relation"), ("relation", relation.toJson)]
  | .deleteRelation relationId =>
      .object [("operation", .string "delete-relation"), ("relation_id", relationId.toJson)]
  | .setFacet facet =>
      .object [("operation", .string "set-facet"), ("facet", facet.toJson)]
  | .removeFacet target schema =>
      .object [("operation", .string "remove-facet"), ("target", target.toJson),
        ("schema", schema.toJson)]
  | .grantControl grant =>
      .object [("operation", .string "grant-control"), ("grant", grant.toJson)]
  | .revokeControl grantId =>
      .object [("operation", .string "revoke-control"), ("grant_id", grantId.toJson)]

/-- The text of an entity determines it. -/
theorem EntityRecord.toJson_injective {a b : EntityRecord} (h : a.toJson = b.toJson) :
    a = b := by
  obtain ⟨id, schema⟩ := a
  obtain ⟨id', schema'⟩ := b
  simp only [EntityRecord.toJson, Json.object.injEq, List.cons.injEq, Prod.mk.injEq,
    true_and, and_true] at h
  rw [OpaqueWorldId.toJson_injective h.1, SchemaKey.toJson_injective h.2]

/-- The text of a relation determines it. -/
theorem RelationRecord.toJson_injective {a b : RelationRecord} (h : a.toJson = b.toJson) :
    a = b := by
  obtain ⟨id, schema, source, target⟩ := a
  obtain ⟨id', schema', source', target'⟩ := b
  simp only [RelationRecord.toJson, Json.object.injEq, List.cons.injEq, Prod.mk.injEq,
    true_and, and_true] at h
  obtain ⟨hid, hschema, hsource, htarget⟩ := h
  rw [OpaqueWorldId.toJson_injective hid, SchemaKey.toJson_injective hschema,
    OpaqueWorldId.toJson_injective hsource, OpaqueWorldId.toJson_injective htarget]

/-- The text of a facet determines it. -/
theorem FacetRecord.toJson_injective {a b : FacetRecord} (h : a.toJson = b.toJson) :
    a = b := by
  obtain ⟨target, schema, json, _⟩ := a
  obtain ⟨target', schema', json', _⟩ := b
  simp only [FacetRecord.toJson, Json.object.injEq, List.cons.injEq, Prod.mk.injEq,
    true_and, and_true] at h
  obtain ⟨htarget, hschema, rfl⟩ := h
  rw [FacetTarget.toJson_injective htarget, SchemaKey.toJson_injective hschema]

/-- A log entry determines the mutation it was written for. -/
theorem WorldMutation.toJson_injective {a b : WorldMutation} (h : a.toJson = b.toJson) :
    a = b := by
  cases a <;> cases b <;> simp [WorldMutation.toJson] at h ⊢
  · exact EntityRecord.toJson_injective h
  · exact OpaqueWorldId.toJson_injective h
  · exact RelationRecord.toJson_injective h
  · exact OpaqueWorldId.toJson_injective h
  · exact FacetRecord.toJson_injective h
  · exact ⟨FacetTarget.toJson_injective h.1, SchemaKey.toJson_injective h.2⟩
  · exact ControlGrant.toJson_injective h
  · exact OpaqueWorldId.toJson_injective h

end Rintawa.World
