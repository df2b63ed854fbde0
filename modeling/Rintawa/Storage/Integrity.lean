/-
# Referential integrity of the state tables

Every row refers only to rows that exist. Deletions keep this because they take
every referring row with them; the two cascading deletions are treated first, and
the deletion of an entity is composed from them. Rows of the result of a mutation
come from the state before or from that mutation.
-/

import Rintawa.Storage.Journal

namespace Rintawa.Storage

open Rintawa.Lib Rintawa.Sdk Rintawa.World

/-- Rows refer only to existing rows, under unique keys. -/
structure Integrity (s : StateTables) : Prop where
  entityIds : (s.entities.map EntityRow.entityId).Nodup
  relationIds : (s.relations.map RelationRow.relationId).Nodup
  grantIds : (s.controlGrants.map ControlGrantRow.grantId).Nodup
  endpoints : ∀ relation ∈ s.relations,
    relation.fromEntityId ∈ s.entities.map EntityRow.entityId ∧
      relation.toEntityId ∈ s.entities.map EntityRow.entityId
  actors : ∀ grant ∈ s.controlGrants,
    grant.actorEntityId ∈ s.entities.map EntityRow.entityId
  entityTargets : ∀ facet ∈ s.entityFacets,
    facet.entityId ∈ s.entities.map EntityRow.entityId
  relationTargets : ∀ facet ∈ s.relationFacets,
    facet.relationId ∈ s.relations.map RelationRow.relationId
  scopes : ∀ row ∈ s.controlGrantSchemas,
    row.grantId ∈ s.controlGrants.map ControlGrantRow.grantId

namespace Integrity

theorem empty : Integrity .empty := by
  constructor <;> simp [StateTables.empty]

variable {s s' : StateTables}

/-- A row that is kept stays available under its key. -/
theorem mem_map_filter {Row Key : Type} [DecidableEq Key] {key : Row → Key} {rows : List Row}
    {doomed : Row → Bool} {k : Key} (hmem : k ∈ rows.map key)
    (hkept : ¬ (rows.any fun row => doomed row && decide (key row = k)) = true) :
    k ∈ (rows.filter fun row => !doomed row).map key := by
  obtain ⟨row, hrow, rfl⟩ := List.mem_map.mp hmem
  refine List.mem_map_of_mem (List.mem_filter.mpr ⟨hrow, ?_⟩)
  cases hdoomed : doomed row with
  | false => rfl
  | true =>
      exact absurd (List.any_eq_true.mpr ⟨row, hrow, by simp [hdoomed]⟩) hkept

/-- Grants may be deleted. -/
theorem deleteGrants (h : Integrity s) (doomed : ControlGrantRow → Bool) :
    Integrity (s.deleteGrants doomed) :=
  { h with
    grantIds := nodup_map_filter _ h.grantIds
    actors := fun grant hgrant => h.actors grant (List.mem_of_mem_filter hgrant)
    scopes := by
      intro row hrow
      obtain ⟨hrow, hkept⟩ := List.mem_filter.mp hrow
      exact mem_map_filter (h.scopes row hrow) (by simpa using hkept) }

/-- Relations are deleted with their facets. -/
theorem deleteRelations (h : Integrity s) (doomed : RelationRow → Bool) :
    Integrity (s.deleteRelations doomed) :=
  { h with
    relationIds := nodup_map_filter _ h.relationIds
    endpoints := fun relation hrelation =>
      h.endpoints relation (List.mem_of_mem_filter hrelation)
    relationTargets := by
      intro facet hfacet
      obtain ⟨hfacet, hkept⟩ := List.mem_filter.mp hfacet
      exact mem_map_filter (h.relationTargets facet hfacet) (by simpa using hkept) }

theorem mem_entities_filter {rows : List EntityRow} {id other : EntityId}
    (hmem : other ∈ rows.map EntityRow.entityId) (hne : other ≠ id) :
    other ∈ (rows.filter fun row => !decide (row.entityId = id)).map EntityRow.entityId := by
  obtain ⟨row, hrow, rfl⟩ := List.mem_map.mp hmem
  exact List.mem_map_of_mem (List.mem_filter.mpr ⟨hrow, by simpa using hne⟩)

/-- An entity that no relation and no grant refers to can be removed together
with its facets. -/
theorem removeEntity (h : Integrity s) (id : EntityId)
    (hrelations : ∀ relation ∈ s.relations, StateTables.touches id relation = false)
    (hgrants : ∀ grant ∈ s.controlGrants, grant.actorEntityId ≠ id) :
    Integrity { s with
      entities := s.entities.filter fun row => !decide (row.entityId = id)
      entityFacets := s.entityFacets.filter fun row => !decide (row.entityId = id) } :=
  { h with
    entityIds := nodup_map_filter _ h.entityIds
    endpoints := by
      intro relation hrelation
      have hfree := hrelations relation hrelation
      simp only [StateTables.touches, Bool.or_eq_false_iff, decide_eq_false_iff_not] at hfree
      obtain ⟨hfrom, hto⟩ := h.endpoints relation hrelation
      exact ⟨mem_entities_filter hfrom hfree.1, mem_entities_filter hto hfree.2⟩
    actors := fun grant hgrant =>
      mem_entities_filter (h.actors grant hgrant) (hgrants grant hgrant)
    entityTargets := by
      intro facet hfacet
      obtain ⟨hfacet, hne⟩ := List.mem_filter.mp hfacet
      exact mem_entities_filter (h.entityTargets facet hfacet) (by simpa using hne) }

/-- An entity is deleted with all that depends on it. -/
theorem deleteEntity (h : Integrity s) (id : EntityId) : Integrity (s.deleteEntity id) := by
  refine ((h.deleteGrants _).deleteRelations (StateTables.touches id)).removeEntity id ?_ ?_
  · intro relation hrelation
    simpa using (List.mem_filter.mp hrelation).2
  · intro grant hgrant
    simpa using (List.mem_filter.mp hgrant).2

/-- A facet may be set on a target that is there. -/
theorem upsertFacet (h : Integrity s) {facet : FacetRecord} (position : Nat)
    (htarget : s.HasTarget facet.target) : Integrity (s.upsertFacet position facet) := by
  obtain ⟨target, schema, payload⟩ := facet
  cases target with
  | world => exact { h with }
  | entity id =>
      exact { h with
        entityTargets := by
          intro row hrow
          rcases mem_upsert.mp hrow with rfl | ⟨hrow, _⟩
          · exact htarget
          · exact h.entityTargets row hrow }
  | relation id =>
      exact { h with
        relationTargets := by
          intro row hrow
          rcases mem_upsert.mp hrow with rfl | ⟨hrow, _⟩
          · exact htarget
          · exact h.relationTargets row hrow }

/-- A facet may be deleted. -/
theorem deleteFacet (h : Integrity s) (target : FacetTarget) (schema : SchemaColumns) :
    Integrity (s.deleteFacet target schema) := by
  cases target with
  | world => exact { h with }
  | entity id =>
      exact { h with
        entityTargets := fun row hrow => h.entityTargets row (List.mem_of_mem_filter hrow) }
  | relation id =>
      exact { h with
        relationTargets := fun row hrow => h.relationTargets row (List.mem_of_mem_filter hrow) }

/-- Every mutation keeps referential integrity. -/
theorem applies {parents : ParentKeys} {position : Nat} {mutation : WorldMutation}
    (h : Integrity s) (happly : Applies parents s position mutation s') : Integrity s' := by
  cases mutation with
  | createEntity entity =>
      obtain ⟨hfree, _, _, rfl⟩ := happly
      have hgrow : s.entities.map EntityRow.entityId ⊆
          (s.insertEntity position entity).entities.map EntityRow.entityId := by
        simp [StateTables.insertEntity]
      exact { h with
        entityIds := nodup_map_snoc h.entityIds hfree
        endpoints := fun relation hrelation =>
          ⟨hgrow (h.endpoints relation hrelation).1, hgrow (h.endpoints relation hrelation).2⟩
        actors := fun grant hgrant => hgrow (h.actors grant hgrant)
        entityTargets := fun facet hfacet => hgrow (h.entityTargets facet hfacet) }
  | deleteEntity entityId =>
      obtain ⟨_, rfl⟩ := happly
      exact h.deleteEntity entityId
  | createRelation relation =>
      obtain ⟨hfree, hfrom, hto, _, _, rfl⟩ := happly
      have hgrow : s.relations.map RelationRow.relationId ⊆
          (s.insertRelation position relation).relations.map RelationRow.relationId := by
        simp [StateTables.insertRelation]
      exact { h with
        relationIds := nodup_map_snoc h.relationIds hfree
        endpoints := by
          intro row hrow
          rcases List.mem_append.mp hrow with hold | hnew
          · exact h.endpoints row hold
          · rw [List.mem_singleton.mp hnew]
            exact ⟨hfrom, hto⟩
        relationTargets := fun facet hfacet => hgrow (h.relationTargets facet hfacet) }
  | deleteRelation relationId =>
      obtain ⟨_, rfl⟩ := happly
      exact h.deleteRelations _
  | setFacet facet =>
      obtain ⟨htarget, _, _, rfl⟩ := happly
      exact h.upsertFacet position htarget
  | removeFacet target schema =>
      obtain ⟨_, rfl⟩ := happly
      exact h.deleteFacet target _
  | grantControl grant =>
      obtain ⟨hactor, hfree, _, _, _, _, rfl⟩ := happly
      exact { h with
        grantIds := nodup_map_snoc h.grantIds hfree
        actors := by
          intro row hrow
          rcases List.mem_append.mp hrow with hold | hnew
          · exact h.actors row hold
          · rw [List.mem_singleton.mp hnew]
            exact hactor
        scopes := by
          intro row hrow
          rcases List.mem_append.mp hrow with hold | hnew
          · have hmem := h.scopes row hold
            simp only [StateTables.insertGrant, List.map_append, List.mem_append]
            exact Or.inl hmem
          · obtain ⟨schema, _, rfl⟩ := List.mem_map.mp hnew
            simp [StateTables.insertGrant, grantRow] }
  | revokeControl grantId =>
      obtain ⟨_, rfl⟩ := happly
      exact h.deleteGrants _

/-- Replaying mutations keeps referential integrity. -/
theorem replay {parents : ParentKeys} {logged : List (Nat × WorldMutation)} (h : Integrity s)
    (hreplay : replay parents s logged = .ok s') : Integrity s' :=
  replay_preserves (P := Integrity)
    (fun _ _ _ _ hs happly => hs.applies (applyMutation_eq_ok_iff.mp happly)) h hreplay

end Integrity

/-- The state of a database with a journal has referential integrity. -/
theorem Journal.integrity {Digest : Type} {deps : Dependencies Digest}
    {entries : List CommitEntry} {store : WorldStore Digest} (h : Journal deps entries store) :
    Integrity store.state :=
  Integrity.empty.replay h.state

/-! ## Where rows come from -/

/-- A row of any state table. -/
inductive StateRow
  | entity (row : EntityRow)
  | relation (row : RelationRow)
  | worldFacet (row : WorldFacetRow)
  | entityFacet (row : EntityFacetRow)
  | relationFacet (row : RelationFacetRow)
  | controlGrant (row : ControlGrantRow)
  | controlGrantSchema (row : ControlGrantSchemaRow)

/-- The tables contain a row. -/
def StateTables.Has (s : StateTables) : StateRow → Prop
  | .entity row => row ∈ s.entities
  | .relation row => row ∈ s.relations
  | .worldFacet row => row ∈ s.worldFacets
  | .entityFacet row => row ∈ s.entityFacets
  | .relationFacet row => row ∈ s.relationFacets
  | .controlGrant row => row ∈ s.controlGrants
  | .controlGrantSchema row => row ∈ s.controlGrantSchemas

/-- A mutation made at a position writes a row. -/
def Makes (position : Nat) : WorldMutation → StateRow → Prop
  | .createEntity entity, .entity row =>
      row = ⟨entity.id, schemaColumns entity.schema, position⟩
  | .createRelation relation, .relation row =>
      row = ⟨relation.id, schemaColumns relation.schema, relation.from, relation.to, position⟩
  | .setFacet facet, .worldFacet row =>
      facet.target = .world ∧
        row = ⟨schemaColumns facet.schema, facet.payload.json.toText, position⟩
  | .setFacet facet, .entityFacet row =>
      facet.target = .entity row.entityId ∧
        row = ⟨row.entityId, schemaColumns facet.schema, facet.payload.json.toText, position⟩
  | .setFacet facet, .relationFacet row =>
      facet.target = .relation row.relationId ∧
        row = ⟨row.relationId, schemaColumns facet.schema, facet.payload.json.toText, position⟩
  | .grantControl grant, .controlGrant row => row = grantRow grant position
  | .grantControl grant, .controlGrantSchema row => row ∈ grantSchemaRows grant
  | _, _ => False

variable {row : StateRow}

/-- Deletions make no rows. -/
theorem has_of_deleteGrants {s : StateTables} {doomed : ControlGrantRow → Bool}
    (h : (s.deleteGrants doomed).Has row) : s.Has row := by
  cases row with
  | controlGrant row => exact List.mem_of_mem_filter h
  | controlGrantSchema row => exact List.mem_of_mem_filter h
  | _ => exact h

theorem has_of_deleteRelations {s : StateTables} {doomed : RelationRow → Bool}
    (h : (s.deleteRelations doomed).Has row) : s.Has row := by
  cases row with
  | relation row => exact List.mem_of_mem_filter h
  | relationFacet row => exact List.mem_of_mem_filter h
  | _ => exact h

theorem has_of_deleteEntity {s : StateTables} {id : EntityId} (h : (s.deleteEntity id).Has row) :
    s.Has row := by
  cases row with
  | entity row => exact List.mem_of_mem_filter h
  | entityFacet row => exact List.mem_of_mem_filter h
  | relation row => exact List.mem_of_mem_filter h
  | relationFacet row => exact List.mem_of_mem_filter h
  | controlGrant row => exact List.mem_of_mem_filter h
  | controlGrantSchema row => exact List.mem_of_mem_filter h
  | worldFacet row => exact h

theorem has_of_deleteFacet {s : StateTables} {target : FacetTarget} {schema : SchemaColumns}
    (h : (s.deleteFacet target schema).Has row) : s.Has row := by
  cases target <;> cases row <;> first | exact h | exact List.mem_of_mem_filter h

theorem has_of_upsertFacet {s : StateTables} {position : Nat} {facet : FacetRecord}
    (h : (s.upsertFacet position facet).Has row) :
    s.Has row ∨ Makes position (.setFacet facet) row := by
  obtain ⟨target, schema, payload⟩ := facet
  cases target with
  | world =>
      cases row with
      | worldFacet row =>
          rcases mem_upsert.mp h with rfl | ⟨hold, _⟩
          · exact Or.inr ⟨rfl, rfl⟩
          · exact Or.inl hold
      | _ => exact Or.inl h
  | entity id =>
      cases row with
      | entityFacet row =>
          rcases mem_upsert.mp h with rfl | ⟨hold, _⟩
          · exact Or.inr ⟨rfl, rfl⟩
          · exact Or.inl hold
      | _ => exact Or.inl h
  | relation id =>
      cases row with
      | relationFacet row =>
          rcases mem_upsert.mp h with rfl | ⟨hold, _⟩
          · exact Or.inr ⟨rfl, rfl⟩
          · exact Or.inl hold
      | _ => exact Or.inl h

/-- A row after a mutation was there before, or the mutation made it. -/
theorem has_origin {parents : ParentKeys} {s s' : StateTables} {position : Nat}
    {mutation : WorldMutation} (h : Applies parents s position mutation s') (hrow : s'.Has row) :
    s.Has row ∨ Makes position mutation row := by
  cases mutation with
  | createEntity entity =>
      obtain ⟨_, _, _, rfl⟩ := h
      cases row with
      | entity row =>
          rcases List.mem_append.mp hrow with hold | hnew
          · exact Or.inl hold
          · exact Or.inr (List.mem_singleton.mp hnew)
      | _ => exact Or.inl hrow
  | deleteEntity entityId =>
      obtain ⟨_, rfl⟩ := h
      exact Or.inl (has_of_deleteEntity hrow)
  | createRelation relation =>
      obtain ⟨_, _, _, _, _, rfl⟩ := h
      cases row with
      | relation row =>
          rcases List.mem_append.mp hrow with hold | hnew
          · exact Or.inl hold
          · exact Or.inr (List.mem_singleton.mp hnew)
      | _ => exact Or.inl hrow
  | deleteRelation relationId =>
      obtain ⟨_, rfl⟩ := h
      exact Or.inl (has_of_deleteRelations hrow)
  | setFacet facet =>
      obtain ⟨_, _, _, rfl⟩ := h
      exact has_of_upsertFacet hrow
  | removeFacet target schema =>
      obtain ⟨_, rfl⟩ := h
      exact Or.inl (has_of_deleteFacet hrow)
  | grantControl grant =>
      obtain ⟨_, _, _, _, _, _, rfl⟩ := h
      cases row with
      | controlGrant row =>
          rcases List.mem_append.mp hrow with hold | hnew
          · exact Or.inl hold
          · exact Or.inr (List.mem_singleton.mp hnew)
      | controlGrantSchema row =>
          rcases List.mem_append.mp hrow with hold | hnew
          · exact Or.inl hold
          · exact Or.inr hnew
      | _ => exact Or.inl hrow
  | revokeControl grantId =>
      obtain ⟨_, rfl⟩ := h
      exact Or.inl (has_of_deleteGrants hrow)

end Rintawa.Storage
