/-
# Projections do not depend on foreign data

Two snapshots may differ in everything that does not belong to the owner of a
projection. Every read is answered alike on both: what the owner has is the same,
and what another owner has looks absent, whether it is there or not. That the
filter itself never fails on foreign rows rests on the rows of a reachable
database having readable schemas.
-/

import Rintawa.Storage.Conformance
import Rintawa.WorldRuntime.Projection

namespace Rintawa.WorldRuntime

open Rintawa.Lib Rintawa.Sdk Rintawa.World Rintawa.Storage

variable {Digest : Type} {deps : Dependencies Digest}

/-! ## What an owner has -/

/-- A schema of a kind is registered for an owner. -/
def Owned (deps : Dependencies Digest) (pinned : WorldSnapshot) (owner : ExtensionId)
    (kind : SchemaKind) (schema : SchemaKey) : Prop :=
  ∃ definition, pinned.loadSchemaDefinition deps schema = .ok (some definition) ∧
    definition.kind = kind ∧ definition.owner = owner

/-- Two snapshots of one world and position with the same schema definitions agree
on everything that an owner has. -/
structure AgreeOnOwned (deps : Dependencies Digest) (owner : ExtensionId)
    (principal : PrincipalId) (a b : WorldSnapshot) : Prop where
  worldId : a.worldId = b.worldId
  position : a.position = b.position
  schemas : ∀ schema, a.loadSchemaDefinition deps schema = b.loadSchemaDefinition deps schema
  entities : ∀ id entity, Owned deps a owner .entity entity.schema →
    (a.loadEntity id = .ok (some entity) ↔ b.loadEntity id = .ok (some entity))
  relations : ∀ id relation, Owned deps a owner .relation relation.schema →
    (a.loadRelation id = .ok (some relation) ↔ b.loadRelation id = .ok (some relation))
  facets : ∀ target schema, Owned deps a owner .facet schema →
    a.loadFacet deps target schema = b.loadFacet deps target schema
  control : ∀ actorEntity schema, Owned deps a owner .command schema →
    a.principalCanControl principal actorEntity schema =
      b.principalCanControl principal actorEntity schema

/-! ## Filtered reads -/

/-- Who owns a schema depends on its definition only. -/
theorem schemaOwnedBy_eq {a b : WorldSnapshot} {schema : SchemaKey}
    (h : a.loadSchemaDefinition deps schema = b.loadSchemaDefinition deps schema)
    (owner : ExtensionId) (kind : SchemaKind) :
    schemaOwnedBy deps a schema owner kind = schemaOwnedBy deps b schema owner kind := by
  rw [schemaOwnedBy, schemaOwnedBy, h]

variable {kind : SchemaKind}

/-- A schema is owned if the check says so. -/
theorem owned_of_schemaOwnedBy {pinned : WorldSnapshot} {schema : SchemaKey} {owner : ExtensionId}
    (h : schemaOwnedBy deps pinned schema owner kind = .ok true) :
    Owned deps pinned owner kind schema := by
  obtain ⟨loaded, hload, h⟩ := bind_eq_ok_iff.mp h
  cases loaded with
  | none => cases h
  | some definition =>
      have hboth : (decide (definition.kind = kind) && decide (definition.owner = owner)) = true :=
        Except.ok.inj h
      simp only [Bool.and_eq_true, decide_eq_true_eq] at hboth
      exact ⟨definition, hload, hboth⟩

/-- A record that was loaded, if any, has a readable schema. -/
def Readable {Record : Type} (deps : Dependencies Digest) (pinned : WorldSnapshot)
    (schemaOf : Record → SchemaKey) (loaded : Except StorageError (Option Record)) : Prop :=
  loaded = .ok none ∨ ∃ record definition, loaded = .ok (some record) ∧
    pinned.loadSchemaDefinition deps (schemaOf record) = .ok (some definition)

/-- The filter lets through exactly the records of the owner, and never fails on
readable records. -/
theorem ownedRecord_spec {Record : Type} {pinned : WorldSnapshot} {owner : ExtensionId}
    {kind : SchemaKind} {schemaOf : Record → SchemaKey}
    {loaded : Except StorageError (Option Record)} (h : Readable deps pinned schemaOf loaded) :
    ∃ value, ownedRecord deps pinned owner kind schemaOf loaded = .ok value ∧
      ∀ record, value = some record ↔
        (loaded = .ok (some record) ∧ Owned deps pinned owner kind (schemaOf record)) := by
  rcases h with rfl | ⟨record, definition, rfl, hschema⟩
  · exact ⟨none, rfl, by simp⟩
  · have hfilter : schemaOwnedBy deps pinned (schemaOf record) owner kind =
        .ok (decide (definition.kind = kind) && decide (definition.owner = owner)) := by
      rw [schemaOwnedBy, hschema]
      rfl
    have howned : Owned deps pinned owner kind (schemaOf record) ↔
        (definition.kind = kind ∧ definition.owner = owner) := by
      simp only [Owned, hschema, Except.ok.injEq, Option.some.injEq, exists_eq_left']
    by_cases hmatch : definition.kind = kind ∧ definition.owner = owner
    · refine ⟨some record, ?_, fun other => ?_⟩
      · simp only [ownedRecord, bind, Except.bind, hfilter, hmatch, decide_true, Bool.and_self,
          if_true]
        rfl
      · simp only [Option.some.injEq, Except.ok.injEq]
        exact ⟨fun heq => ⟨heq, heq ▸ howned.mpr hmatch⟩, fun h => h.1⟩
    · refine ⟨none, ?_, fun other => ?_⟩
      · have hfalse : (decide (definition.kind = kind) && decide (definition.owner = owner)) =
            false := by
          simpa [← Bool.not_eq_true] using hmatch
        simp only [ownedRecord, bind, Except.bind, hfilter, hfalse]
        rfl
      · simp only [reduceCtorEq, Except.ok.injEq, Option.some.injEq, false_iff]
        rintro ⟨rfl, hother⟩
        exact hmatch (howned.mp hother)

/-- So it gives the same on two loads that agree on the records of the owner. -/
theorem ownedRecord_eq {Record : Type} {a b : WorldSnapshot} {owner : ExtensionId}
    {schemaOf : Record → SchemaKey} {loadedA loadedB : Except StorageError (Option Record)}
    (hschemas : ∀ schema, a.loadSchemaDefinition deps schema = b.loadSchemaDefinition deps schema)
    (ha : Readable deps a schemaOf loadedA) (hb : Readable deps b schemaOf loadedB)
    (hagree : ∀ record, Owned deps a owner kind (schemaOf record) →
      (loadedA = .ok (some record) ↔ loadedB = .ok (some record))) :
    ownedRecord deps a owner kind schemaOf loadedA =
      ownedRecord deps b owner kind schemaOf loadedB := by
  obtain ⟨valueA, hvalueA, hspecA⟩ := @ownedRecord_spec _ _ _ _ owner kind _ _ ha
  obtain ⟨valueB, hvalueB, hspecB⟩ := @ownedRecord_spec _ _ _ _ owner kind _ _ hb
  rw [hvalueA, hvalueB]
  refine congrArg Except.ok (Option.ext fun record => ?_)
  have howned : Owned deps a owner kind (schemaOf record) ↔
      Owned deps b owner kind (schemaOf record) := by
    rw [Owned, Owned, hschemas]
  rw [hspecA, hspecB, ← howned]
  exact and_congr_left fun h => hagree record h

/-! ## Reachable databases -/

section Reachable

variable [DecidableEq Digest]

omit [DecidableEq Digest] in
/-- A registered schema can be loaded under the key in its columns. -/
theorem load_of_registered {rows : List SchemaRow} (hunique : (rows.map SchemaRow.schema).Nodup)
    {columns : SchemaColumns} (h : Registered deps rows columns kind) :
    ∃ key definition, decodeSchemaKey columns = .ok key ∧
      loadSchema deps rows key = .ok (some definition) := by
  obtain ⟨row, hrow, rfl, definition, hdecode, -⟩ := h
  obtain ⟨hcolumns, hvalid, -⟩ := decodeSchema_eq_ok hdecode
  refine ⟨definition.key, definition, ?_, ?_⟩
  · exact decodeSchemaKey_eq_ok_iff.mpr ⟨hcolumns.symm, hvalid⟩
  · have hfound : lookupRow SchemaRow.schema rows (schemaColumns definition.key) = some row :=
      (lookupRow_eq_some_iff hunique).mpr ⟨hrow, hcolumns⟩
    simp only [loadSchema, hfound, hdecode]
    rfl

variable {store : WorldStore Digest}

/-- All rows of a reachable store conform to their schemas. -/
theorem conforms_of_reachable (h : (storageSystem deps).Reachable store) :
    (store.worldSchemas.map SchemaRow.schema).Nodup ∧
      ∀ row, store.state.Has row → Conforms deps store.worldSchemas row := by
  obtain ⟨start, history, ⟨worldId, rfl⟩, hrun⟩ := h
  have hjournal := journal_of_run hrun
  exact ⟨hjournal.schemaKeys,
    fun row hrow => conforms_of_replay hjournal.state (validated_of_run hrun) hrow⟩

/-- An entity that is loaded from a reachable store has a readable schema. -/
theorem readable_entity (h : (storageSystem deps).Reachable store) (id : EntityId) :
    Readable deps (snapshot store) EntityRecord.schema ((snapshot store).loadEntity id) := by
  obtain ⟨hunique, hconforms⟩ := conforms_of_reachable h
  unfold WorldSnapshot.loadEntity loadEntity snapshot
  cases hfound : lookupRow EntityRow.entityId store.state.entities id with
  | none => exact Or.inl rfl
  | some row =>
      obtain ⟨key, definition, hkey, hload⟩ := load_of_registered hunique
        (hconforms (.entity row) (mem_of_lookupRow hfound).1)
      refine Or.inr ⟨⟨row.entityId, key⟩, definition, ?_, hload⟩
      simp only [hkey]
      rfl

/-- A relation that is loaded from a reachable store has a readable schema. -/
theorem readable_relation (h : (storageSystem deps).Reachable store) (id : RelationId) :
    Readable deps (snapshot store) RelationRecord.schema ((snapshot store).loadRelation id) := by
  obtain ⟨hunique, hconforms⟩ := conforms_of_reachable h
  unfold WorldSnapshot.loadRelation loadRelation snapshot
  cases hfound : lookupRow RelationRow.relationId store.state.relations id with
  | none => exact Or.inl rfl
  | some row =>
      obtain ⟨key, definition, hkey, hload⟩ := load_of_registered hunique
        (hconforms (.relation row) (mem_of_lookupRow hfound).1)
      refine Or.inr ⟨⟨row.relationId, key, row.fromEntityId, row.toEntityId⟩, definition, ?_,
        hload⟩
      simp only [hkey]
      rfl

end Reachable

/-! ## Two runs -/

variable [DecidableEq Digest] {storeA storeB : WorldStore Digest} {owner : ExtensionId}
  {principal : PrincipalId}

/-- Every read is answered alike. -/
theorem resolveRead_eq (hreachableA : (storageSystem deps).Reachable storeA)
    (hreachableB : (storageSystem deps).Reachable storeB)
    (hagree : AgreeOnOwned deps owner principal (snapshot storeA) (snapshot storeB))
    (request : WorldProjectionReadRequest) :
    resolveRead deps (snapshot storeA) principal owner request =
      resolveRead deps (snapshot storeB) principal owner request := by
  cases request with
  | entity entityId =>
      rw [resolveRead, resolveRead, ownedRecord_eq hagree.schemas
        (readable_entity hreachableA entityId) (readable_entity hreachableB entityId)
        (hagree.entities entityId)]
  | relation relationId =>
      rw [resolveRead, resolveRead, ownedRecord_eq hagree.schemas
        (readable_relation hreachableA relationId) (readable_relation hreachableB relationId)
        (hagree.relations relationId)]
  | facet target schema =>
      rw [resolveRead, resolveRead, ← schemaOwnedBy_eq (hagree.schemas schema)]
      cases hfilter : schemaOwnedBy deps (snapshot storeA) schema owner .facet with
      | error error => rfl
      | ok owned =>
          cases owned with
          | false => rfl
          | true =>
              have hload := hagree.facets (decodeFacetTarget target) schema
                (owned_of_schemaOwnedBy hfilter)
              simp only [bind, Except.bind, if_true, hload]
  | canControl actorEntity commandSchema =>
      rw [resolveRead, resolveRead, ← schemaOwnedBy_eq (hagree.schemas commandSchema)]
      cases hfilter : schemaOwnedBy deps (snapshot storeA) commandSchema owner .command with
      | error error => rfl
      | ok owned =>
          cases owned with
          | false => rfl
          | true =>
              have hallowed := hagree.control actorEntity commandSchema
                (owned_of_schemaOwnedBy hfilter)
              simp only [bind, Except.bind, if_true, hallowed]

/-- Snapshots of two databases that agree on what the owner of a projection has
give the same requests to its service and the same result, for every service,
principal and input. -/
theorem project_noninterference (hreachableA : (storageSystem deps).Reachable storeA)
    (hreachableB : (storageSystem deps).Reachable storeB)
    {projection : ServiceWorldProjection}
    (hagree : AgreeOnOwned deps projection.projectionOwner principal (snapshot storeA)
      (snapshot storeB))
    (client : WorldProjectionServiceClient) (input : JsonValue) :
    projection.project deps (snapshot storeA) client principal input =
      projection.project deps (snapshot storeB) client principal input := by
  have hopen : openProjection deps (snapshot storeA) projection input =
      openProjection deps (snapshot storeB) projection input := by
    rw [openProjection, openProjection, hagree.worldId, hagree.schemas]
  have hanswer : projectionAnswer (snapshot storeA) = projectionAnswer (snapshot storeB) := by
    have hcomplete : completeProjection (snapshot storeA) =
        completeProjection (snapshot storeB) := by
      funext registry projection principal value
      rw [completeProjection, completeProjection, hagree.worldId, hagree.position]
    funext registry projection principal answer
    unfold projectionAnswer
    rw [hcomplete]
  unfold ServiceWorldProjection.project
  rw [hopen, hanswer, hagree.worldId, hagree.position]
  simp only [resolveRead_eq hreachableA hreachableB hagree]

/-! ## Two small worlds -/

/-- A projection schema of the demo owner and an entity schema of another owner. -/
def foreignSchemas : List SchemaDefinition :=
  [⟨demoKey "demo.view", .projection, ⟨"demo"⟩, acceptAll⟩,
    ⟨demoKey "foreign.body", .entity, ⟨"foreign"⟩, acceptAll⟩]

/-- A database after one commit with the given mutations. -/
def foreignStore (mutations : List WorldMutation) : WorldStore String :=
  (demoRun (tableDependencies [acceptAll] [])
    [.registerSchemas foreignSchemas, demoCommit 1 0 ⟨mutations, [], []⟩]).2

def demoBody : WorldMutation := .createEntity ⟨⟨1⟩, demoKey "demo.body"⟩

def foreignBody : WorldMutation := .createEntity ⟨⟨2⟩, demoKey "foreign.body"⟩

/-- The two databases differ in the entity table only. -/
theorem tables_foreign :
    (foreignStore [demoBody, foreignBody]).worldSchemas =
        (foreignStore [demoBody]).worldSchemas ∧
      (foreignStore [demoBody, foreignBody]).commitPosition =
        (foreignStore [demoBody]).commitPosition ∧
      (foreignStore [demoBody, foreignBody]).state =
        { (foreignStore [demoBody]).state with
          entities := (foreignStore [demoBody]).state.entities ++
            [⟨⟨2⟩, schemaColumns (demoKey "foreign.body"), 1⟩] } := by
  decide +kernel

theorem entities_foreign : (foreignStore [demoBody, foreignBody]).state.entities =
      (foreignStore [demoBody]).state.entities ++
        [⟨⟨2⟩, schemaColumns (demoKey "foreign.body"), 1⟩] :=
  congrArg StateTables.entities tables_foreign.2.2

theorem foreign_not_owned : ¬ Owned (tableDependencies [acceptAll] [])
    (snapshot (foreignStore [demoBody, foreignBody])) ⟨"demo"⟩ .entity
    (demoKey "foreign.body") := by
  rintro ⟨definition, hload, -, howner⟩
  have hforeign : (snapshot (foreignStore [demoBody, foreignBody])).loadSchemaDefinition
      (tableDependencies [acceptAll] []) (demoKey "foreign.body") =
      .ok (some ⟨demoKey "foreign.body", .entity, ⟨"foreign"⟩, acceptAll⟩) := rfl
  cases hforeign.symm.trans hload
  exact absurd howner (by decide)

/-- The databases with and without the foreign entity agree on what demo has. -/
theorem agree_foreign : AgreeOnOwned (tableDependencies [acceptAll] []) ⟨"demo"⟩ ⟨7⟩
    (snapshot (foreignStore [demoBody, foreignBody])) (snapshot (foreignStore [demoBody])) where
  worldId := rfl
  position := tables_foreign.2.1
  schemas schema := by
    unfold WorldSnapshot.loadSchemaDefinition snapshot
    rw [tables_foreign.1]
  entities id entity howned := by
    unfold WorldSnapshot.loadEntity loadEntity snapshot
    rw [entities_foreign]
    cases hfound : lookupRow EntityRow.entityId (foreignStore [demoBody]).state.entities id with
    | some row => rw [lookupRow_append hfound]
    | none =>
        rw [lookupRow_snoc, hfound, Option.none_or]
        by_cases hid : (⟨2⟩ : EntityId) = id
        · have hforeign : (decodeSchemaKey (schemaColumns (demoKey "foreign.body")) >>=
              fun schema => .ok (some (EntityRecord.mk ⟨2⟩ schema))) =
              Except.ok (some ⟨⟨2⟩, demoKey "foreign.body"⟩) := rfl
          rw [if_pos hid]
          refine ⟨fun heq => ?_, fun heq => nomatch heq⟩
          cases hforeign.symm.trans heq
          exact absurd howned foreign_not_owned
        · rw [if_neg hid]
  relations id relation _ := by
    have hrelations := congrArg StateTables.relations tables_foreign.2.2
    unfold WorldSnapshot.loadRelation loadRelation snapshot
    rw [show (foreignStore [demoBody, foreignBody]).state.relations = _ from hrelations]
  facets target schema _ := by
    have hworld := congrArg StateTables.worldFacets tables_foreign.2.2
    have hentity := congrArg StateTables.entityFacets tables_foreign.2.2
    have hrelation := congrArg StateTables.relationFacets tables_foreign.2.2
    unfold WorldSnapshot.loadFacet loadFacet facetPayload snapshot
    rw [show (foreignStore [demoBody, foreignBody]).state.worldFacets = _ from hworld,
      show (foreignStore [demoBody, foreignBody]).state.entityFacets = _ from hentity,
      show (foreignStore [demoBody, foreignBody]).state.relationFacets = _ from hrelation]
  control actorEntity schema _ := by
    have hgrants := congrArg StateTables.controlGrants tables_foreign.2.2
    have hscopes := congrArg StateTables.controlGrantSchemas tables_foreign.2.2
    unfold WorldSnapshot.principalCanControl principalCanControl grantRowAllows snapshot
    rw [show (foreignStore [demoBody, foreignBody]).state.controlGrants = _ from hgrants,
      show (foreignStore [demoBody, foreignBody]).state.controlGrantSchemas = _ from hscopes,
      tables_foreign.2.1]

/-- A service that reads both entities and then completes. -/
def curiousService : WorldProjectionServiceClient
  | [_] => .response (.read [.entity ⟨1⟩, .entity ⟨2⟩])
  | _ => .response (.complete acceptAll)

/-- It cannot tell the two databases apart. -/
theorem project_noninterference_foreign :
    let projection : ServiceWorldProjection := ⟨⟨0⟩, demoKey "demo.view", ⟨"demo"⟩⟩
    let deps := tableDependencies [acceptAll] []
    (foreignStore [demoBody, foreignBody]).state.entities ≠
        (foreignStore [demoBody]).state.entities ∧
      projection.project deps (snapshot (foreignStore [demoBody, foreignBody])) curiousService
          ⟨7⟩ acceptAll =
        projection.project deps (snapshot (foreignStore [demoBody])) curiousService ⟨7⟩
          acceptAll := by
  intro projection deps
  refine ⟨?_, project_noninterference (reachable_demoRun _ _) (reachable_demoRun _ _)
    agree_foreign _ _⟩
  rw [entities_foreign, Ne, List.append_right_eq_self]
  exact List.cons_ne_nil _ _

end Rintawa.WorldRuntime
