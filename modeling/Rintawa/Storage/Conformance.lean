/-
# Stored rows conform to the registered schemas

Every logged mutation was validated against the schemas registered at its time,
and schemas are only added. Since every state row is made by a logged mutation,
each one conforms to a registered schema. A row that refers to a deleted entity
was made after the deletion.
-/

import Rintawa.Storage.Authorization

namespace Rintawa.Storage

open Rintawa.Lib Rintawa.Sdk Rintawa.World

variable {Digest : Type}

/-! ## Conforming rows -/

/-- The definition registered under schema columns has the given kind. -/
def Registered (deps : Dependencies Digest) (rows : List SchemaRow) (columns : SchemaColumns)
    (kind : SchemaKind) : Prop :=
  ∃ row ∈ rows, row.schema = columns ∧
    ∃ definition, decodeSchema deps row = .ok definition ∧ definition.kind = kind

/-- The facet definition registered under schema columns accepts a stored payload. -/
def AcceptsFacet (deps : Dependencies Digest) (rows : List SchemaRow) (columns : SchemaColumns)
    (payloadJson : String) : Prop :=
  ∃ row ∈ rows, row.schema = columns ∧
    ∃ definition validate payload, decodeSchema deps row = .ok definition ∧
      definition.kind = .facet ∧ deps.validatorFor definition.definition = .ok validate ∧
      validate payload = .ok () ∧ payloadJson = payload.json.toText

/-- What the schemas require of a state row. -/
def Conforms (deps : Dependencies Digest) (rows : List SchemaRow) : StateRow → Prop
  | .entity row => Registered deps rows row.schema .entity
  | .relation row => Registered deps rows row.schema .relation
  | .worldFacet row => AcceptsFacet deps rows row.schema row.payloadJson
  | .entityFacet row => AcceptsFacet deps rows row.schema row.payloadJson
  | .relationFacet row => AcceptsFacet deps rows row.schema row.payloadJson
  | .controlGrant _ => True
  | .controlGrantSchema row => Registered deps rows row.schema .command

/-- A grant row covers every command, or has at least one scope row. -/
def ScopedGrants (s : StateTables) : Prop :=
  ∀ grant ∈ s.controlGrants, grant.scopeKind = 1 ∨
    (grant.scopeKind = 2 ∧ ∃ row ∈ s.controlGrantSchemas, row.grantId = grant.grantId)

/-! ## Validated mutations -/

section Validated

variable {deps : Dependencies Digest}

/-- A registry of stored schemas has validated a mutation. -/
def Validated (deps : Dependencies Digest) (rows : List SchemaRow) (mutation : WorldMutation) :
    Prop :=
  ∃ registry, Reflects deps rows registry ∧ mutation.validateSchemas registry = .ok ()

variable {rows : List SchemaRow}

/-- A registry still reflects the rows when rows are added. -/
theorem Reflects.mono {rows' : List SchemaRow} {registry : SchemaRegistry} (hsubset : rows ⊆ rows')
    (h : Reflects deps rows registry) : Reflects deps rows' registry := by
  refine ⟨fun key definition hget => ?_, h.validator_compiled⟩
  obtain ⟨hkey, row, hmem, hdecode⟩ := h.definition_row key definition hget
  exact ⟨hkey, row, hsubset hmem, hdecode⟩

theorem Validated.mono {rows' : List SchemaRow} {mutation : WorldMutation} (hsubset : rows ⊆ rows')
    (h : Validated deps rows mutation) : Validated deps rows' mutation := by
  obtain ⟨registry, hreflects, hvalid⟩ := h
  exact ⟨registry, hreflects.mono hsubset, hvalid⟩

theorem Reflects.registered {rows : List SchemaRow} {registry : SchemaRegistry}
    (h : Reflects deps rows registry) {key : SchemaKey} {kind : SchemaKind}
    (hrequired : registry.requireKind key kind = .ok ()) :
    Registered deps rows (schemaColumns key) kind := by
  obtain ⟨row, hmem, definition, hdecode, rfl, hkind⟩ :=
    h.registered_of_requireKind hrequired
  exact ⟨row, hmem, (decodeSchema_eq_ok hdecode).1, definition, hdecode, hkind⟩

theorem Reflects.acceptsFacet {registry : SchemaRegistry} (h : Reflects deps rows registry)
    {key : SchemaKey} {payload : JsonValue}
    (hvalid : registry.validatePayload key .facet payload = .ok ()) :
    AcceptsFacet deps rows (schemaColumns key) payload.json.toText := by
  obtain ⟨row, hmem, definition, validate, hdecode, rfl, hkind, hcompiled, haccepts⟩ :=
    h.accepted_of_validatePayload hvalid
  exact ⟨row, hmem, (decodeSchema_eq_ok hdecode).1, definition, validate, payload, hdecode,
    hkind, hcompiled, haccepts, rfl⟩

/-- A validated grant lists registered command schemas, and at least one unless
it covers every command. -/
theorem Validated.scope {grant : ControlGrant} (h : Validated deps rows (.grantControl grant)) :
    (grant.scope = .anyCommand ∨ scopeSchemas grant.scope ≠ []) ∧
      ∀ schema ∈ scopeSchemas grant.scope,
        Registered deps rows (schemaColumns schema) .command := by
  obtain ⟨registry, hreflects, hvalid⟩ := h
  unfold WorldMutation.validateSchemas at hvalid
  cases hscope : grant.scope with
  | anyCommand => exact ⟨Or.inl rfl, by simp [scopeSchemas]⟩
  | exactSchemas schemas =>
      simp only [hscope, ControlScope.exactSchemas?] at hvalid
      split at hvalid
      · cases hvalid
      · next hnonempty =>
          refine ⟨Or.inr (by simpa [scopeSchemas] using hnonempty), ?_⟩
          intro schema hschema
          exact hreflects.registered (forM_eq_ok_iff.mp hvalid schema hschema)

/-- A row made by a validated mutation conforms. -/
theorem Validated.conforms {position : Nat} {mutation : WorldMutation} {row : StateRow}
    (h : Validated deps rows mutation) (hmakes : Makes position mutation row) :
    Conforms deps rows row := by
  cases mutation with
  | createEntity entity =>
      obtain ⟨registry, hreflects, hvalid⟩ := h
      cases row with
      | entity row =>
          cases hmakes
          exact hreflects.registered hvalid
      | _ => cases hmakes
  | createRelation relation =>
      obtain ⟨registry, hreflects, hvalid⟩ := h
      cases row with
      | relation row =>
          cases hmakes
          exact hreflects.registered hvalid
      | _ => cases hmakes
  | setFacet facet =>
      obtain ⟨registry, hreflects, hvalid⟩ := h
      have haccepts := hreflects.acceptsFacet hvalid
      cases row with
      | worldFacet row =>
          obtain ⟨_, rfl⟩ := hmakes
          exact haccepts
      | entityFacet row =>
          obtain ⟨_, hrow⟩ := hmakes
          rw [hrow]
          exact haccepts
      | relationFacet row =>
          obtain ⟨_, hrow⟩ := hmakes
          rw [hrow]
          exact haccepts
      | _ => cases hmakes
  | grantControl grant =>
      cases row with
      | controlGrant row => trivial
      | controlGrantSchema row =>
          obtain ⟨schema, hschema, rfl⟩ := List.mem_map.mp hmakes
          exact h.scope.2 schema hschema
      | _ => cases hmakes
  | _ => cases row <;> cases hmakes

end Validated

/-! ## The rows of a replayed log -/

variable {row : StateRow} {s' : StateTables} {entityId : EntityId}

/-- A row of the result of a replay was there before, or one of the mutations
made it. -/
theorem has_origin_of_replay {parents : ParentKeys} {logged : List (Nat × WorldMutation)}
    {s : StateTables} (h : replay parents s logged = .ok s') (hrow : s'.Has row) :
    s.Has row ∨ ∃ entry ∈ logged, Makes entry.1 entry.2 row := by
  have hstep : ∀ entry ∈ logged, ∀ middle next,
      (middle.Has row → s.Has row ∨ ∃ entry ∈ logged, Makes entry.1 entry.2 row) →
      applyMutation parents middle entry.1 entry.2 = .ok next →
      next.Has row → s.Has row ∨ ∃ entry ∈ logged, Makes entry.1 entry.2 row := by
    intro entry hentry middle next hmiddle happly hnext
    rcases has_origin (applyMutation_eq_ok_iff.mp happly) hnext with hold | hmade
    · exact hmiddle hold
    · exact Or.inr ⟨entry, hentry, hmade⟩
  exact replay_preserves
    (P := fun s' => s'.Has row → s.Has row ∨ ∃ entry ∈ logged, Makes entry.1 entry.2 row)
    hstep Or.inl h hrow

/-- The empty state tables have no row. -/
theorem not_has_empty : ¬ StateTables.empty.Has row := by
  cases row <;> simp [StateTables.Has, StateTables.empty]

section Replayed

variable {deps : Dependencies Digest} {parents : ParentKeys} {s : StateTables}
  {rows : List SchemaRow} {logged : List (Nat × WorldMutation)}

/-- When every mutation of a log is validated, every row of its result conforms. -/
theorem conforms_of_replay (h : replay parents .empty logged = .ok s)
    (hvalidated : ∀ entry ∈ logged, Validated deps rows entry.2) (hrow : s.Has row) :
    Conforms deps rows row := by
  rcases has_origin_of_replay h hrow with hempty | ⟨entry, hentry, hmakes⟩
  · exact absurd hempty not_has_empty
  · exact (hvalidated entry hentry).conforms hmakes

/-- So does the scope of every grant. -/
theorem scopedGrants_of_replay (h : replay parents .empty logged = .ok s)
    (hvalidated : ∀ entry ∈ logged, Validated deps rows entry.2) : ScopedGrants s := by
  intro row hrow
  have hholds := HoldsGrants.replay h
  rw [hholds.grants] at hrow
  obtain ⟨made, hmade, rfl⟩ := List.mem_map.mp hrow
  obtain ⟨before, position, after, rfl, -⟩ := mem_liveGrants_iff.mp ⟨made.1, hmade⟩
  obtain ⟨hscope, -⟩ := (hvalidated (position, .grantControl made.2) (by simp)).scope
  cases hkind : made.2.scope with
  | anyCommand => exact Or.inl (by simp [grantRow, hkind, scopeKindCode])
  | exactSchemas schemas =>
      refine Or.inr ⟨by simp [grantRow, hkind, scopeKindCode], ?_⟩
      simp only [hkind, reduceCtorEq, false_or] at hscope
      obtain ⟨schema, hschema⟩ := List.exists_mem_of_ne_nil _ hscope
      refine ⟨⟨made.2.id, schemaColumns schema⟩, ?_, rfl⟩
      rw [hholds.scopes]
      refine List.mem_flatMap.mpr ⟨made, hmade, List.mem_map.mpr ⟨schema, ?_, rfl⟩⟩
      rw [hkind]
      exact hschema

end Replayed

/-! ## Rows that refer to an entity -/

/-- A row of the tables refers to an entity. -/
def StateTables.Refers (s : StateTables) (entityId : EntityId) : StateRow → Prop
  | .entity row => row.entityId = entityId
  | .relation row => StateTables.touches entityId row = true
  | .worldFacet _ => False
  | .entityFacet row => row.entityId = entityId
  | .relationFacet row =>
      ∃ relation ∈ s.relations, relation.relationId = row.relationId ∧
        StateTables.touches entityId relation = true
  | .controlGrant row => row.actorEntityId = entityId
  | .controlGrantSchema row =>
      ∃ grant ∈ s.controlGrants, grant.grantId = row.grantId ∧
        grant.actorEntityId = entityId

/-- Every row that refers to an entity was made by one of the mutations. -/
def MadeSince (entityId : EntityId) (done : List (Nat × WorldMutation)) (s : StateTables) :
    Prop :=
  ∀ row, s.Has row → s.Refers entityId row → ∃ entry ∈ done, Makes entry.1 entry.2 row

/-- Right after its deletion no row refers to an entity. -/
theorem madeSince_deleteEntity {s : StateTables} :
    MadeSince entityId [] (s.deleteEntity entityId) := by
  have hrelation : ∀ relation ∈ (s.deleteEntity entityId).relations,
      StateTables.touches entityId relation = false := by
    intro relation hmem
    simpa using (List.mem_filter.mp hmem).2
  have hgrant : ∀ grant ∈ (s.deleteEntity entityId).controlGrants,
      grant.actorEntityId ≠ entityId := by
    intro grant hmem
    simpa using (List.mem_filter.mp hmem).2
  intro row hrow hrefers
  cases row with
  | entity row =>
      have hkept : row.entityId ≠ entityId := by simpa using (List.mem_filter.mp hrow).2
      exact absurd hrefers hkept
  | relation row =>
      rw [StateTables.Refers, hrelation row hrow] at hrefers
      cases hrefers
  | worldFacet row => cases hrefers
  | entityFacet row =>
      have hkept : row.entityId ≠ entityId := by simpa using (List.mem_filter.mp hrow).2
      exact absurd hrefers hkept
  | relationFacet row =>
      obtain ⟨relation, hmem, -, htouches⟩ := hrefers
      rw [hrelation relation hmem] at htouches
      cases htouches
  | controlGrant row => exact absurd hrefers (hgrant row hrow)
  | controlGrantSchema row =>
      obtain ⟨grant, hmem, -, hactor⟩ := hrefers
      exact absurd hactor (hgrant grant hmem)

/-- A row that was there before a mutation and refers to an entity after it did
so before: attached rows are never adopted by a new relation or grant. -/
theorem refers_of_applies {parents : ParentKeys} {s : StateTables} {position : Nat}
    {mutation : WorldMutation} (hintegrity : Integrity s)
    (happly : Applies parents s position mutation s') (hrow : s.Has row)
    (hrefers : s'.Refers entityId row) : s.Refers entityId row := by
  cases row with
  | relationFacet row =>
      obtain ⟨relation, hmem, hid, htouches⟩ := hrefers
      have hrelation : s'.Has (.relation relation) := hmem
      rcases has_origin happly hrelation with hold | hmade
      · exact ⟨relation, hold, hid, htouches⟩
      · cases mutation with
        | createRelation created =>
            have htarget := hintegrity.relationTargets row hrow
            rw [← hid] at htarget
            cases hmade
            exact absurd htarget happly.1
        | _ => cases hmade
  | controlGrantSchema row =>
      obtain ⟨grant, hmem, hid, hactor⟩ := hrefers
      have hgrant : s'.Has (.controlGrant grant) := hmem
      rcases has_origin happly hgrant with hold | hmade
      · exact ⟨grant, hold, hid, hactor⟩
      · cases mutation with
        | grantControl made =>
            have htarget := hintegrity.scopes row hrow
            rw [← hid] at htarget
            cases hmade
            exact absurd htarget happly.2.1
        | _ => cases hmade
  | _ => exact hrefers

/-- One more mutation keeps the rows that refer to an entity accounted for. -/
theorem MadeSince.applies {parents : ParentKeys} {s : StateTables} {entry : Nat × WorldMutation}
    {done : List (Nat × WorldMutation)} (h : MadeSince entityId done s) (hintegrity : Integrity s)
    (happly : Applies parents s entry.1 entry.2 s') : MadeSince entityId (done ++ [entry]) s' := by
  intro row hrow hrefers
  rcases has_origin happly hrow with hold | hmakes
  · obtain ⟨other, hother, hmakes⟩ :=
      h row hold (refers_of_applies hintegrity happly hold hrefers)
    exact ⟨other, List.mem_append_left _ hother, hmakes⟩
  · exact ⟨entry, by simp, hmakes⟩

theorem MadeSince.replay {parents : ParentKeys} {entityId : EntityId} :
    ∀ {logged done : List (Nat × WorldMutation)} {s s' : StateTables},
      MadeSince entityId done s → Integrity s → replay parents s logged = .ok s' →
      MadeSince entityId (done ++ logged) s'
  | [], done, s, s', h, _, hreplay => by
      cases hreplay
      simpa using h
  | entry :: rest, done, s, s', h, hintegrity, hreplay => by
      obtain ⟨middle, hfirst, hrest⟩ := replay_cons_eq_ok_iff.mp hreplay
      have happly := applyMutation_eq_ok_iff.mp hfirst
      simpa using MadeSince.replay (h.applies hintegrity happly) (hintegrity.applies happly)
        hrest

/-- After a deletion in a log, the rows that refer to the entity are those made
later. -/
theorem madeSince_of_deleted {parents : ParentKeys} {s : StateTables}
    {before after : List (Nat × WorldMutation)} {position : Nat}
    (h : replay parents .empty (before ++ (position, .deleteEntity entityId) :: after) =
      .ok s) : MadeSince entityId after s := by
  obtain ⟨middle, hbefore, hrest⟩ := replay_append_eq_ok_iff.mp h
  obtain ⟨deleted, hdelete, hafter⟩ := replay_cons_eq_ok_iff.mp hrest
  have hmiddle := Integrity.empty.replay hbefore
  obtain ⟨-, rfl⟩ := applyMutation_eq_ok_iff.mp hdelete
  simpa using madeSince_deleteEntity.replay (hmiddle.deleteEntity entityId) hafter

/-! ## Every run -/

section Runs

variable [DecidableEq Digest] {deps : Dependencies Digest}

/-- Every mutation in the log of a run was validated by registered schemas. -/
theorem validated_of_run {worldId : WorldId} {history : List (Request × Reply)}
    {store : WorldStore Digest}
    (hrun : (storageSystem deps).Run (WorldStore.create Digest worldId) history store) :
    ∀ entry ∈ loggedMutations (committedEntries history),
      Validated deps store.worldSchemas entry.2 := by
  refine Lts.Run.history_induction (P := fun history store =>
    ∀ entry ∈ loggedMutations (committedEntries history),
      Validated deps store.worldSchemas entry.2) (by simp [committedEntries, loggedMutations,
        batchRows]) ?_ hrun
  intro history store label store' _ hvalidated hstep
  have hquiet : committedEntry label = none →
      committedEntries (history ++ [label]) = committedEntries history := by
    intro hnone
    simp [committedEntries, hnone]
  cases Serves.storeChange hstep with
  | unchanged quiet =>
      rw [hquiet (committedEntry_of_idle quiet)]
      exact hvalidated
  | schemas quiet grow =>
      rw [hquiet (committedEntry_of_idle quiet)]
      exact fun entry hentry => (hvalidated entry hentry).mono grow.1.subset
  | @commits _ command transaction evaluatedPosition clock receipt new =>
      have hentry : committedEntry
          (.commit command transaction evaluatedPosition clock, .receipt receipt) =
            some ⟨command, transaction, clock⟩ := by
        simp only [committedEntry, new.receipt]
      rw [committedEntries, List.filterMap_append, List.filterMap_cons_some hentry,
        List.filterMap_nil, loggedMutations_snoc, new.worldSchemas]
      intro entry hmem
      rcases List.mem_append.mp hmem with hold | hnew
      · exact hvalidated entry hold
      · obtain ⟨mutation, hmutation, rfl⟩ := List.mem_map.mp hnew
        obtain ⟨registry, hregistry, -, hvalid⟩ := new.schemas
        exact ⟨registry, loadSchemaRegistry_reflects hregistry,
          (WorldTransaction.validateSchemas_eq_ok hvalid).2.2.1 mutation hmutation⟩
  | jobs step update =>
      rw [hquiet step.quiet, update.result]
      exact hvalidated

/-- After every run the state has referential integrity, its rows conform to the
registered schemas, grants cover every command or list registered command
schemas, and rows that refer to a deleted entity were made after its deletion. -/
theorem state_rows_conform {worldId : WorldId} {history : List (Request × Reply)}
    {store : WorldStore Digest}
    (hrun : (storageSystem deps).Run (WorldStore.create Digest worldId) history store) :
    Integrity store.state ∧
      (∀ row, store.state.Has row → Conforms deps store.worldSchemas row) ∧
      ScopedGrants store.state ∧
      ∀ before position entityId after,
        loggedMutations (committedEntries history) =
          before ++ (position, .deleteEntity entityId) :: after →
        MadeSince entityId after store.state := by
  have hjournal := journal_of_run hrun
  have hvalidated := validated_of_run hrun
  refine ⟨hjournal.integrity, ?_, scopedGrants_of_replay hjournal.state hvalidated, ?_⟩
  · exact fun row hrow => conforms_of_replay hjournal.state hvalidated hrow
  · intro before position entityId after hlogged
    have hstate := hjournal.state
    rw [hlogged] at hstate
    exact madeSince_of_deleted hstate

/-- One transaction that builds an entity with a grant and a relation with a
facet, deletes the entity, and creates it again. -/
def recreateRequests : List Request :=
  [demoCommit 1 0
      ⟨[.createEntity ⟨⟨1⟩, demoKey "demo.body"⟩, .createEntity ⟨⟨2⟩, demoKey "demo.body"⟩,
        .createRelation ⟨⟨3⟩, demoKey "demo.link", ⟨1⟩, ⟨2⟩⟩,
        .setFacet ⟨.relation ⟨3⟩, demoKey "demo.note", acceptAll⟩,
        .grantControl ⟨⟨4⟩, ⟨8⟩, ⟨2⟩, .exactSchemas ⟨[demoKey "demo.move"], by decide⟩, none⟩,
        .deleteEntity ⟨1⟩, .createEntity ⟨⟨1⟩, demoKey "demo.body"⟩], [], []⟩]

/-- In that run nothing is left of the relation, and the entity that is there is
the one created after the deletion. -/
theorem state_rows_conform_recreated :
    let run := demoRun (tableDependencies [acceptAll] []) recreateRequests
    run.2.state.relations = [] ∧ run.2.state.relationFacets = [] ∧
      Conforms (tableDependencies [acceptAll] []) run.2.worldSchemas
        (.entity ⟨⟨1⟩, schemaColumns (demoKey "demo.body"), 1⟩) ∧
      MadeSince ⟨1⟩ [(1, .createEntity ⟨⟨1⟩, demoKey "demo.body"⟩)] run.2.state := by
  intro run
  obtain ⟨-, hconform, -, hdeleted⟩ := state_rows_conform
    (run_demoRun (tableDependencies [acceptAll] []) recreateRequests)
  have hentity : run.2.state.Has (.entity ⟨⟨1⟩, schemaColumns (demoKey "demo.body"), 1⟩) := by
    show _ ∈ run.2.state.entities
    decide +kernel
  refine ⟨by decide +kernel, by decide +kernel, hconform _ hentity, ?_⟩
  exact hdeleted (loggedMutations (committedEntries run.1) |>.take 5) 1 ⟨1⟩ _ rfl

/-- A grant for every command has no scope rows. -/
theorem state_rows_conform_any_command :
    ∃ store, (storageSystem (tableDependencies [acceptAll] [])).Reachable store ∧
      ¬ ∀ grant ∈ store.state.controlGrants, grant.scopeKind = 2 ∧
        ∃ row ∈ store.state.controlGrantSchemas, row.grantId = grant.grantId := by
  refine ⟨_, reachable_demoRun _ grantRequests, ?_⟩
  intro hexact
  exact absurd (hexact ⟨⟨4⟩, ⟨8⟩, ⟨1⟩, 1, none, 1⟩ (by decide +kernel)).1 (by decide)

end Runs

end Rintawa.Storage
