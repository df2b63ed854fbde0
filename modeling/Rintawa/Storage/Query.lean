/-
# Reading the database

Reads decode rows back into records. The result of a read depends only on the
rows it selects, and a read never changes the database.
-/

import Rintawa.Lib.Paging
import Rintawa.Storage.Mutation

namespace Rintawa.Storage

open Rintawa.Lib Rintawa.Sdk Rintawa.World

def maxReadBatch : Nat := 1024

/-- A limit that is not above the largest batch. -/
def boundedLimit (limit : Nat) : Nat := min limit maxReadBatch

/-- Indices are read back as unsigned 32-bit integers. -/
def indexFromSql (index : Nat) (label : String) : Except StorageError Nat :=
  ensure (decide (index < indexLimit)) (.corruptData ("invalid " ++ label)) >>=
    fun _ => .ok index

/-! ## Current state -/

section State

variable {Digest : Type} (deps : Dependencies Digest) (s : StateTables)

/-- Load an entity. -/
def loadEntity (id : EntityId) : Except StorageError (Option EntityRecord) :=
  match lookupRow EntityRow.entityId s.entities id with
  | none => .ok none
  | some row => do
      let schema ← decodeSchemaKey row.schema
      return some ⟨row.entityId, schema⟩

/-- Load a relation. -/
def loadRelation (id : RelationId) : Except StorageError (Option RelationRecord) :=
  match lookupRow RelationRow.relationId s.relations id with
  | none => .ok none
  | some row => do
      let schema ← decodeSchemaKey row.schema
      return some ⟨row.relationId, schema, row.fromEntityId, row.toEntityId⟩

/-- The stored payload text of a facet. -/
def facetPayload (target : FacetTarget) (schema : SchemaColumns) : Option String :=
  match target with
  | .world =>
      (lookupRow WorldFacetRow.schema s.worldFacets schema).map WorldFacetRow.payloadJson
  | .entity id =>
      (lookupRow (fun row => (row.entityId, row.schema)) s.entityFacets (id, schema)).map
        EntityFacetRow.payloadJson
  | .relation id =>
      (lookupRow (fun row => (row.relationId, row.schema)) s.relationFacets (id, schema)).map
        RelationFacetRow.payloadJson

/-- Load a facet. -/
def loadFacet (target : FacetTarget) (schema : SchemaKey) :
    Except StorageError (Option FacetRecord) :=
  match facetPayload s target (schemaColumns schema) with
  | none => .ok none
  | some text => do
      let payload ← liftJson (deps.fromStr text)
      return some ⟨target, schema, payload⟩

/-- Whether a grant row covers a command of the given schema at a position. -/
def grantRowAllows (principal : PrincipalId) (actorEntity : EntityId)
    (commandSchema : SchemaKey) (position : Nat) (grant : ControlGrantRow) : Bool :=
  decide (grant.principalId = principal) && decide (grant.actorEntityId = actorEntity) &&
    (match grant.validThroughPosition with
      | none => true
      | some validThrough => decide (position ≤ validThrough)) &&
    (decide (grant.scopeKind = 1) ||
      (decide (grant.scopeKind = 2) &&
        s.controlGrantSchemas.any fun row =>
          decide (row.grantId = grant.grantId) &&
            decide (row.schema = schemaColumns commandSchema)))

/-- Whether a principal may issue a command as an entity actor. -/
def principalCanControl (principal : PrincipalId) (actorEntity : EntityId)
    (commandSchema : SchemaKey) (position : Nat) : Except StorageError Bool := do
  let position ← positionToSql position
  return s.controlGrants.any (grantRowAllows s principal actorEntity commandSchema position)

end State

/-! ## Provenance -/

section Provenance

variable {Digest : Type}

/-- Read an actor from its columns. -/
def decodeActor (kind : Nat) (id : Uuid) : Except StorageError ActorRef :=
  match kind with
  | 1 => .ok (.principal ⟨id⟩)
  | 2 => .ok (.entity ⟨id⟩)
  | code => .error (.corruptData ("unknown actor kind code " ++ toString code))

/-- Read a cause from its columns. -/
def decodeCausation (kind : Option Nat) (id : Option Uuid) :
    Except StorageError (Option CausationRef) :=
  match kind, id with
  | none, none => .ok none
  | some 1, some id => .ok (some (.command ⟨id⟩))
  | some 2, some id => .ok (some (.event ⟨id⟩))
  | some 3, some id => .ok (some (.effect ⟨id⟩))
  | some code, some _ =>
      .error (.corruptData ("unknown causation kind code " ++ toString code))
  | _, _ => .error (.corruptData "causation kind/id presence mismatch")

/-- The provenance stored with one commit. -/
def decodeProvenance (commit : CommitRow Digest) : Except StorageError CommandProvenance := do
  let actor ← decodeActor commit.actorKind commit.actorId
  let causation ← decodeCausation commit.causationKind commit.causationId
  let commandSchema ← decodeSchemaKey commit.commandSchema
  return ⟨commit.commandId, commandSchema, commit.principalId, actor, causation,
    commit.correlationId, commit.effectiveAtMs.map UnixTimeMillis.mk,
    ⟨commit.recordedAtMs⟩⟩

end Provenance

/-! ## The logs -/

section Log

variable {Digest : Type} (deps : Dependencies Digest) (store : WorldStore Digest)

/-- The commit of a position. -/
def commitAt (position : Nat) : Option (CommitRow Digest) :=
  lookupRow CommitRow.commitPosition store.worldCommits position

/-- Events joined with their commits. -/
def eventCommits : List (EventRow × CommitRow Digest) :=
  store.worldEvents.filterMap fun event =>
    (commitAt store event.commitPosition).map fun commit => (event, commit)

def eventPosition (row : EventRow × CommitRow Digest) : Nat := row.1.commitPosition

def eventIndexOf (row : EventRow × CommitRow Digest) : Nat := row.1.eventIndex

/-- Read a mutation from its row. -/
def decodeMutation (row : MutationRow) : Except StorageError StoredWorldMutation := do
  ensure (decide (row.formatVersion < indexLimit))
    (.corruptData "invalid mutation format version")
  ensure (decide (row.formatVersion = worldMutationFormatVersion))
    (.unsupportedMutationFormat row.formatVersion worldMutationFormatVersion)
  let mutation ← liftJson (deps.mutationFromStr row.mutationJson)
  let mutationIndex ← indexFromSql row.mutationIndex "mutation_index"
  return ⟨row.commitPosition, mutationIndex, row.formatVersion, mutation⟩

/-- Read an event from its row and its commit. -/
def decodeEvent (row : EventRow × CommitRow Digest) : Except StorageError StoredWorldEvent := do
  let eventIndex ← indexFromSql row.1.eventIndex "event_index"
  let provenance ← decodeProvenance row.2
  let schema ← decodeSchemaKey row.1.schema
  let payload ← liftJson (deps.fromStr row.1.payloadJson)
  return ⟨store.worldId, row.1.eventId, row.1.commitPosition, eventIndex, provenance, schema,
    payload⟩

/-- Decode the rows of a page, unless the page is requested empty. -/
def readPage {Row Item : Type} (position index : Row → Nat)
    (decode : Row → Except StorageError Item) (rows : List Row) (after limit : Nat) :
    Except StorageError (List Item) :=
  if boundedLimit limit = 0 then .ok []
  else do
    let after ← positionToSql after
    ((rowsAfter position index rows after).take (boundedLimit limit)).mapM decode

/-- Append-only mutations after an exclusive commit position. -/
def mutationsAfter (position limit : Nat) : Except StorageError (List StoredWorldMutation) :=
  readPage MutationRow.commitPosition MutationRow.mutationIndex (decodeMutation deps)
    store.worldMutations position limit

/-- Durable events after an exclusive commit position. -/
def eventsAfter (position limit : Nat) : Except StorageError (List StoredWorldEvent) :=
  readPage eventPosition eventIndexOf (decodeEvent deps store) (eventCommits store) position
    limit

/-- Durable events of one exact commit position. -/
def eventsAtPosition (position : Nat) : Except StorageError (List StoredWorldEvent) := do
  let position ← positionToSql position
  (rowsAt eventPosition eventIndexOf (eventCommits store) position).mapM
    (decodeEvent deps store)

/-- One effect job with its provenance. -/
def effectJobById (jobId : EffectJobId) : Except StorageError (Option StoredEffectJob) :=
  match lookupRow EffectJobRow.jobId store.effectJobs jobId with
  | none => .ok none
  | some job =>
      match commitAt store job.commitPosition with
      | none => .ok none
      | some commit => do
          let jobIndex ← indexFromSql job.jobIndex "job_index"
          let provenance ← decodeProvenance commit
          let schema ← decodeSchemaKey job.schema
          let payload ← liftJson (deps.fromStr job.payloadJson)
          let attemptCount ← indexFromSql job.attemptCount "attempt_count"
          return some ⟨store.worldId, job.jobId, job.commitPosition, jobIndex, provenance,
            schema, payload, attemptCount⟩

/-- Effect jobs joined with their commits. -/
def effectCommits : List (EffectJobRow × CommitRow Digest) :=
  store.effectJobs.filterMap fun job =>
    (commitAt store job.commitPosition).map fun commit => (job, commit)

def jobPosition (row : EffectJobRow × CommitRow Digest) : Nat := row.1.commitPosition

def jobIndexOf (row : EffectJobRow × CommitRow Digest) : Nat := row.1.jobIndex

/-- Read an effect from its row and its commit. -/
def decodeEffect (row : EffectJobRow × CommitRow Digest) : Except StorageError StoredEffectJob := do
  let jobIndex ← indexFromSql row.1.jobIndex "job_index"
  let provenance ← decodeProvenance row.2
  let schema ← decodeSchemaKey row.1.schema
  let payload ← liftJson (deps.fromStr row.1.payloadJson)
  let attemptCount ← indexFromSql row.1.attemptCount "attempt_count"
  return ⟨store.worldId, row.1.jobId, row.1.commitPosition, jobIndex, provenance, schema,
    payload, attemptCount⟩

/-- Effects that wait to be claimed, in commit order. Status zero is pending. -/
def pendingEffects (limit : Nat) : Except StorageError (List StoredEffectJob) :=
  if boundedLimit limit = 0 then .ok []
  else
    ((((effectCommits store).filter fun row => decide (row.1.status = 0)).insertionSort
      (rowLe jobPosition jobIndexOf)).take (boundedLimit limit)).mapM (decodeEffect deps store)

end Log

end Rintawa.Storage
