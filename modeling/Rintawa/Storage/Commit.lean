/-
# Atomic commits

A commit first looks for an earlier commit of the same command and replays its
receipt. Otherwise it checks schemas, identities, position and authority against
the current database, appends to the commit, mutation, event and effect tables,
and moves the position by one. An error anywhere leaves the database as it was,
since the new database is only returned on success.
-/

import Rintawa.Storage.Query

namespace Rintawa.Storage

open Rintawa.Lib Rintawa.Sdk Rintawa.World

variable {Digest : Type} [DecidableEq Digest] (deps : Dependencies Digest)

/-! ## Receipts -/

/-- The digest of the canonical serialized command. -/
def commandDigest {Digest : Type} (deps : Dependencies Digest) (command : WorldCommand) :
    Digest :=
  deps.sha256 command.toJson.canonical.toText

section Receipts

variable {Digest : Type} [DecidableEq Digest] (store : WorldStore Digest)

/-- The events of a commit, in order. -/
def eventIdsForPosition (position : Nat) : Except StorageError (List WorldEventId) := do
  let position ← positionToSql position
  return (rowsAt EventRow.commitPosition EventRow.eventIndex store.worldEvents position).map
    EventRow.eventId

/-- The effects of a commit, in order. -/
def effectIdsForPosition (position : Nat) : Except StorageError (List EffectJobId) := do
  let position ← positionToSql position
  return (rowsAt EffectJobRow.commitPosition EffectJobRow.jobIndex store.effectJobs
    position).map EffectJobRow.jobId

/-- The receipt of the commit that already holds a command identity. -/
def loadExistingReceipt (commandId : CommandId) (digest : Digest) :
    Except StorageError (Option CommitReceipt) :=
  match lookupRow CommitRow.commandId store.worldCommits commandId with
  | none => .ok none
  | some commit => do
      ensure (decide (commit.commandDigest = digest)) (.world (.commandIdConflict commandId))
      let eventIds ← eventIdsForPosition store commit.commitPosition
      let effectJobIds ← effectIdsForPosition store commit.commitPosition
      return some ⟨.alreadyCommitted, commandId, commit.commitPosition, eventIds,
        effectJobIds⟩

end Receipts

/-- The receipt lookup made before a system runs. -/
def committedReceipt (store : WorldStore Digest) (command : WorldCommand) :
    Except StorageError (Option CommitReceipt) :=
  loadExistingReceipt store command.id (commandDigest deps command)

/-! ## Validation -/

/-- The optimistic position that a command may ask for. -/
def ensureExpectedPosition (command : WorldCommand) (position : Nat) :
    Except StorageError Unit :=
  match command.expectedPosition with
  | none => .ok ()
  | some expected =>
      ensure (decide (expected = position)) (.world (.staleWorldPosition expected position))

/-- Whether the principal of a command may act as its actor. -/
def authorizeCommand (s : StateTables) (command : WorldCommand) (position : Nat) :
    Except StorageError Unit :=
  let unauthorized :=
    StorageError.world (.actorUnauthorized command.principal command.actor command.schema)
  match command.actor with
  | .principal actorPrincipal =>
      ensure (decide (actorPrincipal = command.principal)) unauthorized
  | .entity actorEntity => do
      let allowed ← principalCanControl s command.principal actorEntity command.schema position
      ensure allowed unauthorized

/-- Validate a command against a snapshot, which yields the snapshot position. -/
def validateCommand (store : WorldStore Digest) (command : WorldCommand) :
    Except StorageError Nat := do
  let schemas ← loadSchemaRegistry deps store.worldSchemas
  liftWorld (command.validateSchema schemas)
  ensureExpectedPosition command store.commitPosition
  authorizeCommand store.state command store.commitPosition
  return store.commitPosition

/-- Event and effect identities are never used twice in one world. -/
def rejectReusedEventOrEffectIds (store : WorldStore Digest) (transaction : WorldTransaction) :
    Except StorageError Unit := do
  transaction.events.forM fun event =>
    ensure (!(store.worldEvents.map EventRow.eventId).contains event.id)
      (.world (.worldEventAlreadyExists event.id))
  transaction.effects.forM fun effect =>
    ensure (!(store.effectJobs.map EffectJobRow.jobId).contains effect.id)
      (.world (.effectJobAlreadyExists effect.id))

/-! ## Writing -/

/-- The first value that an unsigned 64-bit integer cannot hold. -/
def unsignedLimit : Nat := 2 ^ 64

/-- The position after the current one. -/
def nextPosition (current : Nat) : Except StorageError Nat :=
  ensure (decide (current + 1 < unsignedLimit)) (.world .commitPositionOverflow) >>=
    fun _ => .ok (current + 1)

/-- The current time, which must fit a signed 64-bit number of milliseconds. -/
def recordedAtNow (clock : Int) : Except StorageError Int :=
  ensure (decide (clock.natAbs < positionLimit)) (.indexOutOfRange "recorded_at_ms") >>=
    fun _ => .ok clock

def actorKind : ActorRef → Nat
  | .principal _ => 1
  | .entity _ => 2

def actorId : ActorRef → Uuid
  | .principal id => id.intoBytes
  | .entity id => id.intoBytes

def causationKind : CausationRef → Nat
  | .command _ => 1
  | .event _ => 2
  | .effect _ => 3

def causationId : CausationRef → Uuid
  | .command id => id.intoBytes
  | .event id => id.intoBytes
  | .effect id => id.intoBytes

/-- The commit row of a command. -/
def commitRow {Digest : Type} (command : WorldCommand) (digest : Digest) (position : Nat)
    (recordedAt : Int) : CommitRow Digest where
  commitPosition := position
  commandId := command.id
  commandSchema := schemaColumns command.schema
  principalId := command.principal
  actorKind := actorKind command.actor
  actorId := actorId command.actor
  causationKind := command.causation.map causationKind
  causationId := command.causation.map causationId
  correlationId := command.correlationId
  expectedPosition := command.expectedPosition
  effectiveAtMs := command.effectiveAt.map UnixTimeMillis.get
  recordedAtMs := recordedAt
  commandPayloadJson := command.payload.json.toText
  commandDigest := digest

/-- Append the commit row of a command. -/
def insertCommit (store : WorldStore Digest) (command : WorldCommand) (digest : Digest)
    (position : Nat) (clock : Int) : Except StorageError (List (CommitRow Digest)) := do
  let _ ← optionPositionToSql command.expectedPosition
  let recordedAt ← recordedAtNow clock
  let rows ← insertUnique (StorageError.sqlite .primaryKey) CommitRow.commitPosition
    store.worldCommits (commitRow command digest position recordedAt)
  ensure (!(store.worldCommits.map CommitRow.commandId).contains command.id) (.sqlite .unique)
  store.parentKeys.requireSchema (schemaColumns command.schema)
  return rows

/-- The log row of one mutation. -/
def mutationRow (position index : Nat) (mutation : WorldMutation) : MutationRow :=
  ⟨position, index, worldMutationFormatVersion, mutation.toJson.toText⟩

/-- Log and apply the mutations of a transaction in order. -/
def applyMutations (parents : ParentKeys) (position : Nat) :
    Nat → List WorldMutation → List MutationRow × StateTables →
    Except StorageError (List MutationRow × StateTables)
  | _, [], tables => .ok tables
  | index, mutation :: mutations, tables => do
      let index ← indexToSql index "mutation_index"
      let log ← insertUnique (StorageError.sqlite .primaryKey)
        (fun row => (row.commitPosition, row.mutationIndex)) tables.1
        (mutationRow position index mutation)
      parents.requireCommit position
      let state ← applyMutation parents tables.2 position mutation
      applyMutations parents position (index + 1) mutations (log, state)

/-- The row of one event. -/
def eventRow (position index : Nat) (event : WorldEventDraft) : EventRow :=
  ⟨event.id, position, index, schemaColumns event.schema, event.payload.json.toText⟩

def insertEvent (parents : ParentKeys) (position : Nat) (rows : List EventRow) (index : Nat)
    (event : WorldEventDraft) : Except StorageError (List EventRow) := do
  let index ← indexToSql index "event_index"
  let next ← insertUnique (StorageError.sqlite .primaryKey) EventRow.eventId rows
    (eventRow position index event)
  ensure (!(rows.map fun row => (row.commitPosition, row.eventIndex)).contains
    (position, index)) (.sqlite .unique)
  parents.requireSchema (schemaColumns event.schema)
  parents.requireCommit position
  return next

/-- The row of one effect job, which starts pending and due at once. -/
def effectRow (position index : Nat) (effect : EffectJobDraft) : EffectJobRow where
  jobId := effect.id
  commitPosition := position
  jobIndex := index
  schema := schemaColumns effect.schema
  payloadJson := effect.payload.json.toText
  status := 0
  attemptCount := 0
  availableAtMs := 0
  leaseExpiresAtMs := none
  lastError := none

def insertEffect (parents : ParentKeys) (position : Nat) (rows : List EffectJobRow)
    (index : Nat) (effect : EffectJobDraft) : Except StorageError (List EffectJobRow) := do
  let index ← indexToSql index "job_index"
  let next ← insertUnique (StorageError.sqlite .primaryKey) EffectJobRow.jobId rows
    (effectRow position index effect)
  ensure (!(rows.map fun row => (row.commitPosition, row.jobIndex)).contains
    (position, index)) (.sqlite .unique)
  parents.requireSchema (schemaColumns effect.schema)
  parents.requireCommit position
  return next

/-- Commit a command that has no receipt yet. -/
def commitNew (store : WorldStore Digest) (command : WorldCommand)
    (transaction : WorldTransaction) (evaluatedPosition : Nat) (clock : Int) (digest : Digest) :
    Except StorageError (WorldStore Digest × CommitReceipt) := do
  let schemas ← loadSchemaRegistry deps store.worldSchemas
  liftWorld (command.validateSchema schemas)
  liftWorld (transaction.validateSchemas schemas)
  rejectReusedEventOrEffectIds store transaction
  ensure (decide (store.commitPosition = evaluatedPosition))
    (.world (.worldChangedSinceEvaluation evaluatedPosition store.commitPosition))
  ensureExpectedPosition command store.commitPosition
  authorizeCommand store.state command store.commitPosition
  let position ← nextPosition store.commitPosition
  let position ← positionToSql position
  let worldCommits ← insertCommit store command digest position clock
  let parents := { store with worldCommits := worldCommits }.parentKeys
  let tables ← applyMutations parents position 0 transaction.mutations
    (store.worldMutations, store.state)
  let worldEvents ← insertIndexed (insertEvent parents position) 0 transaction.events
    store.worldEvents
  let effectJobs ← insertIndexed (insertEffect parents position) 0 transaction.effects
    store.effectJobs
  return ({ store with
      commitPosition := position
      worldCommits := worldCommits
      state := tables.2
      worldMutations := tables.1
      worldEvents := worldEvents
      effectJobs := effectJobs },
    ⟨.committed, command.id, position, transaction.events.map WorldEventDraft.id,
      transaction.effects.map EffectJobDraft.id⟩)

/-- Commit the result of evaluating a command at a position. -/
def commit (store : WorldStore Digest) (command : WorldCommand)
    (transaction : WorldTransaction) (evaluatedPosition : Nat) (clock : Int) :
    Except StorageError (WorldStore Digest × CommitReceipt) := do
  let digest := commandDigest deps command
  match ← loadExistingReceipt store command.id digest with
  | some receipt => return (store, receipt)
  | none => commitNew deps store command transaction evaluatedPosition clock digest

end Rintawa.Storage
