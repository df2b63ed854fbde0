/-
# Initialization and migration of a world database

The schema of a database has a version, which each migration raises in the same transaction
that changes the tables. Version 1 has the metadata of the world and its schemas, version 2
adds the history, and version 3 rebuilds the outbox with leases. The row of metadata is
inserted between the first two of them. Every one of these steps is committed by itself.
-/

import Rintawa.Lib.Transition
import Rintawa.Storage.Outbox

namespace Rintawa.Storage

open Rintawa.Lib Rintawa.Sdk Rintawa.World

/-! ## Databases of every version -/

def storageSchemaVersion : Nat := 3

/-- The version of the world model that databases are written for. -/
def worldFormatVersion : Nat := 1

/-- The row of `world_metadata`. -/
structure WorldMetadataRow where
  worldId : WorldId
  worldFormatVersion : Nat
  commitPosition : Nat
  deriving DecidableEq

/-- A row of `effect_jobs` before leases, with its row constraint. -/
structure UnleasedJobRow where
  jobId : EffectJobId
  commitPosition : Nat
  jobIndex : Nat
  schema : SchemaColumns
  payloadJson : String
  status : Nat
  attemptCount : Nat
  lastError : Option String
  known : status ≤ 2
  deriving DecidableEq

/-- The tables of the first version. -/
structure BaseTables where
  worldMetadata : Option WorldMetadataRow
  worldSchemas : List SchemaRow

/-- The tables that the second version adds, without the outbox. -/
structure HistoryTables (Digest : Type) where
  worldCommits : List (CommitRow Digest)
  state : StateTables
  worldMutations : List MutationRow
  worldEvents : List EventRow

/-- No history. -/
def HistoryTables.empty (Digest : Type) : HistoryTables Digest :=
  ⟨[], .empty, [], []⟩

/-- A database file by the version of its schema. A file without tables has version 0. -/
inductive Database (Digest : Type)
  | v0
  | v1 (base : BaseTables)
  | v2 (base : BaseTables) (history : HistoryTables Digest) (effectJobs : List UnleasedJobRow)
  | v3 (base : BaseTables) (history : HistoryTables Digest) (effectJobs : List EffectJobRow)
  | newer (versionsAhead : Nat)

namespace Database

variable {Digest : Type}

/-- The version that a database says it has. -/
def storageVersion : Database Digest → Nat
  | .v0 => 0
  | .v1 _ => 1
  | .v2 _ _ _ => 2
  | .v3 _ _ _ => 3
  | .newer versionsAhead => storageSchemaVersion + 1 + versionsAhead

/-- The row about the world, if there is one. -/
def worldMetadata : Database Digest → Option WorldMetadataRow
  | .v0 | .newer _ => none
  | .v1 base | .v2 base _ _ | .v3 base _ _ => base.worldMetadata

end Database

/-! ## Steps -/

/-- Errors of creating and opening a database. -/
inductive DatabaseError
  | storage (error : StorageError)
  | sqlite (message : String)
  | io (message : String)
  | uninitialized
  | unsupportedStorageSchema (found supported : Nat)
  | unsupportedWorldFormat (found supported : Nat)
  | notFound
  | alreadyExists
  deriving DecidableEq

/-- The changes that are committed one by one. -/
inductive DatabaseStep
  | migrateToV1
  | insertMetadata (worldId : WorldId)
  | migrateToV2
  | migrateToV3
  deriving DecidableEq

/-- A running job cannot keep its attempt without a lease, so it is pending again. The
columns of a job that the rebuilt table constrains otherwise are copied from a table with
the same constraints. -/
def rebuildJob (row : UnleasedJobRow) : EffectJobRow where
  jobId := row.jobId
  commitPosition := row.commitPosition
  jobIndex := row.jobIndex
  schema := row.schema
  payloadJson := row.payloadJson
  status := if row.status = statusRunning then statusPending else row.status
  attemptCount := row.attemptCount
  availableAtMs := 0
  leaseExpiresAtMs := none
  lastError := row.lastError

section Steps

variable {Digest : Type}

/-- One transaction. A table that exists already, or one that is missing, fails it. -/
def DatabaseStep.apply (step : DatabaseStep) (database : Database Digest) :
    Except DatabaseError (Database Digest) :=
  match step, database with
  | .migrateToV1, .v0 => .ok (.v1 ⟨none, []⟩)
  | .insertMetadata worldId, .v1 ⟨none, schemas⟩ =>
      .ok (.v1 ⟨some ⟨worldId, worldFormatVersion, 0⟩, schemas⟩)
  | .insertMetadata _, .v1 ⟨some _, _⟩ => .error (.storage (.sqlite .primaryKey))
  | .migrateToV2, .v1 base => .ok (.v2 base (.empty Digest) [])
  | .migrateToV3, .v2 base history effectJobs =>
      if (effectJobs.map rebuildJob).all checkJob then
        .ok (.v3 base history (effectJobs.map rebuildJob))
      else .error (.storage (.sqlite .check))
  | _, _ => .error (.sqlite "table does not fit the statement")

/-- Commit steps one after another. -/
def runSteps (steps : List DatabaseStep) (database : Database Digest) :
    Except DatabaseError (Database Digest) :=
  steps.foldlM (fun database step => step.apply database) database

/-! ## Creating and opening -/

/-- The steps that make a new database. -/
def initializationSteps (worldId : WorldId) : List DatabaseStep :=
  [.migrateToV1, .insertMetadata worldId, .migrateToV2, .migrateToV3]

/-- Make an empty database one of a world. -/
def initializeNew (worldId : WorldId) (database : Database Digest) :
    Except DatabaseError (Database Digest) :=
  if database.storageVersion ≠ 0 then
    .error (.unsupportedStorageSchema database.storageVersion storageSchemaVersion)
  else runSteps (initializationSteps worldId) database

/-- The migrations that an existing database needs. -/
def migrationSteps (database : Database Digest) : Except DatabaseError (List DatabaseStep) :=
  match database with
  | .v0 => .error .uninitialized
  | .newer versionsAhead =>
      .error (.unsupportedStorageSchema (storageSchemaVersion + 1 + versionsAhead)
        storageSchemaVersion)
  | .v1 base =>
      match base.worldMetadata with
      | none => .error (.sqlite "query returned no rows")
      | some row =>
          if row.commitPosition ≠ 0 then
            .error (.storage (.corruptData
              "storage schema v1 cannot contain committed world history"))
          else .ok [.migrateToV2, .migrateToV3]
  | .v2 _ _ _ => .ok [.migrateToV3]
  | .v3 _ _ _ => .ok []

/-- Bring a database to the current version. -/
def migrateExisting (database : Database Digest) : Except DatabaseError (Database Digest) := do
  let steps ← migrationSteps database
  runSteps steps database

/-- Read the row about the world. -/
def readWorldMetadata (database : Database Digest) : Except DatabaseError WorldMetadataRow :=
  match database.worldMetadata with
  | none => .error .uninitialized
  | some row => .ok row

/-- Check the format of the world. -/
def ensureWorldFormat (found : Nat) : Except DatabaseError Unit :=
  if found = worldFormatVersion then .ok ()
  else .error (.unsupportedWorldFormat found worldFormatVersion)

/-- Open a file, which leaves it migrated, and read the row of metadata. -/
def openDatabase (file : Option (Database Digest)) :
    Except DatabaseError (Database Digest × WorldMetadataRow) :=
  match file with
  | none => .error .notFound
  | some database => do
      let database ← migrateExisting database
      let row ← readWorldMetadata database
      ensureWorldFormat row.worldFormatVersion
      .ok (database, row)

end Steps

/-! ## A file that processes work on -/

/-- A file, and the steps that the process that has it open still takes. A process that
creates the file removes it when it fails. -/
structure FileState (Digest : Type) where
  file : Option (Database Digest)
  pending : Option (Bool × List DatabaseStep)

/-- A file that no process has open. -/
def FileState.closed {Digest : Type} (file : Option (Database Digest)) : FileState Digest :=
  ⟨file, none⟩

/-- What happens to the file of a world. -/
inductive FileLabel
  | create (worldId : WorldId)
  | open
  | commit
  | returned
  | failed (removed : Bool)
  | crash
  deriving DecidableEq

/-- A transaction that fails changes nothing. When a process that creates the file fails, it
tries to remove the file. A crash between two steps leaves what is committed. -/
inductive FileStep {Digest : Type} : FileState Digest → FileLabel → FileState Digest → Prop
  | create (worldId : WorldId) :
      FileStep (.closed none) (.create worldId)
        ⟨some .v0, some (true, initializationSteps worldId)⟩
  | open {database : Database Digest} {steps : List DatabaseStep} :
      migrationSteps database = .ok steps →
      FileStep (.closed (some database)) .open ⟨some database, some (false, steps)⟩
  | commit {database database' : Database Digest} {creating : Bool} {step : DatabaseStep}
      {rest : List DatabaseStep} :
      step.apply database = .ok database' →
      FileStep ⟨some database, some (creating, step :: rest)⟩ .commit
        ⟨some database', some (creating, rest)⟩
  | returned {file : Option (Database Digest)} {creating : Bool} :
      FileStep ⟨file, some (creating, [])⟩ .returned (.closed file)
  | failed {file : Option (Database Digest)} {creating removed : Bool}
      {steps : List DatabaseStep} :
      FileStep ⟨file, some (creating, steps)⟩ (.failed removed)
        (.closed (if creating && removed then none else file))
  | crash {state : FileState Digest} : FileStep state .crash (.closed state.file)

/-- The file of a world, opened again and again. -/
def fileSystem (Digest : Type) : Lts (FileState Digest) FileLabel where
  init state := state.pending = none
  step := FileStep

end Rintawa.Storage
