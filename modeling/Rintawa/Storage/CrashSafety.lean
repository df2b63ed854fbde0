/-
# Migrations survive crashes

A database that has its row of metadata can be opened again after a crash between any two
steps of creating or migrating it. Every state in between is a version of the same world:
what is still to be done for it leads to the same database.
-/

import Rintawa.Storage.Migration

namespace Rintawa.Storage

open Rintawa.Lib Rintawa.Sdk Rintawa.World

/-! ## Stored rows -/

/-- A job of the outbox in the columns that both forms of the table have. -/
structure StoredJob where
  jobId : EffectJobId
  commitPosition : Nat
  jobIndex : Nat
  schema : SchemaColumns
  payloadJson : String
  status : Nat
  attemptCount : Nat
  lastError : Option String
  deriving DecidableEq

/-- A running job is pending again, with its attempts and its last error. -/
def StoredJob.resumed (job : StoredJob) : StoredJob :=
  { job with status := if job.status = statusRunning then statusPending else job.status }

def UnleasedJobRow.stored (row : UnleasedJobRow) : StoredJob :=
  ⟨row.jobId, row.commitPosition, row.jobIndex, row.schema, row.payloadJson, row.status,
    row.attemptCount, row.lastError⟩

def storedJob (row : EffectJobRow) : StoredJob :=
  ⟨row.jobId, row.commitPosition, row.jobIndex, row.schema, row.payloadJson, row.status,
    row.attemptCount, row.lastError⟩

namespace Database

variable {Digest : Type}

def worldSchemas : Database Digest → List SchemaRow
  | .v0 | .newer _ => []
  | .v1 base | .v2 base _ _ | .v3 base _ _ => base.worldSchemas

def history : Database Digest → HistoryTables Digest
  | .v0 | .v1 _ | .newer _ => .empty Digest
  | .v2 _ history _ | .v3 _ history _ => history

def outbox : Database Digest → List StoredJob
  | .v0 | .v1 _ | .newer _ => []
  | .v2 _ _ effectJobs => effectJobs.map UnleasedJobRow.stored
  | .v3 _ _ effectJobs => effectJobs.map storedJob

/-- A database of a world, of a supported version. The first version has no history. -/
structure Sound (database : Database Digest) (row : WorldMetadataRow) : Prop where
  metadata : database.worldMetadata = some row
  format : row.worldFormatVersion = Storage.worldFormatVersion
  unwritten : database.storageVersion = 1 → row.commitPosition = 0

/-- The database of the current version with the same rows. -/
def upgrade : Database Digest → Database Digest
  | .v1 base => .v3 base (.empty Digest) []
  | .v2 base history effectJobs => .v3 base history (effectJobs.map rebuildJob)
  | database => database

/-- Every row is kept, but for running jobs of an outbox without leases. -/
structure Keeps (before after : Database Digest) : Prop where
  version : after.storageVersion = storageSchemaVersion
  metadata : after.worldMetadata = before.worldMetadata
  schemas : after.worldSchemas = before.worldSchemas
  history : after.history = before.history
  outbox : after.outbox =
    if before.storageVersion = storageSchemaVersion then before.outbox
    else before.outbox.map StoredJob.resumed

/-- An upgrade keeps what a sound database holds. -/
theorem Sound.keeps {database : Database Digest} {row : WorldMetadataRow}
    (h : database.Sound row) : database.Keeps database.upgrade := by
  cases database with
  | v0 | newer => cases h.metadata
  | v1 base => exact ⟨rfl, rfl, rfl, rfl, rfl⟩
  | v2 base history effectJobs =>
      refine ⟨rfl, rfl, rfl, rfl, ?_⟩
      have hversion : storageVersion (.v2 base history effectJobs) ≠ storageSchemaVersion :=
        Nat.ne_of_lt (Nat.lt_succ_self 2)
      rw [if_neg hversion]
      simp only [upgrade, outbox, List.map_map]
      rfl
  | v3 base history effectJobs => exact ⟨rfl, rfl, rfl, rfl, rfl⟩

end Database

/-! ## Opening -/

section Opening

variable {Digest : Type}

/-- The rebuilt jobs keep the constraint of the new table. -/
theorem checkJob_rebuildJob (row : UnleasedJobRow) : checkJob (rebuildJob row) = true := by
  have hknown := row.known
  by_cases hrunning : row.status = statusRunning
  · simp [checkJob, rebuildJob, hrunning, statusRunning, statusPending]
  · have hother : row.status ≠ 1 := hrunning
    have hstatus : row.status ≤ 3 := by omega
    simp [checkJob, rebuildJob, statusRunning, hother, hstatus]

theorem apply_migrateToV3 (base : BaseTables) (history : HistoryTables Digest)
    (effectJobs : List UnleasedJobRow) :
    DatabaseStep.migrateToV3.apply (.v2 base history effectJobs) =
      .ok (.v3 base history (effectJobs.map rebuildJob)) := by
  have hcheck : (effectJobs.map rebuildJob).all checkJob = true := by
    rw [List.all_map, List.all_eq_true]
    exact fun row _ => checkJob_rebuildJob row
  rw [DatabaseStep.apply, if_pos hcheck]

/-- One migration of a sound database leaves the others to do, and leads to the same
database. -/
theorem Database.Sound.commit {database database' : Database Digest} {row : WorldMetadataRow}
    (h : database.Sound row) {step : DatabaseStep} {rest : List DatabaseStep}
    (hsteps : migrationSteps database = .ok (step :: rest))
    (hstep : step.apply database = .ok database') :
    database'.Sound row ∧ database'.upgrade = database.upgrade ∧
      migrationSteps database' = .ok rest := by
  cases database with
  | v0 | newer => cases h.metadata
  | v1 base =>
      have hmetadata : base.worldMetadata = some row := h.metadata
      simp only [migrationSteps, hmetadata, h.unwritten rfl] at hsteps
      cases hsteps
      cases hstep
      exact ⟨⟨hmetadata, h.format, fun hversion => by cases hversion⟩, rfl, rfl⟩
  | v2 base history effectJobs =>
      cases hsteps
      rw [apply_migrateToV3] at hstep
      cases hstep
      exact ⟨⟨h.metadata, h.format, fun hversion => by cases hversion⟩, rfl, rfl⟩
  | v3 => cases hsteps

/-- A sound database can be opened, and is migrated. -/
theorem Database.Sound.openDatabase {database : Database Digest} {row : WorldMetadataRow}
    (h : database.Sound row) : openDatabase (some database) = .ok (database.upgrade, row) := by
  have hread : ∀ upgraded : Database Digest, upgraded.worldMetadata = some row →
      (readWorldMetadata upgraded >>= fun row =>
        ensureWorldFormat row.worldFormatVersion >>= fun _ => .ok (upgraded, row)) =
      Except.ok (upgraded, row) := by
    intro upgraded hmetadata
    simp only [readWorldMetadata, hmetadata, bind, Except.bind, ensureWorldFormat, h.format,
      if_true]
  have hmigrate : migrateExisting database = .ok database.upgrade := by
    cases database with
    | v0 | newer => cases h.metadata
    | v1 base =>
        have hmetadata : base.worldMetadata = some row := h.metadata
        simp only [migrateExisting, migrationSteps, hmetadata, h.unwritten rfl]
        rfl
    | v2 base history effectJobs =>
        simp only [migrateExisting, migrationSteps, bind, Except.bind, runSteps,
          List.foldlM_cons, apply_migrateToV3]
        rfl
    | v3 => rfl
  simp only [Storage.openDatabase, hmigrate]
  exact hread _ (h.keeps.metadata.trans h.metadata)

end Opening

/-! ## Crashes -/

section Crashes

variable {Digest : Type}

/-- A file of a world, with what is still to be done for it. -/
def FileState.Migrates (state : FileState Digest) (world : Database Digest)
    (row : WorldMetadataRow) : Prop :=
  ∃ database : Database Digest, state.file = some database ∧ database.Sound row ∧
    database.upgrade = world ∧ ∀ creating steps, state.pending = some (creating, steps) →
      migrationSteps database = .ok steps

variable {state state' : FileState Digest}

/-- A step on a file of a world goes on with what is still to be done. -/
theorem FileState.Migrates.step {label : FileLabel} {world : Database Digest}
    {row : WorldMetadataRow} (h : state.Migrates world row) (hstep : FileStep state label state') :
    state'.Migrates world row ∨
      (∃ rest, state.pending = some (true, rest)) ∧ state' = .closed none := by
  obtain ⟨database, hfile, hsound, hworld, hpending⟩ := h
  cases hstep with
  | create => cases hfile
  | «open» hsteps =>
      cases hfile
      refine .inl ⟨database, rfl, hsound, hworld, fun creating steps heq => ?_⟩
      cases heq
      exact hsteps
  | commit happly =>
      cases hfile
      obtain ⟨hsound', hsame, hrest⟩ := hsound.commit (hpending _ _ rfl) happly
      refine .inl ⟨_, rfl, hsound', hsame.trans hworld, fun creating steps heq => ?_⟩
      cases heq
      exact hrest
  | returned =>
      exact .inl ⟨database, hfile, hsound, hworld, fun creating steps heq => by cases heq⟩
  | @failed file creating removed steps =>
      by_cases hremoved : (creating && removed) = true
      · rw [Bool.and_eq_true] at hremoved
        refine .inr ⟨⟨steps, by rw [hremoved.1]⟩, ?_⟩
        rw [hremoved.1, hremoved.2]
        rfl
      · refine .inl ⟨database, ?_, hsound, hworld, fun creating steps heq => by cases heq⟩
        rw [if_neg hremoved]
        exact hfile
  | crash => exact .inl ⟨database, hfile, hsound, hworld, fun creating steps heq => by cases heq⟩

variable {labels : List FileLabel}

/-- A process that opens a world is the only one that works on its file. -/
theorem migrates_of_run {world : Database Digest} {row : WorldMetadataRow}
    (h : state.Migrates world row) (hopened : ∀ rest, state.pending ≠ some (true, rest))
    (hrun : (fileSystem Digest).Run state labels state') : state'.Migrates world row := by
  induction hrun with
  | refl => exact h
  | @cons first second _ label _ hstep _ ih =>
      have hstep : FileStep first label second := hstep
      rcases h.step hstep with hnext | ⟨⟨rest, hcreating⟩, -⟩
      · refine ih hnext fun rest hpending => ?_
        obtain ⟨database, hfile, -⟩ := h
        cases hstep with
        | create => cases hfile
        | «open» => cases hpending
        | commit =>
            cases hpending
            exact hopened _ rfl
        | returned | failed | crash => cases hpending
      · exact absurd hcreating (hopened rest)

/-- The database of a world that was just created. -/
def newWorld (Digest : Type) (worldId : WorldId) : Database Digest :=
  .v3 ⟨some ⟨worldId, worldFormatVersion, 0⟩, []⟩ (.empty Digest) []

/-- A file that was created: nothing is left of it, it has no row of metadata yet, or it is
the world that was asked for. -/
def FileState.Created (labels : List FileLabel) (state : FileState Digest) : Prop :=
  (state.file = none ∧ state.pending = none) ∨
  (state.file = some .v0 ∧ ∀ creating steps, state.pending = some (creating, steps) →
    ∃ worldId, .create worldId ∈ labels ∧ steps = initializationSteps worldId) ∨
  (state.file = some (.v1 ⟨none, []⟩) ∧ ∀ creating steps,
    state.pending = some (creating, steps) →
      ∃ worldId, .create worldId ∈ labels ∧ steps = (initializationSteps worldId).tail) ∨
  ∃ worldId, .create worldId ∈ labels ∧
    state.Migrates (newWorld Digest worldId) ⟨worldId, worldFormatVersion, 0⟩

/-- A file that was created is so after every step. -/
theorem FileState.Created.step {label : FileLabel} (h : state.Created labels)
    (hstep : FileStep state label state') : state'.Created (labels ++ [label]) := by
  rcases h with ⟨hfile, hpending⟩ | ⟨hfile, hpending⟩ | ⟨hfile, hpending⟩ |
    ⟨worldId, hcreated, hmigrates⟩
  · cases hstep with
    | create worldId =>
        refine .inr (.inl ⟨rfl, fun creating steps heq => ?_⟩)
        cases heq
        exact ⟨worldId, List.mem_append_right _ List.mem_cons_self, rfl⟩
    | «open» | commit => cases hfile
    | returned | failed => cases hpending
    | crash => exact .inl ⟨hfile, rfl⟩
  · cases hstep with
    | create => cases hfile
    | «open» hsteps =>
        cases hfile
        cases hsteps
    | commit happly =>
        cases hfile
        obtain ⟨worldId, hcreated, hsteps⟩ := hpending _ _ rfl
        cases hsteps
        cases happly
        refine .inr (.inr (.inl ⟨rfl, fun creating steps heq => ?_⟩))
        cases heq
        exact ⟨worldId, List.mem_append_left _ hcreated, rfl⟩
    | returned => exact .inr (.inl ⟨hfile, fun creating steps heq => by cases heq⟩)
    | @failed file creating removed steps =>
        by_cases hremoved : (creating && removed) = true
        · exact .inl ⟨if_pos hremoved, rfl⟩
        · exact .inr (.inl ⟨(if_neg hremoved).trans hfile, fun creating steps heq => by cases heq⟩)
    | crash => exact .inr (.inl ⟨hfile, fun creating steps heq => by cases heq⟩)
  · cases hstep with
    | create => cases hfile
    | «open» hsteps =>
        cases hfile
        cases hsteps
    | commit happly =>
        cases hfile
        obtain ⟨worldId, hcreated, hsteps⟩ := hpending _ _ rfl
        cases hsteps
        cases happly
        refine .inr (.inr (.inr ⟨worldId, List.mem_append_left _ hcreated, _, rfl,
          ⟨rfl, rfl, fun _ => rfl⟩, rfl, fun creating steps heq => ?_⟩))
        cases heq
        rfl
    | returned => exact .inr (.inr (.inl ⟨hfile, fun creating steps heq => by cases heq⟩))
    | @failed file creating removed steps =>
        by_cases hremoved : (creating && removed) = true
        · exact .inl ⟨if_pos hremoved, rfl⟩
        · exact .inr (.inr (.inl
            ⟨(if_neg hremoved).trans hfile, fun creating steps heq => by cases heq⟩))
    | crash => exact .inr (.inr (.inl ⟨hfile, fun creating steps heq => by cases heq⟩))
  · rcases hmigrates.step hstep with hnext | ⟨⟨rest, hcreating⟩, hnone⟩
    · exact .inr (.inr (.inr ⟨worldId, List.mem_append_left _ hcreated, hnext⟩))
    · rw [hnone]
      exact .inl ⟨rfl, rfl⟩

theorem created_of_run (hrun : (fileSystem Digest).Run (.closed none) labels state) :
    state.Created labels :=
  Lts.Run.history_induction (P := fun labels state => FileState.Created labels state)
    (.inl ⟨rfl, rfl⟩) (fun _ _ _ _ _ h hstep => h.step hstep) hrun

/-! ## The guarantee -/

/-- A database with a row of metadata can be opened wherever processes that opened it were
cut off, and then has the rows it had before. A file that was created is such a database
from the commit of that row on. Before, it has no rows, and opening it fails. -/
theorem migration_crash_safe (labels : List FileLabel) (state : FileState Digest) :
    (∀ (database : Database Digest) row, database.Sound row →
      (fileSystem Digest).Run (.closed (some database)) labels state →
      openDatabase state.file = .ok (database.upgrade, row) ∧
        database.Keeps database.upgrade) ∧
    ((fileSystem Digest).Run (.closed none) labels state →
      ∀ database, state.file = some database →
      match database.worldMetadata with
      | none =>
          (database = .v0 ∨ database = .v1 ⟨none, []⟩) ∧
            ∃ error, openDatabase state.file = .error error
      | some row =>
          .create row.worldId ∈ labels ∧ row.commitPosition = 0 ∧
            openDatabase state.file = .ok (newWorld Digest row.worldId, row)) := by
  refine ⟨fun database row hsound hrun => ⟨?_, hsound.keeps⟩, fun hrun database hfile => ?_⟩
  · have hstart : (FileState.closed (some database)).Migrates database.upgrade row :=
      ⟨database, rfl, hsound, rfl, fun creating steps heq => by cases heq⟩
    obtain ⟨later, hfile, hlater, hworld, -⟩ :=
      migrates_of_run hstart (fun rest heq => by cases heq) hrun
    rw [hfile, hlater.openDatabase, hworld]
  · rcases created_of_run hrun with ⟨hnone, -⟩ | ⟨hzero, -⟩ | ⟨hone, -⟩ |
      ⟨worldId, hcreated, later, hlater, hsound, hworld, -⟩
    · rw [hnone] at hfile
      cases hfile
    · cases hzero.symm.trans hfile
      exact ⟨.inl rfl, _, by rw [hzero]; rfl⟩
    · cases hone.symm.trans hfile
      exact ⟨.inr rfl, _, by rw [hone]; rfl⟩
    · cases hlater.symm.trans hfile
      rw [hlater, hsound.metadata]
      exact ⟨hcreated, rfl, by rw [hsound.openDatabase, hworld]⟩

end Crashes

/-! ## A migration that is cut off -/

/-- The metadata of a world that nothing was written to. -/
def freshMetadata (worldId : WorldId) : WorldMetadataRow :=
  ⟨worldId, worldFormatVersion, 0⟩

/-- A database without leases, in which a job was running. -/
def unleasedDatabase : Database Unit :=
  .v2 ⟨some ⟨⟨7⟩, worldFormatVersion, 1⟩, []⟩ (.empty Unit)
    [⟨⟨1⟩, 1, 0, ⟨"demo.mail", 1⟩, "true", statusRunning, 1, none, by decide⟩]

/-- A process that migrates the first version is cut off between the two migrations, and the next
one before it returns. A process that migrates a database with a running job is cut off before it
has committed anything. And a process that creates a world is cut off after the row of metadata. -/
theorem migration_crash_safe_cut_off :
    (∃ state : FileState Unit,
      (fileSystem Unit).Run (.closed (some (.v1 ⟨some (freshMetadata ⟨7⟩), []⟩)))
        [.open, .commit, .crash, .open, .commit, .crash] state ∧
      openDatabase state.file = .ok (newWorld Unit ⟨7⟩, freshMetadata ⟨7⟩)) ∧
    (∃ state : FileState Unit,
      (fileSystem Unit).Run (.closed (some unleasedDatabase))
        [.open, .crash, .open, .commit] state ∧
      openDatabase state.file = .ok (unleasedDatabase.upgrade, ⟨⟨7⟩, worldFormatVersion, 1⟩) ∧
      unleasedDatabase.Keeps unleasedDatabase.upgrade) ∧
    ∃ state : FileState Unit, (fileSystem Unit).Run (.closed none)
        [.create ⟨7⟩, .commit, .commit, .crash, .open, .commit] state ∧
      openDatabase state.file = .ok (newWorld Unit ⟨7⟩, freshMetadata ⟨7⟩) := by
  refine ⟨?_, ?_, ?_⟩
  · have hrun : (fileSystem Unit).Run (.closed (some (.v1 ⟨some (freshMetadata ⟨7⟩), []⟩)))
        [.open, .commit, .crash, .open, .commit, .crash] _ :=
      .cons (.open rfl) <| .cons (.commit rfl) <| .cons .crash <| .cons (.open rfl) <|
        .cons (.commit rfl) (.single .crash)
    exact ⟨_, hrun, ((migration_crash_safe _ _).1 _ _ ⟨rfl, rfl, fun _ => rfl⟩ hrun).1⟩
  · have hrun : (fileSystem Unit).Run (.closed (some unleasedDatabase))
        [.open, .crash, .open, .commit] _ :=
      .cons (.open rfl) <| .cons .crash <| .cons (.open rfl) (.single (.commit rfl))
    exact ⟨_, hrun, (migration_crash_safe _ _).1 _ _ ⟨rfl, rfl, fun h => by cases h⟩ hrun⟩
  · have hrun : (fileSystem Unit).Run (.closed none)
        [.create ⟨7⟩, .commit, .commit, .crash, .open, .commit] _ :=
      .cons (.create _) <| .cons (.commit rfl) <| .cons (.commit rfl) <| .cons .crash <|
        .cons (.open rfl) (.single (.commit rfl))
    exact ⟨_, hrun, ((migration_crash_safe _ _).2 hrun _ rfl).2.2⟩

/-! ## A creation that is cut off -/

/-- A crash right after the file was made, or right after the first tables were, leaves a
file that cannot be opened. -/
theorem creation_cut_off :
    (∃ state : FileState Unit, (fileSystem Unit).Run (.closed none)
        [.create ⟨0⟩, .crash] state ∧
      openDatabase state.file = .error .uninitialized) ∧
    ∃ state : FileState Unit, (fileSystem Unit).Run (.closed none)
        [.create ⟨0⟩, .commit, .crash] state ∧
      openDatabase state.file = .error (.sqlite "query returned no rows") := by
  refine ⟨⟨_, .cons (.create _) (.single .crash), rfl⟩, ?_⟩
  exact ⟨_, .cons (.create _) (.cons (.commit rfl) (.single .crash)), rfl⟩

end Rintawa.Storage
