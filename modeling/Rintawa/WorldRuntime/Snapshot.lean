/-
# Pinned snapshots

A snapshot fixes the state tables, the registered schemas and the position of a
database at one moment. Systems see a part of it: the identity of the world, the
position, and reads of entities, relations and facets.
-/

import Rintawa.Storage.Commit

namespace Rintawa.WorldRuntime

open Rintawa.Lib Rintawa.Sdk Rintawa.World Rintawa.Storage

/-- What one pinned read transaction can see. -/
structure WorldSnapshot where
  worldId : WorldId
  position : Nat
  state : StateTables
  worldSchemas : List SchemaRow

/-- The read capability that a system gets. -/
structure SystemView where
  worldId : WorldId
  position : Nat
  loadEntity : EntityId → Except StorageError (Option EntityRecord)
  loadRelation : RelationId → Except StorageError (Option RelationRecord)
  loadFacet : FacetTarget → SchemaKey → Except StorageError (Option FacetRecord)

section Snapshot

variable {Digest : Type}

/-- Pin the current contents of a database. -/
def snapshot (store : WorldStore Digest) : WorldSnapshot :=
  ⟨store.worldId, store.commitPosition, store.state, store.worldSchemas⟩

/-- Validate a command and pin the snapshot that it must evaluate. -/
def snapshotForCommand (deps : Dependencies Digest) (store : WorldStore Digest)
    (command : WorldCommand) : Except StorageError WorldSnapshot := do
  let position ← validateCommand deps store command
  return ⟨store.worldId, position, store.state, store.worldSchemas⟩

/-- A command is evaluated at the position of the store. -/
theorem validateCommand_position {deps : Dependencies Digest} {store : WorldStore Digest}
    {command : WorldCommand} {position : Nat}
    (h : validateCommand deps store command = .ok position) :
    position = store.commitPosition := by
  obtain ⟨_, _, h⟩ := bind_eq_ok_iff.mp h
  obtain ⟨_, _, h⟩ := bind_eq_ok_iff.mp h
  obtain ⟨_, _, h⟩ := bind_eq_ok_iff.mp h
  obtain ⟨_, _, h⟩ := bind_eq_ok_iff.mp h
  cases h
  rfl

/-- The snapshot for a command is the current one. -/
theorem snapshotForCommand_eq_ok {deps : Dependencies Digest} {store : WorldStore Digest}
    {command : WorldCommand} {pinned : WorldSnapshot}
    (h : snapshotForCommand deps store command = .ok pinned) : pinned = snapshot store := by
  obtain ⟨position, hposition, h⟩ := bind_eq_ok_iff.mp h
  cases h
  rw [validateCommand_position hposition]
  rfl

end Snapshot

namespace WorldSnapshot

variable {Digest : Type} (deps : Dependencies Digest) (pinned : WorldSnapshot)

def loadEntity (id : EntityId) : Except StorageError (Option EntityRecord) :=
  Storage.loadEntity pinned.state id

def loadRelation (id : RelationId) : Except StorageError (Option RelationRecord) :=
  Storage.loadRelation pinned.state id

def loadFacet (target : FacetTarget) (schema : SchemaKey) :
    Except StorageError (Option FacetRecord) :=
  Storage.loadFacet deps pinned.state target schema

def loadSchemaDefinition (key : SchemaKey) : Except StorageError (Option SchemaDefinition) :=
  Storage.loadSchema deps pinned.worldSchemas key

def principalCanControl (principal : PrincipalId) (actorEntity : EntityId)
    (commandSchema : SchemaKey) : Except StorageError Bool :=
  Storage.principalCanControl pinned.state principal actorEntity commandSchema pinned.position

/-- The part of a snapshot that systems see. -/
def systemView : SystemView where
  worldId := pinned.worldId
  position := pinned.position
  loadEntity := pinned.loadEntity
  loadRelation := pinned.loadRelation
  loadFacet := pinned.loadFacet deps

end WorldSnapshot

end Rintawa.WorldRuntime
