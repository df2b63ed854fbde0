/-
# Registering schemas

A batch of definitions is checked against the stored registry and against its own
earlier members, and published as a whole. The registration of a single
definition is a lookup followed by a separate insertion, between which another
connection may write; its lookup therefore reads rows of its own.
-/

import Rintawa.Storage.Commit

namespace Rintawa.Storage

open Rintawa.Lib Rintawa.Sdk Rintawa.World

variable {Digest : Type} (deps : Dependencies Digest)

/-- The row of one definition. -/
def schemaRow (definition : SchemaDefinition) : SchemaRow :=
  ⟨schemaColumns definition.key, schemaKindCode definition.kind, definition.owner.asStr,
    definition.definition.json.toText⟩

/-- Append the row of a definition unless its key is taken. -/
def insertSchema (rows : List SchemaRow) (definition : SchemaDefinition) :
    Except StorageError (List SchemaRow) :=
  insertUnique (StorageError.sqlite .primaryKey) SchemaRow.schema rows (schemaRow definition)

/-- Only a definition that is new gets a row. -/
def insertRegistered (rows : List SchemaRow) (definition : SchemaDefinition) :
    SchemaRegistration → Except StorageError (List SchemaRow)
  | .registered => insertSchema rows definition
  | .alreadyPresent => .ok rows

/-- Register a batch against a registry, appending rows for new definitions. -/
def registerDefinitions :
    SchemaRegistry → List SchemaRow → List SchemaDefinition →
    Except StorageError (List SchemaRow × List SchemaRegistration)
  | _, rows, [] => .ok (rows, [])
  | registry, rows, definition :: definitions => do
      let registered ← liftWorld (registry.register deps.validatorFor definition)
      let next ← insertRegistered rows definition registered.2
      let rest ← registerDefinitions registered.1 next definitions
      return (rest.1, registered.2 :: rest.2)

/-- Persist a batch of schema definitions atomically. -/
def registerSchemas (store : WorldStore Digest) (definitions : List SchemaDefinition) :
    Except StorageError (WorldStore Digest × List SchemaRegistration) :=
  if definitions.isEmpty then .ok (store, [])
  else do
    let registry ← loadSchemaRegistry deps store.worldSchemas
    let result ← registerDefinitions deps registry store.worldSchemas definitions
    return ({ store with worldSchemas := result.1 }, result.2)

/-- Persist one schema definition, looked up in the rows seen before. -/
def registerSchema (seen : List SchemaRow) (store : WorldStore Digest)
    (definition : SchemaDefinition) :
    Except StorageError (WorldStore Digest × SchemaRegistration) := do
  match ← loadSchema deps seen definition.key with
  | some existing => do
      let registered ← liftWorld (SchemaRegistry.new.register deps.validatorFor existing)
      let again ← liftWorld (registered.1.register deps.validatorFor definition)
      return (store, again.2)
  | none => do
      let _ ← liftWorld (SchemaRegistry.new.register deps.validatorFor definition)
      let rows ← insertSchema store.worldSchemas definition
      return ({ store with worldSchemas := rows }, .registered)

/-! ## Registration only appends schema rows -/

/-- Rows are only appended, under free keys. -/
def SchemasGrow (rows rows' : List SchemaRow) : Prop :=
  rows <+: rows' ∧ ((rows.map SchemaRow.schema).Nodup → (rows'.map SchemaRow.schema).Nodup)

theorem SchemasGrow.refl (rows : List SchemaRow) : SchemasGrow rows rows :=
  ⟨List.prefix_refl rows, id⟩

theorem SchemasGrow.trans {rows rows' rows'' : List SchemaRow} (hfirst : SchemasGrow rows rows')
    (hsecond : SchemasGrow rows' rows'') : SchemasGrow rows rows'' :=
  ⟨hfirst.1.trans hsecond.1, hsecond.2 ∘ hfirst.2⟩

/-- A schema is added, or is there with the same definition. -/
theorem insertSchema_grow {rows rows' : List SchemaRow} {definition : SchemaDefinition}
    (h : insertSchema rows definition = .ok rows') : SchemasGrow rows rows' := by
  obtain ⟨hfree, rfl⟩ := insertUnique_eq_ok_iff.mp h
  exact ⟨List.prefix_append rows _, fun hnodup => nodup_map_snoc hnodup hfree⟩

variable {deps}

/-- Registration only adds schemas. -/
theorem registerDefinitions_grow :
    ∀ {definitions : List SchemaDefinition} {registry : SchemaRegistry}
      {rows rows' : List SchemaRow} {registrations : List SchemaRegistration},
      registerDefinitions deps registry rows definitions = .ok (rows', registrations) →
      SchemasGrow rows rows'
  | [], registry, rows, rows', registrations, h => by
      cases h
      exact .refl rows
  | definition :: definitions, registry, rows, rows', registrations, h => by
      obtain ⟨⟨next, registration⟩, _, h⟩ := bind_eq_ok_iff.mp h
      obtain ⟨middle, hmiddle, h⟩ := bind_eq_ok_iff.mp h
      obtain ⟨⟨final, others⟩, hrest, h⟩ := bind_eq_ok_iff.mp h
      cases h
      have hgrow := registerDefinitions_grow hrest
      cases registration with
      | registered => exact (insertSchema_grow hmiddle).trans hgrow
      | alreadyPresent =>
          cases hmiddle
          exact hgrow

/-- A batch registration changes nothing but the schema rows, which grow. -/
theorem registerSchemas_eq_ok {store store' : WorldStore Digest}
    {definitions : List SchemaDefinition} {registrations : List SchemaRegistration}
    (h : registerSchemas deps store definitions = .ok (store', registrations)) :
    ∃ rows, store' = { store with worldSchemas := rows } ∧
      SchemasGrow store.worldSchemas rows := by
  unfold registerSchemas at h
  split at h
  · cases h
    exact ⟨store.worldSchemas, rfl, .refl _⟩
  · obtain ⟨registry, _, h⟩ := bind_eq_ok_iff.mp h
    obtain ⟨⟨rows, others⟩, hrows, h⟩ := bind_eq_ok_iff.mp h
    cases h
    exact ⟨rows, rfl, registerDefinitions_grow hrows⟩

/-- So does the registration of a single schema. -/
theorem registerSchema_eq_ok {seen : List SchemaRow} {store store' : WorldStore Digest}
    {definition : SchemaDefinition} {registration : SchemaRegistration}
    (h : registerSchema deps seen store definition = .ok (store', registration)) :
    ∃ rows, store' = { store with worldSchemas := rows } ∧
      SchemasGrow store.worldSchemas rows := by
  obtain ⟨existing, _, h⟩ := bind_eq_ok_iff.mp h
  cases existing with
  | some found =>
      obtain ⟨_, _, h⟩ := bind_eq_ok_iff.mp h
      obtain ⟨_, _, h⟩ := bind_eq_ok_iff.mp h
      cases h
      exact ⟨store.worldSchemas, rfl, .refl _⟩
  | none =>
      obtain ⟨_, _, h⟩ := bind_eq_ok_iff.mp h
      obtain ⟨rows, hrows, h⟩ := bind_eq_ok_iff.mp h
      cases h
      exact ⟨rows, rfl, insertSchema_grow hrows⟩

end Rintawa.Storage
