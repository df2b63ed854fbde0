/-
# Codecs for schema rows, and the code outside the database

Hashing, JSON parsing and JSON Schema compilation are external, so they are
collected as parameters. A schema row decodes to a definition, and the registry
of a database is built from all of its rows in key order.
-/

import Mathlib.Data.List.Sort
import Rintawa.Storage.Tables

namespace Rintawa.Storage

open Rintawa.Lib Rintawa.Sdk Rintawa.World

/-- The external functions that storage relies on. -/
structure Dependencies (Digest : Type) where
  /-- The SHA-256 digest of the UTF-8 bytes of a text. -/
  sha256 : String → Digest
  /-- Parse a JSON document. -/
  fromStr : String → Except JsonError JsonValue
  /-- Parse a mutation log entry. -/
  mutationFromStr : String → Except JsonError WorldMutation
  validatorFor : SchemaCompiler

/-- Parse failures as storage errors. -/
def liftJson {α : Type*} : Except JsonError α → Except StorageError α
  | .ok value => .ok value
  | .error error => .error (.json error)

@[simp]
theorem liftJson_eq_ok_iff {α : Type*} {x : Except JsonError α} {value : α} :
    liftJson x = .ok value ↔ x = .ok value := by
  cases x <;> simp [liftJson]

/-- The key stored in two columns. -/
def decodeSchemaKey (columns : SchemaColumns) : Except StorageError SchemaKey :=
  match SchemaId.parse columns.schemaId with
  | .error error => .error (.corruptData error.display)
  | .ok id =>
      match SchemaVersion.new columns.schemaVersion with
      | none => .error (.corruptData "invalid schema version")
      | some version => .ok ⟨id, version⟩

theorem SchemaId.parse_eq_ok_iff {text : String} {id : SchemaId} :
    SchemaId.parse text = .ok id ↔ validateSchemaId text = .ok () ∧ id.asStr = text := by
  obtain ⟨asStr⟩ := id
  unfold SchemaId.parse
  cases validateSchemaId text with
  | error error => simp [bind, Except.bind]
  | ok valid => simp [bind, Except.bind, pure, Except.pure, eq_comm]

theorem SchemaVersion.new_get (version : SchemaVersion) :
    SchemaVersion.new version.get = some version :=
  dif_pos ⟨version.positive, version.fits⟩

theorem SchemaVersion.get_of_new {value : Nat} {version : SchemaVersion}
    (h : SchemaVersion.new value = some version) : version.get = value := by
  unfold SchemaVersion.new at h
  split at h
  · cases h
    rfl
  · cases h

variable {key : SchemaKey} {kind : SchemaKind}

/-- Two columns decode to a key exactly when they are its columns and its
identifier is canonical. -/
theorem decodeSchemaKey_eq_ok_iff {columns : SchemaColumns} :
    decodeSchemaKey columns = .ok key ↔
      schemaColumns key = columns ∧ validateSchemaId key.id.asStr = .ok () := by
  obtain ⟨text, value⟩ := columns
  constructor
  · intro h
    unfold decodeSchemaKey at h
    cases hparse : SchemaId.parse text with
    | error error => simp [hparse] at h
    | ok id =>
        cases hversion : SchemaVersion.new value with
        | none => simp [hparse, hversion] at h
        | some version =>
            simp only [hparse, hversion, Except.ok.injEq] at h
            subst h
            obtain ⟨hvalid, htext⟩ := SchemaId.parse_eq_ok_iff.mp hparse
            have hvalue := SchemaVersion.get_of_new hversion
            exact ⟨by simp [schemaColumns, htext, hvalue], by simpa [htext] using hvalid⟩
  · rintro ⟨hcolumns, hvalid⟩
    simp only [schemaColumns, SchemaColumns.mk.injEq] at hcolumns
    obtain ⟨rfl, rfl⟩ := hcolumns
    have hparse := SchemaId.parse_eq_ok_iff.mpr ⟨hvalid, rfl⟩
    simp [decodeSchemaKey, hparse, SchemaVersion.new_get]

/-! ## Schema rows -/

/-- The number of a kind of schema. -/
def schemaKindCode : SchemaKind → Nat
  | .entity => 1
  | .relation => 2
  | .facet => 3
  | .command => 4
  | .event => 5
  | .effect => 6
  | .projection => 7

/-- The kind of schema of a number. -/
def schemaKindFromCode : Nat → Except StorageError SchemaKind
  | 1 => .ok .entity
  | 2 => .ok .relation
  | 3 => .ok .facet
  | 4 => .ok .command
  | 5 => .ok .event
  | 6 => .ok .effect
  | 7 => .ok .projection
  | code => .error (.corruptData ("unknown schema kind code " ++ toString code))

@[simp]
theorem schemaKindFromCode_code (kind : SchemaKind) :
    schemaKindFromCode (schemaKindCode kind) = .ok kind := by
  cases kind <;> rfl

theorem code_of_schemaKindFromCode {code : Nat} (h : schemaKindFromCode code = .ok kind) :
    code = schemaKindCode kind := by
  unfold schemaKindFromCode at h
  split at h <;> cases h <;> rfl

section Registry

variable {Digest : Type} (deps : Dependencies Digest)

/-- The definition stored in one row. -/
def decodeSchema (row : SchemaRow) : Except StorageError SchemaDefinition := do
  let key ← decodeSchemaKey row.schema
  let definition ← liftJson (deps.fromStr row.definitionJson)
  let kind ← schemaKindFromCode row.kind
  return ⟨key, kind, ⟨row.ownerExtensionId⟩, definition⟩

/-- Register the definitions of rows one after another. -/
def registerRows : SchemaRegistry → List SchemaRow → Except StorageError SchemaRegistry
  | registry, [] => .ok registry
  | registry, row :: rows => do
      let definition ← decodeSchema deps row
      let next ← liftWorld (registry.register deps.validatorFor definition)
      registerRows next.1 rows

/-- The primary-key order of schema rows. -/
def schemaRowLe (a b : SchemaRow) : Prop :=
  a.schema.schemaId < b.schema.schemaId ∨
    (a.schema.schemaId = b.schema.schemaId ∧ a.schema.schemaVersion ≤ b.schema.schemaVersion)

instance : DecidableRel schemaRowLe := fun a b =>
  inferInstanceAs (Decidable (a.schema.schemaId < b.schema.schemaId ∨
    (a.schema.schemaId = b.schema.schemaId ∧
      a.schema.schemaVersion ≤ b.schema.schemaVersion)))

/-- The registry of all stored schemas. -/
def loadSchemaRegistry (worldSchemas : List SchemaRow) : Except StorageError SchemaRegistry :=
  registerRows deps .new (worldSchemas.insertionSort schemaRowLe)

/-- One stored schema. -/
def loadSchema (worldSchemas : List SchemaRow) (key : SchemaKey) :
    Except StorageError (Option SchemaDefinition) :=
  match lookupRow SchemaRow.schema worldSchemas (schemaColumns key) with
  | none => .ok none
  | some row => (decodeSchema deps row).map some

variable {deps}

/-- A row that is decoded has the columns of its definition. -/
theorem decodeSchema_eq_ok {row : SchemaRow} {definition : SchemaDefinition}
    (h : decodeSchema deps row = .ok definition) :
    row.schema = schemaColumns definition.key ∧
      validateSchemaId definition.key.id.asStr = .ok () ∧
      row.kind = schemaKindCode definition.kind ∧
      row.ownerExtensionId = definition.owner.asStr ∧
      deps.fromStr row.definitionJson = .ok definition.definition := by
  obtain ⟨key, hkey, h⟩ := bind_eq_ok_iff.mp h
  obtain ⟨document, hdocument, h⟩ := bind_eq_ok_iff.mp h
  obtain ⟨kind, hkind, h⟩ := bind_eq_ok_iff.mp h
  cases h
  obtain ⟨hcolumns, hvalid⟩ := decodeSchemaKey_eq_ok_iff.mp hkey
  exact ⟨hcolumns.symm, hvalid, code_of_schemaKindFromCode hkind, rfl,
    liftJson_eq_ok_iff.mp hdocument⟩

/-- Every definition of a registry comes from a row, and every validator is
compiled from the definition under its key. -/
structure Reflects (deps : Dependencies Digest) (rows : List SchemaRow)
    (registry : SchemaRegistry) : Prop where
  definition_row : ∀ key definition, registry.get key = some definition →
    definition.key = key ∧ ∃ row ∈ rows, decodeSchema deps row = .ok definition
  validator_compiled : ∀ key validate, registry.validator key = some validate →
    ∃ definition, registry.get key = some definition ∧
      deps.validatorFor definition.definition = .ok validate

theorem Reflects.new : Reflects deps [] .new where
  definition_row := by simp [SchemaRegistry.get, SchemaRegistry.new, lookupRow]
  validator_compiled := by simp [SchemaRegistry.validator, SchemaRegistry.new, lookupRow]

variable {registry : SchemaRegistry} {rows : List SchemaRow}

/-- Registering the definition of one more row keeps a registry faithful. -/
theorem Reflects.register {registry' : SchemaRegistry} {row : SchemaRow}
    {definition : SchemaDefinition} {outcome : SchemaRegistration}
    (hreflects : Reflects deps rows registry) (hrow : decodeSchema deps row = .ok definition)
    (h : registry.register deps.validatorFor definition = .ok (registry', outcome)) :
    Reflects deps (rows ++ [row]) registry' := by
  unfold SchemaRegistry.register at h
  cases hfound : registry.get definition.key with
  | some existing =>
      simp only [hfound] at h
      split at h
      · cases h
        refine ⟨fun key other hother => ?_, hreflects.validator_compiled⟩
        obtain ⟨hkey, source, hmem, hdecode⟩ := hreflects.definition_row key other hother
        exact ⟨hkey, source, List.mem_append_left _ hmem, hdecode⟩
      · cases h
  | none =>
      cases hcompiled : deps.validatorFor definition.definition with
      | error reason => simp [hfound, hcompiled] at h
      | ok compiled =>
          simp only [hfound, hcompiled, Except.ok.injEq, Prod.mk.injEq] at h
          obtain ⟨rfl, -⟩ := h
          constructor
          · intro key other hother
            simp only [SchemaRegistry.get, lookupRow_snoc, Option.or_eq_some_iff] at hother
            rcases hother with hold | ⟨-, hnew⟩
            · obtain ⟨hkey, source, hmem, hdecode⟩ := hreflects.definition_row key other hold
              exact ⟨hkey, source, List.mem_append_left _ hmem, hdecode⟩
            · split at hnew
              · next hkey =>
                  cases hnew
                  exact ⟨hkey, row, by simp, hrow⟩
              · cases hnew
          · intro key validate hvalidate
            simp only [SchemaRegistry.validator, lookupRow_snoc, Option.map_eq_some_iff,
              Option.or_eq_some_iff] at hvalidate
            obtain ⟨⟨stored, other⟩, hold | ⟨hfree, hnew⟩, rfl⟩ := hvalidate
            · obtain ⟨source, hget, hcompile⟩ := hreflects.validator_compiled key other
                (by simp [SchemaRegistry.validator, hold])
              refine ⟨source, ?_, hcompile⟩
              simp only [SchemaRegistry.get] at hget ⊢
              exact lookupRow_append hget
            · split at hnew
              · next hkey =>
                  cases hnew
                  refine ⟨definition, ?_, hcompiled⟩
                  simp only [SchemaRegistry.get, lookupRow_snoc] at hfound ⊢
                  subst hkey
                  simp [hfound]
              · cases hnew

/-- A registry that is read from rows reflects them. -/
theorem registerRows_reflects : ∀ {rows : List SchemaRow} {before : List SchemaRow}
    {registry registry' : SchemaRegistry}, Reflects deps before registry →
    registerRows deps registry rows = .ok registry' → Reflects deps (before ++ rows) registry'
  | [], before, registry, registry', hreflects, h => by
      cases h
      simpa using hreflects
  | row :: rows, before, registry, registry', hreflects, h => by
      obtain ⟨definition, hdecode, h⟩ := bind_eq_ok_iff.mp h
      obtain ⟨⟨next, outcome⟩, hregister, h⟩ := bind_eq_ok_iff.mp h
      have hnext := hreflects.register hdecode (liftWorld_eq_ok_iff.mp hregister)
      simpa using registerRows_reflects hnext h

/-- The loaded registry reflects the stored rows. -/
theorem loadSchemaRegistry_reflects {worldSchemas : List SchemaRow}
    (h : loadSchemaRegistry deps worldSchemas = .ok registry) :
    Reflects deps worldSchemas registry := by
  have hreflects := registerRows_reflects Reflects.new h
  refine ⟨fun key definition hget => ?_, hreflects.validator_compiled⟩
  obtain ⟨hkey, row, hmem, hdecode⟩ := hreflects.definition_row key definition hget
  exact ⟨hkey, row, by simpa using hmem, hdecode⟩

/-- A schema that passes the kind check has a row of that kind. -/
theorem Reflects.registered_of_requireKind (hreflects : Reflects deps rows registry)
    (h : registry.requireKind key kind = .ok ()) :
    ∃ row ∈ rows, ∃ definition, decodeSchema deps row = .ok definition ∧
      definition.key = key ∧ definition.kind = kind := by
  obtain ⟨definition, hget, hkind⟩ := SchemaRegistry.requireKind_eq_ok_iff.mp h
  obtain ⟨hkey, row, hmem, hdecode⟩ := hreflects.definition_row key definition hget
  exact ⟨row, hmem, definition, hdecode, hkey, hkind⟩

/-- A payload that passes validation is accepted by the validator compiled from
a row of the expected kind. -/
theorem Reflects.accepted_of_validatePayload (hreflects : Reflects deps rows registry)
    {payload : JsonValue} (h : registry.validatePayload key kind payload = .ok ()) :
    ∃ row ∈ rows, ∃ definition validate, decodeSchema deps row = .ok definition ∧
      definition.key = key ∧ definition.kind = kind ∧
      deps.validatorFor definition.definition = .ok validate ∧ validate payload = .ok () := by
  obtain ⟨hkind, validate, hvalidator, haccepts⟩ :=
    SchemaRegistry.validatePayload_eq_ok_iff.mp h
  obtain ⟨definition, hget, hkind'⟩ := SchemaRegistry.requireKind_eq_ok_iff.mp hkind
  obtain ⟨other, hother, hcompiled⟩ := hreflects.validator_compiled key validate hvalidator
  cases hget.symm.trans hother
  obtain ⟨hkey, row, hmem, hdecode⟩ := hreflects.definition_row key definition hget
  exact ⟨row, hmem, definition, validate, hdecode, hkey, hkind', hcompiled, haccepts⟩

end Registry

end Rintawa.Storage
