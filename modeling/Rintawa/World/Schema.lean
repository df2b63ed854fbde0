/-
# Versioned world schemas and their registry

A schema definition is a JSON Schema document owned by one extension. The
registry keeps definitions and compiled validators under the same keys. Schema
compilation and payload validation are external, so they are parameters.
-/

import Rintawa.Lib.Table
import Rintawa.World.Error

namespace Rintawa.World

open Rintawa.Lib Rintawa.Sdk

/-- Where and why a validator rejected a payload. -/
structure ValidationError where
  instancePath : String
  reason : String
  deriving DecidableEq, Repr

/-- A compiled JSON Schema. -/
abbrev Validator := JsonValue → Except ValidationError Unit

/-- Compile a JSON Schema document, or say why it is not one. -/
abbrev SchemaCompiler := JsonValue → Except String Validator

/-- Complete immutable definition of one versioned world schema. -/
structure SchemaDefinition where
  key : SchemaKey
  kind : SchemaKind
  owner : ExtensionId
  definition : JsonValue

/-- Equality of definitions as values. -/
def SchemaDefinition.same (a b : SchemaDefinition) : Bool :=
  decide (a.key = b.key) && decide (a.kind = b.kind) && decide (a.owner = b.owner) &&
    a.definition.same b.definition

/-- Definitions are the same if they agree on all fields and on the JSON of the definition. -/
theorem SchemaDefinition.same_iff {a b : SchemaDefinition} :
    a.same b = true ↔ a.key = b.key ∧ a.kind = b.kind ∧ a.owner = b.owner ∧
      a.definition.same b.definition = true := by
  simp [SchemaDefinition.same, and_assoc]

/-- A definition is the same as itself. -/
theorem SchemaDefinition.same_refl (definition : SchemaDefinition) :
    definition.same definition = true :=
  SchemaDefinition.same_iff.mpr ⟨rfl, rfl, rfl, JsonValue.same_refl _⟩

/-- Result category for one schema registration. -/
inductive SchemaRegistration
  | registered
  | alreadyPresent
  deriving DecidableEq, Repr

/-- In-memory registry of immutable schemas and compiled validators. Both maps
are keyed by schema key. -/
structure SchemaRegistry where
  definitions : List SchemaDefinition
  validators : List (SchemaKey × Validator)

namespace SchemaRegistry

/-- An empty registry. -/
def new : SchemaRegistry := ⟨[], []⟩

/-- One registered schema definition. -/
def get (registry : SchemaRegistry) (key : SchemaKey) : Option SchemaDefinition :=
  lookupRow SchemaDefinition.key registry.definitions key

/-- The compiled validator of one schema. -/
def validator (registry : SchemaRegistry) (key : SchemaKey) : Option Validator :=
  (lookupRow Prod.fst registry.validators key).map Prod.snd

/-- Register one immutable schema definition. -/
def register (validatorFor : SchemaCompiler) (registry : SchemaRegistry)
    (definition : SchemaDefinition) :
    Except WorldError (SchemaRegistry × SchemaRegistration) :=
  match registry.get definition.key with
  | some existing =>
      if existing.same definition then .ok (registry, .alreadyPresent)
      else .error (.schemaConflict definition.key existing.owner.asStr definition.owner.asStr)
  | none =>
      match validatorFor definition.definition with
      | .error reason => .error (.invalidSchemaDefinition definition.key reason)
      | .ok compiled =>
          .ok (⟨registry.definitions ++ [definition],
            registry.validators ++ [(definition.key, compiled)]⟩, .registered)

/-- Require a registered schema to have a particular semantic kind. -/
def requireKind (registry : SchemaRegistry) (key : SchemaKey) (expected : SchemaKind) :
    Except WorldError Unit :=
  match registry.get key with
  | none => .error (.schemaNotRegistered key)
  | some definition =>
      if definition.kind ≠ expected then
        .error (.schemaKindMismatch key expected definition.kind)
      else .ok ()

/-- Validate a payload against a registered schema of the expected kind. -/
def validatePayload (registry : SchemaRegistry) (key : SchemaKey) (expected : SchemaKind)
    (payload : JsonValue) : Except WorldError Unit := do
  registry.requireKind key expected
  match registry.validator key with
  | none => .error (.schemaNotRegistered key)
  | some validate =>
      match validate payload with
      | .error error => .error (.payloadValidationFailed key error.instancePath error.reason)
      | .ok () => .ok ()

/-- A schema has a kind if it is registered with it. -/
theorem requireKind_eq_ok_iff {registry : SchemaRegistry} {key : SchemaKey}
    {expected : SchemaKind} :
    registry.requireKind key expected = .ok () ↔
      ∃ definition, registry.get key = some definition ∧ definition.kind = expected := by
  unfold requireKind
  cases registry.get key with
  | none => simp
  | some definition => by_cases hkind : definition.kind = expected <;> simp [hkind]

/-- A payload is valid if its schema has the kind and a validator, and the validator accepts it. -/
theorem validatePayload_eq_ok_iff {registry : SchemaRegistry} {key : SchemaKey}
    {expected : SchemaKind} {payload : JsonValue} :
    registry.validatePayload key expected payload = .ok () ↔
      registry.requireKind key expected = .ok () ∧
        ∃ validate, registry.validator key = some validate ∧ validate payload = .ok () := by
  unfold validatePayload
  rw [bind_eq_ok_iff]
  constructor
  · rintro ⟨⟨⟩, hkind, hvalidate⟩
    refine ⟨hkind, ?_⟩
    cases hfound : registry.validator key with
    | none => simp [hfound] at hvalidate
    | some validate =>
        refine ⟨validate, rfl, ?_⟩
        cases hresult : validate payload with
        | error error => simp [hfound, hresult] at hvalidate
        | ok result => rfl
  · rintro ⟨hkind, validate, hfound, hvalid⟩
    exact ⟨(), hkind, by simp [hfound, hvalid]⟩

end SchemaRegistry

end Rintawa.World
