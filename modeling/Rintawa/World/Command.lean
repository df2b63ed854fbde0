/-
# Submitted command envelopes

A command is an immutable envelope of identities, causal metadata and a payload.
Two commands have the same content when all fields agree, the payload up to the
order of object members.
-/

import Rintawa.World.Schema

namespace Rintawa.World

open Rintawa.Lib Rintawa.Sdk

/-- Durable reference to the operation that directly caused another one. -/
inductive CausationRef
  | command (id : CommandId)
  | event (id : WorldEventId)
  | effect (id : EffectJobId)
  deriving DecidableEq, Repr

/-- The kind of the cause comes first, then its id. -/
def CausationRef.toJson : CausationRef → Json
  | .command id => .object [("kind", .string "command"), ("id", id.toJson)]
  | .event id => .object [("kind", .string "event"), ("id", id.toJson)]
  | .effect id => .object [("kind", .string "effect"), ("id", id.toJson)]

/-- Immutable input envelope submitted to one authoritative world. -/
structure WorldCommand where
  id : CommandId
  schema : SchemaKey
  principal : PrincipalId
  actor : ActorRef
  expectedPosition : Option Nat
  causation : Option CausationRef
  correlationId : CorrelationId
  effectiveAt : Option UnixTimeMillis
  payload : JsonValue

/-- The cause of a command, or null. -/
def optionCausationJson : Option CausationRef → Json
  | none => .null
  | some causation => causation.toJson

/-- An optional timestamp, as serialized. -/
def optionTimeJson : Option UnixTimeMillis → Json
  | none => .null
  | some time => .number (.int time.get)

/-- Only the same causes have texts that compare as equal. -/
@[simp]
theorem same_optionCausationJson_iff {a b : Option CausationRef} :
    (optionCausationJson a).same (optionCausationJson b) = true ↔ a = b := by
  rcases a with _ | (a | a | a) <;> rcases b with _ | (b | b | b) <;>
    simp [optionCausationJson, CausationRef.toJson, Json.same, Json.sameMembers, Json.lookup]

/-- The text of a cause repeats no member. -/
@[simp]
theorem uniqueKeys_optionCausationJson (causation : Option CausationRef) :
    (optionCausationJson causation).uniqueKeys = true := by
  rcases causation with _ | (id | id | id) <;>
    simp [optionCausationJson, CausationRef.toJson, Json.uniqueKeys, Json.uniqueKeysMembers]

/-- Only the same times have texts that compare as equal. -/
@[simp]
theorem same_optionTimeJson_iff {a b : Option UnixTimeMillis} :
    (optionTimeJson a).same (optionTimeJson b) = true ↔ a = b := by
  cases a <;> cases b <;> simp [optionTimeJson, Json.same, UnixTimeMillis.ext_iff]

/-- The text of a time repeats no member. -/
@[simp]
theorem uniqueKeys_optionTimeJson (time : Option UnixTimeMillis) :
    (optionTimeJson time).uniqueKeys = true := by
  cases time <;> rfl

namespace WorldCommand

/-- Equality of commands as values. -/
def same (a b : WorldCommand) : Bool :=
  decide (a.id = b.id) && decide (a.schema = b.schema) && decide (a.principal = b.principal) &&
    decide (a.actor = b.actor) && decide (a.expectedPosition = b.expectedPosition) &&
    decide (a.causation = b.causation) && decide (a.correlationId = b.correlationId) &&
    decide (a.effectiveAt = b.effectiveAt) && a.payload.same b.payload

/-- The serialized command. -/
def toJson (command : WorldCommand) : Json :=
  .object [("id", command.id.toJson), ("schema", command.schema.toJson),
    ("principal", command.principal.toJson), ("actor", command.actor.toJson),
    ("expected_position", optionNatJson command.expectedPosition),
    ("causation", optionCausationJson command.causation),
    ("correlation_id", command.correlationId.toJson),
    ("effective_at", optionTimeJson command.effectiveAt),
    ("payload", command.payload.json)]

variable {a b : WorldCommand}

/-- Two commands serialize to the same value exactly when they are the same. -/
theorem same_toJson_iff : a.toJson.same b.toJson = true ↔ a.same b = true := by
  have hpayload : a.payload.json.same b.payload.json = a.payload.same b.payload := rfl
  simp [toJson, same, Json.same, Json.sameMembers, Json.lookup, hpayload, and_assoc]

/-- The text of a command repeats no member, as its payload does not. -/
theorem uniqueKeys_toJson (command : WorldCommand) : command.toJson.uniqueKeys = true := by
  simp [toJson, Json.uniqueKeys, Json.uniqueKeysMembers, command.payload.distinct]

/-- The canonical text of a command identifies its content. -/
theorem canonical_toText_eq_iff :
    a.toJson.canonical.toText = b.toJson.canonical.toText ↔ a.same b = true := by
  rw [Json.toText_injective.eq_iff, ← same_toJson_iff,
    Json.same_iff_canonical_eq _ _ a.uniqueKeys_toJson b.uniqueKeys_toJson]

/-- Commands that compare as equal have the same id. -/
theorem id_eq_of_same (h : a.same b = true) : a.id = b.id := by
  simp only [same, Bool.and_eq_true, decide_eq_true_eq] at h
  simp [h]

/-- Validate this command payload against the registered command schema. -/
def validateSchema (command : WorldCommand) (schemas : SchemaRegistry) :
    Except WorldError Unit :=
  schemas.validatePayload command.schema .command command.payload

end WorldCommand

end Rintawa.World
