/-
# Atomic transactions, event records and durable effect jobs

A transaction proposes mutations, events and effects. Validation checks that it
is not empty, that its event and effect identities are distinct, and that every
schema it refers to is registered with the right kind and accepts the payload.
-/

import Rintawa.World.Command
import Rintawa.World.State

namespace Rintawa.World

open Rintawa.Lib Rintawa.Sdk

/-- Serialization format of append-only mutation log entries. -/
def worldMutationFormatVersion : Nat := 1

/-- Durable event proposed as part of one world transaction. -/
structure WorldEventDraft where
  id : WorldEventId
  schema : SchemaKey
  payload : JsonValue

/-- Durable external effect proposed as part of one committed transaction. -/
structure EffectJobDraft where
  id : EffectJobId
  schema : SchemaKey
  payload : JsonValue

/-- One atomic authoritative world transaction. -/
structure WorldTransaction where
  mutations : List WorldMutation
  events : List WorldEventDraft
  effects : List EffectJobDraft

/-- The schema checks of one mutation. -/
def WorldMutation.validateSchemas (schemas : SchemaRegistry) :
    WorldMutation → Except WorldError Unit
  | .createEntity entity => schemas.requireKind entity.schema .entity
  | .deleteEntity _ => .ok ()
  | .deleteRelation _ => .ok ()
  | .createRelation relation => schemas.requireKind relation.schema .relation
  | .setFacet facet => schemas.validatePayload facet.schema .facet facet.payload
  | .removeFacet _ schema => schemas.requireKind schema .facet
  | .grantControl grant =>
      match grant.scope.exactSchemas? with
      | none => .ok ()
      | some commandSchemas =>
          if commandSchemas.keys.isEmpty then .error .emptyControlScope
          else commandSchemas.keys.forM fun schema => schemas.requireKind schema .command
  | .revokeControl _ => .ok ()

namespace WorldTransaction

/-- Event and effect identities must not repeat inside one transaction. -/
def rejectDuplicateIds (transaction : WorldTransaction) : Except WorldError Unit :=
  match firstRepeated [] (transaction.events.map WorldEventDraft.id) with
  | some id => .error (.duplicateEventId id)
  | none =>
      match firstRepeated [] (transaction.effects.map EffectJobDraft.id) with
      | some id => .error (.duplicateEffectJobId id)
      | none => .ok ()

/-- A transaction without mutations, events and effects is rejected. -/
def rejectEmpty (transaction : WorldTransaction) : Except WorldError Unit :=
  if transaction.mutations.isEmpty && transaction.events.isEmpty &&
      transaction.effects.isEmpty then
    .error .emptyTransaction
  else .ok ()

/-- Validate every schema reference and feature payload. -/
def validateSchemas (transaction : WorldTransaction) (schemas : SchemaRegistry) :
    Except WorldError Unit := do
  transaction.rejectEmpty
  transaction.rejectDuplicateIds
  transaction.mutations.forM (WorldMutation.validateSchemas schemas)
  transaction.events.forM fun event =>
    schemas.validatePayload event.schema .event event.payload
  transaction.effects.forM fun effect =>
    schemas.validatePayload effect.schema .effect effect.payload

/-- No id of an event and no id of an effect is used twice. -/
theorem rejectDuplicateIds_eq_ok_iff {transaction : WorldTransaction} :
    transaction.rejectDuplicateIds = .ok () ↔
      (transaction.events.map WorldEventDraft.id).Nodup ∧
        (transaction.effects.map EffectJobDraft.id).Nodup := by
  have hevents := @firstRepeated_eq_none_iff _ _ []
    (transaction.events.map WorldEventDraft.id)
  have heffects := @firstRepeated_eq_none_iff _ _ []
    (transaction.effects.map EffectJobDraft.id)
  simp only [List.not_mem_nil, not_false_eq_true, implies_true, and_true] at hevents heffects
  unfold rejectDuplicateIds
  cases hfirst : firstRepeated [] (transaction.events.map WorldEventDraft.id) with
  | some id => simp [← hevents, hfirst]
  | none =>
      cases hsecond : firstRepeated [] (transaction.effects.map EffectJobDraft.id) with
      | some id => simp [← heffects, hsecond]
      | none => simp [← hevents, ← heffects, hfirst, hsecond]

/-- What a transaction that passed validation satisfies. -/
theorem validateSchemas_eq_ok {transaction : WorldTransaction} {schemas : SchemaRegistry}
    (h : transaction.validateSchemas schemas = .ok ()) :
    (transaction.events.map WorldEventDraft.id).Nodup ∧
      (transaction.effects.map EffectJobDraft.id).Nodup ∧
      (∀ mutation ∈ transaction.mutations, mutation.validateSchemas schemas = .ok ()) ∧
      (∀ event ∈ transaction.events,
        schemas.validatePayload event.schema .event event.payload = .ok ()) ∧
      (∀ effect ∈ transaction.effects,
        schemas.validatePayload effect.schema .effect effect.payload = .ok ()) := by
  unfold validateSchemas at h
  obtain ⟨⟨⟩, _, h⟩ := bind_eq_ok_iff.mp h
  obtain ⟨⟨⟩, hids, h⟩ := bind_eq_ok_iff.mp h
  obtain ⟨⟨⟩, hmutations, h⟩ := bind_eq_ok_iff.mp h
  obtain ⟨⟨⟩, hevents, heffects⟩ := bind_eq_ok_iff.mp h
  obtain ⟨hnodup, hnodup'⟩ := rejectDuplicateIds_eq_ok_iff.mp hids
  exact ⟨hnodup, hnodup', forM_eq_ok_iff.mp hmutations, forM_eq_ok_iff.mp hevents,
    forM_eq_ok_iff.mp heffects⟩

end WorldTransaction

/-- Whether a commit created a new position or replayed an existing command. -/
inductive CommitDisposition
  | committed
  | alreadyCommitted
  deriving DecidableEq, Repr

/-- Durable receipt for one command commit. -/
structure CommitReceipt where
  disposition : CommitDisposition
  commandId : CommandId
  position : Nat
  eventIds : List WorldEventId
  effectJobIds : List EffectJobId
  deriving DecidableEq, Repr

/-- One persisted generic mutation used for rebuild and audit. -/
structure StoredWorldMutation where
  commitPosition : Nat
  mutationIndex : Nat
  formatVersion : Nat
  mutation : WorldMutation

/-- Immutable command provenance attached to committed events and effects. -/
structure CommandProvenance where
  commandId : CommandId
  commandSchema : SchemaKey
  principal : PrincipalId
  actor : ActorRef
  causation : Option CausationRef
  correlationId : CorrelationId
  effectiveAt : Option UnixTimeMillis
  recordedAt : UnixTimeMillis
  deriving DecidableEq

/-- One persisted durable world-event envelope. -/
structure StoredWorldEvent where
  worldId : WorldId
  id : WorldEventId
  commitPosition : Nat
  eventIndex : Nat
  provenance : CommandProvenance
  schema : SchemaKey
  payload : JsonValue

/-- One persisted external effect job. -/
structure StoredEffectJob where
  worldId : WorldId
  id : EffectJobId
  commitPosition : Nat
  jobIndex : Nat
  provenance : CommandProvenance
  schema : SchemaKey
  payload : JsonValue
  attemptCount : Nat

end Rintawa.World
