/-
# Principals, actors and control grants

A command runs on behalf of an actor: the principal itself, or an entity that a
durable control grant lets the principal act for. A grant limits the command
schemas it covers and may expire after a world position.
-/

import Rintawa.Sdk.World

namespace Rintawa.World

open Rintawa.Lib Rintawa.Sdk

/-- Role on whose behalf one world command executes. -/
inductive ActorRef
  | principal (id : PrincipalId)
  | entity (id : EntityId)
  deriving DecidableEq, Repr

/-- The kind of the actor comes first, then its id. -/
def ActorRef.toJson : ActorRef → Json
  | .principal id => .object [("kind", .string "principal"), ("id", id.toJson)]
  | .entity id => .object [("kind", .string "entity"), ("id", id.toJson)]

/-- Only the same actors have texts that compare as equal. -/
@[simp]
theorem ActorRef.same_toJson_iff {a b : ActorRef} :
    a.toJson.same b.toJson = true ↔ a = b := by
  cases a <;> cases b <;> simp [toJson, Json.same, Json.sameMembers, Json.lookup]

/-- The text of an actor repeats no member. -/
@[simp]
theorem ActorRef.uniqueKeys_toJson (actor : ActorRef) : actor.toJson.uniqueKeys = true := by
  cases actor <;> simp [toJson, Json.uniqueKeys, Json.uniqueKeysMembers]

/-- Command-schema scope of one durable control grant. -/
inductive ControlScope
  | anyCommand
  | exactSchemas (schemas : SchemaKeySet)
  deriving DecidableEq

namespace ControlScope

/-- The listed schemas of a restricted scope. -/
def exactSchemas? : ControlScope → Option SchemaKeySet
  | .anyCommand => none
  | .exactSchemas schemas => some schemas

/-- Whether this scope allows one exact command schema. -/
def allows (scope : ControlScope) (schema : SchemaKey) : Bool :=
  match scope with
  | .anyCommand => true
  | .exactSchemas schemas => schemas.keys.contains schema

/-- The kind of the scope, with the schemas of an exact one in order. -/
def toJson : ControlScope → Json
  | .anyCommand => .object [("kind", .string "any-command")]
  | .exactSchemas schemas =>
      .object [("kind", .string "exact-schemas"),
        ("schemas", .array (schemas.keys.map SchemaKey.toJson))]

/-- The text of a scope determines it. -/
theorem toJson_injective {a b : ControlScope} (h : a.toJson = b.toJson) : a = b := by
  cases a with
  | anyCommand => cases b <;> simp [toJson] at h ⊢
  | exactSchemas s =>
      cases b with
      | anyCommand => simp [toJson] at h
      | exactSchemas t =>
          simp only [toJson, Json.object.injEq, List.cons.injEq, Prod.mk.injEq, true_and,
            Json.array.injEq, and_true] at h
          have hkeys := List.map_injective_iff.mpr
            (fun _ _ hkey => SchemaKey.toJson_injective hkey) h
          rw [SchemaKeySet.ext_keys hkeys]

end ControlScope

/-- Durable permission for one principal to control one entity actor. -/
structure ControlGrant where
  id : ControlGrantId
  principal : PrincipalId
  actorEntity : EntityId
  scope : ControlScope
  validThroughPosition : Option Nat
  deriving DecidableEq

namespace ControlGrant

/-- Whether this grant authorizes a command at the given snapshot position. -/
def allows (grant : ControlGrant) (schema : SchemaKey) (position : Nat) : Bool :=
  grant.scope.allows schema &&
    match grant.validThroughPosition with
    | none => true
    | some validThrough => decide (position ≤ validThrough)

end ControlGrant

/-- An optional unsigned number, as serialized. -/
def optionNatJson : Option Nat → Json
  | none => .null
  | some n => .number (.int n)

/-- The text of a number that may be missing determines it. -/
theorem optionNatJson_injective {a b : Option Nat} (h : optionNatJson a = optionNatJson b) :
    a = b := by
  cases a <;> cases b <;> simp [optionNatJson] at h ⊢
  omega

/-- Only the same numbers have texts that compare as equal. -/
@[simp]
theorem same_optionNatJson_iff {a b : Option Nat} :
    (optionNatJson a).same (optionNatJson b) = true ↔ a = b := by
  cases a <;> cases b <;>
    simp only [optionNatJson, Json.same, decide_eq_true_eq, JsonNumber.int.injEq, Int.natCast_inj,
      Option.some.injEq, reduceCtorEq]

/-- The text of a number has no members. -/
@[simp]
theorem uniqueKeys_optionNatJson (n : Option Nat) : (optionNatJson n).uniqueKeys = true := by
  cases n <;> rfl

/-- The members of a grant, in the order of its fields. -/
def ControlGrant.toJson (grant : ControlGrant) : Json :=
  .object [("id", grant.id.toJson), ("principal", grant.principal.toJson),
    ("actor_entity", grant.actorEntity.toJson), ("scope", grant.scope.toJson),
    ("valid_through_position", optionNatJson grant.validThroughPosition)]

/-- The text of a grant determines it. -/
theorem ControlGrant.toJson_injective {a b : ControlGrant} (h : a.toJson = b.toJson) :
    a = b := by
  obtain ⟨id, principal, actorEntity, scope, validThrough⟩ := a
  obtain ⟨id', principal', actorEntity', scope', validThrough'⟩ := b
  simp only [ControlGrant.toJson, Json.object.injEq, List.cons.injEq, Prod.mk.injEq,
    true_and, and_true] at h
  obtain ⟨hid, hprincipal, hactor, hscope, hvalid⟩ := h
  rw [OpaqueWorldId.toJson_injective hid, OpaqueWorldId.toJson_injective hprincipal,
    OpaqueWorldId.toJson_injective hactor, ControlScope.toJson_injective hscope,
    optionNatJson_injective hvalid]

end Rintawa.World
