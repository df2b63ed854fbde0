/-
# Digests of commands

The digest of a command is taken from the canonical text of its document. It tells two commands
apart exactly when they differ in a field, where payloads are compared up to the order of
object members, and it does not depend on the order in which the members were listed.
-/

import Rintawa.Lib.JsonOrder
import Rintawa.Storage.Idempotence

namespace Rintawa.Storage

open Rintawa.Lib Rintawa.Sdk Rintawa.World

/-- Commands that agree in every field, the payload up to the order of members. -/
structure SameFields (first second : WorldCommand) : Prop where
  id : first.id = second.id
  schema : first.schema = second.schema
  principal : first.principal = second.principal
  actor : first.actor = second.actor
  expectedPosition : first.expectedPosition = second.expectedPosition
  causation : first.causation = second.causation
  correlationId : first.correlationId = second.correlationId
  effectiveAt : first.effectiveAt = second.effectiveAt
  payload : first.payload.json.Reordered second.payload.json

theorem same_iff_sameFields {first second : WorldCommand} :
    first.same second = true ↔ SameFields first second := by
  simp only [WorldCommand.same, Bool.and_eq_true, decide_eq_true_eq,
    JsonValue.same_iff_reordered]
  constructor
  · intro h
    obtain ⟨⟨⟨⟨⟨⟨⟨⟨hid, hschema⟩, hprincipal⟩, hactor⟩, hposition⟩, hcausation⟩,
      hcorrelation⟩, htime⟩, hpayload⟩ := h
    exact ⟨hid, hschema, hprincipal, hactor, hposition, hcausation, hcorrelation, htime, hpayload⟩
  · intro h
    exact ⟨⟨⟨⟨⟨⟨⟨⟨h.id, h.schema⟩, h.principal⟩, h.actor⟩, h.expectedPosition⟩, h.causation⟩,
      h.correlationId⟩, h.effectiveAt⟩, h.payload⟩

/-- Canonical texts are equal exactly for values that are equal up to the order of members.
Without collisions, digests are equal exactly for commands with the same fields, in whatever
order the members of their documents are listed. -/
theorem command_digests_identify_content {Digest : Type} {deps : Dependencies Digest}
    (collisionFree : Function.Injective deps.sha256) :
    (∀ first second : JsonValue,
        first.json.canonical.toText = second.json.canonical.toText ↔
          first.json.Reordered second.json) ∧
      (∀ first second : WorldCommand,
        commandDigest deps first = commandDigest deps second ↔ SameFields first second) ∧
      ∀ (command : WorldCommand) (document : Json), document.Reordered command.toJson →
        deps.sha256 document.canonical.toText = commandDigest deps command := by
  refine ⟨fun first second => Json.canonical_toText_eq_iff_reordered first.distinct,
    fun first second => ?_, fun command document hlisted => ?_⟩
  · rw [commandDigest_eq_iff collisionFree, same_iff_sameFields]
  · have hunique : document.uniqueKeys = true :=
      hlisted.invariant.1.mpr command.uniqueKeys_toJson
    rw [commandDigest, hlisted.invariant.2 hunique]

/-- A document with its members in the opposite order. -/
def listedBackwards : Json → Json
  | .object members => .object members.reverse
  | document => document

/-- Only the order of the members is another one. -/
theorem reordered_listedBackwards (document : Json) :
    (listedBackwards document).Reordered document := by
  cases document with
  | object members => exact .permute (List.reverse_perm members)
  | null | bool | number | string | array => exact .refl _

/-- A command that moves something, with the two members of its payload in some order. -/
def moveCommand (n : Nat) (members : List (String × Json))
    (hmembers : (Json.object members).uniqueKeys = true) : WorldCommand :=
  { demoCommand n with payload := ⟨.object members, hmembers⟩ }

/-- The digest does not depend on the order of the members in the payload or in the document, and
it tells the two commands apart by their identities. -/
theorem command_digests_identify_content_demo :
    let deps := tableDependencies [] []
    let members : List (String × Json) := [("from", .number (.int 1)), ("to", .number (.int 2))]
    let first := moveCommand 1 members rfl
    commandDigest deps first = commandDigest deps (moveCommand 1 members.reverse rfl) ∧
      deps.sha256 (listedBackwards first.toJson).canonical.toText = commandDigest deps first ∧
      commandDigest deps first ≠ commandDigest deps (moveCommand 2 members rfl) := by
  intro deps members first
  have hcollisionFree : Function.Injective deps.sha256 := fun _ _ h => h
  obtain ⟨-, hfields, hlisted⟩ := command_digests_identify_content hcollisionFree
  refine ⟨(hfields _ _).mpr ⟨rfl, rfl, rfl, rfl, rfl, rfl, rfl, rfl, ?_⟩,
    hlisted first _ (reordered_listedBackwards _), fun hsame => ?_⟩
  · exact .permute (List.reverse_perm members).symm
  · have hid := ((hfields _ _).mp hsame).id
    revert hid
    decide

end Rintawa.Storage
