/-
# Systems behind services

A system may live behind a service. Its provider gets the command and reads the snapshot only
through requests that the host answers. What it proposes is decoded into a transaction, with
identities of events and effects that the host allocates.
-/

import Rintawa.Sdk.WorldSystem
import Rintawa.WorldRuntime.Projection
import Rintawa.WorldRuntime.Runtime

namespace Rintawa.WorldRuntime

open Rintawa.Lib Rintawa.Sdk Rintawa.World Rintawa.Storage

def maxWorldSystemServiceRounds : Nat := 8

def maxWorldSystemServiceReads : Nat := 256

def maxSystemDiagnosticBytes : Nat := 8 * 1024

/-- A system bound to one exact world and command schema. -/
structure ServiceWorldSystem where
  worldId : WorldId
  commandSchema : SchemaKey

/-- The service that supplies a system. It sees the calls made so far, so it may behave
differently every time. -/
abbrev WorldSystemServiceClient :=
  List WorldSystemServiceRequest → ServiceAnswer WorldSystemServiceResponse

/-- The identities that the host allocates, one for each proposal in turn. -/
structure FreshIds where
  event : Nat → WorldEventId
  effect : Nat → EffectJobId

/-! ## Commands and proposals -/

def encodeActor : ActorRef → WorldSystemActor
  | .principal id => .principal id
  | .entity id => .entity id

def encodeCausation : CausationRef → WorldSystemCausation
  | .command id => .command id
  | .event id => .event id
  | .effect id => .effect id

def encodeCommand (command : WorldCommand) : WorldSystemCommand where
  id := command.id
  schema := command.schema
  principal := command.principal
  actor := encodeActor command.actor
  expectedPosition := command.expectedPosition
  causation := command.causation.map encodeCausation
  correlationId := command.correlationId
  effectiveAt := command.effectiveAt
  payload := command.payload

def decodeMutation : WorldSystemMutation → WorldMutation
  | .createEntity entityId schema => .createEntity ⟨entityId, schema⟩
  | .deleteEntity entityId => .deleteEntity entityId
  | .createRelation relationId schema «from» «to» =>
      .createRelation ⟨relationId, schema, «from», «to»⟩
  | .deleteRelation relationId => .deleteRelation relationId
  | .setFacet target schema payload => .setFacet ⟨decodeFacetTarget target, schema, payload⟩
  | .removeFacet target schema => .removeFacet (decodeFacetTarget target) schema

def decodeTransaction (fresh : FreshIds) (proposal : WorldSystemTransaction) :
    WorldTransaction where
  mutations := proposal.mutations.map decodeMutation
  events := proposal.events.mapIdx fun index event =>
    ⟨fresh.event index, event.schema, event.payload⟩
  effects := proposal.effects.mapIdx fun index effect =>
    ⟨fresh.effect index, effect.schema, effect.payload⟩

namespace ServiceWorldSystem

/-! ## The evaluation -/

/-- A read error of a system. -/
def liftRead {α : Type} : Except StorageError α → Except SystemError α
  | .ok value => .ok value
  | .error error => .error (.read error)

/-- The answer to one read. -/
def resolveRead (view : SystemView) :
    WorldSystemReadRequest → Except StorageError WorldSystemReadResult
  | .entity entityId => do
      let value ← view.loadEntity entityId
      return .entity entityId (value.map encodeEntity)
  | .relation relationId => do
      let value ← view.loadRelation relationId
      return .relation relationId (value.map encodeRelation)
  | .facet target schema => do
      let value ← view.loadFacet (decodeFacetTarget target) schema
      return .facet (encodeFacetTarget (decodeFacetTarget target)) schema (value.map encodeFacet)

def validateDiagnostic (reason : String) : Except SystemError String :=
  if reason.utf8ByteSize > maxSystemDiagnosticBytes then
    .error (.failed "System service returned an oversized diagnostic")
  else .ok reason

def systemLimits : RoundLimits SystemError where
  maxReads := maxWorldSystemServiceReads
  emptyReadRound := .failed "System service requested an empty read round"
  readLimitExceeded := .failed "System service exceeded the snapshot read limit"
  repeatedRead := .failed "System service repeated a resolved snapshot read"
  roundLimitExceeded := .failed "System service exceeded the evaluation round limit"

/-- How one answer of the service continues the evaluation. -/
def systemAnswer (fresh : FreshIds) :
    ServiceAnswer WorldSystemServiceResponse →
      RoundAnswer WorldSystemReadRequest SystemError WorldTransaction
  | .failed error =>
      .final (.error (.failed ("System service transport failed: " ++ error.display)))
  | .undecodable => .final (.error (.failed "invalid System service response"))
  | .response (.transaction transaction) => .final (.ok (decodeTransaction fresh transaction))
  | .response (.rejected reason) =>
      .final (validateDiagnostic reason >>= fun reason => .error (.rejected reason))
  | .response (.failed reason) =>
      .final (validateDiagnostic reason >>= fun reason => .error (.failed reason))
  | .response (.read requests) => .read requests

variable (system : ServiceWorldSystem) (fresh : FreshIds) (client : WorldSystemServiceClient)
  (view : SystemView) (command : WorldCommand)

/-- The checks of the binding. -/
def checkBinding : Except SystemError Unit :=
  if view.worldId ≠ system.worldId then
    .error (.failed "System service binding belongs to another world")
  else if command.schema ≠ system.commandSchema then
    .error (.failed "System service received a mismatched command schema")
  else .ok ()

/-- The requests that an evaluation sends to the service, and its result. -/
def evaluate : List WorldSystemServiceRequest × Except SystemError WorldTransaction :=
  match system.checkBinding view command with
  | .error error => ([], .error error)
  | .ok _ =>
      evaluateRounds systemLimits (fun request => liftRead (resolveRead view request))
        (fun reads => ⟨view.worldId, view.position, encodeCommand command, reads⟩)
        (fun calls => systemAnswer fresh (client calls)) maxWorldSystemServiceRounds [] ([], [])

/-- How the runtime takes a result. -/
def evaluation : Except SystemError WorldTransaction → Evaluation
  | .ok output => .returned output
  | .error source => .failed source

/-- A service as a system of a runtime. -/
def registered (privileges : WorldSystemPrivileges) : RegisteredSystem where
  evaluate view command result :=
    ∃ fresh, result = evaluation (system.evaluate fresh client view command).2
  privileges := privileges

end ServiceWorldSystem

end Rintawa.WorldRuntime
