/-
# Reads of providers

Systems and projections behind services follow one protocol of reads, whatever their providers
answer. A system reads the snapshot as it is; a projection sees only what belongs to its owner.
-/

import Rintawa.WorldRuntime.Noninterference
import Rintawa.WorldRuntime.ReadProtocol
import Rintawa.WorldRuntime.ServiceSystem

namespace Rintawa.WorldRuntime

open Rintawa.Lib Rintawa.Sdk Rintawa.World Rintawa.Storage

/-! ## Reads of systems -/

/-- The request that a result answers. -/
def systemRequestOf : WorldSystemReadResult → WorldSystemReadRequest
  | .entity entityId _ => .entity entityId
  | .relation relationId _ => .relation relationId
  | .facet target schema _ => .facet target schema

/-- A system gets what the snapshot has. -/
inductive SystemAnswers (view : SystemView) :
    WorldSystemReadRequest → WorldSystemReadResult → Prop
  | entity {entityId : EntityId} {value : Option EntityRecord}
      (loaded : view.loadEntity entityId = .ok value) :
      SystemAnswers view (.entity entityId) (.entity entityId (value.map encodeEntity))
  | relation {relationId : RelationId} {value : Option RelationRecord}
      (loaded : view.loadRelation relationId = .ok value) :
      SystemAnswers view (.relation relationId) (.relation relationId (value.map encodeRelation))
  | facet {target : WorldSystemFacetTarget} {schema : SchemaKey} {value : Option FacetRecord}
      (loaded : view.loadFacet (decodeFacetTarget target) schema = .ok value) :
      SystemAnswers view (.facet target schema) (.facet target schema (value.map encodeFacet))

theorem encode_decodeFacetTarget (target : WorldSystemFacetTarget) :
    encodeFacetTarget (decodeFacetTarget target) = target := by
  cases target with
  | world | entity | relation => rfl

/-- What a read resolves to answers it from the view. -/
theorem systemAnswers_of_resolveRead {view : SystemView} {request : WorldSystemReadRequest}
    {result : WorldSystemReadResult}
    (h : ServiceWorldSystem.liftRead (ServiceWorldSystem.resolveRead view request) = .ok result) :
    SystemAnswers view request result ∧ systemRequestOf result = request := by
  have hresolved : ServiceWorldSystem.resolveRead view request = .ok result := by
    cases hread : ServiceWorldSystem.resolveRead view request with
    | error error =>
        rw [hread] at h
        cases h
    | ok value =>
        rw [hread] at h
        cases h
        rfl
  cases request with
  | entity entityId =>
      obtain ⟨value, hvalue, hresult⟩ := bind_eq_ok_iff.mp hresolved
      cases hresult
      exact ⟨.entity hvalue, rfl⟩
  | relation relationId =>
      obtain ⟨value, hvalue, hresult⟩ := bind_eq_ok_iff.mp hresolved
      cases hresult
      exact ⟨.relation hvalue, rfl⟩
  | facet target schema =>
      obtain ⟨value, hvalue, hresult⟩ := bind_eq_ok_iff.mp hresolved
      cases hresult
      rw [encode_decodeFacetTarget]
      exact ⟨.facet hvalue, rfl⟩

/-! ## Reads of projections -/

variable {Digest : Type} {deps : Dependencies Digest} {pinned : WorldSnapshot}

/-- The request that a result answers. -/
def projectionRequestOf : WorldProjectionReadResult → WorldProjectionReadRequest
  | .entity entityId _ => .entity entityId
  | .relation relationId _ => .relation relationId
  | .facet target schema _ => .facet target schema
  | .canControl actorEntity commandSchema _ => .canControl actorEntity commandSchema

/-- A loaded record as its owner sees it: a record of another owner looks absent. -/
inductive OwnedLoad {Record : Type} (deps : Dependencies Digest) (pinned : WorldSnapshot)
    (owner : ExtensionId) (kind : SchemaKind) (schemaOf : Record → SchemaKey)
    (loaded : Except StorageError (Option Record)) : Option Record → Prop
  | absent (none : loaded = .ok none) : OwnedLoad deps pinned owner kind schemaOf loaded .none
  | foreign {record : Record} (loads : loaded = .ok (some record))
      (foreign : ¬ Owned deps pinned owner kind (schemaOf record)) :
      OwnedLoad deps pinned owner kind schemaOf loaded none
  | owned {record : Record} (loads : loaded = .ok (some record))
      (owned : Owned deps pinned owner kind (schemaOf record)) :
      OwnedLoad deps pinned owner kind schemaOf loaded (some record)

/-- A projection gets what the snapshot has for its owner. -/
inductive ProjectionAnswers (deps : Dependencies Digest) (pinned : WorldSnapshot)
    (principal : PrincipalId) (owner : ExtensionId) :
    WorldProjectionReadRequest → WorldProjectionReadResult → Prop
  | entity {entityId : EntityId} {value : Option EntityRecord}
      (loaded : OwnedLoad deps pinned owner .entity EntityRecord.schema
        (pinned.loadEntity entityId) value) :
      ProjectionAnswers deps pinned principal owner (.entity entityId)
        (.entity entityId (value.map encodeEntity))
  | relation {relationId : RelationId} {value : Option RelationRecord}
      (loaded : OwnedLoad deps pinned owner .relation RelationRecord.schema
        (pinned.loadRelation relationId) value) :
      ProjectionAnswers deps pinned principal owner (.relation relationId)
        (.relation relationId (value.map encodeRelation))
  | facet {target : WorldSystemFacetTarget} {schema : SchemaKey} {value : Option FacetRecord}
      (owned : Owned deps pinned owner .facet schema)
      (loaded : pinned.loadFacet deps (decodeFacetTarget target) schema = .ok value) :
      ProjectionAnswers deps pinned principal owner (.facet target schema)
        (.facet target schema (value.map encodeFacet))
  | foreignFacet {target : WorldSystemFacetTarget} {schema : SchemaKey}
      (foreign : ¬ Owned deps pinned owner .facet schema) :
      ProjectionAnswers deps pinned principal owner (.facet target schema)
        (.facet target schema none)
  | canControl {actorEntity : EntityId} {commandSchema : SchemaKey} {allowed : Bool}
      (owned : Owned deps pinned owner .command commandSchema)
      (loaded : pinned.principalCanControl principal actorEntity commandSchema = .ok allowed) :
      ProjectionAnswers deps pinned principal owner (.canControl actorEntity commandSchema)
        (.canControl actorEntity commandSchema allowed)
  | foreignControl {actorEntity : EntityId} {commandSchema : SchemaKey}
      (foreign : ¬ Owned deps pinned owner .command commandSchema) :
      ProjectionAnswers deps pinned principal owner (.canControl actorEntity commandSchema)
        (.canControl actorEntity commandSchema false)

variable {owner : ExtensionId}

/-- A schema is not owned if the check says so. -/
theorem not_owned_of_schemaOwnedBy {schema : SchemaKey} {kind : SchemaKind}
    (h : schemaOwnedBy deps pinned schema owner kind = .ok false) :
    ¬ Owned deps pinned owner kind schema := by
  intro howned
  obtain ⟨definition, hload, hkind, howner⟩ := howned
  obtain ⟨loaded, hloaded, hresult⟩ := bind_eq_ok_iff.mp h
  rw [hload] at hloaded
  cases hloaded
  have hfalse : (decide (definition.kind = kind) && decide (definition.owner = owner)) = false :=
    Except.ok.inj hresult
  rw [decide_eq_true hkind, decide_eq_true howner] at hfalse
  cases hfalse

/-- A record that is handed out has an owned schema. -/
theorem ownedLoad_of_ownedRecord {Record : Type} {kind : SchemaKind} {schemaOf : Record → SchemaKey}
    {loaded : Except StorageError (Option Record)} {value : Option Record}
    (h : ownedRecord deps pinned owner kind schemaOf loaded = .ok value) :
    OwnedLoad deps pinned owner kind schemaOf loaded value := by
  obtain ⟨record?, hloaded, hresult⟩ := bind_eq_ok_iff.mp h
  cases record? with
  | none =>
      cases hresult
      exact .absent hloaded
  | some record =>
      obtain ⟨isOwned, howned, hresult⟩ := bind_eq_ok_iff.mp hresult
      cases isOwned with
      | true =>
          cases hresult
          exact .owned hloaded (owned_of_schemaOwnedBy howned)
      | false =>
          cases hresult
          exact .foreign hloaded (not_owned_of_schemaOwnedBy howned)

/-- What a read resolves to answers it from what the owner may see. -/
theorem projectionAnswers_of_resolveRead {principal : PrincipalId}
    {request : WorldProjectionReadRequest} {result : WorldProjectionReadResult}
    (h : liftRead (resolveRead deps pinned principal owner request) = .ok result) :
    ProjectionAnswers deps pinned principal owner request result ∧
      projectionRequestOf result = request := by
  have hresolved : resolveRead deps pinned principal owner request = .ok result := by
    cases hread : resolveRead deps pinned principal owner request with
    | error error =>
        rw [hread] at h
        cases h
    | ok value =>
        rw [hread] at h
        cases h
        rfl
  cases request with
  | entity entityId =>
      obtain ⟨value, hvalue, hresult⟩ := bind_eq_ok_iff.mp hresolved
      cases hresult
      exact ⟨.entity (ownedLoad_of_ownedRecord hvalue), rfl⟩
  | relation relationId =>
      obtain ⟨value, hvalue, hresult⟩ := bind_eq_ok_iff.mp hresolved
      cases hresult
      exact ⟨.relation (ownedLoad_of_ownedRecord hvalue), rfl⟩
  | facet target schema =>
      obtain ⟨isOwned, howned, hresult⟩ := bind_eq_ok_iff.mp hresolved
      cases isOwned with
      | true =>
          obtain ⟨value, hvalue, hresult⟩ := bind_eq_ok_iff.mp hresult
          cases hresult
          exact ⟨.facet (owned_of_schemaOwnedBy howned) hvalue, rfl⟩
      | false =>
          cases hresult
          exact ⟨.foreignFacet (not_owned_of_schemaOwnedBy howned), rfl⟩
  | canControl actorEntity commandSchema =>
      obtain ⟨isOwned, howned, hresult⟩ := bind_eq_ok_iff.mp hresolved
      cases isOwned with
      | true =>
          obtain ⟨allowed, hallowed, hresult⟩ := bind_eq_ok_iff.mp hresult
          cases hresult
          exact ⟨.canControl (owned_of_schemaOwnedBy howned) hallowed, rfl⟩
      | false =>
          cases hresult
          exact ⟨.foreignControl (not_owned_of_schemaOwnedBy howned), rfl⟩

/-! ## Both protocols -/

namespace ServiceWorldSystem

variable (system : ServiceWorldSystem) (fresh : FreshIds) (client : WorldSystemServiceClient)
  (view : SystemView) (command : WorldCommand)

/-- What decides the outcome of a system. -/
abbrev Decided : List WorldSystemServiceRequest → Except SystemError WorldTransaction → Prop :=
  DecidedBy (system.checkBinding view command) systemLimits
    (fun request => liftRead (resolveRead view request))
    (fun reads => ⟨view.worldId, view.position, encodeCommand command, reads⟩)
    (fun _ calls => systemAnswer fresh (client calls)) maxWorldSystemServiceRounds

/-- An answer that continues the evaluation is a response that asks for reads. -/
theorem systemAnswer_eq_read {answer : ServiceAnswer WorldSystemServiceResponse}
    {asked : List WorldSystemReadRequest} (h : systemAnswer fresh answer = .read asked) :
    answer = .response (.read asked) := by
  cases answer with
  | failed | undecodable => cases h
  | response response =>
      cases response with
      | transaction | rejected | failed => cases h
      | read requests =>
          cases h
          rfl

/-- An evaluation ends with what the last answer decides. -/
theorem evaluate_decided :
    system.Decided fresh client view command (system.evaluate fresh client view command).1
      (system.evaluate fresh client view command).2 := by
  rw [evaluate]
  cases hcheck : system.checkBinding view command with
  | error error => exact .refused hcheck
  | ok _ => exact .ended hcheck (evaluateRounds_ends .start rfl)

/-- An evaluation keeps the protocol of reads. -/
theorem evaluate_keeps :
    KeepsReadProtocol maxWorldSystemServiceRounds maxWorldSystemServiceReads
      (fun calls asked => client calls = .response (.read asked)) (SystemAnswers view)
      WorldSystemServiceRequest.reads systemRequestOf
      (system.evaluate fresh client view command).1 :=
  DecidedBy.keeps (fun _ _ _ => systemAnswer_eq_read fresh)
    (fun _ _ => systemAnswers_of_resolveRead) (fun _ => rfl) rfl
    (system.evaluate_decided fresh client view command)

end ServiceWorldSystem

namespace ServiceWorldProjection

variable (projection : ServiceWorldProjection) (deps : Dependencies Digest)
  (pinned : WorldSnapshot) (client : WorldProjectionServiceClient) (principal : PrincipalId)
  (input : JsonValue)

/-- What decides the outcome of a projection. -/
abbrev Decided :
    List WorldProjectionServiceRequest → Except WorldProjectionError WorldProjectionView → Prop :=
  DecidedBy (openProjection deps pinned projection input) projectionLimits
    (fun request => liftRead (resolveRead deps pinned principal projection.projectionOwner request))
    (fun reads => ⟨pinned.worldId, pinned.position, projection.projectionSchema, principal, input,
      reads⟩)
    (fun registry calls => projectionAnswer pinned registry projection principal (client calls))
    maxWorldProjectionServiceRounds

/-- An answer that continues the evaluation is a response that asks for reads. -/
theorem projectionAnswer_eq_read {registry : SchemaRegistry}
    {answer : ServiceAnswer WorldProjectionServiceResponse}
    {asked : List WorldProjectionReadRequest}
    (h : projectionAnswer pinned registry projection principal answer = .read asked) :
    answer = .response (.read asked) := by
  cases answer with
  | failed | undecodable => cases h
  | response response =>
      cases response with
      | complete | rejected | failed => cases h
      | read requests =>
          cases h
          rfl

/-- A projection ends with what the last answer decides. -/
theorem project_decided :
    projection.Decided deps pinned client principal input
      (projection.project deps pinned client principal input).1
      (projection.project deps pinned client principal input).2 := by
  rw [project]
  cases hopen : openProjection deps pinned projection input with
  | error error => exact .refused hopen
  | ok registry => exact .ended hopen (evaluateRounds_ends .start rfl)

/-- A projection keeps the protocol of reads. -/
theorem project_keeps :
    KeepsReadProtocol maxWorldProjectionServiceRounds maxWorldProjectionServiceReads
      (fun calls asked => client calls = .response (.read asked))
      (ProjectionAnswers deps pinned principal projection.projectionOwner)
      WorldProjectionServiceRequest.reads projectionRequestOf
      (projection.project deps pinned client principal input).1 :=
  DecidedBy.keeps (fun _ _ _ => projectionAnswer_eq_read projection pinned principal)
    (fun _ _ => projectionAnswers_of_resolveRead) (fun _ => rfl) rfl
    (projection.project_decided deps pinned client principal input)

end ServiceWorldProjection

/-- Whatever the providers answer, both evaluations keep the read protocol, and the outcome is
decided by a check before the first call or by the answer to the last call. -/
theorem provider_read_protocol (deps : Dependencies Digest) (pinned : WorldSnapshot) :
    (∀ (system : ServiceWorldSystem) (fresh : FreshIds) (client : WorldSystemServiceClient)
        (command : WorldCommand),
      KeepsReadProtocol maxWorldSystemServiceRounds maxWorldSystemServiceReads
          (fun calls asked => client calls = .response (.read asked))
          (SystemAnswers (pinned.systemView deps)) WorldSystemServiceRequest.reads
          systemRequestOf (system.evaluate fresh client (pinned.systemView deps) command).1 ∧
        system.Decided fresh client (pinned.systemView deps) command
          (system.evaluate fresh client (pinned.systemView deps) command).1
          (system.evaluate fresh client (pinned.systemView deps) command).2) ∧
      ∀ (projection : ServiceWorldProjection) (client : WorldProjectionServiceClient)
        (principal : PrincipalId) (input : JsonValue),
        KeepsReadProtocol maxWorldProjectionServiceRounds maxWorldProjectionServiceReads
            (fun calls asked => client calls = .response (.read asked))
            (ProjectionAnswers deps pinned principal projection.projectionOwner)
            WorldProjectionServiceRequest.reads projectionRequestOf
            (projection.project deps pinned client principal input).1 ∧
          projection.Decided deps pinned client principal input
            (projection.project deps pinned client principal input).1
            (projection.project deps pinned client principal input).2 :=
  ⟨fun system fresh client command =>
      ⟨system.evaluate_keeps fresh client (pinned.systemView deps) command,
        system.evaluate_decided fresh client (pinned.systemView deps) command⟩,
    fun projection client principal input =>
      ⟨projection.project_keeps deps pinned client principal input,
        projection.project_decided deps pinned client principal input⟩⟩

/-! ## Other ends -/

/-- An outcome that the last answer gives, or that a limit gives. -/
inductive AnsweredOrLimited {Key Call Error Outcome : Type} (limits : RoundLimits Error)
    (answer : List Call → RoundAnswer Key Error Outcome) :
    List Call → Except Error Outcome → Prop
  | answered {calls : List Call} {outcome : Except Error Outcome} (called : calls ≠ [])
      (final : answer calls = .final outcome) : AnsweredOrLimited limits answer calls outcome
  | limited {calls : List Call} {error : Error}
      (limit : error ∈ [limits.emptyReadRound, limits.readLimitExceeded, limits.repeatedRead,
        limits.roundLimitExceeded]) : AnsweredOrLimited limits answer calls (.error error)

/-- A database with a facet schema whose identifier cannot be read back. -/
def unreadableStore : WorldStore String :=
  (serveAll (tableDependencies [acceptAll] []) (WorldStore.create String ⟨0⟩)
    [.registerSchemas [⟨demoKey "demo.view", .projection, ⟨"demo"⟩, acceptAll⟩,
      ⟨demoKey "Demo.Note", .facet, ⟨"demo"⟩, acceptAll⟩]]).2

/-- A service that asks for a facet of that schema. -/
def noteService : WorldProjectionServiceClient :=
  fun _ => .response (.read [.facet .world (demoKey "Demo.Note")])

/-- Whether a snapshot read failed. -/
def isReadFailure : Except WorldProjectionError WorldProjectionView → Bool
  | .error (.read _) => true
  | _ => false

/-- A read that fails ends a projection, and the binding to another world ends a system before
its first call. Neither is an answer or a limit. -/
theorem other_ends :
    let deps := tableDependencies [acceptAll] []
    let pinned := snapshot unreadableStore
    let projection : ServiceWorldProjection := ⟨⟨0⟩, demoKey "demo.view", ⟨"demo"⟩⟩
    let system : ServiceWorldSystem := ⟨⟨1⟩, demoKey "demo.move"⟩
    (storageSystem deps).Reachable unreadableStore ∧
      (∀ registry, ¬ AnsweredOrLimited projectionLimits
        (fun calls => projectionAnswer pinned registry projection ⟨7⟩ (noteService calls))
        (projection.project deps pinned noteService ⟨7⟩ acceptAll).1
        (projection.project deps pinned noteService ⟨7⟩ acceptAll).2) ∧
      ∀ fresh client, ¬ AnsweredOrLimited ServiceWorldSystem.systemLimits
        (fun calls => ServiceWorldSystem.systemAnswer fresh (client calls))
        (system.evaluate fresh client (pinned.systemView deps) (demoCommand 1)).1
        (system.evaluate fresh client (pinned.systemView deps) (demoCommand 1)).2 := by
  intro deps pinned projection system
  refine ⟨⟨_, _, ⟨⟨0⟩, rfl⟩, run_serveAll deps _ _⟩, ?_, ?_⟩
  · intro registry h
    have hfailed : isReadFailure (projection.project deps pinned noteService ⟨7⟩ acceptAll).2 =
        true := by
      decide +kernel
    generalize (projection.project deps pinned noteService ⟨7⟩ acceptAll).2 = outcome at h hfailed
    cases h with
    | answered _ hfinal => cases hfinal
    | limited hlimit =>
        simp only [List.mem_cons, List.not_mem_nil, or_false] at hlimit
        rcases hlimit with rfl | rfl | rfl | rfl <;> cases hfailed
  · intro fresh client h
    have hevaluate : system.evaluate fresh client (pinned.systemView deps) (demoCommand 1) =
        ([], .error (.failed "System service binding belongs to another world")) := rfl
    rw [hevaluate] at h
    cases h with
    | answered hcalled _ => exact hcalled rfl
    | limited hlimit =>
        revert hlimit
        decide +kernel

end Rintawa.WorldRuntime
