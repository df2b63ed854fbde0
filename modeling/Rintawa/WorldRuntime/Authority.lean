/-
# Authority of unprivileged systems

Output of an unprivileged system may not name control grants, but deleting an
entity removes the grants of that entity. Who controls the surviving entities
therefore stays the same exactly when no entity with a grant is deleted and
created again in one transaction.
-/

import Rintawa.Storage.Authorization
import Rintawa.WorldRuntime.Serializability

namespace Rintawa.WorldRuntime

open Rintawa.Lib Rintawa.Sdk Rintawa.World Rintawa.Storage

/-- Every entity that exists on both sides has the same live grants. -/
def KeepsAuthority (s s' : StateTables) : Prop :=
  ∀ entityId ∈ s.entities.map EntityRow.entityId,
    entityId ∈ s'.entities.map EntityRow.entityId →
      ∀ grant : ControlGrantRow, grant.actorEntityId = entityId →
        (grant ∈ s.controlGrants ↔ grant ∈ s'.controlGrants)

/-- The last of the mutations that create or delete an entity creates it. For an
entity that exists before, the mutations delete it and create it again. -/
def Recreates (mutations : List WorldMutation) (entityId : EntityId) : Prop :=
  ∃ before entity after, mutations = before ++ .createEntity entity :: after ∧
    entity.id = entityId ∧ .deleteEntity entityId ∉ after

/-! ## Which entities and grants survive -/

section Survival

variable {parents : ParentKeys} {position : Nat} {s s' : StateTables}

variable {mutation : WorldMutation}

/-- An entity is made again by a creation behind which it is not deleted. -/
theorem recreates_cons {rest : List WorldMutation} {entityId : EntityId} :
    Recreates (mutation :: rest) entityId ↔
      Recreates rest entityId ∨
        (∃ entity, mutation = .createEntity entity ∧ entity.id = entityId) ∧
          .deleteEntity entityId ∉ rest := by
  constructor
  · rintro ⟨before, entity, after, hsplit, hid, hkept⟩
    cases before with
    | nil =>
        cases hsplit
        exact Or.inr ⟨⟨entity, rfl, hid⟩, hkept⟩
    | cons first before =>
        cases hsplit
        exact Or.inl ⟨before, entity, after, rfl, hid, hkept⟩
  · rintro (⟨before, entity, after, rfl, hid, hkept⟩ | ⟨⟨entity, rfl, hid⟩, hkept⟩)
    · exact ⟨mutation :: before, entity, after, rfl, hid, hkept⟩
    · exact ⟨[], entity, rest, rfl, hid, hkept⟩

/-- An entity exists after one mutation if it is created, or existed and is not
deleted. -/
theorem entity_of_applies {entityId : EntityId} (h : Applies parents s position mutation s') :
    entityId ∈ s'.entities.map EntityRow.entityId ↔
      (∃ entity, mutation = .createEntity entity ∧ entity.id = entityId) ∨
        (entityId ∈ s.entities.map EntityRow.entityId ∧ mutation ≠ .deleteEntity entityId) := by
  cases mutation with
  | createEntity entity =>
      obtain ⟨_, _, _, rfl⟩ := h
      simp [StateTables.insertEntity, or_comm, eq_comm]
  | deleteEntity deleted =>
      obtain ⟨_, rfl⟩ := h
      simp only [StateTables.deleteEntity, List.mem_map, List.mem_filter, reduceCtorEq,
        false_and, exists_false, false_or, ne_eq, WorldMutation.deleteEntity.injEq]
      constructor
      · rintro ⟨row, ⟨hrow, hkept⟩, rfl⟩
        exact ⟨⟨row, hrow, rfl⟩, fun heq => by simp [heq] at hkept⟩
      · rintro ⟨⟨row, hrow, rfl⟩, hne⟩
        exact ⟨row, ⟨hrow, by simpa using fun heq => hne heq.symm⟩, rfl⟩
  | createRelation relation =>
      obtain ⟨_, _, _, _, _, rfl⟩ := h
      simp [StateTables.insertRelation]
  | deleteRelation relationId =>
      obtain ⟨_, rfl⟩ := h
      simp [StateTables.deleteRelations]
  | setFacet facet =>
      obtain ⟨_, _, _, rfl⟩ := h
      obtain ⟨target, schema, payload⟩ := facet
      cases target <;> simp [StateTables.upsertFacet]
  | removeFacet target schema =>
      obtain ⟨_, rfl⟩ := h
      cases target <;> simp [StateTables.deleteFacet]
  | grantControl grant =>
      obtain ⟨_, _, _, _, _, _, rfl⟩ := h
      simp [StateTables.insertGrant]
  | revokeControl grantId =>
      obtain ⟨_, rfl⟩ := h
      simp [StateTables.deleteGrants]

/-- A mutation that does not name grants keeps a grant unless it deletes its
actor. -/
theorem grant_of_applies {grant : ControlGrantRow} (hplain : isAuthorityMutation mutation = false)
    (h : Applies parents s position mutation s') :
    grant ∈ s'.controlGrants ↔
      grant ∈ s.controlGrants ∧ mutation ≠ .deleteEntity grant.actorEntityId := by
  cases mutation with
  | createEntity entity =>
      obtain ⟨_, _, _, rfl⟩ := h
      simp [StateTables.insertEntity]
  | deleteEntity deleted =>
      obtain ⟨_, rfl⟩ := h
      simp [StateTables.deleteEntity, StateTables.deleteRelations, StateTables.deleteGrants,
        @eq_comm _ deleted]
  | createRelation relation =>
      obtain ⟨_, _, _, _, _, rfl⟩ := h
      simp [StateTables.insertRelation]
  | deleteRelation relationId =>
      obtain ⟨_, rfl⟩ := h
      simp [StateTables.deleteRelations]
  | setFacet facet =>
      obtain ⟨_, _, _, rfl⟩ := h
      obtain ⟨target, schema, payload⟩ := facet
      cases target <;> simp [StateTables.upsertFacet]
  | removeFacet target schema =>
      obtain ⟨_, rfl⟩ := h
      cases target <;> simp [StateTables.deleteFacet]
  | grantControl grant => cases hplain
  | revokeControl grantId => cases hplain

/-- The entities after a transaction are those that it recreates, and those from before that it does
not delete. -/
theorem entity_of_replay {entityId : EntityId} :
    ∀ {mutations : List WorldMutation} {s s' : StateTables},
      replay parents s (atPosition position mutations) = .ok s' →
      (entityId ∈ s'.entities.map EntityRow.entityId ↔
        Recreates mutations entityId ∨
          (entityId ∈ s.entities.map EntityRow.entityId ∧ .deleteEntity entityId ∉ mutations))
  | [], s, s', h => by
      cases h
      simp [Recreates]
  | mutation :: rest, s, s', h => by
      obtain ⟨middle, hfirst, hrest⟩ := replay_cons_eq_ok_iff.mp h
      rw [entity_of_replay hrest, entity_of_applies (applyMutation_eq_ok_iff.mp hfirst),
        recreates_cons, List.mem_cons, not_or]
      constructor
      · rintro (hlater | ⟨hcreated | ⟨hold, hkept⟩, hnot⟩)
        · exact Or.inl (Or.inl hlater)
        · exact Or.inl (Or.inr ⟨hcreated, hnot⟩)
        · exact Or.inr ⟨hold, fun heq => hkept heq.symm, hnot⟩
      · rintro ((hlater | ⟨hcreated, hnot⟩) | ⟨hold, hkept, hnot⟩)
        · exact Or.inl hlater
        · exact Or.inr ⟨Or.inl hcreated, hnot⟩
        · exact Or.inr ⟨Or.inr ⟨hold, fun heq => hkept heq.symm⟩, hnot⟩

/-- Without mutations of grants, a grant goes only with the entity of its actor. -/
theorem grant_of_replay {grant : ControlGrantRow} :
    ∀ {mutations : List WorldMutation} {s s' : StateTables},
      mutations.any isAuthorityMutation = false →
      replay parents s (atPosition position mutations) = .ok s' →
      (grant ∈ s'.controlGrants ↔
        grant ∈ s.controlGrants ∧ .deleteEntity grant.actorEntityId ∉ mutations)
  | [], s, s', _, h => by
      cases h
      simp
  | mutation :: rest, s, s', hplain, h => by
      obtain ⟨middle, hfirst, hrest⟩ := replay_cons_eq_ok_iff.mp h
      rw [List.any_cons, Bool.or_eq_false_iff] at hplain
      rw [grant_of_replay hplain.2 hrest,
        grant_of_applies hplain.1 (applyMutation_eq_ok_iff.mp hfirst), List.mem_cons, not_or,
        and_assoc, ne_comm]

/-- An entity that exists can only be created again after a deletion. -/
theorem deleted_of_recreates {entityId : EntityId} :
    ∀ {mutations : List WorldMutation} {s s' : StateTables},
      replay parents s (atPosition position mutations) = .ok s' →
      entityId ∈ s.entities.map EntityRow.entityId → Recreates mutations entityId →
      .deleteEntity entityId ∈ mutations
  | [], s, s', _, _, hrecreates => by
      obtain ⟨before, entity, after, hsplit, -⟩ := hrecreates
      cases before <;> cases hsplit
  | mutation :: rest, s, s', h, hexists, hrecreates => by
      obtain ⟨middle, hfirst, hrest⟩ := replay_cons_eq_ok_iff.mp h
      have happly := applyMutation_eq_ok_iff.mp hfirst
      rcases recreates_cons.mp hrecreates with hlater | ⟨⟨entity, rfl, rfl⟩, -⟩
      · by_cases hdeletes : mutation = .deleteEntity entityId
        · rw [hdeletes]
          exact List.mem_cons_self
        · have hmiddle := (entity_of_applies happly).mpr (Or.inr ⟨hexists, hdeletes⟩)
          exact List.mem_cons_of_mem _ (deleted_of_recreates hrest hmiddle hlater)
      · exact absurd hexists happly.1

/-- Mutations that do not name grants keep the authority over surviving entities
exactly when no actor of a grant is created again. -/
theorem keepsAuthority_iff {mutations : List WorldMutation} (hintegrity : Integrity s)
    (hplain : mutations.any isAuthorityMutation = false)
    (h : replay parents s (atPosition position mutations) = .ok s') :
    KeepsAuthority s s' ↔
      ∀ grant ∈ s.controlGrants, ¬ Recreates mutations grant.actorEntityId := by
  constructor
  · intro hkeeps grant hgrant hrecreates
    have hactor := hintegrity.actors grant hgrant
    have hdeleted := deleted_of_recreates h hactor hrecreates
    have hexists := (entity_of_replay h).mpr (Or.inl hrecreates)
    have hkept := (hkeeps _ hactor hexists grant rfl).mp hgrant
    exact ((grant_of_replay hplain h).mp hkept).2 hdeleted
  · rintro hnone entityId hbefore hafter grant rfl
    rw [grant_of_replay hplain h]
    refine ⟨fun hgrant => ⟨hgrant, ?_⟩, fun hboth => hboth.1⟩
    rcases (entity_of_replay h).mp hafter with hrecreates | ⟨-, hkept⟩
    · exact absurd hrecreates (hnone grant hgrant)
    · exact hkept

end Survival

/-! ## Commits of unprivileged systems -/

section Runs

variable {Digest Runtime : Type} [DecidableEq Digest] {deps : Dependencies Digest}
  {systems : Runtime → Systems}

/-- Output of an unprivileged system that is taken names no grant. -/
theorem plain_of_allowed {schema : SchemaKey} {output : WorldTransaction}
    (h : rejectPrivilegedAuthorityOutput schema output .ordinary = .ok ()) :
    output.mutations.any isAuthorityMutation = false := by
  unfold rejectPrivilegedAuthorityOutput at h
  cases hany : output.mutations.any isAuthorityMutation with
  | false => rfl
  | true => simp [hany, WorldSystemPrivileges.ordinary] at h

/-- Over any reachable database and any interleaving, the commit of a command
whose system is unprivileged keeps the authority over every surviving entity
exactly when its transaction creates no actor of a live grant again. -/
theorem unprivileged_commit_keeps_authority_iff {store : WorldStore Digest}
    (hreachable : (storageSystem deps).Reachable store)
    {labels : List (RuntimeLabel Runtime)} {state state' : RuntimeState Digest Runtime}
    (hrun : (runtimeSystem deps systems).Run ⟨store, fun _ => none⟩ labels state)
    {run : Nat} {runtime : Runtime} {command : WorldCommand} {transaction : WorldTransaction}
    {position : Nat} {clock : Int} {receipt : CommitReceipt} {registered : RegisteredSystem}
    (hstep : (runtimeSystem deps systems).step state
      (.commit run (.commit command transaction position clock) (.receipt receipt)) state')
    (hphase : state.runs run = some ⟨runtime, command, .committing transaction position⟩)
    (hbound : systems runtime command.schema = some registered)
    (hordinary : registered.privileges = .ordinary)
    (hcommitted : receipt.disposition = .committed) :
    KeepsAuthority state.store.state state'.store.state ↔
      ∀ grant ∈ state.store.state.controlGrants,
        ¬ Recreates transaction.mutations grant.actorEntityId := by
  obtain ⟨entries, hjournal⟩ := journal_of_reachable (reachable_of_runtime_run hrun hreachable)
  obtain ⟨-, other, pinned, hbound', -, -, -, hallowed, -⟩ :=
    notCommitted_of_phase (invariant_of_run hrun) hphase
  cases hbound.symm.trans hbound'
  rw [hordinary] at hallowed
  cases hstep with
  | commit _ serves =>
      have hnew := Serves.newCommit serves hcommitted
      exact keepsAuthority_iff hjournal.integrity (plain_of_allowed hallowed) hnew.state

/-- A database in which principal 8 controls entity 1. -/
def controlledStore : WorldStore String :=
  (demoRun (tableDependencies [acceptAll] []) grantRequests).2

/-- Output that deletes entity 1 and creates it again. -/
def sameEntityAgain : WorldTransaction :=
  ⟨[.deleteEntity ⟨1⟩, .createEntity ⟨⟨1⟩, demoKey "demo.body"⟩], [], []⟩

/-- A runtime whose only system always returns one transaction. -/
def demoSystems (transaction : WorldTransaction) : Unit → Systems := fun _ schema =>
  if schema = demoKey "demo.move" then
    some ⟨fun _ _ evaluation => evaluation = .returned transaction, .ordinary⟩
  else none

/-- The controlled database after processing one more command. -/
def controlledAfter (output : WorldTransaction) : WorldStore String :=
  (serve (tableDependencies [acceptAll] []) controlledStore (demoCommit 2 1 output)).1

def secondReceipt : CommitReceipt := ⟨.committed, ⟨2⟩, 2, [], []⟩

theorem serves_otherEntity : Serves (tableDependencies [acceptAll] []) controlledStore
    (demoCommit 2 1 otherEntity, .receipt secondReceipt) (controlledAfter otherEntity) :=
  serves_serve _ _ _

theorem serves_sameEntityAgain : Serves (tableDependencies [acceptAll] []) controlledStore
    (demoCommit 2 1 sameEntityAgain, .receipt secondReceipt) (controlledAfter sameEntityAgain) :=
  serves_serve _ _ _

/-- Creating another entity keeps the authority. -/
theorem unprivileged_commit_keeps_authority_other :
    KeepsAuthority controlledStore.state (controlledAfter otherEntity).state := by
  have hprepared : (runtimeSystem (tableDependencies [acceptAll] [])
      (demoSystems otherEntity)).Run ⟨controlledStore, fun _ => none⟩
      (preparedLabels _ controlledStore () (demoCommand 2) otherEntity) _ :=
    prepared_of_newCommit (Serves.newCommit serves_otherEntity rfl) rfl rfl rfl
  have hstep : RuntimeStep (tableDependencies [acceptAll] []) (demoSystems otherEntity)
      (onlyRun controlledStore () (demoCommand 2) (.committing otherEntity 1))
      (commitLabel controlledStore (demoCommand 2) otherEntity 0 secondReceipt)
      (onlyRun (controlledAfter otherEntity) () (demoCommand 2) (.reading secondReceipt)) :=
    commit_onlyRun serves_otherEntity
  refine (unprivileged_commit_keeps_authority_iff (reachable_demoRun _ grantRequests) hprepared
    hstep (onlyRun_runs ..) rfl rfl rfl).mpr ?_
  rintro grant hgrant ⟨before, entity, after, hsplit, hid, -⟩
  have hactor : ∀ grant ∈ controlledStore.state.controlGrants, grant.actorEntityId = ⟨1⟩ := by
    decide +kernel
  have hcreated : .createEntity entity ∈ otherEntity.mutations := hsplit ▸ by simp
  cases List.mem_singleton.mp hcreated
  exact absurd (hid.trans (hactor grant hgrant)) (by decide)

/-- An unprivileged system can end the authority over a surviving entity by
deleting it and creating it again in one transaction. -/
theorem unprivileged_commit_loses_authority :
    (storageSystem (tableDependencies [acceptAll] [])).Reachable controlledStore ∧
      (∃ final : RuntimeState String Unit,
        (runtimeSystem (tableDependencies [acceptAll] []) (demoSystems sameEntityAgain)).Run
          ⟨controlledStore, fun _ => none⟩
          (aloneLabels (tableDependencies [acceptAll] []) controlledStore () (demoCommand 2)
            sameEntityAgain 0 secondReceipt) final ∧
        final.store = controlledAfter sameEntityAgain) ∧
      ¬ KeepsAuthority controlledStore.state (controlledAfter sameEntityAgain).state := by
  refine ⟨reachable_demoRun _ grantRequests, ⟨_, alone_of_newCommit
    (Serves.newCommit serves_sameEntityAgain rfl) serves_sameEntityAgain rfl rfl rfl, rfl⟩, ?_⟩
  intro hkeeps
  have hkept := (hkeeps ⟨1⟩ (by decide +kernel) (by decide +kernel)
    ⟨⟨4⟩, ⟨8⟩, ⟨1⟩, 1, none, 1⟩ rfl).mp (by decide +kernel)
  exact absurd hkept (by decide +kernel)

end Runs

end Rintawa.WorldRuntime
