/-
# Stored authorization is the rule for grants

Whether a principal may issue a command as an entity is decided by a query over
two tables. On every reachable database the query agrees with the rule for a
single grant, applied to the grants that are live in the log, for every position
that the database can hold.
-/

import Rintawa.Storage.Grants
import Rintawa.Storage.Idempotence

namespace Rintawa.Storage

open Rintawa.Lib Rintawa.Sdk Rintawa.World

/-- A live grant lets a principal act for an entity. -/
def Controls (logged : List (Nat × WorldMutation)) (principal : PrincipalId)
    (actorEntity : EntityId) (commandSchema : SchemaKey) (position : Nat) : Prop :=
  ∃ grant, Live logged grant ∧ grant.principal = principal ∧
    grant.actorEntity = actorEntity ∧ grant.allows commandSchema position = true

/-! ## One grant row -/

section Row

variable {live : List (Nat × ControlGrant)} {s : StateTables}

/-- The scope rows of a held grant list exactly the schemas of its scope. -/
theorem HoldsGrants.scope_row_iff (h : HoldsGrants live s)
    (hids : (live.map fun made => made.2.id).Nodup) {made : Nat × ControlGrant}
    (hmade : made ∈ live) (schema : SchemaKey) :
    ⟨made.2.id, schemaColumns schema⟩ ∈ s.controlGrantSchemas ↔
      schema ∈ scopeSchemas made.2.scope := by
  rw [h.scopes, List.mem_flatMap]
  constructor
  · rintro ⟨other, hother, hrow⟩
    obtain ⟨listed, hlisted, heq⟩ := List.mem_map.mp hrow
    simp only [ControlGrantSchemaRow.mk.injEq] at heq
    obtain ⟨hid, hcolumns⟩ := heq
    cases schemaColumns_injective hcolumns
    rw [← List.inj_on_of_nodup_map hids hother hmade hid]
    exact hlisted
  · intro hlisted
    exact ⟨made, hmade, List.mem_map.mpr ⟨schema, hlisted, rfl⟩⟩

/-- The query accepts the row of a held grant exactly when the grant allows the
command. -/
theorem HoldsGrants.grantRowAllows_iff (h : HoldsGrants live s)
    (hids : (live.map fun made => made.2.id).Nodup) {made : Nat × ControlGrant}
    (hmade : made ∈ live) {principal : PrincipalId} {actorEntity : EntityId}
    {commandSchema : SchemaKey} {position : Nat} :
    grantRowAllows s principal actorEntity commandSchema position (grantRow made.2 made.1) =
        true ↔
      made.2.principal = principal ∧ made.2.actorEntity = actorEntity ∧
        made.2.allows commandSchema position = true := by
  have hscope : (decide ((grantRow made.2 made.1).scopeKind = 1) ||
      (decide ((grantRow made.2 made.1).scopeKind = 2) &&
        s.controlGrantSchemas.any fun row =>
          decide (row.grantId = made.2.id) &&
            decide (row.schema = schemaColumns commandSchema))) =
        made.2.scope.allows commandSchema := by
    have hrows : (s.controlGrantSchemas.any fun row =>
        decide (row.grantId = made.2.id) &&
          decide (row.schema = schemaColumns commandSchema)) = true ↔
        commandSchema ∈ scopeSchemas made.2.scope := by
      rw [← h.scope_row_iff hids hmade, List.any_eq_true]
      constructor
      · rintro ⟨⟨grantId, schema⟩, hrow, heq⟩
        simp only [Bool.and_eq_true, decide_eq_true_eq] at heq
        obtain ⟨rfl, rfl⟩ := heq
        exact hrow
      · intro hrow
        exact ⟨_, hrow, by simp⟩
    cases hkind : made.2.scope with
    | anyCommand => simp [grantRow, hkind, scopeKindCode, ControlScope.allows]
    | exactSchemas schemas =>
        rw [hkind] at hrows
        rw [Bool.eq_iff_iff]
        simp [grantRow, hkind, scopeKindCode, ControlScope.allows, hrows, scopeSchemas]
  have hgrantId : (grantRow made.2 made.1).grantId = made.2.id := rfl
  have hvalid : (grantRow made.2 made.1).validThroughPosition =
    made.2.validThroughPosition := rfl
  rw [grantRowAllows, hgrantId, hscope, hvalid, ControlGrant.allows]
  simp only [Bool.and_eq_true, decide_eq_true_eq]
  constructor
  · rintro ⟨⟨⟨hprincipal, hactor⟩, hfresh⟩, hallowed⟩
    exact ⟨hprincipal, hactor, hallowed, hfresh⟩
  · rintro ⟨hprincipal, hactor, hallowed, hfresh⟩
    exact ⟨⟨⟨hprincipal, hactor⟩, hfresh⟩, hallowed⟩

end Row

/-! ## The query on reachable databases -/

section Query

variable {Digest : Type} {deps : Dependencies Digest} {entries : List CommitEntry}
  {store : WorldStore Digest}

/-- The grant tables of a database with a journal hold the live grants of its log. -/
theorem Journal.holdsGrants (h : Journal deps entries store) :
    HoldsGrants (liveGrants (loggedMutations entries)) store.state :=
  HoldsGrants.replay h.state

theorem Journal.liveGrantIds (h : Journal deps entries store) :
    ((liveGrants (loggedMutations entries)).map fun made => made.2.id).Nodup := by
  have hnodup := h.integrity.grantIds
  rw [h.holdsGrants.grants, List.map_map] at hnodup
  exact hnodup

variable {position : Nat}

/-- A grant row of the database allows a command exactly when a live grant does. -/
theorem Journal.any_grantRowAllows_iff (h : Journal deps entries store) {principal : PrincipalId}
    {actorEntity : EntityId} {commandSchema : SchemaKey} :
    store.state.controlGrants.any
        (grantRowAllows store.state principal actorEntity commandSchema position) = true ↔
      Controls (loggedMutations entries) principal actorEntity commandSchema position := by
  have hholds := h.holdsGrants
  have hids := h.liveGrantIds
  rw [hholds.grants, List.any_map, List.any_eq_true]
  constructor
  · rintro ⟨made, hmade, hallows⟩
    exact ⟨made.2, mem_liveGrants_iff.mp ⟨made.1, hmade⟩,
      (hholds.grantRowAllows_iff hids hmade).mp hallows⟩
  · rintro ⟨grant, hlive, hallows⟩
    obtain ⟨position, hmade⟩ := mem_liveGrants_iff.mpr hlive
    exact ⟨(position, grant), hmade, (hholds.grantRowAllows_iff hids hmade).mpr hallows⟩

/-- At a position the database can hold, the query decides whether a live grant
allows the command. -/
theorem Journal.principalCanControl_iff (h : Journal deps entries store) {principal : PrincipalId}
    {actorEntity : EntityId} {commandSchema : SchemaKey} (hposition : position < positionLimit) :
    ∃ allowed,
      principalCanControl store.state principal actorEntity commandSchema position =
        .ok allowed ∧
      (allowed = true ↔
        Controls (loggedMutations entries) principal actorEntity commandSchema position) := by
  refine ⟨_, ?_, h.any_grantRowAllows_iff⟩
  exact bind_eq_ok_iff.mpr ⟨position, positionToSql_eq_ok_iff.mpr ⟨hposition, rfl⟩, rfl⟩

/-- An authorized command acts for its principal, or for an entity that a live
grant covers. -/
theorem Journal.controls_of_authorized (h : Journal deps entries store) {command : WorldCommand}
    (hauthorized : authorizeCommand store.state command position = .ok ()) :
    command.actor = .principal command.principal ∨
      ∃ actorEntity, command.actor = .entity actorEntity ∧
        Controls (loggedMutations entries) command.principal actorEntity command.schema
          position := by
  unfold authorizeCommand at hauthorized
  cases hactor : command.actor with
  | principal actorPrincipal =>
      simp only [hactor, ensure_eq_ok_iff, decide_eq_true_eq] at hauthorized
      exact Or.inl (congrArg ActorRef.principal hauthorized)
  | entity actorEntity =>
      simp only [hactor, bind_eq_ok_iff, ensure_eq_ok_iff] at hauthorized
      obtain ⟨allowed, hquery, rfl⟩ := hauthorized
      obtain ⟨stored, hstored, hany⟩ := bind_eq_ok_iff.mp hquery
      obtain ⟨-, rfl⟩ := positionToSql_eq_ok_iff.mp hstored
      refine Or.inr ⟨actorEntity, rfl, h.any_grantRowAllows_iff.mp ?_⟩
      simpa [pure, Except.pure] using hany

end Query

/-! ## The rule -/

section Rule

variable {Digest : Type} [DecidableEq Digest] {deps : Dependencies Digest}

/-- After every run the query agrees with the rule for live grants at every
position below the storage limit and fails at every other, and a command commits
as new only when it acts for its own principal or a live grant covers it. -/
theorem stored_authorization_refines_grants {worldId : WorldId}
    {history : List (Request × Reply)} {store : WorldStore Digest}
    (hrun : (storageSystem deps).Run (WorldStore.create Digest worldId) history store) :
    (∀ principal actorEntity commandSchema position,
      (position < positionLimit →
        ∃ allowed,
          principalCanControl store.state principal actorEntity commandSchema position =
            .ok allowed ∧
          (allowed = true ↔ Controls (loggedMutations (committedEntries history)) principal
            actorEntity commandSchema position)) ∧
      (positionLimit ≤ position →
        principalCanControl store.state principal actorEntity commandSchema position =
          .error (.indexOutOfRange "commit_position"))) ∧
    ∀ before after command transaction evaluatedPosition clock receipt,
      history = before ++
        (.commit command transaction evaluatedPosition clock, .receipt receipt) :: after →
      receipt.disposition = .committed →
      command.actor = .principal command.principal ∨
        ∃ actorEntity, command.actor = .entity actorEntity ∧
          Controls (loggedMutations (committedEntries before)) command.principal actorEntity
            command.schema evaluatedPosition := by
  have hjournal := journal_of_run hrun
  refine ⟨?_, ?_⟩
  · intro principal actorEntity commandSchema position
    refine ⟨fun hposition => hjournal.principalCanControl_iff hposition, ?_⟩
    intro hposition
    have hrange : positionToSql position = .error (.indexOutOfRange "commit_position") :=
      if_neg (Nat.not_lt.mpr hposition)
    rw [principalCanControl, hrange]
    rfl
  · rintro before after command transaction evaluatedPosition clock receipt rfl hcommitted
    obtain ⟨earlier, hbefore, hrest⟩ := hrun.split
    cases hrest with
    | cons hstep _ =>
        have hnew := Serves.newCommit hstep hcommitted
        have hauthorized := hnew.authorized
        rw [hnew.evaluated] at hauthorized
        exact (journal_of_run hbefore).controls_of_authorized hauthorized

/-- A commit that grants control of an entity without limits. -/
def grantRequests : List Request :=
  [demoCommit 1 0 ⟨[.createEntity ⟨⟨1⟩, demoKey "demo.body"⟩,
    .grantControl ⟨⟨4⟩, ⟨8⟩, ⟨1⟩, .anyCommand, none⟩], [], []⟩]

/-- The unlimited grant is live after its commit, so the query accepts it. -/
theorem stored_authorization_refines_grants_unlimited :
    let run := demoRun (tableDependencies [acceptAll] []) grantRequests
    principalCanControl run.2.state ⟨8⟩ ⟨1⟩ (demoKey "demo.move") 5 = .ok true ∧
      Controls (loggedMutations (committedEntries run.1)) ⟨8⟩ ⟨1⟩ (demoKey "demo.move") 5 := by
  intro run
  obtain ⟨allowed, hquery, hiff⟩ := ((stored_authorization_refines_grants
    (run_demoRun (tableDependencies [acceptAll] []) grantRequests)).1 ⟨8⟩ ⟨1⟩
    (demoKey "demo.move") 5).1 (by decide)
  have haccepted :
      principalCanControl run.2.state ⟨8⟩ ⟨1⟩ (demoKey "demo.move") 5 = .ok true := by
    decide +kernel
  rw [hquery] at haccepted
  cases haccepted
  exact ⟨hquery, hiff.mp rfl⟩

/-- At a position that the database cannot hold, the query fails although an
unlimited live grant allows the command there. -/
theorem stored_authorization_out_of_range :
    let run := demoRun (tableDependencies [acceptAll] []) grantRequests
    ¬ (principalCanControl run.2.state ⟨8⟩ ⟨1⟩ (demoKey "demo.move") (2 ^ 63) = .ok true ↔
      Controls (loggedMutations (committedEntries run.1)) ⟨8⟩ ⟨1⟩ (demoKey "demo.move")
        (2 ^ 63)) := by
  intro run hiff
  have hcontrols : Controls (loggedMutations (committedEntries run.1)) ⟨8⟩ ⟨1⟩
      (demoKey "demo.move") (2 ^ 63) := by
    refine ⟨⟨⟨4⟩, ⟨8⟩, ⟨1⟩, .anyCommand, none⟩, ?_, rfl, rfl, rfl⟩
    exact ⟨[(1, .createEntity ⟨⟨1⟩, demoKey "demo.body"⟩)], 1, [], rfl, by simp⟩
  have hfailed : principalCanControl run.2.state ⟨8⟩ ⟨1⟩ (demoKey "demo.move") (2 ^ 63) =
      .error (.indexOutOfRange "commit_position") := by
    decide +kernel
  have haccepted := hiff.mpr hcontrols
  rw [hfailed] at haccepted
  cases haccepted

end Rule

end Rintawa.Storage
