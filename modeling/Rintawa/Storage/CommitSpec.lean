/-
# What a commit does

A successful commit either replays a receipt and changes nothing, or appends one
commit together with the rows of its transaction. `NewCommit` states everything
the second case checks and changes; later modules never unfold `commit`.
-/

import Rintawa.Storage.Commit

namespace Rintawa.Storage

open Rintawa.Lib Rintawa.Sdk Rintawa.World

/-! ## Replaying logged mutations -/

/-- Apply mutations with their positions, in order. -/
def replay (parents : ParentKeys) (s : StateTables) (logged : List (Nat × WorldMutation)) :
    Except StorageError StateTables :=
  logged.foldlM (fun s entry => applyMutation parents s entry.1 entry.2) s

variable {parents : ParentKeys} {s s' : StateTables} {position : Nat} {clock : Int}
  {command : WorldCommand}

@[simp]
theorem replay_nil : replay parents s [] = .ok s :=
  rfl

theorem replay_cons_eq_ok_iff {entry : Nat × WorldMutation} {rest : List (Nat × WorldMutation)} :
    replay parents s (entry :: rest) = .ok s' ↔
      ∃ middle, applyMutation parents s entry.1 entry.2 = .ok middle ∧
        replay parents middle rest = .ok s' := by
  simp only [replay, List.foldlM_cons, bind_eq_ok_iff]

/-- A log is replayed part by part. -/
theorem replay_append_eq_ok_iff {first second : List (Nat × WorldMutation)} :
    replay parents s (first ++ second) = .ok s' ↔
      ∃ middle, replay parents s first = .ok middle ∧
        replay parents middle second = .ok s' := by
  simp only [replay, List.foldlM_append, bind_eq_ok_iff]

/-- More parents do no harm to a replay. -/
theorem replay_mono {parents parents' : ParentKeys} (hwithin : parents.Within parents') :
    ∀ {logged : List (Nat × WorldMutation)} {s s' : StateTables},
      replay parents s logged = .ok s' → replay parents' s logged = .ok s'
  | [], s, s', h => h
  | entry :: rest, s, s', h => by
      obtain ⟨middle, hfirst, hrest⟩ := replay_cons_eq_ok_iff.mp h
      exact replay_cons_eq_ok_iff.mpr ⟨middle, applyMutation_mono hwithin hfirst,
        replay_mono hwithin hrest⟩

/-- The replay rule: what every single mutation preserves, a replay preserves. -/
theorem replay_preserves {P : StateTables → Prop} {logged : List (Nat × WorldMutation)}
    (hstep : ∀ entry ∈ logged, ∀ s s', P s →
      applyMutation parents s entry.1 entry.2 = .ok s' → P s') (hs : P s)
    (h : replay parents s logged = .ok s') : P s' := by
  induction logged generalizing s with
  | nil =>
      cases h
      exact hs
  | cons entry rest ih =>
      obtain ⟨middle, hfirst, hrest⟩ := replay_cons_eq_ok_iff.mp h
      refine ih (fun other hother => hstep other (List.mem_cons_of_mem _ hother)) ?_ hrest
      exact hstep entry List.mem_cons_self s middle hs hfirst

/-- The mutations of one transaction with their commit position. -/
def atPosition (position : Nat) (mutations : List WorldMutation) : List (Nat × WorldMutation) :=
  mutations.map fun mutation => (position, mutation)

/-- The mutation loop logs every mutation and replays them on the state. -/
theorem applyMutations_eq_ok {parents : ParentKeys} {position : Nat} :
    ∀ {mutations : List WorldMutation} {index : Nat} {log log' : List MutationRow}
      {s s' : StateTables},
      applyMutations parents position index mutations (log, s) = .ok (log', s') →
      log' = log ++ mutations.mapIdx (fun offset mutation =>
          mutationRow position (index + offset) mutation) ∧
        replay parents s (atPosition position mutations) = .ok s'
  | [], index, log, log', s, s', h => by
      cases h
      simp [atPosition]
  | mutation :: mutations, index, log, log', s, s', h => by
      obtain ⟨stored, hindex, h⟩ := bind_eq_ok_iff.mp h
      obtain ⟨next, hlog, h⟩ := bind_eq_ok_iff.mp h
      obtain ⟨⟨⟩, _, h⟩ := bind_eq_ok_iff.mp h
      obtain ⟨middle, happly, h⟩ := bind_eq_ok_iff.mp h
      obtain ⟨-, rfl⟩ := indexToSql_eq_ok_iff.mp hindex
      obtain ⟨-, rfl⟩ := insertUnique_eq_ok_iff.mp hlog
      obtain ⟨rfl, hreplay⟩ := applyMutations_eq_ok h
      refine ⟨?_, replay_cons_eq_ok_iff.mpr ⟨middle, happly, hreplay⟩⟩
      simp [List.mapIdx_cons, Nat.add_assoc, Nat.add_comm 1]

/-! ## Appending events and effects -/

theorem insertEvent_eq_ok {index : Nat} {rows rows' : List EventRow} {event : WorldEventDraft}
    (h : insertEvent parents position rows index event = .ok rows') :
    rows' = rows ++ [eventRow position index event] ∧
      ((rows.map EventRow.eventId).Nodup → (rows'.map EventRow.eventId).Nodup) := by
  obtain ⟨stored, hindex, h⟩ := bind_eq_ok_iff.mp h
  obtain ⟨next, hrow, h⟩ := bind_eq_ok_iff.mp h
  obtain ⟨⟨⟩, _, h⟩ := bind_eq_ok_iff.mp h
  obtain ⟨⟨⟩, _, h⟩ := bind_eq_ok_iff.mp h
  obtain ⟨⟨⟩, _, h⟩ := bind_eq_ok_iff.mp h
  obtain ⟨-, rfl⟩ := indexToSql_eq_ok_iff.mp hindex
  obtain ⟨hfree, rfl⟩ := insertUnique_eq_ok_iff.mp hrow
  cases h
  exact ⟨rfl, fun hnodup => nodup_map_snoc hnodup hfree⟩

theorem insertEffect_eq_ok {index : Nat} {rows rows' : List EffectJobRow} {effect : EffectJobDraft}
    (h : insertEffect parents position rows index effect = .ok rows') :
    rows' = rows ++ [effectRow position index effect] ∧
      ((rows.map EffectJobRow.jobId).Nodup → (rows'.map EffectJobRow.jobId).Nodup) := by
  obtain ⟨stored, hindex, h⟩ := bind_eq_ok_iff.mp h
  obtain ⟨next, hrow, h⟩ := bind_eq_ok_iff.mp h
  obtain ⟨⟨⟩, _, h⟩ := bind_eq_ok_iff.mp h
  obtain ⟨⟨⟩, _, h⟩ := bind_eq_ok_iff.mp h
  obtain ⟨⟨⟩, _, h⟩ := bind_eq_ok_iff.mp h
  obtain ⟨-, rfl⟩ := indexToSql_eq_ok_iff.mp hindex
  obtain ⟨hfree, rfl⟩ := insertUnique_eq_ok_iff.mp hrow
  cases h
  exact ⟨rfl, fun hnodup => nodup_map_snoc hnodup hfree⟩

theorem insertEvents_eq_ok {rows rows' : List EventRow} {events : List WorldEventDraft}
    (h : insertIndexed (insertEvent parents position) 0 events rows = .ok rows') :
    rows' = rows ++ events.mapIdx (eventRow position) ∧
      ((rows.map EventRow.eventId).Nodup → (rows'.map EventRow.eventId).Nodup) := by
  have hinsert : ∀ rows index event rows', insertEvent parents position rows index event =
      .ok rows' → rows' = rows ++ [eventRow position index event] ∧
        ((rows.map EventRow.eventId).Nodup → (rows'.map EventRow.eventId).Nodup) :=
    fun _ _ _ _ => insertEvent_eq_ok
  simpa using insertIndexed_spec hinsert h

theorem insertEffects_eq_ok {rows rows' : List EffectJobRow} {effects : List EffectJobDraft}
    (h : insertIndexed (insertEffect parents position) 0 effects rows = .ok rows') :
    rows' = rows ++ effects.mapIdx (effectRow position) ∧
      ((rows.map EffectJobRow.jobId).Nodup → (rows'.map EffectJobRow.jobId).Nodup) := by
  have hinsert : ∀ rows index effect rows', insertEffect parents position rows index effect =
      .ok rows' → rows' = rows ++ [effectRow position index effect] ∧
        ((rows.map EffectJobRow.jobId).Nodup → (rows'.map EffectJobRow.jobId).Nodup) :=
    fun _ _ _ _ => insertEffect_eq_ok
  simpa using insertIndexed_spec hinsert h

/-! ## The position and the commit row -/

theorem nextPosition_eq_ok {current : Nat} (h : nextPosition current = .ok position) :
    position = current + 1 := by
  obtain ⟨⟨⟩, -, h⟩ := bind_eq_ok_iff.mp h
  cases h
  rfl

theorem recordedAtNow_eq_ok {recordedAt : Int} (h : recordedAtNow clock = .ok recordedAt) :
    recordedAt = clock := by
  obtain ⟨⟨⟩, -, h⟩ := bind_eq_ok_iff.mp h
  cases h
  rfl

theorem insertCommit_eq_ok {Digest : Type} [DecidableEq Digest] {store : WorldStore Digest}
    {digest : Digest} {rows : List (CommitRow Digest)}
    (h : insertCommit store command digest position clock = .ok rows) :
    command.id ∉ store.worldCommits.map CommitRow.commandId ∧
      rows = store.worldCommits ++ [commitRow command digest position clock] := by
  obtain ⟨_, _, h⟩ := bind_eq_ok_iff.mp h
  obtain ⟨recordedAt, hclock, h⟩ := bind_eq_ok_iff.mp h
  obtain ⟨inserted, hrows, h⟩ := bind_eq_ok_iff.mp h
  obtain ⟨⟨⟩, hfresh, h⟩ := bind_eq_ok_iff.mp h
  obtain ⟨⟨⟩, _, h⟩ := bind_eq_ok_iff.mp h
  obtain ⟨-, hinserted⟩ := insertUnique_eq_ok_iff.mp hrows
  have hrecorded := recordedAtNow_eq_ok hclock
  cases h
  refine ⟨by simpa using hfresh, ?_⟩
  rw [hinserted, hrecorded]

/-! ## The two outcomes of a commit -/

section Outcome

variable {Digest : Type} [DecidableEq Digest] {deps : Dependencies Digest}

/-- Everything that a commit of a new command has checked and changed. -/
structure NewCommit (deps : Dependencies Digest) (store : WorldStore Digest)
    (command : WorldCommand) (transaction : WorldTransaction) (evaluatedPosition : Nat)
    (clock : Int) (store' : WorldStore Digest) (receipt : CommitReceipt) : Prop where
  freshCommand : command.id ∉ store.worldCommits.map CommitRow.commandId
  schemas : ∃ schemas, loadSchemaRegistry deps store.worldSchemas = .ok schemas ∧
    command.validateSchema schemas = .ok () ∧ transaction.validateSchemas schemas = .ok ()
  evaluated : store.commitPosition = evaluatedPosition
  expected : ensureExpectedPosition command store.commitPosition = .ok ()
  authorized : authorizeCommand store.state command store.commitPosition = .ok ()
  fits : store.commitPosition + 1 < positionLimit
  worldId : store'.worldId = store.worldId
  commitPosition : store'.commitPosition = store.commitPosition + 1
  worldSchemas : store'.worldSchemas = store.worldSchemas
  worldCommits : store'.worldCommits = store.worldCommits ++
    [commitRow command (commandDigest deps command) (store.commitPosition + 1) clock]
  worldMutations : store'.worldMutations = store.worldMutations ++
    transaction.mutations.mapIdx (mutationRow (store.commitPosition + 1))
  state : replay store'.parentKeys store.state
    (atPosition (store.commitPosition + 1) transaction.mutations) = .ok store'.state
  worldEvents : store'.worldEvents = store.worldEvents ++
    transaction.events.mapIdx (eventRow (store.commitPosition + 1))
  effectJobs : store'.effectJobs = store.effectJobs ++
    transaction.effects.mapIdx (effectRow (store.commitPosition + 1))
  eventIds : (store.worldEvents.map EventRow.eventId).Nodup →
    (store'.worldEvents.map EventRow.eventId).Nodup
  effectIds : (store.effectJobs.map EffectJobRow.jobId).Nodup →
    (store'.effectJobs.map EffectJobRow.jobId).Nodup
  receipt : receipt = ⟨.committed, command.id, store.commitPosition + 1,
    transaction.events.map WorldEventDraft.id, transaction.effects.map EffectJobDraft.id⟩

variable {receipt : CommitReceipt}

/-- A commit writes the rows of its transaction at the next position, and nothing else. -/
theorem commitNew_eq_ok {store store' : WorldStore Digest} {transaction : WorldTransaction}
    {evaluatedPosition : Nat} (h : commitNew deps store command transaction evaluatedPosition clock
      (commandDigest deps command) = .ok (store', receipt)) :
    NewCommit deps store command transaction evaluatedPosition clock store' receipt := by
  obtain ⟨schemas, hschemas, h⟩ := bind_eq_ok_iff.mp h
  obtain ⟨⟨⟩, hcommand, h⟩ := bind_eq_ok_iff.mp h
  obtain ⟨⟨⟩, htransaction, h⟩ := bind_eq_ok_iff.mp h
  obtain ⟨⟨⟩, _, h⟩ := bind_eq_ok_iff.mp h
  obtain ⟨⟨⟩, hevaluated, h⟩ := bind_eq_ok_iff.mp h
  obtain ⟨⟨⟩, hexpected, h⟩ := bind_eq_ok_iff.mp h
  obtain ⟨⟨⟩, hauthorized, h⟩ := bind_eq_ok_iff.mp h
  obtain ⟨next, hnext, h⟩ := bind_eq_ok_iff.mp h
  obtain ⟨position, hposition, h⟩ := bind_eq_ok_iff.mp h
  obtain ⟨worldCommits, hcommits, h⟩ := bind_eq_ok_iff.mp h
  obtain ⟨⟨log, state⟩, hmutations, h⟩ := bind_eq_ok_iff.mp h
  obtain ⟨worldEvents, hevents, h⟩ := bind_eq_ok_iff.mp h
  obtain ⟨effectJobs, heffects, h⟩ := bind_eq_ok_iff.mp h
  have hnext := nextPosition_eq_ok hnext
  subst hnext
  obtain ⟨hfits, rfl⟩ := positionToSql_eq_ok_iff.mp hposition
  obtain ⟨hfresh, rfl⟩ := insertCommit_eq_ok hcommits
  obtain ⟨rfl, hstate⟩ := applyMutations_eq_ok hmutations
  obtain ⟨rfl, heventIds⟩ := insertEvents_eq_ok hevents
  obtain ⟨rfl, heffectIds⟩ := insertEffects_eq_ok heffects
  cases h
  exact {
    freshCommand := hfresh
    schemas := ⟨schemas, hschemas, liftWorld_eq_ok_iff.mp hcommand,
      liftWorld_eq_ok_iff.mp htransaction⟩
    evaluated := by simpa using hevaluated
    expected := hexpected
    authorized := hauthorized
    fits := hfits
    worldId := rfl
    commitPosition := rfl
    worldSchemas := rfl
    worldCommits := rfl
    worldMutations := by simp
    state := hstate
    worldEvents := rfl
    effectJobs := rfl
    eventIds := heventIds
    effectIds := heffectIds
    receipt := rfl }

/-- A successful commit replays a receipt without a change, or is new. -/
theorem commit_eq_ok {store store' : WorldStore Digest} {transaction : WorldTransaction}
    {evaluatedPosition : Nat}
    (h : commit deps store command transaction evaluatedPosition clock = .ok (store', receipt)) :
    (store' = store ∧ committedReceipt deps store command = .ok (some receipt)) ∨
      NewCommit deps store command transaction evaluatedPosition clock store' receipt := by
  obtain ⟨existing, hexisting, h⟩ := bind_eq_ok_iff.mp h
  cases existing with
  | some found =>
      cases h
      exact Or.inl ⟨rfl, hexisting⟩
  | none => exact Or.inr (commitNew_eq_ok h)

/-- A stored command is committed without reading anything else. -/
theorem commit_of_receipt {store : WorldStore Digest}
    (h : committedReceipt deps store command = .ok (some receipt)) (transaction : WorldTransaction)
    (evaluatedPosition : Nat) (clock : Int) :
    commit deps store command transaction evaluatedPosition clock = .ok (store, receipt) :=
  bind_eq_ok_iff.mpr ⟨some receipt, h, rfl⟩

/-- A failing receipt lookup fails the commit. -/
theorem commit_of_receipt_error {store : WorldStore Digest} {error : StorageError}
    (h : committedReceipt deps store command = .error error) (transaction : WorldTransaction)
    (evaluatedPosition : Nat) (clock : Int) :
    commit deps store command transaction evaluatedPosition clock = .error error := by
  unfold committedReceipt at h
  simp only [commit, h, bind, Except.bind]

end Outcome

end Rintawa.Storage
