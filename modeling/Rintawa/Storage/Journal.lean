/-
# The append-only tables are the image of the commit history

The commits of a run determine the commit, mutation and event tables and the
fixed columns of effect jobs, and replaying their mutations gives the state
tables. Everything that holds of reachable databases is derived from this one
invariant.
-/

import Rintawa.Lib.Batches
import Rintawa.Storage.System

namespace Rintawa.Storage

open Rintawa.Lib Rintawa.Sdk Rintawa.World

variable {Digest : Type} {deps : Dependencies Digest}

/-- The commit rows of a history. -/
def commitRows (deps : Dependencies Digest) (entries : List CommitEntry) :
    List (CommitRow Digest) :=
  entries.mapIdx fun i entry =>
    commitRow entry.command (commandDigest deps entry.command) (i + 1) entry.clock

/-- The mutation rows of a history. -/
def mutationRows : List CommitEntry → List MutationRow :=
  batchRows (fun entry => entry.transaction.mutations) mutationRow

/-- The event rows of a history. -/
def eventRows : List CommitEntry → List EventRow :=
  batchRows (fun entry => entry.transaction.events) eventRow

/-- The effect rows of a history, as they are inserted. -/
def effectRows : List CommitEntry → List EffectJobRow :=
  batchRows (fun entry => entry.transaction.effects) effectRow

/-- The mutations of a history with their commit positions. -/
def loggedMutations : List CommitEntry → List (Nat × WorldMutation) :=
  batchRows (fun entry => entry.transaction.mutations) fun position _ mutation =>
    (position, mutation)

theorem commitRows_snoc (deps : Dependencies Digest)
    (entries : List CommitEntry) (entry : CommitEntry) :
    commitRows deps (entries ++ [entry]) = commitRows deps entries ++
      [commitRow entry.command (commandDigest deps entry.command) (entries.length + 1)
        entry.clock] := by
  simp [commitRows, List.mapIdx_append]

theorem loggedMutations_snoc (entries : List CommitEntry) (entry : CommitEntry) :
    loggedMutations (entries ++ [entry]) = loggedMutations entries ++
      atPosition (entries.length + 1) entry.transaction.mutations := by
  rw [loggedMutations, batchRows_snoc, atPosition]
  congr 1
  exact List.ext_getElem (by simp) (by simp)

/-- The tables of a database as the image of a commit history. -/
structure Journal (deps : Dependencies Digest) (entries : List CommitEntry)
    (store : WorldStore Digest) : Prop where
  commitPosition : store.commitPosition = entries.length
  worldCommits : store.worldCommits = commitRows deps entries
  worldMutations : store.worldMutations = mutationRows entries
  worldEvents : store.worldEvents = eventRows entries
  effectJobs : store.effectJobs.map EffectJobRow.identity =
    (effectRows entries).map EffectJobRow.identity
  commandIds : (store.worldCommits.map CommitRow.commandId).Nodup
  eventIds : (store.worldEvents.map EventRow.eventId).Nodup
  effectIds : (store.effectJobs.map EffectJobRow.jobId).Nodup
  schemaKeys : (store.worldSchemas.map SchemaRow.schema).Nodup
  fits : entries.length < positionLimit
  state : replay store.parentKeys .empty (loggedMutations entries) = .ok store.state

theorem Journal.create (deps : Dependencies Digest) (worldId : WorldId) :
    Journal deps [] (WorldStore.create Digest worldId) where
  commitPosition := rfl
  worldCommits := rfl
  worldMutations := rfl
  worldEvents := rfl
  effectJobs := rfl
  commandIds := List.nodup_nil
  eventIds := List.nodup_nil
  effectIds := List.nodup_nil
  schemaKeys := List.nodup_nil
  fits := by decide
  state := rfl

variable {store : WorldStore Digest}

/-- Growing schemas leave the journal as it is. -/
theorem Journal.schemas {entries : List CommitEntry} (h : Journal deps entries store)
    {rows : List SchemaRow} (hgrow : SchemasGrow store.worldSchemas rows) :
    Journal deps entries { store with worldSchemas := rows } := by
  have hwithin : store.parentKeys.Within
      { store with worldSchemas := rows : WorldStore Digest }.parentKeys :=
    ⟨List.map_subset _ hgrow.1.subset, List.Subset.refl _⟩
  exact { h with
    schemaKeys := hgrow.2 h.schemaKeys
    state := replay_mono hwithin h.state }

/-- A new commit extends the journal by its entry. -/
theorem Journal.commits {entries : List CommitEntry} {store store' : WorldStore Digest}
    (h : Journal deps entries store) {command : WorldCommand} {transaction : WorldTransaction}
    {evaluatedPosition : Nat} {clock : Int} {receipt : CommitReceipt}
    (hnew : NewCommit deps store command transaction evaluatedPosition clock store' receipt) :
    Journal deps (entries ++ [⟨command, transaction, clock⟩]) store' where
  commitPosition := by simp [hnew.commitPosition, h.commitPosition]
  worldCommits := by
    rw [hnew.worldCommits, h.worldCommits, h.commitPosition, commitRows_snoc]
  worldMutations := by
    rw [hnew.worldMutations, h.worldMutations, h.commitPosition, mutationRows, batchRows_snoc]
  worldEvents := by
    rw [hnew.worldEvents, h.worldEvents, h.commitPosition, eventRows, batchRows_snoc]
  effectJobs := by
    rw [hnew.effectJobs, List.map_append, h.effectJobs, h.commitPosition, effectRows,
      batchRows_snoc, List.map_append]
  commandIds := by
    rw [hnew.worldCommits]
    exact nodup_map_snoc h.commandIds hnew.freshCommand
  eventIds := hnew.eventIds h.eventIds
  effectIds := hnew.effectIds h.effectIds
  schemaKeys := by
    rw [hnew.worldSchemas]
    exact h.schemaKeys
  fits := by
    have hfits := hnew.fits
    rw [h.commitPosition] at hfits
    simpa using hfits
  state := by
    rw [loggedMutations_snoc, replay_append_eq_ok_iff]
    refine ⟨store.state, replay_mono ⟨?_, ?_⟩ h.state, ?_⟩
    · simp [WorldStore.parentKeys, hnew.worldSchemas]
    · simp [WorldStore.parentKeys, hnew.worldCommits]
    · rw [← h.commitPosition]
      exact hnew.state

/-- An outbox update changes nothing but delivery columns. -/
theorem Updated.identities {guard : EffectJobRow → Bool} {change : EffectJobRow → EffectJobRow}
    {store' : WorldStore Digest} (hkeeps : ∀ row, (change row).identity = row.identity)
    (h : Updated guard change store store') :
    store'.effectJobs.map EffectJobRow.identity = store.effectJobs.map EffectJobRow.identity := by
  rw [h.result]
  simp only [List.map_map]
  apply List.map_congr_left
  intro row _
  by_cases hguard : guard row <;> simp [hguard, hkeeps]

theorem Updated.jobIds {guard : EffectJobRow → Bool} {change : EffectJobRow → EffectJobRow}
    {store' : WorldStore Digest} (hkeeps : ∀ row, (change row).identity = row.identity)
    (h : Updated guard change store store') :
    store'.effectJobs.map EffectJobRow.jobId = store.effectJobs.map EffectJobRow.jobId := by
  have hjobIds := congrArg (List.map Prod.fst) (h.identities hkeeps)
  rw [List.map_map, List.map_map] at hjobIds
  exact hjobIds

/-- Delivery leaves the journal as it is. -/
theorem Journal.jobs {entries : List CommitEntry} {store store' : WorldStore Digest}
    (h : Journal deps entries store) {guard : EffectJobRow → Bool}
    {change : EffectJobRow → EffectJobRow}
    (hkeeps : ∀ row, (change row).identity = row.identity)
    (hupdate : Updated guard change store store') : Journal deps entries store' := by
  have hidentities := hupdate.identities hkeeps
  have hjobIds := hupdate.jobIds hkeeps
  rw [hupdate.result] at hidentities hjobIds ⊢
  exact { h with
    effectJobs := hidentities.trans h.effectJobs
    effectIds := by
      rw [hjobIds]
      exact h.effectIds }

variable [DecidableEq Digest]

/-- One step extends the journal by the entry it commits. -/
theorem Journal.step {entries : List CommitEntry} {store store' : WorldStore Digest}
    {label : Request × Reply} (h : Journal deps entries store)
    (hstep : Serves deps store label store') :
    Journal deps (entries ++ (committedEntry label).toList) store' := by
  cases hstep.storeChange with
  | unchanged hquiet => simpa [committedEntry_of_idle hquiet] using h
  | schemas hquiet hgrow => simpa [committedEntry_of_idle hquiet] using h.schemas hgrow
  | commits hnew =>
      have hreceipt := hnew.receipt
      subst hreceipt
      exact h.commits hnew
  | jobs hjob hupdate => simpa [hjob.quiet] using h.jobs hjob.identity hupdate

/-- The journal of a run holds exactly the commits of the run. -/
theorem journal_of_run {worldId : WorldId} {history : List (Request × Reply)}
    {store : WorldStore Digest}
    (hrun : (storageSystem deps).Run (WorldStore.create Digest worldId) history store) :
    Journal deps (committedEntries history) store := by
  refine Lts.Run.history_induction
    (P := fun history store => Journal deps (committedEntries history) store)
    (Journal.create deps worldId) ?_ hrun
  intro history s label t _ hjournal hstep
  have hnext := hjournal.step hstep
  rw [committedEntries, List.filterMap_append]
  cases hentry : committedEntry label with
  | none => simpa [hentry, committedEntries] using hnext
  | some entry => simpa [hentry, committedEntries] using hnext

/-- Every reachable database has a journal. -/
theorem journal_of_reachable {store : WorldStore Digest}
    (h : (storageSystem deps).Reachable store) : ∃ entries, Journal deps entries store := by
  obtain ⟨start, history, ⟨worldId, rfl⟩, hrun⟩ := h
  exact ⟨_, journal_of_run hrun⟩

end Rintawa.Storage
