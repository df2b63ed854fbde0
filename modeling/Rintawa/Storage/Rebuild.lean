/-
# The mutation log rebuilds the state tables

Materialised state and mutation log are two representations of one history. A
log row determines the mutation it was written for, and replaying the log in
order from empty state tables gives the state tables of the database, cascades
and replacements included.
-/

import Rintawa.Storage.Idempotence

namespace Rintawa.Storage

open Rintawa.Lib Rintawa.Sdk Rintawa.World

variable {Digest : Type} {deps : Dependencies Digest}

/-- A row is the log row of a mutation. -/
def LogRow (row : MutationRow) (entry : StoredWorldMutation) : Prop :=
  entry.formatVersion = worldMutationFormatVersion ∧
    row = mutationRow entry.commitPosition entry.mutationIndex entry.mutation

/-- A row is written for one mutation only. -/
theorem LogRow.unique {row : MutationRow} {a b : StoredWorldMutation} (ha : LogRow row a)
    (hb : LogRow row b) : a = b := by
  obtain ⟨position, index, version, mutation⟩ := a
  obtain ⟨position', index', version', mutation'⟩ := b
  obtain ⟨rfl, rfl⟩ := ha
  obtain ⟨rfl, hrow⟩ := hb
  simp only [mutationRow, MutationRow.mk.injEq, true_and] at hrow
  obtain ⟨rfl, rfl, htext⟩ := hrow
  rw [WorldMutation.toJson_injective (Json.toText_injective htext)]

/-- Fold the log over empty state tables. -/
def rebuild (parents : ParentKeys) (logged : List StoredWorldMutation) :
    Except StorageError StateTables :=
  logged.foldlM
    (fun s entry => applyMutation parents s entry.commitPosition entry.mutation) .empty

/-- The log entries of a history. -/
def storedMutations : List CommitEntry → List StoredWorldMutation :=
  batchRows (fun entry => entry.transaction.mutations) fun position index mutation =>
    ⟨position, index, worldMutationFormatVersion, mutation⟩

theorem mutationRows_eq_map (entries : List CommitEntry) :
    mutationRows entries = (storedMutations entries).map fun entry =>
      mutationRow entry.commitPosition entry.mutationIndex entry.mutation := by
  rw [storedMutations, map_batchRows]
  rfl

theorem loggedMutations_eq_map (entries : List CommitEntry) :
    loggedMutations entries = (storedMutations entries).map fun entry =>
      (entry.commitPosition, entry.mutation) := by
  rw [storedMutations, map_batchRows]
  rfl

/-- Rebuilding from the rows replays what was logged. -/
theorem rebuild_storedMutations (parents : ParentKeys) (entries : List CommitEntry) :
    rebuild parents (storedMutations entries) =
      replay parents .empty (loggedMutations entries) := by
  rw [loggedMutations_eq_map, replay, List.foldlM_map]
  rfl

theorem forall₂_storedMutations (entries : List CommitEntry) :
    List.Forall₂ LogRow (mutationRows entries) (storedMutations entries) := by
  rw [mutationRows_eq_map, List.forall₂_map_left_iff, List.forall₂_same]
  intro entry hentry
  refine ⟨?_, rfl⟩
  simp only [storedMutations, batchRows, List.mem_flatten, List.mem_mapIdx] at hentry
  obtain ⟨_, ⟨i, _, rfl⟩, hrow⟩ := hentry
  obtain ⟨j, _, rfl⟩ := List.mem_mapIdx.mp hrow
  rfl

variable [DecidableEq Digest]

/-- In every reachable database the log rows, read in order, stand for exactly
one list of mutations, and folding these over empty state tables succeeds and
gives the state tables. -/
theorem mutation_log_rebuilds_state {store : WorldStore Digest}
    (h : (storageSystem deps).Reachable store) :
    ∃ logged,
      (∀ entries, List.Forall₂ LogRow (store.worldMutations.insertionSort
        (rowLe MutationRow.commitPosition MutationRow.mutationIndex)) entries ↔
          entries = logged) ∧
      rebuild store.parentKeys logged = .ok store.state := by
  obtain ⟨entries, hjournal⟩ := journal_of_reachable h
  have hsorted : store.worldMutations.Pairwise
      (rowLe MutationRow.commitPosition MutationRow.mutationIndex) := by
    rw [hjournal.worldMutations]
    exact batchRows_pairwise (fun _ _ _ => rfl) (fun _ _ _ => rfl) entries
  refine ⟨storedMutations entries, ?_, ?_⟩
  · intro others
    rw [hsorted.insertionSort_eq, hjournal.worldMutations]
    constructor
    · intro hothers
      have hunique : Relator.RightUnique LogRow := fun _ _ _ => LogRow.unique
      exact List.right_unique_forall₂' hunique hothers (forall₂_storedMutations entries)
    · rintro rfl
      exact forall₂_storedMutations entries
  · rw [rebuild_storedMutations]
    exact hjournal.state

/-- Two commits, the second of which deletes an entity with everything attached. -/
def cascadeRequests : List Request :=
  [demoCommit 1 0
      ⟨[.createEntity ⟨⟨1⟩, demoKey "demo.body"⟩, .createEntity ⟨⟨2⟩, demoKey "demo.body"⟩,
        .createRelation ⟨⟨3⟩, demoKey "demo.link", ⟨1⟩, ⟨2⟩⟩,
        .setFacet ⟨.relation ⟨3⟩, demoKey "demo.note", acceptAll⟩,
        .grantControl ⟨⟨4⟩, ⟨8⟩, ⟨1⟩, .anyCommand, some 9⟩], [], []⟩,
    demoCommit 2 1
      ⟨[.setFacet ⟨.entity ⟨2⟩, demoKey "demo.note", acceptAll⟩, .deleteEntity ⟨1⟩], [], []⟩]

/-- The log of a database with cascades rebuilds it. -/
theorem mutation_log_rebuilds_state_cascade :
    let store := (demoRun (tableDependencies [acceptAll] []) cascadeRequests).2
    (store.worldMutations.length = 7 ∧ store.state.entities.length = 1 ∧
      store.state.relations = [] ∧ store.state.relationFacets = [] ∧
      store.state.controlGrants = [] ∧ store.state.entityFacets.length = 1) ∧
      ∃ logged, rebuild store.parentKeys logged = .ok store.state := by
  intro store
  obtain ⟨logged, -, hrebuild⟩ := mutation_log_rebuilds_state
    (reachable_demoRun (tableDependencies [acceptAll] []) cascadeRequests)
  exact ⟨by decide +kernel, logged, hrebuild⟩

end Rintawa.Storage
