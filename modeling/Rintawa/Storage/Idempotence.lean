/-
# The commit log is linear, gap-free and idempotent

The receipt of a commit is not remembered but rebuilt from stored rows. Because
the tables are the image of the commit history, the rebuilt receipt is the
original one at any later time, and a different command under the same identity
is told apart by its digest.
-/

import Rintawa.Storage.Journal

namespace Rintawa.Storage

open Rintawa.Lib Rintawa.Sdk Rintawa.World

variable {Digest : Type} {deps : Dependencies Digest}

/-! ## Digests -/

/-- Without collisions the digest of a command identifies its content. -/
theorem commandDigest_eq_iff (collisionFree : Function.Injective deps.sha256)
    {a b : WorldCommand} :
    commandDigest deps a = commandDigest deps b ↔ a.same b = true := by
  rw [commandDigest, commandDigest, collisionFree.eq_iff, WorldCommand.canonical_toText_eq_iff]

/-! ## The log -/

/-- The commit log of a database is linear and gap-free, and no identity occurs
twice. -/
structure LinearLog (store : WorldStore Digest) : Prop where
  commitPosition : store.commitPosition = store.worldCommits.length
  positions : store.worldCommits.map CommitRow.commitPosition =
    List.range' 1 store.worldCommits.length
  commandIds : (store.worldCommits.map CommitRow.commandId).Nodup
  eventIds : (store.worldEvents.map EventRow.eventId).Nodup
  effectIds : (store.effectJobs.map EffectJobRow.jobId).Nodup

@[simp]
theorem length_commitRows (entries : List CommitEntry) :
    (commitRows deps entries).length = entries.length := by
  simp [commitRows]

theorem positions_commitRows (entries : List CommitEntry) :
    (commitRows deps entries).map CommitRow.commitPosition = List.range' 1 entries.length := by
  apply List.ext_getElem
  · simp
  · intro i hi hi'
    simp [commitRows, commitRow, Nat.add_comm]

theorem Journal.linearLog {entries : List CommitEntry} {store : WorldStore Digest}
    (h : Journal deps entries store) : LinearLog store where
  commitPosition := by rw [h.commitPosition, h.worldCommits, length_commitRows]
  positions := by rw [h.worldCommits, positions_commitRows, length_commitRows]
  commandIds := h.commandIds
  eventIds := h.eventIds
  effectIds := h.effectIds

/-! ## Rebuilt receipts -/

/-- The receipt of the entry at an index of the history. -/
def CommitEntry.receipt (entry : CommitEntry) (disposition : CommitDisposition)
    (position : Nat) : CommitReceipt :=
  ⟨disposition, entry.command.id, position, entry.transaction.events.map WorldEventDraft.id,
    entry.transaction.effects.map EffectJobDraft.id⟩

section Receipts

variable {entries : List CommitEntry} {store : WorldStore Digest} {n : Nat}
  {entry : CommitEntry}

theorem Journal.position_fits (h : Journal deps entries store)
    (hentry : entries[n]? = some entry) : positionToSql (n + 1) = .ok (n + 1) := by
  have hbound := (List.getElem?_eq_some_iff.mp hentry).1
  have hfits := h.fits
  exact positionToSql_eq_ok_iff.mpr ⟨by omega, rfl⟩

theorem Journal.eventIdsForPosition (h : Journal deps entries store)
    (hentry : entries[n]? = some entry) :
    eventIdsForPosition store (n + 1) =
      .ok (entry.transaction.events.map WorldEventDraft.id) := by
  refine bind_eq_ok_iff.mpr ⟨n + 1, h.position_fits hentry, ?_⟩
  rw [h.worldEvents, eventRows,
    rowsAt_batchRows (fun _ _ _ => rfl) (fun _ _ _ => rfl) hentry]
  refine congrArg Except.ok (map_mapIdx_eq_map ?_ _)
  intro i event
  rfl

/-- Jobs with the same fixed columns are selected and ordered alike. -/
theorem rowsAt_identity {jobs jobs' : List EffectJobRow}
    (h : jobs.map EffectJobRow.identity = jobs'.map EffectJobRow.identity)
    (hsorted : jobs'.Pairwise (rowLe EffectJobRow.commitPosition EffectJobRow.jobIndex))
    (position : Nat) :
    (rowsAt EffectJobRow.commitPosition EffectJobRow.jobIndex jobs position).map
        EffectJobRow.identity =
      (rowsAt EffectJobRow.commitPosition EffectJobRow.jobIndex jobs' position).map
        EffectJobRow.identity := by
  have hpairwise : ∀ rows : List EffectJobRow,
      rows.Pairwise (rowLe EffectJobRow.commitPosition EffectJobRow.jobIndex) ↔
        (rows.map EffectJobRow.identity).Pairwise
          (rowLe (fun row => row.2.1) (fun row => row.2.2.1)) := by
    intro rows
    rw [List.pairwise_map]
    rfl
  have hfilter : ∀ rows : List EffectJobRow,
      (rows.filter fun row => decide (row.commitPosition = position)).map
          EffectJobRow.identity =
        (rows.map EffectJobRow.identity).filter fun row => decide (row.2.1 = position) := by
    intro rows
    rw [List.filter_map]
    rfl
  have hsorted' : jobs.Pairwise (rowLe EffectJobRow.commitPosition EffectJobRow.jobIndex) := by
    rw [hpairwise, h, ← hpairwise]
    exact hsorted
  rw [rowsAt_of_pairwise hsorted', rowsAt_of_pairwise hsorted, hfilter, hfilter, h]

theorem Journal.effectIdsForPosition (h : Journal deps entries store)
    (hentry : entries[n]? = some entry) :
    effectIdsForPosition store (n + 1) =
      .ok (entry.transaction.effects.map EffectJobDraft.id) := by
  refine bind_eq_ok_iff.mpr ⟨n + 1, h.position_fits hentry, ?_⟩
  have hsame := rowsAt_identity h.effectJobs
    (batchRows_pairwise (fun _ _ _ => rfl) (fun _ _ _ => rfl) entries) (n + 1)
  rw [effectRows, rowsAt_batchRows (fun _ _ _ => rfl) (fun _ _ _ => rfl) hentry] at hsame
  have hids := congrArg (List.map Prod.fst) hsame
  rw [List.map_map, List.map_map] at hids
  refine congrArg Except.ok (hids.trans (map_mapIdx_eq_map ?_ _))
  intro i effect
  rfl

/-- The stored commit of a command that is in the history. -/
theorem Journal.lookup_commit (h : Journal deps entries store)
    (hentry : entries[n]? = some entry) :
    lookupRow CommitRow.commandId store.worldCommits entry.command.id =
      some (commitRow entry.command (commandDigest deps entry.command) (n + 1) entry.clock) := by
  rw [lookupRow_eq_some_iff h.commandIds]
  refine ⟨?_, rfl⟩
  rw [h.worldCommits, commitRows, List.mem_mapIdx]
  obtain ⟨hn, rfl⟩ := List.getElem?_eq_some_iff.mp hentry
  exact ⟨n, hn, rfl⟩

/-- The commit of an entry is found under its position. -/
theorem Journal.commitAt_entry (h : Journal deps entries store)
    (hentry : entries[n]? = some entry) :
    commitAt store (n + 1) = some
      (commitRow entry.command (commandDigest deps entry.command) (n + 1) entry.clock) := by
  have hpositions : (store.worldCommits.map CommitRow.commitPosition).Nodup := by
    rw [h.linearLog.positions]
    exact List.nodup_range'
  refine (lookupRow_eq_some_iff hpositions).mpr ⟨?_, rfl⟩
  exact (mem_of_lookupRow (h.lookup_commit hentry)).1

/-- Selecting one position from joined rows leaves its rows joined with its commit. -/
theorem filter_joined {commit : CommitRow Digest} {position : Nat}
    (hcommit : commitAt store position = some commit) (rows : List EventRow) :
    (rows.filterMap fun event =>
        (commitAt store event.commitPosition).map fun commit => (event, commit)).filter
        (fun row => decide (eventPosition row = position)) =
      (rows.filter fun row => decide (row.commitPosition = position)).map
        fun row => (row, commit) := by
  induction rows with
  | nil => rfl
  | cons row rows ih =>
      by_cases hposition : row.commitPosition = position
      · have hhead : commitAt store row.commitPosition = some commit := by rw [hposition, hcommit]
        rw [List.filterMap_cons, hhead]
        simpa [eventPosition, hposition] using ih
      · rw [List.filterMap_cons]
        cases commitAt store row.commitPosition with
        | none => simpa [hposition] using ih
        | some other => simpa [eventPosition, hposition] using ih

/-- The events of a commit are read from the rows of its entry. -/
theorem Journal.eventsAtPosition (h : Journal deps entries store)
    (hentry : entries[n]? = some entry) :
    eventsAtPosition deps store (n + 1) =
      ((entry.transaction.events.mapIdx (eventRow (n + 1))).map fun row =>
        (row, commitRow entry.command (commandDigest deps entry.command) (n + 1)
          entry.clock)).mapM (decodeEvent deps store) := by
  have hcommit := h.commitAt_entry hentry
  have hsorted : (eventCommits store).Pairwise (rowLe eventPosition eventIndexOf) := by
    have hevents : store.worldEvents.Pairwise
        (rowLe EventRow.commitPosition EventRow.eventIndex) := by
      rw [h.worldEvents]
      exact batchRows_pairwise (fun _ _ _ => rfl) (fun _ _ _ => rfl) entries
    refine List.Pairwise.filterMap _ ?_ hevents
    rintro a b hle _ ha _ hb
    obtain ⟨_, _, rfl⟩ := Option.map_eq_some_iff.mp ha
    obtain ⟨_, _, rfl⟩ := Option.map_eq_some_iff.mp hb
    exact hle
  have hrows : store.worldEvents.filter (fun row => decide (row.commitPosition = n + 1)) =
      entry.transaction.events.mapIdx (eventRow (n + 1)) := by
    rw [h.worldEvents]
    exact batchRows_filter (fun _ _ _ => rfl) hentry
  have hjoined : rowsAt eventPosition eventIndexOf (eventCommits store) (n + 1) =
      (entry.transaction.events.mapIdx (eventRow (n + 1))).map fun row =>
        (row, commitRow entry.command (commandDigest deps entry.command) (n + 1)
          entry.clock) := by
    rw [rowsAt_of_pairwise hsorted, eventCommits, filter_joined hcommit, hrows]
  unfold Storage.eventsAtPosition
  rw [h.position_fits hentry]
  exact congrArg (List.mapM (decodeEvent deps store)) hjoined

/-- So the events of a commit read the same in every database that has it. -/
theorem Journal.eventsAtPosition_eq {entries' : List CommitEntry} {store' : WorldStore Digest}
    (h : Journal deps entries store) (h' : Journal deps entries' store')
    (hentry : entries[n]? = some entry) (hentry' : entries'[n]? = some entry)
    (hworld : store'.worldId = store.worldId) :
    Storage.eventsAtPosition deps store' (n + 1) =
      Storage.eventsAtPosition deps store (n + 1) := by
  have hdecode : decodeEvent deps store' = decodeEvent deps store := by
    funext row
    simp only [decodeEvent, hworld]
  rw [h.eventsAtPosition hentry, h'.eventsAtPosition hentry', hdecode]

variable [DecidableEq Digest]

/-- The lookup gives back the original receipt, marked as a replay. -/
theorem Journal.committedReceipt (h : Journal deps entries store)
    (hentry : entries[n]? = some entry) {command : WorldCommand}
    (hid : command.id = entry.command.id)
    (hdigest : commandDigest deps command = commandDigest deps entry.command) :
    committedReceipt deps store command = .ok (some (entry.receipt .alreadyCommitted (n + 1))) := by
  unfold Storage.committedReceipt loadExistingReceipt
  rw [hid, hdigest, h.lookup_commit hentry]
  simp only [commitRow, decide_true]
  refine bind_eq_ok_iff.mpr ⟨(), rfl, bind_eq_ok_iff.mpr ⟨_, h.eventIdsForPosition hentry, ?_⟩⟩
  exact bind_eq_ok_iff.mpr ⟨_, h.effectIdsForPosition hentry, rfl⟩

/-- Another digest under the same identity is a conflict. -/
theorem Journal.committedReceipt_conflict (h : Journal deps entries store)
    (hentry : entries[n]? = some entry) {command : WorldCommand}
    (hid : command.id = entry.command.id)
    (hdigest : commandDigest deps command ≠ commandDigest deps entry.command) :
    Storage.committedReceipt deps store command =
      .error (.world (.commandIdConflict entry.command.id)) := by
  unfold Storage.committedReceipt loadExistingReceipt
  rw [hid, h.lookup_commit hentry]
  have hne : ¬ commandDigest deps entry.command = commandDigest deps command :=
    fun heq => hdigest heq.symm
  simp only [commitRow, hne, decide_false]
  rfl

end Receipts

/-! ## Commits of a run -/

section Runs

variable [DecidableEq Digest]

/-- A request that commits as new was evaluated at the current position, and its
receipt describes its transaction. -/
theorem Serves.newCommit {store store' : WorldStore Digest} {command : WorldCommand}
    {transaction : WorldTransaction} {evaluatedPosition : Nat} {clock : Int}
    {receipt : CommitReceipt}
    (h : Serves deps store
      (.commit command transaction evaluatedPosition clock, .receipt receipt) store')
    (hcommitted : receipt.disposition = .committed) :
    NewCommit deps store command transaction evaluatedPosition clock store' receipt := by
  have hentry : committedEntry
      (.commit command transaction evaluatedPosition clock, .receipt receipt) =
        some ⟨command, transaction, clock⟩ := by
    simp only [committedEntry, hcommitted]
  cases h.storeChange with
  | unchanged hquiet => simp [committedEntry_of_idle hquiet] at hentry
  | schemas hquiet => simp [committedEntry_of_idle hquiet] at hentry
  | commits hnew => exact hnew
  | jobs hjob =>
      have hquiet := hjob.quiet
      simp [hentry] at hquiet

/-- A commit of the past stands in the history of commits under its position. -/
theorem entry_of_past_commit {worldId : WorldId} {store : WorldStore Digest}
    {before after : List (Request × Reply)} {command : WorldCommand}
    {transaction : WorldTransaction} {evaluatedPosition : Nat} {clock : Int}
    {receipt : CommitReceipt}
    (hrun : (storageSystem deps).Run (WorldStore.create Digest worldId)
      (before ++ (.commit command transaction evaluatedPosition clock, .receipt receipt) :: after)
      store)
    (hcommitted : receipt.disposition = .committed) :
    ∃ earlier, (storageSystem deps).Run (WorldStore.create Digest worldId) before earlier ∧
      earlier.commitPosition = evaluatedPosition ∧
      receipt = CommitEntry.receipt ⟨command, transaction, clock⟩ .committed
        (evaluatedPosition + 1) ∧
      (committedEntries (before ++
        (.commit command transaction evaluatedPosition clock, .receipt receipt) :: after))[
          evaluatedPosition]? = some ⟨command, transaction, clock⟩ := by
  obtain ⟨earlier, hbefore, hrest⟩ := hrun.split
  cases hrest with
  | cons hstep hafter =>
      have hnew := Serves.newCommit hstep hcommitted
      have hlength := (journal_of_run hbefore).commitPosition
      rw [hnew.evaluated] at hlength
      refine ⟨earlier, hbefore, hnew.evaluated, ?_, ?_⟩
      · rw [hnew.receipt, hnew.evaluated]
        rfl
      · have hentry : committedEntry
            (.commit command transaction evaluatedPosition clock, .receipt receipt) =
              some ⟨command, transaction, clock⟩ := by
          simp only [committedEntry, hcommitted]
        rw [committedEntries, List.filterMap_append, List.filterMap_cons_some hentry, hlength]
        simp [committedEntries]

/-- In every run the log is linear, only commands evaluated at the current
position commit as new, and a command that has committed is answered for ever by
its original receipt, or by a conflict when its content differs. -/
theorem commit_log_linear_idempotent (collisionFree : Function.Injective deps.sha256)
    {worldId : WorldId} {history : List (Request × Reply)} {store : WorldStore Digest}
    (hrun : (storageSystem deps).Run (WorldStore.create Digest worldId) history store) :
    LinearLog store ∧
      ∀ before after command transaction evaluatedPosition clock receipt,
        history = before ++
          (.commit command transaction evaluatedPosition clock, .receipt receipt) :: after →
        receipt.disposition = .committed →
        (∃ earlier, (storageSystem deps).Run (WorldStore.create Digest worldId) before earlier ∧
          earlier.commitPosition = evaluatedPosition) ∧
        receipt = ⟨.committed, command.id, evaluatedPosition + 1,
          transaction.events.map WorldEventDraft.id,
          transaction.effects.map EffectJobDraft.id⟩ ∧
        ∀ command' transaction' evaluatedPosition' clock',
          (command'.same command = true →
            perform deps store (.commit command' transaction' evaluatedPosition' clock') =
              .ok (store, .receipt { receipt with disposition := .alreadyCommitted })) ∧
          (command'.id = command.id → command'.same command = false →
            perform deps store (.commit command' transaction' evaluatedPosition' clock') =
              .error (.world (.commandIdConflict command.id))) := by
  have hjournal := journal_of_run hrun
  refine ⟨hjournal.linearLog, ?_⟩
  rintro before after command transaction evaluatedPosition clock receipt rfl hcommitted
  obtain ⟨earlier, hbefore, hposition, hreceipt, hentry⟩ := entry_of_past_commit hrun hcommitted
  refine ⟨⟨earlier, hbefore, hposition⟩, hreceipt, ?_⟩
  intro command' transaction' evaluatedPosition' clock'
  constructor
  · intro hsame
    have hfound := hjournal.committedReceipt hentry (WorldCommand.id_eq_of_same hsame)
      ((commandDigest_eq_iff collisionFree).mpr hsame)
    have hcommit := commit_of_receipt hfound transaction' evaluatedPosition' clock'
    rw [hreceipt]
    exact map_eq_ok_iff.mpr ⟨_, hcommit, rfl⟩
  · intro hid hdifferent
    have hdigest : commandDigest deps command' ≠ commandDigest deps command := by
      rw [Ne, commandDigest_eq_iff collisionFree, hdifferent]
      exact Bool.false_ne_true
    have hconflict := hjournal.committedReceipt_conflict hentry hid hdigest
    rw [perform, commit_of_receipt_error hconflict]
    rfl

/-- A transaction that creates an entity, an event and an effect. -/
def demoTransaction : WorldTransaction :=
  ⟨[.createEntity ⟨⟨1⟩, demoKey "demo.body"⟩], [⟨⟨1⟩, demoKey "demo.moved", acceptAll⟩],
    [⟨⟨1⟩, demoKey "demo.mail", acceptAll⟩]⟩

/-- In a run with one commit, submitting the command again with another
transaction and position gives the original receipt. -/
theorem commit_log_linear_idempotent_demo :
    let deps := tableDependencies [acceptAll] []
    let run := demoRun deps [demoCommit 1 0 demoTransaction]
    LinearLog run.2 ∧
      perform deps run.2 (.commit (demoCommand 1) ⟨[], [], []⟩ 5 9) =
        .ok (run.2, .receipt ⟨.alreadyCommitted, ⟨1⟩, 1, [⟨1⟩], [⟨1⟩]⟩) := by
  intro deps run
  have hcollisionFree : Function.Injective deps.sha256 := fun _ _ h => h
  obtain ⟨hlinear, hpast⟩ := commit_log_linear_idempotent hcollisionFree
    (run_demoRun deps [demoCommit 1 0 demoTransaction])
  obtain ⟨-, -, hanswer⟩ := hpast
    [(.registerSchemas demoSchemas, .schemasRegistered (demoSchemas.map fun _ => .registered))] []
    (demoCommand 1) demoTransaction 0 0 ⟨.committed, ⟨1⟩, 1, [⟨1⟩], [⟨1⟩]⟩ rfl rfl
  exact ⟨hlinear, (hanswer (demoCommand 1) ⟨[], [], []⟩ 5 9).1 rfl⟩

end Runs

end Rintawa.Storage
