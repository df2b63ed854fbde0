/-
# Submitting a committed command again

A run of a command whose identity has committed never reaches a system. It finds
the commit, compares the digests, and either reads back the events of the commit
or ends in a conflict; only an outside failure of one of its two reads can change
that.
-/

import Rintawa.Storage.Idempotence
import Rintawa.WorldRuntime.Runtime

namespace Rintawa.WorldRuntime

open Rintawa.Lib Rintawa.Sdk Rintawa.World Rintawa.Storage

/-! ## A commit stays where it is -/

section Entry

variable {Digest : Type} {deps : Dependencies Digest}

/-- A database of a world whose history has an entry at a place. -/
structure HasEntry (deps : Dependencies Digest) (worldId : WorldId) (n : Nat)
    (entry : CommitEntry) (store : WorldStore Digest) : Prop where
  journal : ∃ entries, Journal deps entries store ∧ entries[n]? = some entry
  worldId : store.worldId = worldId

/-- Every stored commit row is the row of an entry. -/
theorem exists_entry_of_row {entries : List CommitEntry} {store : WorldStore Digest}
    (hjournal : Journal deps entries store) {row : CommitRow Digest}
    (hrow : row ∈ store.worldCommits) :
    ∃ n entry, HasEntry deps store.worldId n entry store ∧
      row = commitRow entry.command (commandDigest deps entry.command) (n + 1) entry.clock := by
  rw [hjournal.worldCommits, commitRows, List.mem_mapIdx] at hrow
  obtain ⟨n, hn, rfl⟩ := hrow
  exact ⟨n, entries[n], ⟨⟨entries, hjournal, List.getElem?_eq_getElem hn⟩, rfl⟩, rfl⟩

/-- The commit of an entry is the only one under its identity. -/
theorem HasEntry.countP {worldId : WorldId} {n : Nat} {entry : CommitEntry}
    {store : WorldStore Digest} (h : HasEntry deps worldId n entry store) :
    store.worldCommits.countP (fun row => decide (row.commandId = entry.command.id)) = 1 := by
  obtain ⟨⟨entries, hjournal, hget⟩, -⟩ := h
  obtain ⟨hrow, hkey⟩ := mem_of_lookupRow (hjournal.lookup_commit hget)
  have hpositive : 0 < store.worldCommits.countP
      (fun row => decide (row.commandId = entry.command.id)) :=
    List.countP_pos_iff.mpr ⟨_, hrow, by simpa using hkey⟩
  have hbound := List.nodup_iff_count_le_one.mp hjournal.commandIds entry.command.id
  rw [List.count, List.countP_map] at hbound
  have hsame : store.worldCommits.countP
      ((fun id => id == entry.command.id) ∘ CommitRow.commandId) =
      store.worldCommits.countP (fun row => decide (row.commandId = entry.command.id)) :=
    List.countP_congr fun row _ => by simp
  omega

variable [DecidableEq Digest]

/-- No request changes the world of a store. -/
theorem Serves.worldId_eq {store store' : WorldStore Digest} {label : Request × Reply}
    (h : Serves deps store label store') : store'.worldId = store.worldId := by
  cases h.storeChange with
  | unchanged => rfl
  | schemas => rfl
  | commits new => exact new.worldId
  | jobs _ update => rw [update.result]

/-- An entry of the log stays when a request is served. -/
theorem HasEntry.serves {worldId : WorldId} {n : Nat} {entry : CommitEntry}
    {store store' : WorldStore Digest} {label : Request × Reply}
    (h : HasEntry deps worldId n entry store) (hserves : Serves deps store label store') :
    HasEntry deps worldId n entry store' := by
  obtain ⟨⟨entries, hjournal, hentry⟩, hworld⟩ := h
  refine ⟨⟨_, hjournal.step hserves, ?_⟩, (Serves.worldId_eq hserves).trans hworld⟩
  exact (List.getElem?_append_left (List.getElem?_eq_some_iff.mp hentry).1).trans hentry

end Entry

section Replay

variable {Digest Runtime : Type} [DecidableEq Digest] {deps : Dependencies Digest}
  {systems : Runtime → Systems} {worldId : WorldId} {n : Nat} {entry : CommitEntry}

variable {label : RuntimeLabel Runtime} {labels : List (RuntimeLabel Runtime)}

/-- An entry of the log stays when the runtime takes a step. -/
theorem HasEntry.step {state state' : RuntimeState Digest Runtime}
    (h : HasEntry deps worldId n entry state.store)
    (hstep : RuntimeStep deps systems state label state') :
    HasEntry deps worldId n entry state'.store := by
  cases hstep with
  | commit _ serves => exact h.serves serves
  | commitFailed _ serves => exact h.serves serves
  | serve _ serves => exact h.serves serves
  | _ => exact h

/-- An entry of the log stays for good. -/
theorem HasEntry.run {state state' : RuntimeState Digest Runtime}
    {labels : List (RuntimeLabel Runtime)} (h : HasEntry deps worldId n entry state.store)
    (hrun : (runtimeSystem deps systems).Run state labels state') :
    HasEntry deps worldId n entry state'.store :=
  Lts.Run.preserves (P := fun state => HasEntry deps worldId n entry state.store)
    (fun _ _ _ hentry hstep => HasEntry.step hentry hstep) hrun h

omit [DecidableEq Digest] in
/-- The events of a commit read the same in all databases that have it. -/
theorem HasEntry.eventsAtPosition_eq {store store' : WorldStore Digest}
    (h : HasEntry deps worldId n entry store) (h' : HasEntry deps worldId n entry store') :
    eventsAtPosition deps store' (n + 1) = eventsAtPosition deps store (n + 1) := by
  obtain ⟨⟨entries, hjournal, hentry⟩, hworld⟩ := h
  obtain ⟨⟨entries', hjournal', hentry'⟩, hworld'⟩ := h'
  exact hjournal.eventsAtPosition_eq hjournal' hentry hentry' (hworld'.trans hworld.symm)

/-! ## The phases of a replay -/

/-- A read of a run failed for outside reasons. -/
def Interrupted (labels : List (RuntimeLabel Runtime)) (run : Nat) : Prop :=
  .unavailable run ∈ labels ∨ .readEvents run (.error (.sqlite .unavailable)) ∈ labels

/-- Where a run of a committed command can stand: it goes on to an outcome exactly
when its command has the digest of the commit, the events of the commit can be
read, and no read was interrupted. -/
def ReplayPhase (same readable interrupted : Prop) (position : Nat) : Phase → Prop
  | .submitted => ¬ interrupted
  | .reading receipt => same ∧ ¬ interrupted ∧ receipt.position = position
  | .finished (.ok _) => same ∧ readable ∧ ¬ interrupted
  | .finished (.error _) => ¬ (same ∧ readable ∧ ¬ interrupted)
  | _ => False

omit [DecidableEq Digest] in
/-- A run is interrupted by a store that does not answer. -/
theorem interrupted_snoc_iff {run : Nat} :
    Interrupted (labels ++ [label]) run ↔ Interrupted labels run ∨
      label = .unavailable run ∨ label = .readEvents run (.error (.sqlite .unavailable)) := by
  simp only [Interrupted, List.mem_append, List.mem_singleton, @eq_comm _ _ label]
  tauto

omit [DecidableEq Digest] in
theorem interrupted_snoc_of_ne {run : Nat} (h : label.run ≠ some run) :
    Interrupted (labels ++ [label]) run ↔ Interrupted labels run := by
  rw [interrupted_snoc_iff]
  refine ⟨?_, Or.inl⟩
  rintro (hold | rfl | rfl)
  · exact hold
  · exact absurd rfl h
  · exact absurd rfl h

omit [DecidableEq Digest] in
theorem not_interrupted_of_ne {run : Nat} (h : ∀ label ∈ labels, label.run ≠ some run) :
    ¬ Interrupted labels run := by
  rintro (hmem | hmem)
  · exact h _ hmem rfl
  · exact h _ hmem rfl

/-- Looking up a committed command compares the digests. -/
theorem lookup_replay {store : WorldStore Digest} {command : WorldCommand}
    (hentry : HasEntry deps worldId n entry store) (hid : command.id = entry.command.id) :
    (∃ receipt, lookupReceipt deps store command = .reading receipt ∧
        receipt.position = n + 1 ∧
        commandDigest deps command = commandDigest deps entry.command) ∨
      ∃ error, lookupReceipt deps store command = .finished (.error error) ∧
        commandDigest deps command ≠ commandDigest deps entry.command := by
  obtain ⟨⟨entries, hjournal, hget⟩, -⟩ := hentry
  by_cases hsame : commandDigest deps command = commandDigest deps entry.command
  · refine Or.inl ⟨entry.receipt .alreadyCommitted (n + 1), ?_, rfl, hsame⟩
    rw [lookupReceipt, hjournal.committedReceipt hget hid hsame]
  · refine Or.inr ⟨.storage (.world (.commandIdConflict entry.command.id)), ?_, hsame⟩
    rw [lookupReceipt, hjournal.committedReceipt_conflict hget hid hsame]

/-- Every step keeps a replay in its phases. -/
theorem ReplayPhase.step {origin : WorldStore Digest} {command : WorldCommand}
    {state state' : RuntimeState Digest Runtime} {run : Nat} {runtime : Runtime} {phase : Phase}
    (horigin : HasEntry deps worldId n entry origin)
    (hentry : HasEntry deps worldId n entry state.store) (hid : command.id = entry.command.id)
    (hrun : state.runs run = some ⟨runtime, command, phase⟩)
    (hphase : ReplayPhase (commandDigest deps command = commandDigest deps entry.command)
      (∃ events, eventsAtPosition deps origin (n + 1) = .ok events) (Interrupted labels run)
      (n + 1) phase) (hstep : RuntimeStep deps systems state label state') :
    ∃ phase', state'.runs run = some ⟨runtime, command, phase'⟩ ∧
      (∀ result, phase = .finished result → phase' = phase) ∧
      ReplayPhase (commandDigest deps command = commandDigest deps entry.command)
        (∃ events, eventsAtPosition deps origin (n + 1) = .ok events)
        (Interrupted (labels ++ [label]) run) (n + 1) phase' := by
  by_cases hlabel : label.run = some run
  · cases hstep with
    | serve => cases hlabel
    | submit fresh =>
        cases hlabel
        rw [hrun] at fresh
        cases fresh
    | lookup atPhase =>
        cases hlabel
        cases hrun.symm.trans atPhase
        have hclear : ¬ Interrupted (labels ++ [.lookup run]) run := by
          rw [interrupted_snoc_iff]
          simpa using (show ¬ Interrupted labels run from hphase)
        refine ⟨_, RuntimeState.put_runs_self, nofun, ?_⟩
        rcases lookup_replay hentry hid with ⟨receipt, hresult, hposition, hsame⟩ |
          ⟨error, hresult, hdifferent⟩
        · rw [hresult]
          exact ⟨hsame, hclear, hposition⟩
        · rw [hresult]
          exact fun h => hdifferent h.1
    | pin atPhase =>
        cases hlabel
        cases hrun.symm.trans atPhase
        exact hphase.elim
    | evaluate atPhase =>
        cases hlabel
        cases hrun.symm.trans atPhase
        exact hphase.elim
    | commit atPhase =>
        cases hlabel
        cases hrun.symm.trans atPhase
        exact hphase.elim
    | commitFailed atPhase =>
        cases hlabel
        cases hrun.symm.trans atPhase
        exact hphase.elim
    | @readEvents _ _ _ receipt events atPhase reads =>
        cases hlabel
        cases hrun.symm.trans atPhase
        obtain ⟨hsame, hclear, hposition⟩ := hphase
        refine ⟨_, RuntimeState.put_runs_self, nofun, ?_⟩
        rw [hposition, horigin.eventsAtPosition_eq hentry] at reads
        rw [interrupted_snoc_iff]
        rcases reads with rfl | rfl
        · -- the events of the commit were read, or cannot be
          cases hevents : eventsAtPosition deps origin (n + 1) with
          | ok events => exact ⟨hsame, ⟨events, rfl⟩, by simpa using hclear⟩
          | error error =>
              rintro ⟨-, ⟨events, hread⟩, -⟩
              cases hread
        · rintro ⟨-, -, hnone⟩
          exact hnone (Or.inr (Or.inr rfl))
    | unavailable atPhase reads =>
        cases hlabel
        cases hrun.symm.trans atPhase
        refine ⟨_, RuntimeState.put_runs_self, ?_, ?_⟩
        · rintro result rfl
          rcases reads with h | h <;> cases h
        rintro ⟨-, -, hnone⟩
        exact hnone (interrupted_snoc_iff.mpr (Or.inr (Or.inl rfl)))
  · refine ⟨phase, (RuntimeStep.runs_of_ne hstep hlabel).trans hrun, fun _ _ => rfl, ?_⟩
    rwa [interrupted_snoc_of_ne hlabel]

/-- So does every run. -/
theorem ReplayPhase.run {origin : WorldStore Digest} {command : WorldCommand}
    {state state' : RuntimeState Digest Runtime} {more : List (RuntimeLabel Runtime)}
    {run : Nat} {runtime : Runtime} (horigin : HasEntry deps worldId n entry origin)
    (hid : command.id = entry.command.id)
    (hmore : (runtimeSystem deps systems).Run state more state') :
    ∀ {labels : List (RuntimeLabel Runtime)} {phase : Phase},
      HasEntry deps worldId n entry state.store →
      state.runs run = some ⟨runtime, command, phase⟩ →
      ReplayPhase (commandDigest deps command = commandDigest deps entry.command)
        (∃ events, eventsAtPosition deps origin (n + 1) = .ok events) (Interrupted labels run)
        (n + 1) phase →
      ∃ phase', state'.runs run = some ⟨runtime, command, phase'⟩ ∧
        (∀ result, phase = .finished result → phase' = phase) ∧
        ReplayPhase (commandDigest deps command = commandDigest deps entry.command)
          (∃ events, eventsAtPosition deps origin (n + 1) = .ok events)
          (Interrupted (labels ++ more) run) (n + 1) phase' := by
  induction hmore with
  | refl state =>
      intro labels phase _ hrun hphase
      rw [List.append_nil]
      exact ⟨phase, hrun, fun _ _ => rfl, hphase⟩
  | @cons _ _ _ label rest hstep _ ih =>
      intro labels phase hentry hrun hphase
      obtain ⟨middle, hrun', hstays, hphase'⟩ :=
        hphase.step horigin hentry hid hrun hstep
      obtain ⟨phase', hrun'', hstays', hphase''⟩ :=
        ih (HasEntry.step hentry hstep) hrun' hphase'
      refine ⟨phase', hrun'', ?_, ?_⟩
      · intro result hfinished
        have hmiddle := hstays result hfinished
        rw [hstays' result (hmiddle.trans hfinished), hmiddle]
      · simpa using hphase''

/-- A replay that has been submitted comes to its end by itself. -/
theorem replay_ends {state : RuntimeState Digest Runtime} {command : WorldCommand}
    {run : Nat} {runtime : Runtime} (hentry : HasEntry deps worldId n entry state.store)
    (hid : command.id = entry.command.id)
    (hrun : state.runs run = some ⟨runtime, command, .submitted⟩) :
    ∃ labels state' result, (runtimeSystem deps systems).Run state labels state' ∧
      state'.runs run = some ⟨runtime, command, .finished result⟩ ∧
      (∀ label ∈ labels, label = .lookup run ∨
        label = .readEvents run (eventsAtPosition deps state.store (n + 1))) := by
  have hlookup : RuntimeStep deps systems state (.lookup run)
      (state.put run ⟨runtime, command, lookupReceipt deps state.store command⟩) :=
    .lookup hrun
  rcases lookup_replay hentry hid with ⟨receipt, hresult, hposition, -⟩ | ⟨error, hresult, -⟩
  · rw [hresult] at hlookup
    have hread : RuntimeStep deps systems (state.put run ⟨runtime, command, .reading receipt⟩)
        (.readEvents run (eventsAtPosition deps state.store (n + 1)))
        ((state.put run ⟨runtime, command, .reading receipt⟩).put run ⟨runtime, command,
          finishReading receipt (eventsAtPosition deps state.store (n + 1))⟩) :=
      .readEvents RuntimeState.put_runs_self
        (Or.inl (congrArg (eventsAtPosition deps state.store) hposition.symm))
    obtain ⟨result, hfinish⟩ : ∃ result,
        finishReading receipt (eventsAtPosition deps state.store (n + 1)) = .finished result := by
      cases eventsAtPosition deps state.store (n + 1) with
      | error error => exact ⟨_, rfl⟩
      | ok events => exact ⟨_, rfl⟩
    refine ⟨_, _, result, .cons hlookup (.single hread), ?_, by simp⟩
    rw [RuntimeState.put_runs_self, hfinish]
  · rw [hresult] at hlookup
    exact ⟨_, _, _, .single hlookup, RuntimeState.put_runs_self, by simp⟩

end Replay

end Rintawa.WorldRuntime
