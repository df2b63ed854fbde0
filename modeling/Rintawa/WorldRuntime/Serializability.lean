/-
# Command processing is serializable

Systems evaluate outside the write transaction. That a committed transaction was
still computed from the state it is applied to rests on two positions: the one
pinned for the evaluation and the one checked by the commit. While the position
stays, so does everything a system can see, and every commit moves it.
-/

import Rintawa.Storage.Idempotence
import Rintawa.WorldRuntime.Runtime

namespace Rintawa.WorldRuntime

open Rintawa.Lib Rintawa.Sdk Rintawa.World Rintawa.Storage

/-! ## One command after another -/

/-- What is visible of a step when commands are processed one at a time. -/
inductive SerialLabel
  | process (command : WorldCommand) (transaction : WorldTransaction) (clock : Int)
  | serve (request : Request) (reply : Reply)

section Serial

variable {Digest Runtime : Type} [DecidableEq Digest] (deps : Dependencies Digest)
  (systems : Runtime → Systems)

/-- A command is processed from its submission to its commit while no other run
exists, or another request is served. -/
inductive SerialStep : WorldStore Digest → SerialLabel → WorldStore Digest → Prop
  | process {store : WorldStore Digest} {runtime : Runtime} {command : WorldCommand}
      {view : SystemView} {transaction : WorldTransaction} {evaluatedPosition : Nat}
      {clock : Int} {receipt : CommitReceipt} {final : RuntimeState Digest Runtime}
      (alone : (runtimeSystem deps systems).Run ⟨store, fun _ => none⟩
        [.submit 0 runtime command, .lookup 0, .pin 0,
          .evaluate 0 view (.returned transaction),
          .commit 0 (.commit command transaction evaluatedPosition clock) (.receipt receipt)]
        final)
      (committed : receipt.disposition = .committed) :
      SerialStep store (.process command transaction clock) final.store
  | serve {store store' : WorldStore Digest} {request : Request} {reply : Reply}
      (other : request.isCommit = false) (serves : Serves deps store (request, reply) store') :
      SerialStep store (.serve request reply) store'

/-- The transition system that processes commands one at a time. -/
def serialSystem : Lts (WorldStore Digest) SerialLabel where
  init store := ∃ worldId, store = WorldStore.create Digest worldId
  step := SerialStep deps systems

end Serial

/-- The part of a step that a serial history keeps: commands that commit as new,
and other requests. -/
def serialLabel {Runtime : Type} : RuntimeLabel Runtime → Option SerialLabel
  | .commit _ (.commit command transaction _ clock) (.receipt receipt) =>
      match receipt.disposition with
      | .committed => some (.process command transaction clock)
      | .alreadyCommitted => none
  | .serve request reply => some (.serve request reply)
  | _ => none

/-- The serial history of an interleaved run, in commit order. -/
def serialLabels {Runtime : Type} (labels : List (RuntimeLabel Runtime)) : List SerialLabel :=
  labels.filterMap serialLabel

/-- The run in whose name a step commits as new. -/
def RuntimeLabel.commitsNew {Runtime : Type} : RuntimeLabel Runtime → Option Nat
  | .commit run _ (.receipt receipt) =>
      match receipt.disposition with
      | .committed => some run
      | .alreadyCommitted => none
  | _ => none

/-- No step of a run has committed as new. -/
def NotCommitted {Runtime : Type} (labels : List (RuntimeLabel Runtime)) (run : Nat) : Prop :=
  ∀ label ∈ labels, label.commitsNew ≠ some run

/-! ## What a served request does to a snapshot -/

section Stores

variable {Digest : Type} [DecidableEq Digest] {deps : Dependencies Digest}

/-- A snapshot is not newer than a database, and at the same position shows the
same world. -/
def PinnedAt (store : WorldStore Digest) (pinned : WorldSnapshot) : Prop :=
  pinned.position ≤ store.commitPosition ∧
    (pinned.position = store.commitPosition →
      pinned.worldId = store.worldId ∧ pinned.state = store.state)

omit [DecidableEq Digest] in
theorem pinnedAt_snapshot (store : WorldStore Digest) : PinnedAt store (snapshot store) :=
  ⟨le_refl _, fun _ => ⟨rfl, rfl⟩⟩

omit [DecidableEq Digest] in
/-- At the same position a system sees the same through both. -/
theorem PinnedAt.systemView_eq {store : WorldStore Digest} {pinned : WorldSnapshot}
    (h : PinnedAt store pinned) (hposition : pinned.position = store.commitPosition) :
    pinned.systemView deps = (snapshot store).systemView deps := by
  obtain ⟨worldId, position, state, worldSchemas⟩ := pinned
  obtain ⟨hworld, hstate⟩ := h.2 hposition
  cases hposition
  cases hworld
  cases hstate
  rfl

/-- A snapshot stays valid through every served request. -/
theorem PinnedAt.serves {store store' : WorldStore Digest} {label : Request × Reply}
    {pinned : WorldSnapshot} (h : PinnedAt store pinned)
    (hserves : Serves deps store label store') : PinnedAt store' pinned := by
  cases hserves.storeChange with
  | unchanged => exact h
  | schemas => exact h
  | commits new =>
      have hle := h.1
      rw [PinnedAt, new.commitPosition]
      exact ⟨by omega, fun heq => absurd heq (by omega)⟩
  | jobs _ update =>
      rw [update.result]
      exact h

/-- A command that commits as new passes the receipt lookup. -/
theorem lookupReceipt_of_newCommit {store store' : WorldStore Digest} {command : WorldCommand}
    {transaction : WorldTransaction} {evaluatedPosition : Nat} {clock : Int}
    {receipt : CommitReceipt}
    (h : NewCommit deps store command transaction evaluatedPosition clock store' receipt) :
    lookupReceipt deps store command = .uncommitted := by
  have hnone : lookupRow CommitRow.commandId store.worldCommits command.id = none := by
    refine lookupRow_eq_none_iff.mpr ?_
    intro row hrow heq
    exact h.freshCommand (heq ▸ List.mem_map_of_mem hrow)
  simp only [lookupReceipt, committedReceipt, loadExistingReceipt, hnone]

omit [DecidableEq Digest] in
/-- It also passes the validation that pins a snapshot. -/
theorem snapshotForCommand_of_newCommit {store store' : WorldStore Digest} {command : WorldCommand}
    {transaction : WorldTransaction} {evaluatedPosition : Nat} {clock : Int}
    {receipt : CommitReceipt}
    (h : NewCommit deps store command transaction evaluatedPosition clock store' receipt) :
    snapshotForCommand deps store command = .ok (snapshot store) := by
  obtain ⟨schemas, hschemas, hcommand, -⟩ := h.schemas
  have hvalid : validateCommand deps store command = .ok store.commitPosition :=
    bind_eq_ok_iff.mpr ⟨schemas, hschemas, bind_eq_ok_iff.mpr ⟨(),
      liftWorld_eq_ok_iff.mpr hcommand, bind_eq_ok_iff.mpr ⟨(), h.expected,
        bind_eq_ok_iff.mpr ⟨(), h.authorized, rfl⟩⟩⟩⟩
  exact bind_eq_ok_iff.mpr ⟨_, hvalid, rfl⟩

end Stores

/-! ## Processing alone -/

/-- The state in which only one run exists. -/
def onlyRun {Digest Runtime : Type} (store : WorldStore Digest) (runtime : Runtime)
    (command : WorldCommand) (phase : Phase) : RuntimeState Digest Runtime :=
  RuntimeState.put ⟨store, fun _ => none⟩ 0 ⟨runtime, command, phase⟩

section OnlyRun

variable {Digest Runtime : Type} (store : WorldStore Digest) (runtime : Runtime)
  (command : WorldCommand) (phase : Phase)

theorem onlyRun_store : (onlyRun store runtime command phase).store = store :=
  rfl

theorem onlyRun_runs :
    (onlyRun store runtime command phase).runs 0 = some ⟨runtime, command, phase⟩ :=
  RuntimeState.put_runs_self

theorem onlyRun_put (next : Phase) :
    (onlyRun store runtime command phase).put 0 ⟨runtime, command, next⟩ =
      onlyRun store runtime command next :=
  RuntimeState.put_put

end OnlyRun

section Runs

variable {Digest Runtime : Type} [DecidableEq Digest] {deps : Dependencies Digest}
  {systems : Runtime → Systems}

/-- The steps of a command that is processed without interruption, up to its
commit. -/
def preparedLabels (deps : Dependencies Digest) (store : WorldStore Digest) (runtime : Runtime)
    (command : WorldCommand) (transaction : WorldTransaction) : List (RuntimeLabel Runtime) :=
  [.submit 0 runtime command, .lookup 0, .pin 0,
    .evaluate 0 ((snapshot store).systemView deps) (.returned transaction)]

/-- The commit of a command that is processed without interruption. -/
def commitLabel (store : WorldStore Digest) (command : WorldCommand)
    (transaction : WorldTransaction) (clock : Int) (receipt : CommitReceipt) :
    RuntimeLabel Runtime :=
  .commit 0 (.commit command transaction store.commitPosition clock) (.receipt receipt)

/-- The steps of a command that is processed without interruption. -/
def aloneLabels (deps : Dependencies Digest) (store : WorldStore Digest) (runtime : Runtime)
    (command : WorldCommand) (transaction : WorldTransaction) (clock : Int)
    (receipt : CommitReceipt) : List (RuntimeLabel Runtime) :=
  preparedLabels deps store runtime command transaction ++
    [commitLabel store command transaction clock receipt]

variable {clock : Int} {command : WorldCommand} {evaluatedPosition run : Nat}
  {receipt : CommitReceipt} {transaction : WorldTransaction}

variable {runtime : Runtime} {label : RuntimeLabel Runtime} {labels : List (RuntimeLabel Runtime)}

/-- A command whose commit will be new comes to its commit without interruption, with output that
the bound system may return on the current state. The run goes through its phases one by one. -/
theorem prepared_of_newCommit {store store' : WorldStore Digest} {registered : RegisteredSystem}
    (hnew : NewCommit deps store command transaction evaluatedPosition clock store' receipt)
    (hbound : systems runtime command.schema = some registered)
    (hevaluates : registered.evaluate ((snapshot store).systemView deps) command
      (.returned transaction))
    (hallowed : rejectPrivilegedAuthorityOutput command.schema transaction
      registered.privileges = .ok ()) :
    (runtimeSystem deps systems).Run ⟨store, fun _ => none⟩
      (preparedLabels deps store runtime command transaction)
      (onlyRun store runtime command (.committing transaction store.commitPosition)) := by
  have hpin : pinSnapshot deps (systems runtime) store command =
      .evaluating registered (snapshot store) := by
    simp only [pinSnapshot, hbound, snapshotForCommand_of_newCommit hnew]
  have houtput : takeOutput command registered (snapshot store) (.returned transaction) =
      .committing transaction store.commitPosition := by
    simp only [takeOutput, hallowed]
    rfl
  have hsubmitted : RuntimeStep deps systems ⟨store, fun _ => none⟩
      (.submit 0 runtime command) (onlyRun store runtime command .submitted) :=
    .submit rfl
  have hlooked : RuntimeStep deps systems (onlyRun store runtime command .submitted)
      (.lookup 0) (onlyRun store runtime command .uncommitted) := by
    have hstep := @RuntimeStep.lookup _ _ _ deps systems _ 0 _ _
      (onlyRun_runs store runtime command .submitted)
    rwa [onlyRun_put, onlyRun_store, lookupReceipt_of_newCommit hnew] at hstep
  have hpinned : RuntimeStep deps systems (onlyRun store runtime command .uncommitted)
      (.pin 0) (onlyRun store runtime command (.evaluating registered (snapshot store))) := by
    have hstep := @RuntimeStep.pin _ _ _ deps systems _ 0 _ _
      (onlyRun_runs store runtime command .uncommitted)
    rwa [onlyRun_put, onlyRun_store, hpin] at hstep
  have hevaluated : RuntimeStep deps systems
      (onlyRun store runtime command (.evaluating registered (snapshot store)))
      (.evaluate 0 ((snapshot store).systemView deps) (.returned transaction))
      (onlyRun store runtime command (.committing transaction store.commitPosition)) := by
    have hstep := @RuntimeStep.evaluate _ _ _ deps systems _ 0 _ _ _ _ _
      (onlyRun_runs store runtime command (.evaluating registered (snapshot store))) hevaluates
    rwa [onlyRun_put, houtput] at hstep
  exact .cons hsubmitted (.cons hlooked (.cons hpinned (.single hevaluated)))

/-- A commit is a step of a runtime with one run. -/
theorem commit_onlyRun {store store' : WorldStore Digest} (hserves : Serves deps store
      (.commit command transaction store.commitPosition clock, .receipt receipt) store') :
    RuntimeStep deps systems
      (onlyRun store runtime command (.committing transaction store.commitPosition))
      (commitLabel store command transaction clock receipt)
      (onlyRun store' runtime command (.reading receipt)) := by
  have hstep := @RuntimeStep.commit _ _ _ deps systems _ 0 _ _ _ _ _ _ _
    (onlyRun_runs store runtime command (.committing transaction store.commitPosition)) hserves
  have hfinal : ({ onlyRun store runtime command (.committing transaction store.commitPosition)
      with store := store' } : RuntimeState Digest Runtime).put 0
        ⟨runtime, command, .reading receipt⟩ =
      onlyRun store' runtime command (.reading receipt) :=
    onlyRun_put store' runtime command _ _
  rwa [hfinal] at hstep

/-- So a commit of such output is reached by processing the command without
interruption. -/
theorem alone_of_newCommit {store store' : WorldStore Digest} {registered : RegisteredSystem}
    (hnew : NewCommit deps store command transaction evaluatedPosition clock store' receipt)
    (hserves : Serves deps store
      (.commit command transaction evaluatedPosition clock, .receipt receipt) store')
    (hbound : systems runtime command.schema = some registered)
    (hevaluates : registered.evaluate ((snapshot store).systemView deps) command
      (.returned transaction))
    (hallowed : rejectPrivilegedAuthorityOutput command.schema transaction
      registered.privileges = .ok ()) :
    (runtimeSystem deps systems).Run ⟨store, fun _ => none⟩
      (aloneLabels deps store runtime command transaction clock receipt)
      (onlyRun store' runtime command (.reading receipt)) := by
  have hprepared := prepared_of_newCommit hnew hbound hevaluates hallowed
  have hposition := hnew.evaluated
  subst hposition
  exact hprepared.snoc (commit_onlyRun hserves)

/-! ## What is known of a run in its phase -/

/-- What a run has done so far and, before its commit, which snapshot it works on. -/
def PhaseInvariant (deps : Dependencies Digest) (systems : Runtime → Systems)
    (labels : List (RuntimeLabel Runtime)) (store : WorldStore Digest) (run : Nat)
    (process : ProcessRun Runtime) : Prop :=
  match process.phase with
  | .submitted => NotCommitted labels run
  | .uncommitted => NotCommitted labels run
  | .evaluating registered pinned =>
      NotCommitted labels run ∧
        systems process.runtime process.command.schema = some registered ∧
        PinnedAt store pinned
  | .committing output evaluatedPosition =>
      NotCommitted labels run ∧
        ∃ registered pinned,
          systems process.runtime process.command.schema = some registered ∧
          PinnedAt store pinned ∧ pinned.position = evaluatedPosition ∧
          registered.evaluate (pinned.systemView deps) process.command (.returned output) ∧
          rejectPrivilegedAuthorityOutput process.command.schema output
            registered.privileges = .ok () ∧
          .evaluate run (pinned.systemView deps) (.returned output) ∈ labels
  | .reading _ => True
  | .finished (.ok _) => True
  | .finished (.error error) =>
      NotCommitted labels run ∨
        ∃ failure, .readEvents run (.error failure) ∈ labels ∧ error = .storage failure

/-- The same for a run that may not have started. -/
def RunInvariant (deps : Dependencies Digest) (systems : Runtime → Systems)
    (labels : List (RuntimeLabel Runtime)) (store : WorldStore Digest) (run : Nat) :
    Option (ProcessRun Runtime) → Prop
  | none => NotCommitted labels run
  | some process => PhaseInvariant deps systems labels store run process

omit [DecidableEq Digest] in
/-- A run has committed nothing until it does. -/
theorem NotCommitted.snoc {labels : List (RuntimeLabel Runtime)}
    {label : RuntimeLabel Runtime} {run : Nat} (h : NotCommitted labels run)
    (hlabel : label.commitsNew ≠ some run) : NotCommitted (labels ++ [label]) run := by
  intro other hother
  rcases List.mem_append.mp hother with hold | hnew
  · exact h other hold
  · rw [List.mem_singleton.mp hnew]
    exact hlabel

omit [DecidableEq Digest] in
/-- A step that does not concern a run keeps what is known of it. -/
theorem RunInvariant.snoc {labels : List (RuntimeLabel Runtime)} {store store' : WorldStore Digest}
    {run : Nat} {process : Option (ProcessRun Runtime)} {label : RuntimeLabel Runtime}
    (h : RunInvariant deps systems labels store run process)
    (hpinned : ∀ pinned, PinnedAt store pinned → PinnedAt store' pinned)
    (hlabel : label.commitsNew ≠ some run) :
    RunInvariant deps systems (labels ++ [label]) store' run process := by
  cases process with
  | none => exact NotCommitted.snoc h hlabel
  | some process =>
      obtain ⟨runtime, command, phase⟩ := process
      cases phase with
      | submitted => exact NotCommitted.snoc h hlabel
      | uncommitted => exact NotCommitted.snoc h hlabel
      | evaluating registered pinned =>
          obtain ⟨hnone, hbound, hpin⟩ := h
          exact ⟨hnone.snoc hlabel, hbound, hpinned _ hpin⟩
      | committing output evaluatedPosition =>
          obtain ⟨hnone, registered, pinned, hbound, hpin, hposition, heval, hallowed, hmem⟩ := h
          exact ⟨hnone.snoc hlabel, registered, pinned, hbound, hpinned _ hpin, hposition, heval,
            hallowed, List.mem_append_left _ hmem⟩
      | reading receipt => trivial
      | finished result =>
          cases result with
          | ok outcome => trivial
          | error error =>
              rcases h with hnone | ⟨failure, hmem, herror⟩
              · exact Or.inl (hnone.snoc hlabel)
              · exact Or.inr ⟨failure, List.mem_append_left _ hmem, herror⟩

omit [DecidableEq Digest] in
/-- A step of one run keeps what is known of all, if it is known of that run. -/
theorem invariant_put {state : RuntimeState Digest Runtime} {store' : WorldStore Digest}
    {process : ProcessRun Runtime}
    (h : ∀ other, RunInvariant deps systems labels state.store other (state.runs other))
    (hpinned : ∀ pinned, PinnedAt state.store pinned → PinnedAt store' pinned)
    (hlabel : ∀ other, other ≠ run → label.commitsNew ≠ some other)
    (hself : PhaseInvariant deps systems (labels ++ [label]) store' run process) :
    ∀ other, RunInvariant deps systems (labels ++ [label]) store' other
      (({ state with store := store' } : RuntimeState Digest Runtime).put run process
        |>.runs other) := by
  intro other
  by_cases hother : other = run
  · subst hother
    rw [RuntimeState.put_runs_self]
    exact hself
  · rw [RuntimeState.put_runs_of_ne hother]
    exact (h other).snoc hpinned (hlabel other hother)

omit [DecidableEq Digest] in
/-- A run that is still under way has committed nothing. -/
theorem notCommitted_of_phase {state : RuntimeState Digest Runtime} {process : ProcessRun Runtime}
    (h : ∀ other, RunInvariant deps systems labels state.store other (state.runs other))
    (hrun : state.runs run = some process) :
    PhaseInvariant deps systems labels state.store run process := by
  have hself := h run
  rw [hrun] at hself
  exact hself

/-- Every step keeps what is known of all runs. -/
theorem invariant_step {state state' : RuntimeState Digest Runtime}
    (h : ∀ run, RunInvariant deps systems labels state.store run (state.runs run))
    (hstep : RuntimeStep deps systems state label state') :
    ∀ run, RunInvariant deps systems (labels ++ [label]) state'.store run (state'.runs run) := by
  have hstays : ∀ pinned, PinnedAt state.store pinned → PinnedAt state.store pinned :=
    fun _ hpinned => hpinned
  cases hstep with
  | @submit run runtime command fresh =>
      have hself := h run
      rw [fresh] at hself
      exact invariant_put h hstays (fun _ _ => nofun) (NotCommitted.snoc hself nofun)
  | @lookup run runtime command atPhase =>
      have hnone : NotCommitted labels run := notCommitted_of_phase h atPhase
      refine invariant_put h hstays (fun _ _ => nofun) ?_
      unfold lookupReceipt
      cases committedReceipt deps state.store command with
      | error error => exact Or.inl (hnone.snoc nofun)
      | ok existing =>
          cases existing with
          | none => exact hnone.snoc nofun
          | some receipt => trivial
  | @pin run runtime command atPhase =>
      have hnone : NotCommitted labels run := notCommitted_of_phase h atPhase
      refine invariant_put h hstays (fun _ _ => nofun) ?_
      unfold pinSnapshot
      cases hbound : systems runtime command.schema with
      | none => exact Or.inl (hnone.snoc nofun)
      | some registered =>
          cases hpin : snapshotForCommand deps state.store command with
          | error error => exact Or.inl (hnone.snoc nofun)
          | ok pinned =>
              refine ⟨hnone.snoc nofun, hbound, ?_⟩
              rw [snapshotForCommand_eq_ok hpin]
              exact pinnedAt_snapshot state.store
  | @evaluate run runtime command registered pinned evaluation atPhase evaluates =>
      obtain ⟨hnone, hbound, hpin⟩ := notCommitted_of_phase h atPhase
      refine invariant_put h hstays (fun _ _ => nofun) ?_
      cases evaluation with
      | panicked => exact Or.inl (hnone.snoc nofun)
      | failed source => exact Or.inl (hnone.snoc nofun)
      | returned output =>
          unfold takeOutput
          cases hallowed : rejectPrivilegedAuthorityOutput command.schema output
            registered.privileges with
          | error error =>
              simp only [hallowed]
              exact Or.inl (hnone.snoc nofun)
          | ok allowed =>
              simp only [hallowed]
              exact ⟨hnone.snoc nofun, registered, pinned, hbound, hpin, rfl, evaluates,
                hallowed, by simp⟩
  | @commit run runtime command output evaluatedPosition clock receipt store' atPhase serves =>
      refine invariant_put h (fun pinned hpinned => hpinned.serves serves) ?_ trivial
      intro other hother hcommits
      simp only [RuntimeLabel.commitsNew] at hcommits
      split at hcommits
      · exact hother (Option.some.inj hcommits).symm
      · cases hcommits
  | @commitFailed run runtime command output evaluatedPosition clock error store' atPhase
      serves =>
      obtain ⟨hnone, -⟩ := notCommitted_of_phase h atPhase
      exact invariant_put h (fun pinned hpinned => hpinned.serves serves)
        (fun _ _ => nofun) (Or.inl (hnone.snoc nofun))
  | @readEvents run runtime command receipt events atPhase reads =>
      refine invariant_put h hstays (fun _ _ => nofun) ?_
      cases events with
      | error failure => exact Or.inr ⟨failure, by simp, rfl⟩
      | ok events => trivial
  | @unavailable run runtime command phase atPhase reads =>
      have hnone : NotCommitted labels run := by
        have hself := notCommitted_of_phase h atPhase
        rcases reads with rfl | rfl
        · exact hself
        · exact hself
      exact invariant_put h hstays (fun _ _ => nofun)
        (Or.inl (hnone.snoc nofun))
  | @serve request reply store' other serves =>
      intro run
      exact (h run).snoc (fun pinned hpinned => hpinned.serves serves) nofun

/-- At the end of every run that starts without runs of commands, this is known of
all of them. -/
theorem invariant_of_run {store : WorldStore Digest} {state : RuntimeState Digest Runtime}
    (hrun : (runtimeSystem deps systems).Run ⟨store, fun _ => none⟩ labels state) :
    ∀ run, RunInvariant deps systems labels state.store run (state.runs run) := by
  refine Lts.Run.history_induction (P := fun labels state =>
    ∀ run, RunInvariant deps systems labels state.store run (state.runs run)) ?_ ?_ hrun
  · intro run label hmem
    cases hmem
  · intro labels state label state' _ h hstep
    exact invariant_step h hstep

/-! ## The serial history -/

/-- A step that does not commit as new in the name of a run, but belongs to one,
changes no table. -/
theorem store_eq_of_step {state state' : RuntimeState Digest Runtime}
    (hstep : RuntimeStep deps systems state label state') (hlabel : label.run = some run)
    (hquiet : label.commitsNew ≠ some run) : state'.store = state.store := by
  cases hstep with
  | submit => rfl
  | lookup => rfl
  | pin => rfl
  | evaluate => rfl
  | readEvents => rfl
  | unavailable => rfl
  | serve => cases hlabel
  | commit _ serves =>
      cases hlabel
      rcases serves.commit_cases with ⟨hstore, -⟩ | ⟨receipt, hreply, hnew⟩
      · exact hstore
      · cases hreply
        exact absurd (by simp [RuntimeLabel.commitsNew, hnew.receipt]) hquiet
  | commitFailed _ serves =>
      rcases serves.commit_cases with ⟨hstore, -⟩ | ⟨receipt, hreply, hnew⟩
      · exact hstore
      · cases hreply

omit [DecidableEq Digest] in
/-- What a step that commits as new has evaluated, and on which state. -/
theorem evaluated_of_commit {state : RuntimeState Digest Runtime} {output : WorldTransaction}
    (h : ∀ run, RunInvariant deps systems labels state.store run (state.runs run))
    (hphase : state.runs run = some ⟨runtime, command, .committing output evaluatedPosition⟩)
    (hposition : state.store.commitPosition = evaluatedPosition) :
    ∃ registered, systems runtime command.schema = some registered ∧
      registered.evaluate ((snapshot state.store).systemView deps) command (.returned output) ∧
      rejectPrivilegedAuthorityOutput command.schema output registered.privileges = .ok () ∧
      .evaluate run ((snapshot state.store).systemView deps) (.returned output) ∈ labels := by
  obtain ⟨-, registered, pinned, hbound, hpinned, hevaluated, hreturns, hallowed, hmem⟩ :=
    notCommitted_of_phase h hphase
  have hview : pinned.systemView deps = (snapshot state.store).systemView deps :=
    hpinned.systemView_eq (hevaluated.trans hposition.symm)
  rw [hview] at hreturns hmem
  exact ⟨registered, hbound, hreturns, hallowed, hmem⟩

/-- A step leaves the tables alone, or is a step of the serial system. -/
theorem serial_of_step {state state' : RuntimeState Digest Runtime}
    (h : ∀ run, RunInvariant deps systems labels state.store run (state.runs run))
    (hstep : RuntimeStep deps systems state label state') :
    (serialSystem deps systems).Run state.store (serialLabels [label]) state'.store := by
  cases hstep with
  | @commit run runtime command output evaluatedPosition clock receipt store' atPhase serves =>
      rcases serves.commit_cases with ⟨rfl, hreplay⟩ | ⟨_, hreply, hnew⟩
      · simp only [serialLabels, List.filterMap_cons, serialLabel, hreplay receipt rfl]
        exact .refl _
      · cases hreply
        obtain ⟨registered, hbound, hreturns, hallowed, -⟩ :=
          evaluated_of_commit h atPhase hnew.evaluated
        have hdisposition : receipt.disposition = .committed := by rw [hnew.receipt]
        have halone := alone_of_newCommit hnew serves hbound hreturns hallowed
        have hserial : SerialStep deps systems state.store (.process command output clock)
            store' := .process halone hdisposition
        simp only [serialLabels, List.filterMap_cons, serialLabel, hdisposition]
        exact .single hserial
  | @commitFailed run runtime command output evaluatedPosition clock error store' atPhase
      serves =>
      rcases serves.commit_cases with ⟨rfl, -⟩ | ⟨_, hreply, -⟩
      · exact .refl _
      · cases hreply
  | @serve request reply store' other serves => exact .single (.serve other serves)
  | _ => exact .refl _

/-- The serial history is a run of the serial system to the same tables. -/
theorem serial_of_run {worldId : WorldId} {state : RuntimeState Digest Runtime}
    (hrun : (runtimeSystem deps systems).Run
      ⟨WorldStore.create Digest worldId, fun _ => none⟩ labels state) :
    (serialSystem deps systems).Run (WorldStore.create Digest worldId) (serialLabels labels)
      state.store := by
  refine Lts.Run.history_induction (P := fun labels state =>
    (serialSystem deps systems).Run (WorldStore.create Digest worldId) (serialLabels labels)
      state.store) (.refl _) ?_ hrun
  intro labels state label state' hbefore hserial hstep
  rw [serialLabels, List.filterMap_append]
  exact hserial.append (serial_of_step (invariant_of_run hbefore) hstep)

/-- Every interleaving of runs and other requests reaches the tables that its
committed commands give when processed alone in commit order. A transaction
committed at a position is what the bound system returned on exactly the state
of the position before, where its command passed validation. A run that ends in
an error changed no table, unless it failed to read the events of its commit. -/
theorem process_command_serializable {worldId : WorldId} {state : RuntimeState Digest Runtime}
    (hrun : (runtimeSystem deps systems).Run
      ⟨WorldStore.create Digest worldId, fun _ => none⟩ labels state) :
    (serialSystem deps systems).Run (WorldStore.create Digest worldId) (serialLabels labels)
        state.store ∧
      (∀ before after run command transaction position clock receipt,
        labels = before ++ .commit run (.commit command transaction position clock)
          (.receipt receipt) :: after →
        receipt.disposition = .committed →
        ∃ earlier : RuntimeState Digest Runtime, (runtimeSystem deps systems).Run
            ⟨WorldStore.create Digest worldId, fun _ => none⟩ before earlier ∧
          earlier.store.commitPosition = position ∧ receipt.position = position + 1 ∧
          snapshotForCommand deps earlier.store command = .ok (snapshot earlier.store) ∧
          .evaluate run ((snapshot earlier.store).systemView deps) (.returned transaction) ∈
            before ∧
          ∃ runtime registered,
            earlier.runs run = some ⟨runtime, command, .committing transaction position⟩ ∧
            systems runtime command.schema = some registered ∧
            registered.evaluate ((snapshot earlier.store).systemView deps) command
              (.returned transaction)) ∧
      ∀ run runtime command error,
        state.runs run = some ⟨runtime, command, .finished (.error error)⟩ →
        ((∃ failure, .readEvents run (.error failure) ∈ labels ∧ error = .storage failure) ∧
          ∃ label ∈ labels, label.commitsNew = some run) ∨
        ∀ before label after s t,
          labels = before ++ label :: after → label.run = some run →
          (runtimeSystem deps systems).Run
            ⟨WorldStore.create Digest worldId, fun _ => none⟩ before s →
          (runtimeSystem deps systems).step s label t → t.store = s.store := by
  refine ⟨serial_of_run hrun, ?_, ?_⟩
  · rintro before after run command transaction position clock receipt rfl hcommitted
    obtain ⟨earlier, hbefore, hrest⟩ := hrun.split
    cases hrest with
    | cons hstep _ =>
        cases hstep with
        | @commit _ runtime _ _ _ _ _ store' atPhase serves =>
            have hnew := Serves.newCommit serves hcommitted
            obtain ⟨registered, hbound, hreturns, -, hmem⟩ :=
              evaluated_of_commit (invariant_of_run hbefore) atPhase hnew.evaluated
            have hreceipt := congrArg CommitReceipt.position hnew.receipt
            rw [hnew.evaluated] at hreceipt
            exact ⟨earlier, hbefore, hnew.evaluated, hreceipt, snapshotForCommand_of_newCommit hnew,
              hmem, runtime, registered, atPhase, hbound, hreturns⟩
  · intro run runtime command error hfinished
    have hself := notCommitted_of_phase (invariant_of_run hrun) hfinished
    by_cases hnone : NotCommitted labels run
    · right
      rintro before label after s t rfl hlabel _ hstep
      exact store_eq_of_step hstep hlabel (hnone label (by simp))
    · left
      rcases hself with hself | hread
      · exact absurd hself hnone
      · refine ⟨hread, ?_⟩
        simp only [NotCommitted, not_forall, not_not] at hnone
        obtain ⟨label, hmem, hcommits⟩ := hnone
        exact ⟨label, hmem, hcommits⟩

/-- A transaction that creates another entity. -/
def otherEntity : WorldTransaction := ⟨[.createEntity ⟨⟨2⟩, demoKey "demo.body"⟩], [], []⟩

/-- A runtime whose only system answers the first demo command with the demo transaction, and every
other one with the second transaction. -/
def pairSystems : Unit → Systems := fun _ schema =>
  if schema = demoKey "demo.move" then
    some ⟨fun _ command evaluation => evaluation =
      .returned (if command.id = ⟨1⟩ then demoTransaction else otherEntity), .ordinary⟩
  else none

/-- The database after some commits of the demo commands. -/
def pairStore (requests : List Request) : WorldStore String :=
  (demoRun (tableDependencies [acceptAll] []) requests).2

/-- Two commands are evaluated on the same state. The second one loses when the first one commits,
and is submitted again. -/
def pairLabels : List (RuntimeLabel Unit) :=
  let deps := tableDependencies [acceptAll] []
  let first := (snapshot (pairStore [])).systemView deps
  let second := (snapshot (pairStore [demoCommit 1 0 demoTransaction])).systemView deps
  [.serve (.registerSchemas demoSchemas)
     (.schemasRegistered (demoSchemas.map fun _ => .registered)),
    .submit 0 () (demoCommand 1), .submit 1 () (demoCommand 2), .lookup 0, .lookup 1, .pin 0,
    .pin 1, .evaluate 1 first (.returned otherEntity),
    .evaluate 0 first (.returned demoTransaction),
    .commit 0 (demoCommit 1 0 demoTransaction) (.receipt ⟨.committed, ⟨1⟩, 1, [⟨1⟩], [⟨1⟩]⟩),
    .commit 1 (demoCommit 2 0 otherEntity)
      (.failed (.world (.worldChangedSinceEvaluation 0 1))),
    .submit 2 () (demoCommand 2), .lookup 2, .pin 2,
    .evaluate 2 second (.returned otherEntity),
    .commit 2 (demoCommit 2 1 otherEntity) (.receipt ⟨.committed, ⟨2⟩, 2, [], []⟩)]

/-- This history is one of a run. The second command fails at first. -/
theorem run_pairLabels : ∃ state : RuntimeState String Unit,
    (runtimeSystem (tableDependencies [acceptAll] []) pairSystems).Run
      ⟨WorldStore.create String ⟨0⟩, fun _ => none⟩ pairLabels state ∧
    state.store = pairStore [demoCommit 1 0 demoTransaction, demoCommit 2 1 otherEntity] ∧
    state.runs 1 = some ⟨(), demoCommand 2,
      .finished (.error (.storage (.world (.worldChangedSinceEvaluation 0 1))))⟩ := by
  let deps := tableDependencies [acceptAll] []
  have hregister : Serves deps (WorldStore.create String ⟨0⟩) (.registerSchemas demoSchemas,
      .schemasRegistered (demoSchemas.map fun _ => .registered)) (pairStore []) :=
    serves_serve deps (WorldStore.create String ⟨0⟩) (.registerSchemas demoSchemas)
  have hfirst : Serves deps (pairStore []) (demoCommit 1 0 demoTransaction,
      .receipt ⟨.committed, ⟨1⟩, 1, [⟨1⟩], [⟨1⟩]⟩) (pairStore [demoCommit 1 0 demoTransaction]) :=
    serves_serve deps (pairStore []) (demoCommit 1 0 demoTransaction)
  have hstale : Serves deps (pairStore [demoCommit 1 0 demoTransaction])
      (demoCommit 2 0 otherEntity, .failed (.world (.worldChangedSinceEvaluation 0 1)))
      (pairStore [demoCommit 1 0 demoTransaction]) :=
    serves_serve deps (pairStore [demoCommit 1 0 demoTransaction])
      (demoCommit 2 0 otherEntity)
  have hsecond : Serves deps (pairStore [demoCommit 1 0 demoTransaction])
      (demoCommit 2 1 otherEntity, .receipt ⟨.committed, ⟨2⟩, 2, [], []⟩)
      (pairStore [demoCommit 1 0 demoTransaction, demoCommit 2 1 otherEntity]) :=
    serves_serve deps (pairStore [demoCommit 1 0 demoTransaction])
      (demoCommit 2 1 otherEntity)
  exact ⟨_, .cons (.serve rfl hregister) <| .cons (.submit rfl) <| .cons (.submit rfl) <|
    .cons (.lookup rfl) <| .cons (.lookup rfl) <| .cons (.pin rfl) <| .cons (.pin rfl) <|
    .cons (.evaluate rfl rfl) <| .cons (.evaluate rfl rfl) <| .cons (.commit rfl hfirst) <|
    .cons (.commitFailed rfl hstale) <| .cons (.submit rfl) <| .cons (.lookup rfl) <|
    .cons (.pin rfl) <| .cons (.evaluate rfl rfl) <| .single (.commit rfl hsecond), rfl, rfl⟩
/-- In this run the serial history processes the two commands one after the other and reaches the
same tables, and the attempt that failed changed none. -/
theorem process_command_serializable_demo : ∃ state : RuntimeState String Unit,
    (runtimeSystem (tableDependencies [acceptAll] []) pairSystems).Run
      ⟨WorldStore.create String ⟨0⟩, fun _ => none⟩ pairLabels state ∧
    state.store.commitPosition = 2 ∧
    (serialSystem (tableDependencies [acceptAll] []) pairSystems).Run
      (WorldStore.create String ⟨0⟩)
      [.serve (.registerSchemas demoSchemas)
          (.schemasRegistered (demoSchemas.map fun _ => .registered)),
        .process (demoCommand 1) demoTransaction 0,
        .process (demoCommand 2) otherEntity 0] state.store ∧
    ∀ before label after s t, pairLabels = before ++ label :: after → label.run = some 1 →
      (runtimeSystem (tableDependencies [acceptAll] []) pairSystems).Run
        ⟨WorldStore.create String ⟨0⟩, fun _ => none⟩ before s →
      (runtimeSystem (tableDependencies [acceptAll] []) pairSystems).step s label t →
      t.store = s.store := by
  obtain ⟨state, hrun, hstore, hfinished⟩ := run_pairLabels
  obtain ⟨hserial, -, hfailed⟩ := process_command_serializable hrun
  refine ⟨state, hrun, ?_, hserial, ?_⟩
  · rw [hstore]
    decide +kernel
  · rcases hfailed 1 () (demoCommand 2) _ hfinished with ⟨⟨failure, hread, -⟩, -⟩ | hunchanged
    · simp [pairLabels] at hread
    · exact hunchanged

end Runs

end Rintawa.WorldRuntime
