/-
# Executing a job whose follow-up has committed

A host can stop between the commit of a follow-up command and the completion of
its job. The follow-up of a later attempt carries the same identity, so it is
answered from the first commit. The job completes exactly when the new command
has the digest of the committed one: a handler that returns other content sends
the job into a conflict and back to the outbox.
-/

import Rintawa.Host.EffectPump
import Rintawa.Storage.Fencing
import Rintawa.WorldRuntime.Replay

namespace Rintawa.Host

open Rintawa.Lib Rintawa.Sdk Rintawa.World Rintawa.Storage Rintawa.WorldRuntime

/-! ## What the property speaks about -/

section Statement

variable {Digest Runtime : Type}

/-- A job is completed, and its follow-up command has committed once. -/
def FollowedUp (store : WorldStore Digest) (jobId : EffectJobId) : Prop :=
  (∃ job ∈ store.effectJobs, job.jobId = jobId ∧ job.status = statusCompleted) ∧
    store.worldCommits.countP
      (fun row => decide (row.commandId = effectCompletionCommandId jobId)) = 1

/-- A command has the digest of a commit whose events can be read. -/
structure Repeats (deps : Dependencies Digest) (store : WorldStore Digest)
    (command : WorldCommand) (row : CommitRow Digest) : Prop where
  digest : commandDigest deps command = row.commandDigest
  events : ∃ events, eventsAtPosition deps store row.commitPosition = .ok events

/-- A runtime refused the follow-up command of an iteration, or stopped. -/
def Refused (labels : List (HostLabel Runtime)) (execution : Nat) : Prop :=
  ∃ error, .refuse execution error ∈ labels

/-- An iteration submitted its follow-up command as a run. -/
def Submits (labels : List (HostLabel Runtime)) (execution run : Nat) : Prop :=
  ∃ runtime command, .submit execution run runtime command ∈ labels

/-- The follow-up command of an iteration met a failure from outside. -/
def Disturbed (labels : List (HostLabel Runtime)) (execution : Nat) : Prop :=
  Refused labels execution ∨
    ∃ run, Submits labels execution run ∧
      Interrupted (labels.flatMap HostLabel.runtimeLabels) run

end Statement

/-! ## One step of an iteration -/

/-- The iteration that a step belongs to. -/
def HostLabel.execution {Runtime : Type} : HostLabel Runtime → Option Nat
  | .claim execution _ _ => some execution
  | .unbound execution => some execution
  | .handle execution _ => some execution
  | .submit execution _ _ _ => some execution
  | .refuse execution _ => some execution
  | .resolve execution => some execution
  | .update execution _ _ => some execution
  | .other _ => none

section Labels

variable {Runtime : Type} {labels : List (HostLabel Runtime)} {label : HostLabel Runtime}
  {execution run : Nat}

theorem refused_snoc (h : ∀ error, label ≠ .refuse execution error) :
    Refused (labels ++ [label]) execution ↔ Refused labels execution := by
  simp only [Refused, List.mem_append, List.mem_singleton, @eq_comm _ _ label]
  exact exists_congr fun error => or_iff_left (h error)

theorem submits_snoc (h : ∀ run runtime command, label ≠ .submit execution run runtime command) :
    Submits (labels ++ [label]) execution run ↔ Submits labels execution run := by
  simp only [Submits, List.mem_append, List.mem_singleton, @eq_comm _ _ label]
  exact exists_congr fun runtime => exists_congr fun command =>
    or_iff_left (h run runtime command)

theorem flatMap_snoc : (labels ++ [label]).flatMap HostLabel.runtimeLabels =
    labels.flatMap HostLabel.runtimeLabels ++ label.runtimeLabels := by
  simp

/-- What has disturbed an iteration stays in its history. -/
theorem Disturbed.snoc (h : Disturbed labels execution) :
    Disturbed (labels ++ [label]) execution := by
  rcases h with ⟨error, hmem⟩ | ⟨run, ⟨runtime, command, hmem⟩, hinterrupted⟩
  · exact Or.inl ⟨error, List.mem_append_left _ hmem⟩
  · refine Or.inr ⟨run, ⟨runtime, command, List.mem_append_left _ hmem⟩, ?_⟩
    rw [flatMap_snoc]
    rcases hinterrupted with hmem | hmem
    · exact Or.inl (List.mem_append_left _ hmem)
    · exact Or.inr (List.mem_append_left _ hmem)

end Labels

section Replay

variable {Digest Runtime : Type} [DecidableEq Digest] {deps : Dependencies Digest}
  {systems : Runtime → Systems} {host : EffectHost Runtime}

/-- A step leaves every other iteration where it is. -/
theorem HostStep.executions_of_ne {state state' : HostState Digest Runtime}
    {label : HostLabel Runtime} (hstep : HostStep deps systems host state label state')
    {execution : Nat} (h : label.execution ≠ some execution) :
    state'.executions execution = state.executions execution := by
  cases hstep with
  | other => rfl
  | _ => exact HostState.put_executions_of_ne fun heq => h (congrArg some heq.symm)

/-! ## The phases of a follow-up -/

/-- An iteration has submitted its follow-up command as one run, which stands in a
phase of a replay. -/
structure WaitsFor (deps : Dependencies Digest) (origin : WorldStore Digest) (n : Nat)
    (entry : CommitEntry) (labels : List (HostLabel Runtime))
    (state : HostState Digest Runtime) (execution : Nat) (runtime : Runtime)
    (command : WorldCommand) (run : Nat) (phase : Phase) : Prop where
  submits : ∀ other, Submits labels execution other ↔ other = run
  accepted : ¬ Refused labels execution
  atPhase : state.runtimes.runs run = some ⟨runtime, command, phase⟩
  replays : ReplayPhase (commandDigest deps command = commandDigest deps entry.command)
    (∃ events, eventsAtPosition deps origin (n + 1) = .ok events)
    (Interrupted (labels.flatMap HostLabel.runtimeLabels) run) (n + 1) phase

/-- What is known of an iteration after its handler has returned a follow-up. -/
def FollowUpPhase (deps : Dependencies Digest) (origin : WorldStore Digest) (n : Nat)
    (entry : CommitEntry) (labels : List (HostLabel Runtime))
    (state : HostState Digest Runtime) (execution : Nat) (runtime : Runtime)
    (command : WorldCommand) : ExecutionPhase → Prop
  | .handling => False
  | .submitting submitted =>
      submitted = command ∧ (∀ run, ¬ Submits labels execution run) ∧ ¬ Refused labels execution
  | .waiting submitted run =>
      submitted = command ∧
        ∃ phase, WaitsFor deps origin n entry labels state execution runtime command run phase
  | .updating update =>
      (update = .complete ∧ ∃ run outcome,
        WaitsFor deps origin n entry labels state execution runtime command run
          (.finished (.ok outcome))) ∨
      (update ≠ .complete ∧
        ¬ (commandDigest deps command = commandDigest deps entry.command ∧
          (∃ events, eventsAtPosition deps origin (n + 1) = .ok events) ∧
          ¬ Disturbed labels execution))
  | .finished _ => True

variable {worldId : WorldId} {n : Nat} {entry : CommitEntry} {origin : WorldStore Digest}
  {labels : List (HostLabel Runtime)}
  {state state' : HostState Digest Runtime} {label : HostLabel Runtime} {execution : Nat}
  {runtime : Runtime} {claim : ClaimedEffectJob} {now : UnixTimeMillis} {command : WorldCommand}

omit [DecidableEq Digest] in
/-- A follow-up that is undisturbed is one whose run is not interrupted. -/
theorem WaitsFor.disturbed_iff {run : Nat} {phase : Phase}
    (h : WaitsFor deps origin n entry labels state execution runtime command run phase) :
    Disturbed labels execution ↔
      Interrupted (labels.flatMap HostLabel.runtimeLabels) run := by
  simp only [Disturbed, h.accepted, h.submits, exists_eq_left, false_or]

/-- Steps of others keep what is known of a submitted follow-up. -/
theorem WaitsFor.step {run : Nat} {phase : Phase}
    (h : WaitsFor deps origin n entry labels state execution runtime command run phase)
    (horigin : HasEntry deps worldId n entry origin)
    (hentry : HasEntry deps worldId n entry state.store)
    (hid : command.id = entry.command.id)
    (hstep : HostStep deps systems host state label state')
    (hsubmit : ∀ run runtime command, label ≠ .submit execution run runtime command)
    (hrefuse : ∀ error, label ≠ .refuse execution error) :
    ∃ phase', (∀ result, phase = .finished result → phase' = phase) ∧
      WaitsFor deps origin n entry (labels ++ [label]) state' execution runtime command run
        phase' := by
  obtain ⟨phase', hrun, hstays, hreplays⟩ :=
    ReplayPhase.run horigin hid (HostStep.runtime hstep) hentry h.atPhase h.replays
  refine ⟨phase', hstays, ?_, ?_, hrun, ?_⟩
  · intro other
    rw [submits_snoc hsubmit, h.submits]
  · rw [refused_snoc hrefuse]
    exact h.accepted
  · rwa [flatMap_snoc]

/-- Every step keeps what is known of an iteration. -/
theorem FollowUpPhase.step {start : HostState Digest Runtime} {phase : ExecutionPhase}
    (horigin : HasEntry deps worldId n entry origin)
    (hentry : HasEntry deps worldId n entry state.store)
    (hid : command.id = entry.command.id)
    (hhistory : (hostSystem deps systems host).Run start labels state)
    (hexecution : state.executions execution = some ⟨runtime, claim, now, phase⟩)
    (hphase : FollowUpPhase deps origin n entry labels state execution runtime command phase)
    (hstep : HostStep deps systems host state label state') :
    ∃ phase', state'.executions execution = some ⟨runtime, claim, now, phase'⟩ ∧
      FollowUpPhase deps origin n entry (labels ++ [label]) state' execution runtime command
        phase' := by
  by_cases hlabel : label.execution = some execution
  · cases hstep with
    | other => cases hlabel
    | claim fresh =>
        cases hlabel
        cases hexecution.symm.trans fresh
    | unbound atPhase =>
        cases hlabel
        cases hexecution.symm.trans atPhase
        exact hphase.elim
    | handle atPhase =>
        cases hlabel
        cases hexecution.symm.trans atPhase
        exact hphase.elim
    | @submit _ run _ _ _ _ atPhase fresh =>
        cases hlabel
        cases hexecution.symm.trans atPhase
        obtain ⟨rfl, hnone, haccepted⟩ := hphase
        refine ⟨_, HostState.put_executions_self, rfl, .submitted, ?_, ?_,
          RuntimeState.put_runs_self, ?_⟩
        · intro other
          have hold := hnone other
          simp only [Submits, List.mem_append, List.mem_singleton, HostLabel.submit.injEq,
            true_and] at hold ⊢
          constructor
          · rintro ⟨runtime', command', hmem | ⟨rfl, -⟩⟩
            · exact absurd ⟨runtime', command', hmem⟩ hold
            · rfl
          · rintro rfl
            exact ⟨_, _, Or.inr ⟨rfl, rfl, rfl⟩⟩
        · exact fun hrefused => haccepted ((refused_snoc (by simp)).mp hrefused)
        · -- the number of a new run does not occur in the past
          have hpast := run_ne_of_fresh (runtime_of_host_run hhistory) fresh
          rw [flatMap_snoc]
          show ¬ Interrupted (_ ++ [.submit run _ _]) run
          rw [interrupted_snoc_iff]
          simpa using not_interrupted_of_ne hpast
    | @refuse _ _ _ _ _ error atPhase refused =>
        cases hlabel
        cases hexecution.symm.trans atPhase
        refine ⟨_, HostState.put_executions_self, Or.inr ⟨nofun, ?_⟩⟩
        rintro ⟨-, -, hquiet⟩
        exact hquiet (Or.inl ⟨error, by simp⟩)
    | stopped atPhase unanswered =>
        cases hlabel
        cases hexecution.symm.trans atPhase
        refine ⟨_, HostState.put_executions_self, Or.inr ⟨nofun, ?_⟩⟩
        rintro ⟨-, -, hquiet⟩
        exact hquiet (Or.inl ⟨.workerStopped, by simp⟩)
    | @resolve execution' run runtime' claim' now' command' result atPhase answered =>
        cases hlabel
        cases hexecution.symm.trans atPhase
        obtain ⟨rfl, phase, hwaits⟩ := hphase
        cases hwaits.atPhase.symm.trans answered
        have hresolve : HostStep deps systems host state (.resolve execution)
            (state.put execution ⟨runtime, claim, now,
              .updating (afterFollowUp host claim now (result.mapError .runtime))⟩) :=
          .resolve atPhase answered
        obtain ⟨phase', hstays, hwaits'⟩ :=
          hwaits.step horigin hentry hid hresolve (fun _ _ _ hlabel => by cases hlabel)
            fun _ hlabel => by cases hlabel
        rw [hstays result rfl] at hwaits'
        refine ⟨_, HostState.put_executions_self, ?_⟩
        cases result with
        | ok outcome => exact Or.inl ⟨rfl, run, outcome, hwaits'⟩
        | error error =>
            refine Or.inr ⟨nofun, ?_⟩
            rw [hwaits'.disturbed_iff]
            exact hwaits'.replays
    | update atPhase serves =>
        cases hlabel
        cases hexecution.symm.trans atPhase
        exact ⟨_, HostState.put_executions_self, trivial⟩
  · have hsubmit : ∀ run runtime command, label ≠ .submit execution run runtime command := by
      rintro run runtime command rfl
      exact hlabel rfl
    have hrefuse : ∀ error, label ≠ .refuse execution error := by
      rintro error rfl
      exact hlabel rfl
    refine ⟨phase, (HostStep.executions_of_ne hstep hlabel).trans hexecution, ?_⟩
    cases phase with
    | handling => exact hphase
    | submitting submitted =>
        obtain ⟨hcommand, hnone, haccepted⟩ := hphase
        refine ⟨hcommand, fun run => ?_, ?_⟩
        · rw [submits_snoc hsubmit]
          exact hnone run
        · rw [refused_snoc hrefuse]
          exact haccepted
    | waiting submitted run =>
        obtain ⟨hcommand, phase, hwaits⟩ := hphase
        obtain ⟨phase', -, hwaits'⟩ := hwaits.step horigin hentry hid hstep hsubmit hrefuse
        exact ⟨hcommand, phase', hwaits'⟩
    | updating update =>
        rcases hphase with ⟨hcomplete, run, outcome, hwaits⟩ | ⟨hother, hbad⟩
        · obtain ⟨phase', hstays, hwaits'⟩ :=
            hwaits.step horigin hentry hid hstep hsubmit hrefuse
          rw [hstays _ rfl] at hwaits'
          exact Or.inl ⟨hcomplete, run, outcome, hwaits'⟩
        · refine Or.inr ⟨hother, fun hgood => hbad ⟨hgood.1, hgood.2.1, fun h => ?_⟩⟩
          exact hgood.2.2 h.snoc
    | finished reply => trivial

/-- At the end of every run this is known of an iteration. -/
theorem followUpPhase_of_run {start : HostState Digest Runtime}
    (hentry : HasEntry deps worldId n entry start.store) (hid : command.id = entry.command.id)
    (hsubmitting : start.executions execution =
      some ⟨runtime, claim, now, .submitting command⟩)
    (hrun : (hostSystem deps systems host).Run start labels state) :
    HasEntry deps worldId n entry state.store ∧
      ∃ phase, state.executions execution = some ⟨runtime, claim, now, phase⟩ ∧
        FollowUpPhase deps start.store n entry labels state execution runtime command phase := by
  refine Lts.Run.history_induction (P := fun labels state =>
    HasEntry deps worldId n entry state.store ∧
      ∃ phase, state.executions execution = some ⟨runtime, claim, now, phase⟩ ∧
        FollowUpPhase deps start.store n entry labels state execution runtime command phase)
    ⟨hentry, .submitting command, hsubmitting, rfl, ?_, ?_⟩ ?_ hrun
  · rintro run ⟨_, _, hmem⟩
    cases hmem
  · rintro ⟨_, hmem⟩
    cases hmem
  · rintro labels state label state' hhistory ⟨hbefore, phase, hexecution, hphase⟩ hstep
    exact ⟨hbefore.run (HostStep.runtime hstep),
      hphase.step hentry hbefore hid hhistory hexecution hstep⟩

/-! ## The end of an iteration -/

/-- The fence of an update is its claim. -/
theorem EffectUpdate.fence (update : EffectUpdate) (claim : ClaimedEffectJob) :
    workerFence (update.request claim) = some (claim.job.id, claim.attempt) := by
  cases update <;> rfl

theorem status_workerChange (update : EffectUpdate) (claim : ClaimedEffectJob)
    (row : EffectJobRow) :
    (workerChange (update.request claim) row).status = statusCompleted ↔ update = .complete := by
  cases update <;> simp [EffectUpdate.request, workerChange, completeChange, retryChange,
    cancelClaimedChange, statusCompleted, statusPending, statusCancelled]

theorem checkJob_complete (row : EffectJobRow) : checkJob (completeChange row) = true := by
  simp [checkJob, completeChange, statusCompleted, statusRunning]

/-- A completion of a held job only fails for outside reasons. -/
theorem complete_of_held {store store' : WorldStore Digest}
    (hids : (store.effectJobs.map EffectJobRow.jobId).Nodup) {row : EffectJobRow}
    (hrow : row ∈ store.effectJobs)
    (hheld : holdsClaim claim.job.id claim.attempt row = true) {reply : Reply}
    (hserves : Serves deps store (EffectUpdate.complete.request claim, reply) store') :
    reply = .updated ∨ reply = .failed (.sqlite .unavailable) := by
  obtain ⟨next, hcomplete⟩ :=
    transitionClaim_of_holdsClaim hids hrow hheld checkJob_complete
  have hperform : perform deps store (EffectUpdate.complete.request claim) =
      .ok (next, .updated) := by
    rw [EffectUpdate.request, perform, complete, hcomplete]
    rfl
  cases hserves with
  | done h =>
      cases hperform.symm.trans h
      exact Or.inl rfl
  | rejected h => cases hperform.symm.trans h
  | unavailable => exact Or.inr rfl

/-- An update leaves its job completed exactly when the job was completed already,
or was held and the update completes it. -/
theorem completed_after_iff {store store' : WorldStore Digest}
    (hids : (store.effectJobs.map EffectJobRow.jobId).Nodup) {update : EffectUpdate}
    {reply : Reply} (hserves : Serves deps store (update.request claim, reply) store') :
    (∃ job ∈ store'.effectJobs, job.jobId = claim.job.id ∧ job.status = statusCompleted) ↔
      (∃ job ∈ store.effectJobs, job.jobId = claim.job.id ∧ job.status = statusCompleted) ∨
        ((∃ job ∈ store.effectJobs, holdsClaim claim.job.id claim.attempt job = true) ∧
          update = .complete ∧ reply ≠ .failed (.sqlite .unavailable)) := by
  rcases worker_request_fenced hids (update.fence claim) hserves with
    ⟨rfl, error, rfl⟩ | ⟨rfl, row, hrow, hid, hrunning, hattempt, hstore⟩
  · refine ⟨Or.inl, ?_⟩
    rintro (hcompleted | ⟨⟨job, hjob, hheld⟩, rfl, hreply⟩)
    · exact hcompleted
    · rcases complete_of_held hids hjob hheld hserves with hupdated | hfailed
      · cases hupdated
      · exact absurd hfailed hreply
  · have hheld : holdsClaim claim.job.id claim.attempt row = true :=
      holdsClaim_iff.mpr ⟨hid, hrunning, hattempt⟩
    have hunfinished : ¬ ∃ job ∈ store.effectJobs,
        job.jobId = claim.job.id ∧ job.status = statusCompleted := by
      rintro ⟨job, hjob, hjobId, hcompleted⟩
      have hsame := row_unique hids hjob hrow (hjobId.trans hid.symm)
      rw [hsame, hrunning] at hcompleted
      cases hcompleted
    have hafter : (∃ job ∈ store'.effectJobs,
        job.jobId = claim.job.id ∧ job.status = statusCompleted) ↔ update = .complete := by
      rw [← status_workerChange update claim row, hstore]
      constructor
      · rintro ⟨_, hjob, hjobId, hcompleted⟩
        obtain ⟨source, hsource, rfl⟩ := List.mem_map.mp hjob
        by_cases hsourceId : source.jobId = claim.job.id
        · rw [if_pos hsourceId] at hcompleted
          rwa [row_unique hids hsource hrow (hsourceId.trans hid.symm)] at hcompleted
        · rw [if_neg hsourceId] at hjobId
          exact absurd hjobId hsourceId
      · intro hcompleted
        refine ⟨workerChange (update.request claim) row,
          List.mem_map.mpr ⟨row, hrow, if_pos hid⟩, ?_, hcompleted⟩
        exact (workerChange_spec (update.fence claim) row).1.trans hid
    rw [hafter]
    constructor
    · exact fun hcomplete => Or.inr ⟨⟨row, hrow, hheld⟩, hcomplete, nofun⟩
    · rintro (hcompleted | ⟨-, hcomplete, -⟩)
      · exact absurd hcompleted hunfinished
      · exact hcomplete

/-- Every follow-up command that is about to be submitted has been checked, since only a checked
response leads to a submission. -/
theorem valid_of_submitting {store : WorldStore Digest}
    (hrun : (hostSystem deps systems host).Run ⟨⟨store, fun _ => none⟩, fun _ => none⟩ labels
      state)
    (hsubmitting : state.executions execution =
      some ⟨runtime, claim, now, .submitting command⟩) :
    validateResponse claim.job (.complete (some command)) = .ok () := by
  refine Lts.Run.preserves (P := fun state => ∀ execution runtime claim now command,
    state.executions execution = some ⟨runtime, claim, now, .submitting command⟩ →
      validateResponse claim.job (.complete (some command)) = .ok ()) ?_ hrun
    (fun _ _ _ _ _ h => by cases h) execution runtime claim now command hsubmitting
  intro state label state' hvalid hstep execution runtime claim now command hsubmitting
  by_cases hlabel : label.execution = some execution
  · cases hstep with
    | other => cases hlabel
    | @handle _ runtime' claim' now' handler call atPhase bound =>
        cases hlabel
        rw [HostState.put_executions_self, Option.some.injEq, EffectExecution.mk.injEq]
          at hsubmitting
        obtain ⟨rfl, rfl, rfl, hphase⟩ := hsubmitting
        cases hresult : handler.execute call claim' with
        | error error =>
            rw [hresult] at hphase
            cases hphase
        | ok response =>
            rw [hresult] at hphase
            have hchecked := validateResponse_of_execute hresult
            cases response with
            | complete followUp =>
                cases followUp with
                | none => cases hphase
                | some followUp =>
                    cases hphase
                    exact hchecked
            | retry reason => cases hphase
            | cancel reason => cases hphase
    | _ =>
        cases hlabel
        rw [HostState.put_executions_self] at hsubmitting
        cases hsubmitting
  · rw [HostStep.executions_of_ne hstep hlabel] at hsubmitting
    exact hvalid execution runtime claim now command hsubmitting

/-- Steps of the runtimes are steps of the hosts. -/
theorem host_of_runtime_run {runtimes runtimes' : RuntimeState Digest Runtime}
    {more : List (RuntimeLabel Runtime)}
    (hrun : (runtimeSystem deps systems).Run runtimes more runtimes')
    (executions : Nat → Option (EffectExecution Runtime)) :
    (hostSystem deps systems host).Run ⟨runtimes, executions⟩ (more.map .other)
      ⟨runtimes', executions⟩ := by
  induction hrun with
  | refl runtimes => exact .refl _
  | cons hstep _ ih => exact .cons (.other hstep) ih

/-- An iteration whose follow-up has committed comes to its end by itself. The run has an outcome,
which decides the update of the job. -/
theorem follow_up_ends {start : HostState Digest Runtime}
    (hentry : HasEntry deps worldId n entry start.store) (hid : command.id = entry.command.id)
    (hsubmitting : start.executions execution =
      some ⟨runtime, claim, now, .submitting command⟩)
    (hfresh : ∃ run, start.runtimes.runs run = none) :
    ∃ labels before request reply after,
      (hostSystem deps systems host).Run start labels before ∧ ¬ Refused labels execution ∧
        (hostSystem deps systems host).step before (.update execution request reply) after := by
  obtain ⟨run, hfresh⟩ := hfresh
  have hsubmit : HostStep deps systems host start (.submit execution run runtime command)
      ({ start with
        runtimes := start.runtimes.put run ⟨runtime, command, .submitted⟩ }.put execution
        ⟨runtime, claim, now, .waiting command run⟩) :=
    .submit hsubmitting hfresh
  have hsubmitted : HasEntry deps worldId n entry
      (start.runtimes.put run ⟨runtime, command, .submitted⟩).store := hentry
  obtain ⟨more, runtimes, result, hmore, hanswered, -⟩ :=
    @replay_ends _ _ _ deps systems _ _ _ _ _ _ _ hsubmitted hid RuntimeState.put_runs_self
  have hlifted := @host_of_runtime_run _ _ _ deps systems host _ _ _ hmore
    (Function.update start.executions execution
      (some ⟨runtime, claim, now, .waiting command run⟩))
  let answered : HostState Digest Runtime := ⟨runtimes, Function.update start.executions execution
    (some ⟨runtime, claim, now, .waiting command run⟩)⟩
  let update := afterFollowUp host claim now (result.mapError .runtime)
  have hresolve : HostStep deps systems host answered (.resolve execution)
      (answered.put execution ⟨runtime, claim, now, .updating update⟩) :=
    .resolve (Function.update_self ..) hanswered
  have hupdate := @HostStep.update _ _ _ deps systems host
    (answered.put execution ⟨runtime, claim, now, .updating update⟩) execution runtime claim now
    update _ _ HostState.put_executions_self (serves_serve deps answered.store _)
  refine ⟨_, _, _, _, _, (Lts.Run.cons hsubmit hlifted).snoc hresolve, ?_, hupdate⟩
  rintro ⟨error, hmem⟩
  simp at hmem

/-- A later attempt of a job whose follow-up has committed comes to its end. It ends with the job
completed and the follow-up committed once exactly when another worker has completed the job, or the
attempt still holds the job, its follow-up has the digest of the committed one, the events of that
commit can be read, and nothing failed for outside reasons. The update completes the job exactly
when the follow-up had an outcome. -/
theorem effect_replay_completes_iff {store : WorldStore Digest}
    (hreachable : (storageSystem deps).Reachable store) {earlier : List (HostLabel Runtime)}
    {submitted : HostState Digest Runtime}
    (hearlier : (hostSystem deps systems host).Run ⟨⟨store, fun _ => none⟩, fun _ => none⟩
      earlier submitted)
    (hsubmitting : submitted.executions execution =
      some ⟨runtime, claim, now, .submitting command⟩)
    {row : CommitRow Digest} (hrow : row ∈ submitted.store.worldCommits)
    (hcommitted : row.commandId = effectCompletionCommandId claim.job.id) :
    (∃ labels before request reply after,
      (hostSystem deps systems host).Run submitted labels before ∧ ¬ Refused labels execution ∧
        (hostSystem deps systems host).step before (.update execution request reply) after) ∧
    ∀ labels before request reply after,
      (hostSystem deps systems host).Run submitted labels before →
      (hostSystem deps systems host).step before (.update execution request reply) after →
      (FollowedUp after.store claim.job.id ↔
        (∃ job ∈ before.store.effectJobs,
          job.jobId = claim.job.id ∧ job.status = statusCompleted) ∨
        ((∃ job ∈ before.store.effectJobs,
            holdsClaim claim.job.id claim.attempt job = true) ∧
          Repeats deps submitted.store command row ∧ ¬ Disturbed labels execution ∧
          reply ≠ .failed (.sqlite .unavailable))) := by
  have hvalid := (validateResponse_complete_iff.mp (valid_of_submitting hearlier hsubmitting)).1
  have hsubmittedReachable : (storageSystem deps).Reachable submitted.store :=
    reachable_of_runtime_run (runtime_of_host_run hearlier) hreachable
  obtain ⟨entries, hjournal⟩ := journal_of_reachable hsubmittedReachable
  obtain ⟨n, entry, hentry, rfl⟩ := exists_entry_of_row hjournal hrow
  have hid : command.id = entry.command.id := hvalid.trans hcommitted.symm
  refine ⟨follow_up_ends hentry hid hsubmitting
    (exists_fresh_run (runtime_of_host_run hearlier) rfl), ?_⟩
  intro labels before request reply after hrun hupdate
  obtain ⟨hbefore, phase, hexecution, hphase⟩ :=
    followUpPhase_of_run hentry hid hsubmitting hrun
  have hids := effectIds_of_reachable (reachable_of_runtime_run
    (runtime_of_host_run (hearlier.append hrun)) hreachable)
  cases hupdate with
  | @update _ _ _ _ update _ store' atPhase serves =>
      cases hexecution.symm.trans atPhase
      have hafter : HasEntry deps submitted.store.worldId n entry store' := hbefore.serves serves
      have hsingle := hafter.countP
      have hkey : entry.command.id = effectCompletionCommandId claim.job.id := hcommitted
      rw [hkey] at hsingle
      have hcomplete : update = .complete ↔
          (Repeats deps submitted.store command (commitRow entry.command
            (commandDigest deps entry.command) (n + 1) entry.clock) ∧
            ¬ Disturbed labels execution) := by
        rcases hphase with ⟨rfl, run, outcome, hwaits⟩ | ⟨hother, hbad⟩
        · obtain ⟨hsame, hreadable, hquiet⟩ := hwaits.replays
          rw [hwaits.disturbed_iff]
          exact ⟨fun _ => ⟨⟨hsame, hreadable⟩, hquiet⟩, fun _ => rfl⟩
        · refine ⟨fun h => absurd h hother, ?_⟩
          rintro ⟨⟨hsame, hreadable⟩, hquiet⟩
          exact absurd ⟨hsame, hreadable, hquiet⟩ hbad
      show FollowedUp store' claim.job.id ↔ _
      rw [FollowedUp, and_iff_left hsingle, completed_after_iff hids serves, hcomplete, and_assoc]

end Replay

/-! ## A crash between the two commits -/

/-- The follow-up command of job 1 with a payload. -/
def followUp (payload : JsonValue) : WorldCommand :=
  { demoCommand 1 with causation := some (.effect ⟨1⟩), payload := payload }

/-- Job 1 is claimed and its follow-up commits; then its host stops. -/
def crashRequests : List Request :=
  [demoCommit 5 0 demoTransaction, .claimNextEffect ⟨0⟩ ⟨30000⟩,
    .commit (followUp acceptAll) ⟨[.createEntity ⟨⟨2⟩, demoKey "demo.body"⟩], [], []⟩ 1 0]

def crashDependencies : Dependencies String := tableDependencies [acceptAll] []

def crashedStore : WorldStore String := (demoRun crashDependencies crashRequests).2

def noSystems : Unit → Systems := fun _ _ => none

def conflictText : String :=
  "command id 00000000-0000-0000-0000-000000000001 was already committed with different " ++
    "command content"

/-- A host with a handler for the effects of the demo world. -/
def crashHost : EffectHost Unit where
  handlers _ _ := some ⟨⟨0⟩, demoKey "demo.mail"⟩
  describe _ := conflictText

/-- The second claim of job 1, after the first lease has expired. -/
def secondClaim : ClaimedEffectJob where
  job := ⟨⟨0⟩, ⟨1⟩, 1, 0, ⟨⟨5⟩, demoKey "demo.move", ⟨7⟩, .principal ⟨7⟩, none, ⟨1⟩, none, ⟨0⟩⟩,
    demoKey "demo.mail", acceptAll, 2⟩
  leaseExpiresAt := ⟨60000⟩

def claimedStore : WorldStore String :=
  (serve crashDependencies crashedStore (.claimNextEffect ⟨30000⟩ ⟨60000⟩)).1

/-- The second attempt in a phase, with the runs of the host. -/
def secondAttempt (runs : Nat → Option (ProcessRun Unit)) (phase : ExecutionPhase) :
    HostState String Unit :=
  HostState.put ⟨⟨claimedStore, runs⟩, fun _ => none⟩ 0 ⟨(), secondClaim, ⟨30000⟩, phase⟩

theorem secondAttempt_put (runs : Nat → Option (ProcessRun Unit))
    (phase next : ExecutionPhase) :
    (secondAttempt runs phase).put 0 ⟨(), secondClaim, ⟨30000⟩, next⟩ =
      secondAttempt runs next := by
  simp [secondAttempt, HostState.put]

def answeredLabels (payload : JsonValue) : List (HostLabel Unit) :=
  [.claim 0 (.claimNextEffect ⟨30000⟩ ⟨60000⟩) (.claimed (some secondClaim)),
    .handle 0 (.ok (.complete (some (followUp payload))))]

/-- The second attempt comes to a follow-up with any payload. -/
theorem run_secondAttempt (payload : JsonValue) :
    (hostSystem crashDependencies noSystems crashHost).Run
      ⟨⟨crashedStore, fun _ => none⟩, fun _ => none⟩ (answeredLabels payload)
      (secondAttempt (fun _ => none) (.submitting (followUp payload))) := by
  have hserves : Serves crashDependencies crashedStore (.claimNextEffect ⟨30000⟩ ⟨60000⟩,
      .claimed (some secondClaim)) claimedStore :=
    serves_serve crashDependencies crashedStore (.claimNextEffect ⟨30000⟩ ⟨60000⟩)
  have hclaim : HostStep crashDependencies noSystems crashHost
      ⟨⟨crashedStore, fun _ => none⟩, fun _ => none⟩
      (.claim 0 (.claimNextEffect ⟨30000⟩ ⟨60000⟩) (.claimed (some secondClaim)))
      (secondAttempt (fun _ => none) .handling) :=
    .claim rfl hserves
  have hhandle := @HostStep.handle _ _ _ crashDependencies noSystems
    crashHost (secondAttempt (fun _ => none) .handling) 0 () secondClaim ⟨30000⟩
    ⟨⟨0⟩, demoKey "demo.mail"⟩
    (fun _ => .response (.complete (some (followUp payload)))) HostState.put_executions_self rfl
  rw [secondAttempt_put] at hhandle
  exact .cons hclaim (.single hhandle)

/-- The follow-up run of the second attempt in a phase. -/
def followUpRun (payload : JsonValue) (phase : Phase) : Nat → Option (ProcessRun Unit) :=
  Function.update (fun _ => none) 0 (some ⟨(), followUp payload, phase⟩)

theorem followUpRun_self (payload : JsonValue) (phase : Phase) :
    followUpRun payload phase 0 = some ⟨(), followUp payload, phase⟩ :=
  Function.update_self ..

/-- The second attempt submits its follow-up and waits for an outcome. -/
theorem run_submit (payload : JsonValue) :
    (hostSystem crashDependencies noSystems crashHost).Run
      (secondAttempt (fun _ => none) (.submitting (followUp payload)))
      [.submit 0 0 () (followUp payload), .other (.lookup 0)]
      (secondAttempt (followUpRun payload
        (lookupReceipt crashDependencies claimedStore (followUp payload)))
        (.waiting (followUp payload) 0)) := by
  have hsubmit := @HostStep.submit _ _ _ crashDependencies noSystems
    crashHost (secondAttempt (fun _ => none) (.submitting (followUp payload))) 0 0 ()
    secondClaim ⟨30000⟩ (followUp payload) HostState.put_executions_self rfl
  have hsubmitted : ({ secondAttempt (fun _ => none) (.submitting (followUp payload)) with
      runtimes := (secondAttempt (fun _ => none)
        (.submitting (followUp payload))).runtimes.put 0 ⟨(), followUp payload, .submitted⟩ }
      : HostState String Unit).put 0
        ⟨(), secondClaim, ⟨30000⟩, .waiting (followUp payload) 0⟩ =
      secondAttempt (followUpRun payload .submitted) (.waiting (followUp payload) 0) := by
    simp [secondAttempt, HostState.put, RuntimeState.put, followUpRun]
  rw [hsubmitted] at hsubmit
  have hlookup := @RuntimeStep.lookup _ _ _ crashDependencies noSystems
    ⟨claimedStore, followUpRun payload .submitted⟩ 0 () (followUp payload)
    (followUpRun_self payload .submitted)
  have hlooked : RuntimeState.put ⟨claimedStore, followUpRun payload .submitted⟩ 0
      ⟨(), followUp payload, lookupReceipt crashDependencies claimedStore (followUp payload)⟩ =
      ⟨claimedStore, followUpRun payload
        (lookupReceipt crashDependencies claimedStore (followUp payload))⟩ := by
    simp [RuntimeState.put, followUpRun]
  rw [hlooked] at hlookup
  exact .cons hsubmit (.single (.other hlookup))

/-- The end of the second attempt once its follow-up run has a result. -/
theorem run_update (payload : JsonValue)
    (result : Except WorldRuntimeError WorldCommandOutcome) {update : EffectUpdate}
    (hupdate : afterFollowUp crashHost secondClaim ⟨30000⟩ (result.mapError .runtime) = update) :
    (hostSystem crashDependencies noSystems crashHost).Run
        (secondAttempt (followUpRun payload (.finished result)) (.waiting (followUp payload) 0))
        [.resolve 0]
        (secondAttempt (followUpRun payload (.finished result)) (.updating update)) ∧
      ∃ after, (hostSystem crashDependencies noSystems crashHost).step
          (secondAttempt (followUpRun payload (.finished result)) (.updating update))
          (.update 0 (update.request secondClaim)
            (serve crashDependencies claimedStore (update.request secondClaim)).2) after ∧
        after.store = (serve crashDependencies claimedStore (update.request secondClaim)).1 := by
  subst hupdate
  have hresolve := @HostStep.resolve _ _ _ crashDependencies noSystems
    crashHost (secondAttempt (followUpRun payload (.finished result))
      (.waiting (followUp payload) 0)) 0 0 () secondClaim ⟨30000⟩ (followUp payload) result
    HostState.put_executions_self (followUpRun_self payload (.finished result))
  rw [secondAttempt_put] at hresolve
  exact ⟨.single hresolve, _, .update HostState.put_executions_self
    (serves_serve crashDependencies claimedStore _), rfl⟩

/-- The first follow-up, as it stands in the history. -/
def firstFollowUp : CommitEntry :=
  ⟨followUp acceptAll, ⟨[.createEntity ⟨⟨2⟩, demoKey "demo.body"⟩], [], []⟩, 0⟩

theorem claimed_entry : HasEntry crashDependencies ⟨0⟩ 1 firstFollowUp claimedStore := by
  have hcrashed := journal_of_run (run_demoRun crashDependencies crashRequests)
  have hentry : HasEntry crashDependencies ⟨0⟩ 1 firstFollowUp crashedStore :=
    ⟨⟨_, hcrashed, rfl⟩, rfl⟩
  exact hentry.serves (serves_serve crashDependencies crashedStore _)

theorem claimed_held : (∃ job ∈ claimedStore.effectJobs, holdsClaim ⟨1⟩ 2 job = true) ∧
    workerSucceeded ⟨1⟩ 2 (EffectUpdate.complete.request secondClaim,
      (serve crashDependencies claimedStore (EffectUpdate.complete.request secondClaim)).2) =
        true := by
  decide +kernel

/-- A later attempt with the payload of the first one completes its job. -/
theorem effect_replay_completes_same :
    ∃ labels before request reply after,
      (hostSystem crashDependencies noSystems crashHost).Run
        ⟨⟨crashedStore, fun _ => none⟩, fun _ => none⟩
        (answeredLabels acceptAll ++ labels) before ∧
      (hostSystem crashDependencies noSystems crashHost).step before
        (.update 0 request reply) after ∧
      FollowedUp after.store ⟨1⟩ := by
  rcases lookup_replay claimed_entry (show (followUp acceptAll).id = _ from rfl) with
    ⟨receipt, hlookup, hposition, -⟩ | ⟨error, -, hdifferent⟩
  · have hsubmit := run_submit acceptAll
    rw [hlookup] at hsubmit
    have hevents : eventsAtPosition crashDependencies claimedStore 2 = .ok [] := rfl
    have hread := @RuntimeStep.readEvents _ _ _ crashDependencies noSystems
      ⟨claimedStore, followUpRun acceptAll (.reading receipt)⟩ 0 () (followUp acceptAll) receipt
      (.ok []) (followUpRun_self _ _) (Or.inl (by rw [hposition, hevents]))
    have hfinished : RuntimeState.put ⟨claimedStore, followUpRun acceptAll (.reading receipt)⟩ 0
        ⟨(), followUp acceptAll, finishReading receipt (.ok [])⟩ =
        ⟨claimedStore, followUpRun acceptAll (.finished (.ok ⟨receipt, []⟩))⟩ := by
      simp [RuntimeState.put, followUpRun, finishReading]
    rw [hfinished] at hread
    obtain ⟨hresolve, after, hupdate, -⟩ :=
      @run_update acceptAll (.ok ⟨receipt, []⟩) .complete rfl
    have hrun := (hsubmit.snoc (.other hread)).append hresolve
    obtain ⟨⟨entries, hjournal, hget⟩, -⟩ := claimed_entry
    have hcompletes := (effect_replay_completes_iff (reachable_demoRun _ crashRequests)
      (run_secondAttempt acceptAll) HostState.put_executions_self
      (mem_of_lookupRow (hjournal.lookup_commit hget)).1 rfl).2 _ _ _ _ _ hrun hupdate
    refine ⟨_, _, _, _, _, (run_secondAttempt acceptAll).append hrun, hupdate, hcompletes.mpr ?_⟩
    obtain ⟨hheld, hupdated⟩ := claimed_held
    refine Or.inr ⟨hheld, ⟨rfl, [], hevents⟩, ?_, ?_⟩
    · simp [Disturbed, Refused, Submits, Interrupted, HostLabel.runtimeLabels]
    · intro hfailed
      rw [hfailed] at hupdated
      cases hupdated
  · exact absurd rfl hdifferent

/-- A payload that the first attempt did not have. -/
def otherPayload : JsonValue := ⟨.bool false, rfl⟩

/-- How the second attempt ends when its follow-up finds a conflict. -/
def conflictUpdate : EffectUpdate :=
  retryEffectClaim secondClaim ⟨30000⟩
    (boundedEffectDiagnostic ("effect follow-up command failed: " ++ conflictText))

def conflictStore : WorldStore String :=
  (serve crashDependencies claimedStore (conflictUpdate.request secondClaim)).1

theorem conflict_pending :
    (∃ job ∈ conflictStore.effectJobs, job.jobId = ⟨1⟩ ∧ job.status = statusPending) ∧
      ∀ job ∈ conflictStore.effectJobs, job.status ≠ statusCompleted := by
  decide +kernel

/-- With another payload the second attempt finds a conflict, and the job goes
back to the outbox. -/
theorem effect_replay_conflicts :
    (storageSystem crashDependencies).Reachable crashedStore ∧
      (∃ row ∈ crashedStore.worldCommits, row.commandId = effectCompletionCommandId ⟨1⟩) ∧
      ∃ submitted before after : HostState String Unit,
        (hostSystem crashDependencies noSystems crashHost).Run
          ⟨⟨crashedStore, fun _ => none⟩, fun _ => none⟩ (answeredLabels otherPayload)
          submitted ∧
        submitted.executions 0 =
          some ⟨(), secondClaim, ⟨30000⟩, .submitting (followUp otherPayload)⟩ ∧
        (hostSystem crashDependencies noSystems crashHost).Run submitted
          [.submit 0 0 () (followUp otherPayload), .other (.lookup 0), .resolve 0] before ∧
        (∃ job ∈ before.store.effectJobs, holdsClaim ⟨1⟩ 2 job = true) ∧
        (∃ request reply, (hostSystem crashDependencies noSystems crashHost).step before
          (.update 0 request reply) after) ∧
        ¬ FollowedUp after.store ⟨1⟩ ∧
        ∃ job ∈ after.store.effectJobs, job.jobId = ⟨1⟩ ∧ job.status = statusPending := by
  rcases lookup_replay claimed_entry (show (followUp otherPayload).id = _ from rfl) with
    ⟨receipt, -, -, hsame⟩ | ⟨error, hlookup, -⟩
  · have hcollisionFree : Function.Injective crashDependencies.sha256 := fun _ _ h => h
    exact absurd ((commandDigest_eq_iff hcollisionFree).mp hsame) (by decide +kernel)
  · have hsubmit := run_submit otherPayload
    rw [hlookup] at hsubmit
    obtain ⟨hresolve, after, hupdate, hstore⟩ :=
      @run_update otherPayload (.error error) conflictUpdate rfl
    have hconflict : after.store = conflictStore := hstore
    refine ⟨reachable_demoRun _ crashRequests, by decide +kernel, _, _, after,
      run_secondAttempt otherPayload, HostState.put_executions_self, hsubmit.append hresolve,
      claimed_held.1, ⟨_, _, hupdate⟩, ?_, ?_⟩
    · rw [hconflict]
      rintro ⟨⟨job, hjob, -, hcompleted⟩, -⟩
      exact conflict_pending.2 job hjob hcompleted
    · rw [hconflict]
      exact conflict_pending.1

end Rintawa.Host
