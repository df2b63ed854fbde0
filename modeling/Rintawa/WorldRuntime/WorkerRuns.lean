/-
# What the workers of a world guarantee

A runtime by itself hands its commands over in the order in which they were accepted,
each one once, and its thread turns to the next command only after the result of the
one before was sent. All workers together do to each runtime what it does by itself,
so the commits of one runtime are a part of what was submitted to it, in that order,
and every ticket ends with the result of its own command, unless the thread of the
worker panicked.
-/

import Rintawa.Lib.Lists
import Rintawa.WorldRuntime.Worker

namespace Rintawa.WorldRuntime

open Rintawa.Lib Rintawa.Sdk Rintawa.World Rintawa.Storage

/-! ## Histories -/

section Histories

variable {Runtime : Type}

/-- The job that an action accepts. -/
@[simp]
def WorkerAction.acceptance : WorkerAction Runtime → Option CommandJob
  | .accept job => some job
  | _ => none

/-- The job that an action takes from the queue. -/
@[simp]
def WorkerAction.receipt : WorkerAction Runtime → Option CommandJob
  | .receive job => some job
  | _ => none

/-- The job whose result an action sends. -/
@[simp]
def WorkerAction.answer : WorkerAction Runtime → Option CommandJob
  | .respond job _ => some job
  | _ => none

/-- The job that an action commits as new. -/
def WorkerAction.commitment : WorkerAction Runtime → Option CommandJob
  | .work job label => if label.commitsNew = some job.response then some job else none
  | _ => none

/-- The jobs whose tickets an action settles. -/
def WorkerAction.settledJobs : WorkerAction Runtime → List CommandJob
  | .respond job _ => [job]
  | .panic lost => lost
  | _ => []

/-- The jobs that a runtime accepted, in this order. -/
def acceptedJobs (actions : List (WorkerAction Runtime)) : List CommandJob :=
  actions.filterMap WorkerAction.acceptance

/-- The jobs that a thread took from its queue, in this order. -/
def receivedJobs (actions : List (WorkerAction Runtime)) : List CommandJob :=
  actions.filterMap WorkerAction.receipt

/-- The jobs whose results were sent, in this order. -/
def answeredJobs (actions : List (WorkerAction Runtime)) : List CommandJob :=
  actions.filterMap WorkerAction.answer

/-- The jobs that were committed as new, in this order. -/
def committedJobs (actions : List (WorkerAction Runtime)) : List CommandJob :=
  actions.filterMap WorkerAction.commitment

section Snoc

variable {actions : List (WorkerAction Runtime)} {action : WorkerAction Runtime}

@[simp]
theorem acceptedJobs_snoc :
    acceptedJobs (actions ++ [action]) = acceptedJobs actions ++ action.acceptance.toList :=
  filterMap_snoc ..

@[simp]
theorem receivedJobs_snoc :
    receivedJobs (actions ++ [action]) = receivedJobs actions ++ action.receipt.toList :=
  filterMap_snoc ..

@[simp]
theorem answeredJobs_snoc :
    answeredJobs (actions ++ [action]) = answeredJobs actions ++ action.answer.toList :=
  filterMap_snoc ..

@[simp]
theorem committedJobs_snoc :
    committedJobs (actions ++ [action]) = committedJobs actions ++ action.commitment.toList :=
  filterMap_snoc ..

end Snoc

/-- A job is accepted by an action that says so. -/
theorem mem_acceptedJobs {actions : List (WorkerAction Runtime)} {job : CommandJob} :
    job ∈ acceptedJobs actions ↔ .accept job ∈ actions := by
  rw [acceptedJobs, List.mem_filterMap]
  constructor
  · rintro ⟨action, haction, hread⟩
    cases action with
    | accept other =>
        cases hread
        exact haction
    | _ => cases hread
  · intro haction
    exact ⟨_, haction, rfl⟩

/-- The action that a step is for one runtime. -/
def WorkerLabel.action [DecidableEq Runtime] (runtime : Runtime) :
    WorkerLabel Runtime → Option (WorkerAction Runtime)
  | .own other action => if other = runtime then some action else none
  | _ => none

/-- The history of one runtime. -/
def ownActions [DecidableEq Runtime] (runtime : Runtime) (labels : List (WorkerLabel Runtime)) :
    List (WorkerAction Runtime) :=
  labels.filterMap (WorkerLabel.action runtime)

theorem mem_ownActions [DecidableEq Runtime] {runtime : Runtime}
    {labels : List (WorkerLabel Runtime)} {action : WorkerAction Runtime} :
    action ∈ ownActions runtime labels ↔ .own runtime action ∈ labels := by
  rw [ownActions, List.mem_filterMap]
  constructor
  · rintro ⟨label, hlabel, hread⟩
    cases label with
    | own other action' =>
        simp only [WorkerLabel.action] at hread
        split at hread
        next hsame =>
          cases hread
          cases hsame
          exact hlabel
        · cases hread
    | _ => cases hread
  · intro hlabel
    exact ⟨_, hlabel, if_pos rfl⟩

/-- The ticket that a step gives out. -/
def WorkerLabel.ticket : WorkerLabel Runtime → Option Nat
  | .own _ (.accept job) => some job.response
  | _ => none

/-- The tickets given out to the callers of all runtimes, in this order. -/
def issuedTickets (labels : List (WorkerLabel Runtime)) : List Nat :=
  labels.filterMap WorkerLabel.ticket

/-- What a step does to the commands in process. -/
def WorkerLabel.worldLabel : WorkerLabel Runtime → Option (RuntimeLabel Runtime)
  | .own runtime (.receive job) => some (.submit job.response runtime job.command)
  | .own _ (.work _ label) => some label
  | .serve request reply => some (.serve request reply)
  | _ => none

/-- The history of the commands in process. -/
def worldLabels (labels : List (WorkerLabel Runtime)) : List (RuntimeLabel Runtime) :=
  labels.filterMap WorkerLabel.worldLabel

/-- The job that a step of any runtime commits as new. -/
def WorkerLabel.commitment : WorkerLabel Runtime → Option CommandJob
  | .own _ action => action.commitment
  | _ => none

/-- The jobs that all runtimes committed as new, in this order. -/
def allCommittedJobs (labels : List (WorkerLabel Runtime)) : List CommandJob :=
  labels.filterMap WorkerLabel.commitment

end Histories

/-! ## One runtime by itself -/

section Running

variable {Runtime : Type} {actions : List (WorkerAction Runtime)} {action : WorkerAction Runtime}
  {started next : RunningWorldRuntime}

/-- The jobs in the hand of a thread, in its queue and lost, for each place where a
thread stands. -/
def WorkerThread.Keeps : WorkerThread → (hand buffer lost : List CommandJob) → Prop
  | .receiving, hand, _, lost => hand = [] ∧ lost = []
  | .processing job, hand, _, lost => hand = [job] ∧ lost = []
  | .returned, hand, buffer, lost => hand = [] ∧ buffer = [] ∧ lost = []
  | .panicked, hand, buffer, _ => (∃ job, hand = [job]) ∧ buffer = []

/-- The bounds of a queue, and who holds its receiving end. -/
structure QueueInvariant (started : RunningWorldRuntime) : Prop where
  capacity : 0 < started.queue.capacity ∧ started.queue.capacity ≤ maxCommandQueueCapacity
  receiver : started.queue.receiver = started.thread.running

/-- Where the accepted jobs are: answered, in hand, in the queue, or lost. -/
def JobsInvariant (actions : List (WorkerAction Runtime)) (started : RunningWorldRuntime) :
    Prop :=
  ∃ hand lost,
    acceptedJobs actions = answeredJobs actions ++ hand ++ started.queue.buffer ++ lost ∧
      receivedJobs actions = answeredJobs actions ++ hand ∧
      started.thread.Keeps hand started.queue.buffer lost

/-- What the end of a thread leaves on record: how it was lost, and what whoever joined
it learned. -/
structure EndInvariant (actions : List (WorkerAction Runtime)) (started : RunningWorldRuntime) :
    Prop where
  panicked : started.thread = .panicked → ∃ lost, .panic lost ∈ actions
  joined : ∀ result, .join result ∈ actions → started.thread.join = some result

/-- Jobs that are committed at most once are committed in the order in which they were
taken. -/
def CommitsInOrder (actions : List (WorkerAction Runtime)) : Prop :=
  (committedJobs actions).Nodup → (committedJobs actions).Sublist (receivedJobs actions)

/-- Every step keeps the queue within its bound. -/
theorem QueueInvariant.step (h : QueueInvariant started) (hstep : started.Step action next) :
    QueueInvariant next := by
  cases hstep with
  | accept submits =>
      obtain ⟨queue, hsend, rfl, -⟩ := submit_eq_ok submits
      obtain ⟨-, -, -, hcapacity, -, hreceives⟩ := SyncChannel.trySend_eq_ok_iff.mp hsend
      exact ⟨by rw [hcapacity]; exact h.capacity, hreceives.trans h.receiver⟩
  | receive idle receives =>
      obtain ⟨-, hcapacity, -, hreceives⟩ := SyncChannel.recv_eq_message_iff.mp receives
      refine ⟨by rw [hcapacity]; exact h.capacity, hreceives.trans (h.receiver.trans ?_)⟩
      rw [idle]
      rfl
  | respond busy =>
      refine ⟨h.capacity, h.receiver.trans ?_⟩
      rw [busy]
      rfl
  | finish | panic => exact ⟨h.capacity, rfl⟩
  | refuse | work | stop | join => exact ⟨h.capacity, h.receiver⟩

/-- A thread that holds the receiving end of its queue has lost nothing. -/
theorem WorkerThread.Keeps.lost_eq_nil {thread : WorkerThread} {hand buffer lost : List CommandJob}
    (h : thread.Keeps hand buffer lost) (hrunning : thread.running = true) : lost = [] := by
  cases thread with
  | receiving | processing _ => exact h.2
  | returned | panicked => cases hrunning

/-- Every step moves jobs on in their order. -/
theorem JobsInvariant.step (h : JobsInvariant actions started) (hqueue : QueueInvariant started)
    (hstep : started.Step action next) : JobsInvariant (actions ++ [action]) next := by
  obtain ⟨hand, lost, haccepted, hreceived, hkeeps⟩ := h
  cases hstep with
  | @accept _ job _ submits =>
      obtain ⟨queue, hsend, rfl, -⟩ := submit_eq_ok submits
      obtain ⟨hreceiver, -, hbuffer, -⟩ := SyncChannel.trySend_eq_ok_iff.mp hsend
      have hrunning : started.thread.running = true := hqueue.receiver.symm.trans hreceiver
      have hlost := hkeeps.lost_eq_nil hrunning
      subst hlost
      refine ⟨hand, [], ?_, ?_, ?_⟩
      · simp [haccepted, hbuffer]
      · simpa using hreceived
      · cases hthread : started.thread <;> simp_all [WorkerThread.Keeps, WorkerThread.running]
  | @receive job rest idle receives =>
      obtain ⟨hbuffer, -⟩ := SyncChannel.recv_eq_message_iff.mp receives
      rw [idle] at hkeeps
      obtain ⟨rfl, rfl⟩ := hkeeps
      refine ⟨[job], [], ?_, ?_, rfl, rfl⟩
      · simp [haccepted, hbuffer]
      · simp [hreceived]
  | @respond job result busy =>
      rw [busy] at hkeeps
      obtain ⟨rfl, rfl⟩ := hkeeps
      refine ⟨[], [], ?_, ?_, rfl, rfl⟩
      · simp [haccepted]
      · simp [hreceived]
  | finish idle receives =>
      obtain ⟨hbuffer, -⟩ := SyncChannel.recv_eq_disconnected_iff.mp receives
      rw [idle] at hkeeps
      obtain ⟨rfl, rfl⟩ := hkeeps
      refine ⟨[], [], ?_, ?_, rfl, rfl, rfl⟩
      · simp [haccepted, hbuffer]
      · simp [hreceived]
  | @panic job busy =>
      rw [busy] at hkeeps
      obtain ⟨rfl, rfl⟩ := hkeeps
      refine ⟨[job], started.queue.buffer, ?_, ?_, ⟨job, rfl⟩, rfl⟩
      · simp [haccepted]
      · simp [hreceived]
  | refuse | work | stop | join =>
      exact ⟨hand, lost, by simpa using haccepted, by simpa using hreceived, hkeeps⟩

/-- The end of a worker is kept: a thread that takes a step was not joined before. -/
theorem EndInvariant.step (h : EndInvariant actions started)
    (hstep : started.Step action next) : EndInvariant (actions ++ [action]) next := by
  have hold : ∀ {result}, .join result ∈ actions ++ [action] → (∀ other, action ≠ .join other) →
      .join result ∈ actions := by
    intro result hmem hother
    rcases List.mem_append.mp hmem with hbefore | hnew
    · exact hbefore
    · exact absurd (List.mem_singleton.mp hnew).symm (hother result)
  have hkept : next.thread = started.thread → (∀ result, action ≠ .join result) →
      EndInvariant (actions ++ [action]) next := by
    intro hthread hother
    refine ⟨?_, fun result hmem => hthread ▸ h.joined result (hold hmem hother)⟩
    intro hpanicked
    obtain ⟨lost, hlost⟩ := h.panicked (hthread ▸ hpanicked)
    exact ⟨lost, List.mem_append_left _ hlost⟩
  have hmoved : started.thread.join = none →
      (next.thread = .panicked → ∃ lost, action = .panic lost) →
      (∀ result, action ≠ .join result) → EndInvariant (actions ++ [action]) next := by
    intro hrunning hpanic hother
    refine ⟨?_, ?_⟩
    · intro hpanicked
      obtain ⟨lost, rfl⟩ := hpanic hpanicked
      exact ⟨lost, by simp⟩
    · intro result hmem
      have hjoined := h.joined result (hold hmem hother)
      rw [hrunning] at hjoined
      cases hjoined
  cases hstep with
  | accept submits =>
      obtain ⟨queue, -, rfl, -⟩ := submit_eq_ok submits
      exact hkept rfl nofun
  | refuse | work | stop => exact hkept rfl nofun
  | receive idle | finish idle => exact hmoved (by rw [idle]; rfl) nofun nofun
  | respond busy => exact hmoved (by rw [busy]; rfl) nofun nofun
  | panic busy => exact hmoved (by rw [busy]; rfl) (fun _ => ⟨_, rfl⟩) nofun
  | join stopped unjoined ended =>
      refine ⟨?_, ?_⟩
      · intro hpanicked
        obtain ⟨lost, hlost⟩ := h.panicked hpanicked
        exact ⟨lost, List.mem_append_left _ hlost⟩
      · intro result hmem
        rcases List.mem_append.mp hmem with hbefore | hnew
        · exact h.joined result hbefore
        · cases List.mem_singleton.mp hnew
          exact ended

/-- The commits stay in the order of the queue. As long as the job in hand was not committed, all
jobs before it were answered. -/
theorem CommitsInOrder.step (h : CommitsInOrder actions) (hjobs : JobsInvariant actions started)
    (hstep : started.Step action next) : CommitsInOrder (actions ++ [action]) := by
  cases hstep with
  | receive =>
      intro hnodup
      have hbefore := h (by simpa [WorkerAction.commitment] using hnodup)
      simpa [WorkerAction.commitment] using hbefore.trans (List.sublist_append_left _ _)
  | @work job label busy =>
      by_cases hcommits : label.commitsNew = some job.response
      · obtain ⟨hand, lost, -, hreceived, hkeeps⟩ := hjobs
        rw [busy] at hkeeps
        obtain ⟨rfl, -⟩ := hkeeps
        intro hnodup
        simp only [committedJobs_snoc, WorkerAction.commitment, if_pos hcommits,
          Option.toList_some] at hnodup ⊢
        obtain ⟨hbefore, -, hnew⟩ := List.nodup_append.mp hnodup
        have hanswered : (committedJobs actions).Sublist (answeredJobs actions) := by
          have hpart := h hbefore
          rw [hreceived] at hpart
          apply sublist_of_append_singleton hpart
          intro hmem
          exact hnew job hmem job (List.mem_singleton_self job) rfl
        simpa [hreceived] using hanswered.append_right [job]
      · simpa [CommitsInOrder, WorkerAction.commitment, hcommits] using h
  | _ => simpa [CommitsInOrder, WorkerAction.commitment] using h

/-- What holds of one runtime. -/
structure RunningInvariant (actions : List (WorkerAction Runtime))
    (started : RunningWorldRuntime) : Prop where
  queue : QueueInvariant started
  jobs : JobsInvariant actions started
  ends : EndInvariant actions started
  commits : CommitsInOrder actions

/-- What holds of one runtime holds in all its runs. -/
theorem RunningInvariant.of_run {start : RunningWorldRuntime}
    (hinit : (runningSystem Runtime).init start)
    (hrun : (runningSystem Runtime).Run start actions started) :
    RunningInvariant actions started := by
  refine Lts.Run.history_induction (P := RunningInvariant) ?_ ?_ hrun
  · obtain ⟨capacity, hpolicy, rfl⟩ := hinit
    exact ⟨⟨validatePolicy_eq_ok_iff.mp hpolicy, rfl⟩, ⟨[], [], rfl, rfl, rfl, rfl⟩,
      ⟨nofun, nofun⟩, fun _ => List.Sublist.refl _⟩
  · intro actions started action next _ h hstep
    exact ⟨h.queue.step hstep, h.jobs.step h.queue hstep, h.ends.step hstep,
      h.commits.step h.jobs hstep⟩

/-- What was not answered waits for the thread, is in its hand, or was lost. -/
theorem RunningInvariant.accepted_of_pending (h : RunningInvariant actions started)
    {job : CommandJob}
    (hpending : started.thread = .processing job ∨ job ∈ started.queue.buffer) :
    job ∈ acceptedJobs actions := by
  obtain ⟨hand, lost, haccepted, -, hkeeps⟩ := h.jobs
  rw [haccepted]
  rcases hpending with hbusy | hqueued
  · rw [hbusy] at hkeeps
    obtain ⟨rfl, -⟩ := hkeeps
    simp
  · simp [hqueued]

/-- A command is refused as too many exactly when a running thread has as many accepted commands
left in its queue as fit. While the thread runs nothing is lost, so the buffer holds what was not
received. -/
theorem RunningInvariant.submit_eq_queueFull_iff (h : RunningInvariant actions started)
    {ticket : Nat} {command : WorldCommand} :
    started.submit ticket command = .error .queueFull ↔
      started.queue.sender = true ∧ started.thread.running = true ∧
        (acceptedJobs actions).length =
          (receivedJobs actions).length + started.queue.capacity := by
  have hfull : started.queue.trySend ⟨command, ticket⟩ = .error .full ↔
      started.queue.receiver = true ∧ started.queue.buffer.length = started.queue.capacity :=
    SyncChannel.trySend_eq_full_iff
  have hrefused : started.submit ticket command = .error .queueFull ↔
      started.queue.sender = true ∧
        started.queue.trySend ⟨command, ticket⟩ = .error .full := by
    unfold RunningWorldRuntime.submit
    cases started.queue.sender with
    | false => simp
    | true =>
        cases hsend : started.queue.trySend ⟨command, ticket⟩ with
        | ok queue => simp
        | error error => cases error <;> simp
  rw [hrefused, hfull, h.queue.receiver]
  obtain ⟨hand, lost, haccepted, hreceived, hkeeps⟩ := h.jobs
  have hlength : started.thread.running = true → (acceptedJobs actions).length =
      (receivedJobs actions).length + started.queue.buffer.length := by
    intro hrunning
    rw [haccepted, hreceived, hkeeps.lost_eq_nil hrunning, List.append_nil, List.length_append]
  constructor
  · rintro ⟨hsender, hrunning, hbuffer⟩
    exact ⟨hsender, hrunning, hbuffer ▸ hlength hrunning⟩
  · rintro ⟨hsender, hrunning, hcount⟩
    refine ⟨hsender, hrunning, ?_⟩
    have hsame := hlength hrunning
    omega

end Running

/-! ## Each runtime among the others -/

section Workers

variable {Digest Runtime : Type} [DecidableEq Digest] [DecidableEq Runtime]
  {deps : Dependencies Digest} {systems : Runtime → Systems} {store : WorldStore Digest}
  {labels : List (WorkerLabel Runtime)} {label : WorkerLabel Runtime}
  {state state' : WorkersState Digest Runtime} {runtime : Runtime}
  {shared shared' : SharedState Digest Runtime} {action : WorkerAction Runtime}

/-- What a runtime goes through among the others it does by itself. -/
def RunsByItself (labels : List (WorkerLabel Runtime)) (runtime : Runtime) :
    Option RunningWorldRuntime → Prop
  | none => ownActions runtime labels = []
  | some started => ∃ start, (runningSystem Runtime).init start ∧
      (runningSystem Runtime).Run start (ownActions runtime labels) started

variable {next started : RunningWorldRuntime} {phase : Phase} {job : CommandJob}
  {result : Except WaitError WorldCommandOutcome} {held : WorldCommandTicket}

omit [DecidableEq Digest] in
/-- Which runtime a lookup finds after one of them was replaced. -/
theorem put_runtimes_cases {other : Runtime}
    (h : (state.put runtime next).runtimes other = some started) :
    (other = runtime ∧ started = next) ∨
      (other ≠ runtime ∧ state.runtimes other = some started) := by
  by_cases hother : other = runtime
  · subst hother
    have hself : (state.put other next).runtimes other = some next := Function.update_self ..
    cases hself.symm.trans h
    exact Or.inl ⟨rfl, rfl⟩
  · have hsame : (state.put runtime next).runtimes other = state.runtimes other :=
      Function.update_of_ne hother ..
    exact Or.inr ⟨hother, hsame.symm.trans h⟩

/-- Every runtime runs as if it was alone. -/
theorem runsByItself_of_run (hrun : (workerSystem deps systems).Run (.new store) labels state)
    (runtime : Runtime) : RunsByItself labels runtime (state.runtimes runtime) := by
  refine Lts.Run.history_induction (P := fun labels state =>
    RunsByItself labels runtime (state.runtimes runtime)) ?_ ?_ hrun
  · exact (rfl : ownActions runtime [] = [])
  intro labels state label state' _ h hstep
  have hsnoc : ownActions runtime (labels ++ [label]) =
      ownActions runtime labels ++ (label.action runtime).toList := filterMap_snoc ..
  have hother : label.action runtime = none →
      RunsByItself (labels ++ [label]) runtime (state.runtimes runtime) := by
    intro hnone
    have hsame : ownActions runtime (labels ++ [label]) = ownActions runtime labels := by
      rw [hsnoc, hnone, Option.toList_none, List.append_nil]
    unfold RunsByItself at h ⊢
    rwa [hsame]
  cases hstep with
  | @start changed builder started fresh bound starts =>
      show RunsByItself _ runtime (Function.update state.runtimes changed (some started) runtime)
      by_cases hsame : runtime = changed
      · subst hsame
        rw [fresh] at h
        obtain ⟨hpolicy, rfl⟩ := builder.start_eq_ok starts
        rw [Function.update_self]
        refine ⟨_, ⟨builder.policy.commandQueueCapacity, hpolicy, rfl⟩, ?_⟩
        rw [hsnoc]
        exact h.symm ▸ .refl _
      · rw [Function.update_of_ne hsame]
        exact hother rfl
  | @own changed started next action shared running acts shares =>
      show RunsByItself _ runtime (Function.update state.runtimes changed (some next) runtime)
      by_cases hsame : runtime = changed
      · subst hsame
        rw [running] at h
        obtain ⟨start, hinit, hbefore⟩ := h
        rw [Function.update_self]
        refine ⟨start, hinit, ?_⟩
        rw [hsnoc, WorkerLabel.action, if_pos rfl, Option.toList_some]
        exact hbefore.snoc acts
      · rw [Function.update_of_ne hsame]
        exact hother (if_neg fun heq => hsame heq.symm)
  | wait | dropTicket | serve => exact hother rfl

/-- So what holds of a runtime by itself holds of it among the others. -/
theorem running_of_run (hrun : (workerSystem deps systems).Run (.new store) labels state)
    (hrunning : state.runtimes runtime = some started) :
    RunningInvariant (ownActions runtime labels) started := by
  have h := runsByItself_of_run hrun runtime
  rw [hrunning] at h
  obtain ⟨start, hinit, hown⟩ := h
  exact .of_run hinit hown

/-- A runtime that was joined has a thread that ended in this way. -/
theorem ended_of_join (hrun : (workerSystem deps systems).Run (.new store) labels state)
    {result : Except Unit Unit} (hjoin : .own runtime (.join result) ∈ labels) :
    ∃ started, state.runtimes runtime = some started ∧
      RunningInvariant (ownActions runtime labels) started ∧
      started.thread.join = some result := by
  have hmem := mem_ownActions.mpr hjoin
  cases hstarted : state.runtimes runtime with
  | some started =>
      have h := running_of_run hrun hstarted
      exact ⟨started, rfl, h, h.ends.joined result hmem⟩
  | none =>
      have h := runsByItself_of_run hrun runtime
      rw [hstarted] at h
      rw [show ownActions runtime labels = [] from h] at hmem
      cases hmem

/-! ## The commands in process -/

/-- Every step of the workers is at most one step of the commands in process. -/
theorem WorkerStep.world (hstep : WorkerStep deps systems state label state') :
    (runtimeSystem deps systems).Run state.shared.world label.worldLabel.toList
      state'.shared.world := by
  cases hstep with
  | own running acts shares =>
      cases shares with
      | receive begins => exact .single begins
      | work _ works => exact .single works
      | _ => exact .refl _
  | serve serves => exact .single serves
  | _ => exact .refl _

/-- So a run of the workers is a run of the commands in process. -/
theorem world_run_of_run (hrun : (workerSystem deps systems).Run (.new store) labels state) :
    (runtimeSystem deps systems).Run ⟨store, fun _ => none⟩ (worldLabels labels)
      state.shared.world := by
  refine Lts.Run.history_induction (P := fun labels state =>
    (runtimeSystem deps systems).Run ⟨store, fun _ => none⟩ (worldLabels labels)
      state.shared.world) (.refl _) ?_ hrun
  intro labels state label state' _ hbefore hstep
  rw [worldLabels, filterMap_snoc]
  exact hbefore.append (WorkerStep.world hstep)

omit [DecidableEq Runtime] in
/-- A command in process keeps its runtime, and its result once it has one. -/
theorem RuntimeStep.keeps {world world' : RuntimeState Digest Runtime} {step : RuntimeLabel Runtime}
    {run : Nat} {command : WorldCommand} (hstep : RuntimeStep deps systems world step world')
    (hrun : world.runs run = some ⟨runtime, command, phase⟩) :
    ∃ next, world'.runs run = some ⟨runtime, command, next⟩ ∧
      ∀ result, phase = .finished result → next = phase := by
  by_cases hown : step.run = some run
  · cases hstep with
    | submit fresh =>
        cases hown
        cases fresh.symm.trans hrun
    | serve => cases hown
    | unavailable atPhase reads =>
        cases hown
        cases atPhase.symm.trans hrun
        refine ⟨_, RuntimeState.put_runs_self, ?_⟩
        rintro result rfl
        rcases reads with hphase | hphase <;> cases hphase
    | lookup atPhase | pin atPhase | evaluate atPhase | commit atPhase | commitFailed atPhase
    | readEvents atPhase =>
        cases hown
        cases atPhase.symm.trans hrun
        exact ⟨_, RuntimeState.put_runs_self, nofun⟩
  · exact ⟨phase, (RuntimeStep.runs_of_ne hstep hown).trans hrun, fun _ _ => rfl⟩

/-- The same for a step of a worker. -/
theorem WorkerStep.keeps {run : Nat} {command : WorldCommand}
    (hstep : WorkerStep deps systems state label state')
    (hrun : state.shared.world.runs run = some ⟨runtime, command, phase⟩) :
    ∃ next, state'.shared.world.runs run = some ⟨runtime, command, next⟩ ∧
      ∀ result, phase = .finished result → next = phase := by
  cases hstep with
  | own running acts shares =>
      cases shares with
      | receive begins => exact RuntimeStep.keeps begins hrun
      | work _ works => exact RuntimeStep.keeps works hrun
      | _ => exact ⟨phase, hrun, fun _ _ => rfl⟩
  | serve serves => exact RuntimeStep.keeps serves hrun
  | _ => exact ⟨phase, hrun, fun _ _ => rfl⟩

/-- The job in the hand of a thread is in process, and an answered one has its result. -/
structure InProcess (labels : List (WorkerLabel Runtime)) (state : WorkersState Digest Runtime) :
    Prop where
  inHand : ∀ runtime started job, state.runtimes runtime = some started →
    started.thread = .processing job →
    ∃ phase, state.shared.world.runs job.response = some ⟨runtime, job.command, phase⟩
  answered : ∀ runtime job result, .own runtime (.respond job result) ∈ labels →
    state.shared.world.runs job.response = some ⟨runtime, job.command, .finished result⟩

omit [DecidableEq Digest] [DecidableEq Runtime] in
/-- Only taking a job puts it into the hand of a thread. -/
theorem RunningWorldRuntime.Step.processing (hstep : started.Step action next)
    (hbusy : next.thread = .processing job) :
    action = .receive job ∨ started.thread = .processing job := by
  cases hstep with
  | accept submits =>
      obtain ⟨queue, -, rfl, -⟩ := submit_eq_ok submits
      exact Or.inr hbusy
  | receive =>
      cases hbusy
      exact Or.inl rfl
  | refuse | work | stop | join => exact Or.inr hbusy
  | respond | finish | panic => cases hbusy

/-- A step puts the job in process that it takes, and keeps all results. -/
theorem InProcess.step (h : InProcess labels state)
    (hstep : WorkerStep deps systems state label state') :
    InProcess (labels ++ [label]) state' := by
  have hold : ∀ runtime started job, state.runtimes runtime = some started →
      started.thread = .processing job → ∃ phase,
        state'.shared.world.runs job.response = some ⟨runtime, job.command, phase⟩ := by
    intro runtime started job hrunning hbusy
    obtain ⟨phase, hphase⟩ := h.inHand runtime started job hrunning hbusy
    obtain ⟨next, hnext, -⟩ := hstep.keeps hphase
    exact ⟨next, hnext⟩
  refine ⟨?_, ?_⟩
  · intro runtime started job hrunning hbusy
    cases hstep with
    | start fresh bound starts =>
        rcases put_runtimes_cases hrunning with ⟨rfl, rfl⟩ | ⟨-, hbefore⟩
        · obtain ⟨-, rfl⟩ := WorldRuntimeBuilder.start_eq_ok starts
          cases hbusy
        · exact hold runtime started job hbefore hbusy
    | @own changed started' next action shared running acts shares =>
        rcases put_runtimes_cases hrunning with ⟨rfl, rfl⟩ | ⟨-, hbefore⟩
        · rcases acts.processing hbusy with rfl | hbefore
          · cases shares with
            | receive begins =>
                cases begins with
                | submit => exact ⟨_, RuntimeState.put_runs_self⟩
          · exact hold runtime started' job running hbefore
        · exact hold runtime started job hbefore hbusy
    | wait | dropTicket | serve => exact hold runtime started job hrunning hbusy
  · intro runtime job result hmem
    rcases List.mem_append.mp hmem with hbefore | hnew
    · obtain ⟨next, hnext, hsame⟩ := hstep.keeps (h.answered runtime job result hbefore)
      rw [hnext, hsame result rfl]
    · cases List.mem_singleton.mp hnew
      cases hstep with
      | own running acts shares =>
          cases shares with
          | respond finished => exact finished

/-- In every run, the job in the hand of a thread is in process. -/
theorem inProcess_of_run (hrun : (workerSystem deps systems).Run (.new store) labels state) :
    InProcess labels state := by
  refine Lts.Run.history_induction (P := InProcess) ⟨?_, ?_⟩ ?_ hrun
  · intro runtime started job hrunning
    cases hrunning
  · intro runtime job result hmem
    cases hmem
  · intro labels state label state' _ h hstep
    exact h.step hstep

/-! ## Commits -/

/-- The command that a step of the serial history processes. -/
def SerialLabel.processedCommand : SerialLabel → Option WorldCommand
  | .process command _ _ => some command
  | .serve _ _ => none

/-- The commands of a serial history, in commit order. -/
def processedCommands (labels : List SerialLabel) : List WorldCommand :=
  labels.filterMap SerialLabel.processedCommand

/-- What a step commits as new, in the words of the commands in process. -/
structure CommitsAgree (labels : List (WorkerLabel Runtime)) : Prop where
  commands : processedCommands (serialLabels (worldLabels labels)) =
    (allCommittedJobs labels).map CommandJob.command
  tickets : (worldLabels labels).filterMap RuntimeLabel.commitsNew =
    (allCommittedJobs labels).map CommandJob.response

omit [DecidableEq Runtime] in
/-- A step that processes the job in hand commits this job, or nothing. -/
theorem commitsAgree_of_work {step : RuntimeLabel Runtime}
    {world world' : RuntimeState Digest Runtime}
    (hphase : world.runs job.response = some ⟨runtime, job.command, phase⟩)
    (hown : step.run = some job.response) (hworks : RuntimeStep deps systems world step world') :
    processedCommands (serialLabels [step]) =
        ((WorkerAction.work job step).commitment.map CommandJob.command).toList ∧
      step.commitsNew = (WorkerAction.work job step).commitment.map CommandJob.response := by
  cases hworks with
  | @commit run _ command output evaluatedPosition clock receipt store' atPhase serves =>
      cases hown
      cases atPhase.symm.trans hphase
      cases hdisposition : receipt.disposition <;>
        simp [processedCommands, serialLabels, serialLabel, WorkerAction.commitment,
          RuntimeLabel.commitsNew, SerialLabel.processedCommand, hdisposition]
  | serve => cases hown
  | _ => exact ⟨rfl, rfl⟩

/-- In every run, the commits are those of the committed jobs, in order. -/
theorem commitsAgree_of_run (hrun : (workerSystem deps systems).Run (.new store) labels state) :
    CommitsAgree labels := by
  refine Lts.Run.history_induction (P := fun labels _ => CommitsAgree labels) ⟨rfl, rfl⟩ ?_ hrun
  intro labels state label state' hbefore h hstep
  have hlast : processedCommands (serialLabels label.worldLabel.toList) =
        (label.commitment.map CommandJob.command).toList ∧
      label.worldLabel.bind RuntimeLabel.commitsNew =
        label.commitment.map CommandJob.response := by
    cases hstep with
    | own running acts shares =>
        cases shares with
        | work own works =>
            cases acts with
            | work busy =>
                obtain ⟨phase, hphase⟩ := (inProcess_of_run hbefore).inHand _ _ _ running busy
                exact commitsAgree_of_work hphase own works
        | _ => exact ⟨rfl, rfl⟩
    | _ => exact ⟨rfl, rfl⟩
  obtain ⟨hcommand, hticket⟩ := hlast
  have hworld : worldLabels (labels ++ [label]) =
      worldLabels labels ++ label.worldLabel.toList := filterMap_snoc ..
  have hcommitted : allCommittedJobs (labels ++ [label]) =
      allCommittedJobs labels ++ label.commitment.toList := filterMap_snoc ..
  refine ⟨?_, ?_⟩
  · rw [hworld, hcommitted, List.map_append, ← h.commands]
    show ((worldLabels labels ++ label.worldLabel.toList).filterMap serialLabel).filterMap
      SerialLabel.processedCommand = _
    rw [List.filterMap_append, List.filterMap_append]
    refine congrArg _ (hcommand.trans ?_)
    cases label.commitment <;> rfl
  · rw [hworld, hcommitted, List.map_append, List.filterMap_append, h.tickets]
    congr 1
    cases hread : label.worldLabel with
    | none =>
        rw [hread] at hticket
        cases hcommits : label.commitment with
        | none => rfl
        | some job =>
            rw [hcommits] at hticket
            cases hticket
    | some step =>
        rw [hread, Option.bind_some] at hticket
        rw [Option.toList_some, List.filterMap_cons, hticket]
        cases label.commitment <;> rfl

omit [DecidableEq Runtime] in
/-- A run of a command commits as new at most once. -/
theorem nodup_commitsNew {world : RuntimeState Digest Runtime} {steps : List (RuntimeLabel Runtime)}
    (hrun : (runtimeSystem deps systems).Run ⟨store, fun _ => none⟩ steps world) :
    (steps.filterMap RuntimeLabel.commitsNew).Nodup := by
  refine Lts.Run.history_induction (P := fun steps _ =>
    (steps.filterMap RuntimeLabel.commitsNew).Nodup) List.nodup_nil ?_ hrun
  intro steps world step world' hbefore h hstep
  rw [filterMap_snoc]
  cases hcommits : step.commitsNew with
  | none => simpa using h
  | some run =>
      have hnot : NotCommitted steps run := by
        cases hstep with
        | commit atPhase =>
            have hown := notCommitted_of_phase (invariant_of_run hbefore) atPhase
            simp only [RuntimeLabel.commitsNew] at hcommits
            split at hcommits
            · cases hcommits
              exact hown.1
            · cases hcommits
        | _ => cases hcommits
      refine h.append (List.nodup_singleton run) ?_
      intro other hmem hlast
      rw [Option.toList_some, List.mem_singleton] at hlast
      obtain ⟨earlier, hearlier, hnew⟩ := List.mem_filterMap.mp hmem
      exact hnot earlier hearlier (hlast ▸ hnew)

omit [DecidableEq Digest] in
/-- The commits of one runtime are among those of all. -/
theorem committedJobs_ownActions_sublist :
    (committedJobs (ownActions runtime labels)).Sublist (allCommittedJobs labels) := by
  induction labels with
  | nil => exact List.Sublist.refl _
  | cons label rest ih =>
      cases label with
      | own other action =>
          by_cases hsame : other = runtime
          · cases hcommits : action.commitment <;>
              simpa [ownActions, WorkerLabel.action, hsame, committedJobs, allCommittedJobs,
                WorkerLabel.commitment, hcommits] using ih
          · cases hcommits : action.commitment with
            | none =>
                simpa [ownActions, WorkerLabel.action, hsame, committedJobs, allCommittedJobs,
                  WorkerLabel.commitment, hcommits] using ih
            | some job =>
                simpa [ownActions, WorkerLabel.action, hsame, committedJobs, allCommittedJobs,
                  WorkerLabel.commitment, hcommits] using ih.cons job
      | _ => exact ih

/-- Whatever the interleaving, the database is the one that processing the committed
commands alone gives, one after another. These are the commands that the workers
committed as new, each ticket at most once, and those of one runtime come in the order
in which it accepted them. -/
theorem worker_commits_in_order {worldId : WorldId}
    (hrun : (workerSystem deps systems).Run (.new (WorldStore.create Digest worldId)) labels
      state) :
    (serialSystem deps systems).Run (WorldStore.create Digest worldId)
        (serialLabels (worldLabels labels)) state.shared.world.store ∧
      processedCommands (serialLabels (worldLabels labels)) =
        (allCommittedJobs labels).map CommandJob.command ∧
      ((allCommittedJobs labels).map CommandJob.response).Nodup ∧
      ∀ runtime, (committedJobs (ownActions runtime labels)).Sublist
        (acceptedJobs (ownActions runtime labels)) := by
  have hagree := commitsAgree_of_run hrun
  have hnodup : ((allCommittedJobs labels).map CommandJob.response).Nodup :=
    hagree.tickets ▸ nodup_commitsNew (world_run_of_run hrun)
  refine ⟨serial_of_run (world_run_of_run hrun), hagree.commands, hnodup, ?_⟩
  intro runtime
  have hself := runsByItself_of_run hrun runtime
  cases hstarted : state.runtimes runtime with
  | none =>
      rw [hstarted] at hself
      rw [show ownActions runtime labels = [] from hself]
      exact List.Sublist.refl _
  | some started =>
      have h := running_of_run hrun hstarted
      obtain ⟨hand, lost, haccepted, hreceived, -⟩ := h.jobs
      have hpart := h.commits ((List.Nodup.of_map _ hnodup).sublist
        committedJobs_ownActions_sublist)
      rw [haccepted, ← hreceived, List.append_assoc]
      exact hpart.trans (List.sublist_append_left _ _)

/-! ## Tickets -/

/-- What is on record of a result that came with a ticket. -/
def Recorded (labels : List (WorkerLabel Runtime)) (ticket : Nat)
    (result : Except WaitError WorldCommandOutcome) : Prop :=
  ∃ runtime job, .own runtime (.accept job) ∈ labels ∧ job.response = ticket ∧
    ((∃ answer, .own runtime (.respond job answer) ∈ labels ∧ result = answer.mapError .runtime) ∨
      ∃ lost, .own runtime (.panic lost) ∈ labels ∧ job ∈ lost ∧ result = .error .workerStopped)

/-- What tickets hold. Each was given out once, a result in it is on record, and while it
waits, its job waits in the queue of a runtime or is in the hand of its thread. -/
structure TicketsInvariant (labels : List (WorkerLabel Runtime))
    (state : WorkersState Digest Runtime) : Prop where
  owners : (issuedTickets labels).Nodup
  issued : ∀ ticket ∈ issuedTickets labels, state.shared.tickets ticket ≠ none
  contents : ∀ ticket held result, state.shared.tickets ticket = some held →
    held.waitOutcome = some result → Recorded labels ticket result
  waited : ∀ ticket result, .wait ticket result ∈ labels → Recorded labels ticket result
  waiting : ∀ runtime job held, .own runtime (.accept job) ∈ labels →
    state.shared.tickets job.response = some held → held.receiver = .waiting →
    ∃ started, state.runtimes runtime = some started ∧
      (started.thread = .processing job ∨ job ∈ started.queue.buffer)

omit [DecidableEq Runtime] in
/-- What was recorded stays recorded. -/
theorem Recorded.mono {ticket : Nat} (h : Recorded labels ticket result)
    (label : WorkerLabel Runtime) : Recorded (labels ++ [label]) ticket result := by
  obtain ⟨runtime, job, haccept, hticket, hresult⟩ := h
  refine ⟨runtime, job, List.mem_append_left _ haccept, hticket, ?_⟩
  rcases hresult with ⟨answer, hrespond, heq⟩ | ⟨lost, hpanic, hlost⟩
  · exact Or.inl ⟨answer, List.mem_append_left _ hrespond, heq⟩
  · exact Or.inr ⟨lost, List.mem_append_left _ hpanic, hlost⟩

omit [DecidableEq Digest] [DecidableEq Runtime] in
/-- What a changed ticket held before. -/
theorem SharedState.of_change {changed : List Nat}
    {change : ReplyChannel CommandResult → ReplyChannel CommandResult} {ticket : Nat}
    {held' : WorldCommandTicket}
    (h : (shared.change changed change).tickets ticket = some held') :
    ∃ held, shared.tickets ticket = some held ∧
      ((ticket ∉ changed ∧ held' = held) ∨
        ticket ∈ changed ∧ held' = { held with receiver := change held.receiver }) := by
  simp only [SharedState.change] at h
  split at h
  next hmem =>
    obtain ⟨held, hheld, rfl⟩ := Option.map_eq_some_iff.mp h
    exact ⟨held, hheld, Or.inr ⟨hmem, rfl⟩⟩
  next hmem => exact ⟨held', h, Or.inl ⟨hmem, rfl⟩⟩

omit [DecidableEq Digest] [DecidableEq Runtime] in
theorem SharedState.change_eq_none_iff {changed : List Nat}
    {change : ReplyChannel CommandResult → ReplyChannel CommandResult} {ticket : Nat} :
    (shared.change changed change).tickets ticket = none ↔ shared.tickets ticket = none := by
  simp only [SharedState.change]
  split
  · exact Option.map_eq_none_iff
  · exact Iff.rfl

omit [DecidableEq Runtime] in
/-- A job that is in the queue or in hand stays there until its ticket is settled. -/
theorem RunningWorldRuntime.Step.pending (hstep : started.Step action next)
    (hpending : started.thread = .processing job ∨ job ∈ started.queue.buffer) :
    (next.thread = .processing job ∨ job ∈ next.queue.buffer) ∨ job ∈ action.settledJobs := by
  cases hstep with
  | accept submits =>
      obtain ⟨queue, hsend, rfl, -⟩ := submit_eq_ok submits
      obtain ⟨-, -, hbuffer, -⟩ := SyncChannel.trySend_eq_ok_iff.mp hsend
      exact Or.inl (hpending.imp_right fun hqueued => by simp [hbuffer, hqueued])
  | receive idle receives =>
      obtain ⟨hbuffer, -⟩ := SyncChannel.recv_eq_message_iff.mp receives
      simp only [idle, hbuffer, reduceCtorEq, false_or, List.mem_cons] at hpending
      rcases hpending with rfl | hqueued
      · exact Or.inl (Or.inl rfl)
      · exact Or.inl (Or.inr hqueued)
  | respond busy =>
      rcases hpending with hbusy | hqueued
      · cases busy.symm.trans hbusy
        exact Or.inr List.mem_cons_self
      · exact Or.inl (Or.inr hqueued)
  | finish idle receives =>
      obtain ⟨hbuffer, -⟩ := SyncChannel.recv_eq_disconnected_iff.mp receives
      simp [idle, hbuffer] at hpending
  | panic busy =>
      right
      rcases hpending with hbusy | hqueued
      · cases busy.symm.trans hbusy
        exact List.mem_cons_self
      · exact List.mem_cons_of_mem _ hqueued
  | refuse | work | stop | join => exact Or.inl hpending

omit [DecidableEq Runtime] in
/-- A ticket that waits after a step of a runtime is new, or waited before and was not
settled. -/
theorem SharedStep.waiting (hstep : SharedStep deps systems runtime shared action shared')
    {ticket : Nat} (hheld : shared'.tickets ticket = some held)
    (hwaiting : held.receiver = .waiting) :
    (∃ job, action = .accept job ∧ job.response = ticket) ∨
      shared.tickets ticket = some held ∧
        ticket ∉ action.settledJobs.map CommandJob.response := by
  cases hstep with
  | @accept job fresh =>
      simp only [Function.update_apply] at hheld
      split at hheld
      next hsame => exact Or.inl ⟨job, rfl, hsame.symm⟩
      · exact Or.inr ⟨hheld, List.not_mem_nil⟩
  | respond =>
      obtain ⟨before, hbefore, ⟨hnot, rfl⟩ | ⟨-, rfl⟩⟩ := SharedState.of_change hheld
      · exact Or.inr ⟨hbefore, hnot⟩
      · exact absurd hwaiting ReplyChannel.send_ne_waiting
  | panic =>
      obtain ⟨before, hbefore, ⟨hnot, rfl⟩ | ⟨-, rfl⟩⟩ := SharedState.of_change hheld
      · exact Or.inr ⟨hbefore, hnot⟩
      · exact absurd hwaiting ReplyChannel.close_ne_waiting
  | refuse | receive | work | stop | finish | join => exact Or.inr ⟨hheld, List.not_mem_nil⟩

omit [DecidableEq Runtime] in
/-- A result in a ticket was there before a step of a runtime, or the step puts it there. -/
theorem SharedStep.outcome (hstep : SharedStep deps systems runtime shared action shared')
    {ticket : Nat} (hheld : shared'.tickets ticket = some held)
    (hanswered : held.waitOutcome = some result) :
    (∃ before, shared.tickets ticket = some before ∧ before.waitOutcome = some result) ∨
      (∃ job answer, action = .respond job answer ∧ job.response = ticket ∧
        result = answer.mapError .runtime) ∨
      ∃ lost job, action = .panic lost ∧ job ∈ lost ∧ job.response = ticket ∧
        result = .error .workerStopped := by
  cases hstep with
  | @accept job fresh =>
      simp only [Function.update_apply] at hheld
      split at hheld
      · cases hheld
        cases hanswered
      · exact Or.inl ⟨held, hheld, hanswered⟩
  | @respond job answer finished =>
      obtain ⟨before, hbefore, ⟨-, rfl⟩ | ⟨hmem, rfl⟩⟩ := SharedState.of_change hheld
      · exact Or.inl ⟨_, hbefore, hanswered⟩
      · rcases ReplyChannel.send_cases answer before.receiver with ⟨-, hsent⟩ | hsame
        · rw [hsent] at hanswered
          cases hanswered
          exact Or.inr (Or.inl ⟨job, answer, rfl, (List.mem_singleton.mp hmem).symm, rfl⟩)
        · rw [hsame] at hanswered
          exact Or.inl ⟨before, hbefore, hanswered⟩
  | @panic lost =>
      obtain ⟨before, hbefore, ⟨-, rfl⟩ | ⟨hmem, rfl⟩⟩ := SharedState.of_change hheld
      · exact Or.inl ⟨_, hbefore, hanswered⟩
      · rcases ReplyChannel.close_cases before.receiver with ⟨-, hclosed⟩ | hsame
        · rw [hclosed] at hanswered
          cases hanswered
          obtain ⟨job, hjob, hresponse⟩ := List.mem_map.mp hmem
          exact Or.inr (Or.inr ⟨lost, job, rfl, hjob, hresponse, rfl⟩)
        · rw [hsame] at hanswered
          exact Or.inl ⟨before, hbefore, hanswered⟩
  | refuse | receive | work | stop | finish | join => exact Or.inl ⟨held, hheld, hanswered⟩

/-- A step gives out a ticket that did not exist, and takes none away. -/
theorem WorkerStep.ticket (hstep : WorkerStep deps systems state label state') (ticket : Nat) :
    (label.ticket = some ticket → state.shared.tickets ticket = none) ∧
      (state'.shared.tickets ticket = none →
        state.shared.tickets ticket = none ∧ label.ticket ≠ some ticket) := by
  have hkept : ∀ {changed : List Nat} {change : ReplyChannel CommandResult → _},
      (state.shared.change changed change).tickets ticket = none →
      state.shared.tickets ticket = none := SharedState.change_eq_none_iff.mp
  have hlet : ∀ {gone : Nat},
      (state.shared.change [gone] fun _ => .gone).tickets ticket = none →
      state.shared.tickets ticket = none := hkept
  cases hstep with
  | own running acts shares =>
      cases shares with
      | @accept job fresh =>
          refine ⟨fun hticket => Option.some.inj hticket ▸ fresh, ?_⟩
          intro hnone
          simp only [Function.update_apply] at hnone
          split at hnone
          · cases hnone
          next hother => exact ⟨hnone, fun heq => hother (Option.some.inj heq).symm⟩
      | respond | panic => exact ⟨nofun, fun hnone => ⟨hkept hnone, nofun⟩⟩
      | _ => exact ⟨nofun, fun hnone => ⟨hnone, nofun⟩⟩
  | wait | dropTicket => exact ⟨nofun, fun hnone => ⟨hlet hnone, nofun⟩⟩
  | start | serve => exact ⟨nofun, fun hnone => ⟨hnone, nofun⟩⟩

/-- A result in a ticket after a step is on record. -/
theorem recorded_of_step (h : TicketsInvariant labels state)
    (hrun : (workerSystem deps systems).Run (.new store) labels state)
    (hstep : WorkerStep deps systems state label state') {ticket : Nat}
    (hheld : state'.shared.tickets ticket = some held)
    (hanswered : held.waitOutcome = some result) :
    Recorded (labels ++ [label]) ticket result := by
  have hlet : ∀ {gone : Nat},
      (state.shared.change [gone] fun _ => .gone).tickets ticket = some held →
      Recorded (labels ++ [label]) ticket result := by
    intro gone hgone
    obtain ⟨before, hbefore, ⟨-, rfl⟩ | ⟨-, rfl⟩⟩ := SharedState.of_change hgone
    · exact (h.contents ticket held result hbefore hanswered).mono label
    · cases hanswered
  cases hstep with
  | start | serve => exact (h.contents ticket held result hheld hanswered).mono _
  | wait | dropTicket => exact hlet hheld
  | @own runtime started next action shared running acts shares =>
      have hself := running_of_run hrun running
      have haccept : ∀ {job}, started.thread = .processing job ∨ job ∈ started.queue.buffer →
          .own runtime (.accept job) ∈ labels ++ [.own runtime action] := fun hpending =>
        List.mem_append_left _
          (mem_ownActions.mp (mem_acceptedJobs.mp (hself.accepted_of_pending hpending)))
      rcases shares.outcome hheld hanswered with ⟨before, hbefore, hold⟩ |
        ⟨job, answer, rfl, hticket, hresult⟩ | ⟨lost, job, rfl, hlost, hticket, hresult⟩
      · exact (h.contents ticket before result hbefore hold).mono _
      · cases acts with
        | respond busy =>
            exact ⟨runtime, job, haccept (Or.inl busy), hticket,
              Or.inl ⟨answer, by simp, hresult⟩⟩
      · cases acts with
        | panic busy =>
            refine ⟨runtime, job, haccept ?_, hticket, Or.inr ⟨_, by simp, hlost, hresult⟩⟩
            rcases List.mem_cons.mp hlost with rfl | hqueued
            · exact Or.inl busy
            · exact Or.inr hqueued

/-- While a ticket waits after a step, its job is in a queue or in hand. -/
theorem pending_of_step (h : TicketsInvariant labels state)
    (hstep : WorkerStep deps systems state label state')
    (haccept : .own runtime (.accept job) ∈ labels ++ [label])
    (hheld : state'.shared.tickets job.response = some held) (hwaiting : held.receiver = .waiting) :
    ∃ started, state'.runtimes runtime = some started ∧
      (started.thread = .processing job ∨ job ∈ started.queue.buffer) := by
  have hlet : ∀ {gone : Nat},
      (state.shared.change [gone] fun _ => .gone).tickets job.response = some held →
      state.shared.tickets job.response = some held := by
    intro gone hgone
    obtain ⟨before, hbefore, ⟨-, rfl⟩ | ⟨-, rfl⟩⟩ := SharedState.of_change hgone
    · exact hbefore
    · cases hwaiting
  cases hstep with
  | @start changed builder started fresh bound starts =>
      obtain ⟨other, hother, hpending⟩ := h.waiting runtime job held (by simpa using haccept) hheld
        hwaiting
      refine ⟨other, (Function.update_of_ne ?_ ..).trans hother, hpending⟩
      rintro rfl
      cases fresh.symm.trans hother
  | wait | dropTicket =>
      exact h.waiting runtime job held (by simpa using haccept) (hlet hheld) hwaiting
  | serve => exact h.waiting runtime job held (by simpa using haccept) hheld hwaiting
  | @own changed started next action shared running acts shares =>
      rcases shares.waiting hheld hwaiting with ⟨other, rfl, hticket⟩ | ⟨hbefore, hunsettled⟩
      · rcases List.mem_append.mp haccept with hold | hnew
        · -- the ticket of an older job is not given out again
          have hissued : job.response ∈ issuedTickets labels :=
            List.mem_filterMap.mpr ⟨_, hold, rfl⟩
          cases shares with
          | accept fresh => exact absurd (hticket ▸ fresh) (h.issued _ hissued)
        · cases List.mem_singleton.mp hnew
          cases acts with
          | accept submits =>
              obtain ⟨queue, hsend, rfl, -⟩ := submit_eq_ok submits
              obtain ⟨-, -, hbuffer, -⟩ := SyncChannel.trySend_eq_ok_iff.mp hsend
              exact ⟨_, Function.update_self .., Or.inr (by simp [hbuffer])⟩
      · have hold : .own runtime (.accept job) ∈ labels := by
          rcases List.mem_append.mp haccept with hold | hnew
          · exact hold
          · cases List.mem_singleton.mp hnew
            cases shares with
            | accept fresh => cases fresh.symm.trans hbefore
        obtain ⟨other, hother, hpending⟩ := h.waiting runtime job held hold hbefore hwaiting
        by_cases hsame : runtime = changed
        · subst hsame
          cases running.symm.trans hother
          refine ⟨next, Function.update_self .., ?_⟩
          rcases acts.pending hpending with hkept | hsettled
          · exact hkept
          · exact absurd (List.mem_map_of_mem hsettled) hunsettled
        · exact ⟨other, (Function.update_of_ne hsame ..).trans hother, hpending⟩

/-- In every run, what tickets hold is on record. -/
theorem ticketsInvariant_of_run
    (hrun : (workerSystem deps systems).Run (.new store) labels state) :
    TicketsInvariant labels state := by
  refine Lts.Run.history_induction (P := TicketsInvariant) ?_ ?_ hrun
  · refine ⟨List.nodup_nil, ?_, ?_, ?_, ?_⟩
    · intro ticket hmem
      cases hmem
    · intro ticket held result hheld
      cases hheld
    · intro ticket result hmem
      cases hmem
    · intro runtime job held hmem
      cases hmem
  intro labels state label state' hbefore h hstep
  have hissued : issuedTickets (labels ++ [label]) =
      issuedTickets labels ++ label.ticket.toList := filterMap_snoc ..
  refine ⟨?_, ?_, ?_, ?_, ?_⟩
  · rw [hissued]
    refine h.owners.append (by cases label.ticket <;> simp) ?_
    intro ticket hold hnew
    exact h.issued ticket hold ((hstep.ticket ticket).1 (Option.mem_toList.mp hnew))
  · intro ticket hmem hnone
    obtain ⟨hbefore, hother⟩ := (hstep.ticket ticket).2 hnone
    rw [hissued, List.mem_append, Option.mem_toList] at hmem
    exact hmem.elim (fun hold => h.issued ticket hold hbefore) hother
  · intro ticket held result hheld hanswered
    exact recorded_of_step h hbefore hstep hheld hanswered
  · intro ticket result hmem
    rcases List.mem_append.mp hmem with hold | hnew
    · exact (h.waited ticket result hold).mono label
    · cases List.mem_singleton.mp hnew
      cases hstep with
      | wait holds answered => exact (h.contents ticket _ result holds answered).mono _
  · intro runtime job held haccept hheld hwaiting
    exact pending_of_step h hstep haccept hheld hwaiting

/-- In every interleaving, the commands that one runtime accepted are those that its
worker took, those that wait, and those that a panic lost, in this order; no ticket is
given out twice. The queue is bounded, and a command is refused as too many exactly
when as many as fit wait for a running worker. The worker answered all commands it
took, in the order in which it took them, but at most the last one. -/
theorem worker_queue_in_order (hrun : (workerSystem deps systems).Run (.new store) labels state)
    (hrunning : state.runtimes runtime = some started) : let own := ownActions runtime labels
    (issuedTickets labels).Nodup ∧
      (∃ lost, acceptedJobs own = receivedJobs own ++ started.queue.buffer ++ lost ∧
        (lost ≠ [] → started.thread = .panicked)) ∧
      (∃ hand, receivedJobs own = answeredJobs own ++ hand ∧ hand.length ≤ 1) ∧
      (0 < started.queue.capacity ∧ started.queue.capacity ≤ maxCommandQueueCapacity) ∧
      ∀ ticket command, started.submit ticket command = .error .queueFull ↔
        started.queue.sender = true ∧ started.thread.running = true ∧
          (acceptedJobs own).length = (receivedJobs own).length + started.queue.capacity := by
  intro own
  have h := running_of_run hrun hrunning
  obtain ⟨hand, lost, haccepted, hreceived, hkeeps⟩ := h.jobs
  refine ⟨(ticketsInvariant_of_run hrun).owners, ⟨lost, ?_, ?_⟩, ⟨hand, hreceived, ?_⟩,
    h.queue.capacity, fun _ _ => h.submit_eq_queueFull_iff⟩
  · rw [haccepted, hreceived]
  · intro hlost
    cases hthread : started.thread <;> simp_all [WorkerThread.Keeps]
  · cases hthread : started.thread with
    | receiving | returned | processing _ =>
        rw [hthread] at hkeeps
        simp [hkeeps.1]
    | panicked =>
        rw [hthread] at hkeeps
        obtain ⟨⟨job, rfl⟩, -⟩ := hkeeps
        exact Nat.le_refl 1

/-- In every interleaving, a result that comes with a ticket is the one that the worker
sent for the command of the ticket, or says that the worker stopped, and then a panic
lost the command. When a shutdown reports success, every command that was accepted has
the result of its own processing; when it reports a panic, the thread panicked. After
either, no holder of a ticket waits in vain. -/
theorem tickets_get_their_results
    (hrun : (workerSystem deps systems).Run (.new store) labels state) :
    (∀ ticket result, .wait ticket result ∈ labels → Recorded labels ticket result) ∧
      (∀ runtime, .own runtime (.join (.ok ())) ∈ labels →
        ∀ job, .own runtime (.accept job) ∈ labels →
          ∃ result, .own runtime (.respond job result) ∈ labels ∧
            state.shared.world.runs job.response =
              some ⟨runtime, job.command, .finished result⟩) ∧
      (∀ runtime, .own runtime (.join (.error ())) ∈ labels →
        ∃ lost, .own runtime (.panic lost) ∈ labels) ∧
      ∀ runtime ended, .own runtime (.join ended) ∈ labels →
        ∀ job, .own runtime (.accept job) ∈ labels →
          ∃ held, state.shared.tickets job.response = some held ∧ held.receiver ≠ .waiting := by
  have htickets := ticketsInvariant_of_run hrun
  refine ⟨htickets.waited, ?_, ?_, ?_⟩
  · intro runtime hjoin job hjob
    obtain ⟨started, -, h, hjoined⟩ := ended_of_join hrun hjoin
    obtain ⟨hand, lost, haccepted, -, hkeeps⟩ := h.jobs
    have hmem := mem_acceptedJobs.mpr (mem_ownActions.mpr hjob)
    cases hthread : started.thread with
    | returned =>
        rw [hthread] at hkeeps
        obtain ⟨rfl, hbuffer, rfl⟩ := hkeeps
        rw [haccepted, hbuffer] at hmem
        simp only [List.append_nil, answeredJobs, List.mem_filterMap] at hmem
        obtain ⟨action, haction, hread⟩ := hmem
        cases action with
        | respond other result =>
            cases hread
            have hsent := mem_ownActions.mp haction
            exact ⟨result, hsent, (inProcess_of_run hrun).answered runtime job result hsent⟩
        | _ => cases hread
    | receiving | processing _ | panicked =>
        rw [hthread] at hjoined
        cases hjoined
  · intro runtime hjoin
    obtain ⟨started, -, h, hjoined⟩ := ended_of_join hrun hjoin
    cases hthread : started.thread with
    | panicked =>
        obtain ⟨lost, hlost⟩ := h.ends.panicked hthread
        exact ⟨lost, mem_ownActions.mp hlost⟩
    | receiving | processing _ | returned =>
        rw [hthread] at hjoined
        cases hjoined
  · intro runtime ended hjoin job hjob
    have hissued : job.response ∈ issuedTickets labels :=
      List.mem_filterMap.mpr ⟨_, hjob, rfl⟩
    obtain ⟨held, hheld⟩ := Option.ne_none_iff_exists'.mp (htickets.issued _ hissued)
    refine ⟨held, hheld, ?_⟩
    intro hwaiting
    obtain ⟨started, hrunning, h, hjoined⟩ := ended_of_join hrun hjoin
    obtain ⟨other, hother, hpending⟩ := htickets.waiting runtime job held hjob hheld hwaiting
    cases hrunning.symm.trans hother
    obtain ⟨hand, lost, -, -, hkeeps⟩ := h.jobs
    cases hthread : started.thread with
    | returned | panicked =>
        rw [hthread] at hkeeps
        simp [hthread, WorkerThread.Keeps] at hkeeps hpending
        simp [hkeeps] at hpending
    | receiving | processing _ =>
        rw [hthread] at hjoined
        cases hjoined

end Workers

/-! ## Two workers -/

section Demo

/-- A job for a demonstration command, with its ticket. -/
def demoJob (command ticket : Nat) : CommandJob := ⟨demoCommand command, ticket⟩

/-- A builder whose only system answers the first demo command with the demo transaction, and every
other one with the second transaction. -/
def pairBuilder : WorldRuntimeBuilder :=
  { WorldRuntimeBuilder.new with
    systems := AList.insert (demoKey "demo.move")
      ⟨fun _ command evaluation => evaluation =
        .returned (if command.id = ⟨1⟩ then demoTransaction else otherEntity), .ordinary⟩ ∅ }

/-- The receipt of the first commit. -/
def firstReceipt : CommitReceipt := ⟨.committed, ⟨1⟩, 1, [⟨1⟩], [⟨1⟩]⟩

/-- The receipt of the second commit, which is that of the third command. -/
def thirdReceipt : CommitReceipt := ⟨.committed, ⟨3⟩, 2, [], []⟩

/-- The database of the two workers after the first commit. -/
def afterFirst : WorldStore String := pairStore [demoCommit 1 0 demoTransaction]

/-- The database of the two workers after both commits. -/
def afterThird : WorldStore String :=
  pairStore [demoCommit 1 0 demoTransaction, demoCommit 3 1 otherEntity]

/-- The answer to the command that loses. -/
def staleAnswer : CommandResult :=
  .error (.storage (.world (.worldChangedSinceEvaluation 0 1)))

/-- What a worker does for a job before its commit, on a database. -/
def evaluating (job : CommandJob) (store : WorldStore String) (transaction : WorldTransaction) :
    List (WorkerAction Bool) :=
  [.work job (.lookup job.response), .work job (.pin job.response),
    .work job (.evaluate job.response
      ((snapshot store).systemView (tableDependencies [acceptAll] []))
      (.returned transaction))]

/-- Two workers start after the schemas were registered. The first one accepts two commands and the
second one accepts one. Both evaluate a command on the same state; the first one commits, and the
command of the second one fails. Then the first one processes its other command, is told to stop,
ends and is joined, and the results come with the tickets. -/
def demoWorkerLabels (first third : Except StorageError (List StoredWorldEvent))
    (answer last : CommandResult) : List (WorkerLabel Bool) :=
  [.serve (.registerSchemas demoSchemas)
      (.schemasRegistered (demoSchemas.map fun _ => .registered)),
    .start true, .start false, .own true (.accept (demoJob 1 0)),
    .own false (.accept (demoJob 2 1)),
    .own true (.accept (demoJob 3 2)), .own true (.receive (demoJob 1 0)),
    .own false (.receive (demoJob 2 1))] ++
  (evaluating (demoJob 1 0) (pairStore []) demoTransaction).map (.own true) ++
  (evaluating (demoJob 2 1) (pairStore []) otherEntity).map (.own false) ++
  [.own true (.work (demoJob 1 0) (.commit 0 (demoCommit 1 0 demoTransaction)
      (.receipt firstReceipt))),
    .own false (.work (demoJob 2 1) (.commit 1 (demoCommit 2 0 otherEntity)
      (.failed (.world (.worldChangedSinceEvaluation 0 1))))),
    .own true (.work (demoJob 1 0) (.readEvents 0 first)),
    .own true (.respond (demoJob 1 0) answer),
    .own false (.respond (demoJob 2 1) staleAnswer), .own true (.receive (demoJob 3 2))] ++
  (evaluating (demoJob 3 2) afterFirst otherEntity).map (.own true) ++
  [.own true (.work (demoJob 3 2) (.commit 2 (demoCommit 3 1 otherEntity)
      (.receipt thirdReceipt))),
    .own true (.work (demoJob 3 2) (.readEvents 2 third)), .own true .stop,
    .own true (.respond (demoJob 3 2) last), .own true .finish, .own true (.join (.ok ())),
    .wait 1 (staleAnswer.mapError .runtime), .wait 2 (last.mapError .runtime)]

/-- A commit is answered with its events, or with the error of reading them. -/
theorem exists_finishReading (receipt : CommitReceipt)
    (events : Except StorageError (List StoredWorldEvent)) :
    ∃ answer, finishReading receipt events = .finished answer := by
  cases events with
  | error error => exact ⟨_, rfl⟩
  | ok events => exact ⟨_, rfl⟩

/-- This history is one of a run. -/
theorem exists_demo_worker_run : ∃ first third answer last state started,
    (workerSystem (tableDependencies [acceptAll] []) fun _ => pairBuilder.systems.lookup).Run
      (.new (WorldStore.create String ⟨0⟩)) (demoWorkerLabels first third answer last) state ∧
    state.runtimes true = some started := by
  let deps := tableDependencies [acceptAll] []
  have hregister : Serves deps (WorldStore.create String ⟨0⟩) (.registerSchemas demoSchemas,
      .schemasRegistered (demoSchemas.map fun _ => .registered)) (pairStore []) :=
    serves_serve deps (WorldStore.create String ⟨0⟩) (.registerSchemas demoSchemas)
  have hfirst : Serves deps (pairStore []) (demoCommit 1 0 demoTransaction,
      .receipt firstReceipt) afterFirst :=
    serves_serve deps (pairStore []) (demoCommit 1 0 demoTransaction)
  have hstale : Serves deps afterFirst (demoCommit 2 0 otherEntity,
      .failed (.world (.worldChangedSinceEvaluation 0 1))) afterFirst :=
    serves_serve deps afterFirst (demoCommit 2 0 otherEntity)
  have hthird : Serves deps afterFirst (demoCommit 3 1 otherEntity,
      .receipt thirdReceipt) afterThird :=
    serves_serve deps afterFirst (demoCommit 3 1 otherEntity)
  let queue : SyncChannel CommandJob := .new defaultCommandQueueCapacity
  have hstarts : ∀ store, store = pairStore [] →
      pairBuilder.start deps store true = .ok ⟨queue, .receiving, false⟩ := by
    rintro store rfl
    rfl
  have hsubmits : ∀ (jobs : List CommandJob) (hjobs : jobs.length < defaultCommandQueueCapacity)
      (command ticket : Nat), RunningWorldRuntime.submit
        ⟨⟨defaultCommandQueueCapacity, jobs, true, true, hjobs.le⟩, .receiving, false⟩ ticket
          (demoCommand command) =
        .ok (⟨⟨defaultCommandQueueCapacity, jobs ++ [demoJob command ticket], true, true,
          by rw [List.length_append]; exact hjobs⟩, .receiving, false⟩,
          .new (demoCommand command)) := by
    intro jobs hjobs command ticket
    simp [RunningWorldRuntime.submit, SyncChannel.trySend, hjobs, demoJob]
  obtain ⟨answer, hanswer⟩ := exists_finishReading firstReceipt (eventsAtPosition deps afterFirst 1)
  obtain ⟨last, hlast⟩ := exists_finishReading thirdReceipt (eventsAtPosition deps afterThird 2)
  have hanswered : some (ProcessRun.mk true (demoCommand 1)
      (finishReading firstReceipt (eventsAtPosition deps afterFirst 1))) =
      some ⟨true, demoCommand 1, .finished answer⟩ := by rw [hanswer]
  have hfinished : some (ProcessRun.mk true (demoCommand 3)
      (finishReading thirdReceipt (eventsAtPosition deps afterThird 2))) =
      some ⟨true, demoCommand 3, .finished last⟩ := by rw [hlast]
  refine ⟨_, _, answer, last, _, _, .cons (.serve (.serve rfl hregister)) <|
    .cons (.start rfl rfl (hstarts _ rfl)) <| .cons (.start rfl rfl (hstarts _ rfl)) <|
    .cons (.own rfl (.accept (hsubmits [] (by decide) 1 0)) (.accept rfl)) <|
    .cons (.own rfl (.accept (hsubmits [] (by decide) 2 1)) (.accept rfl)) <|
    .cons (.own rfl (.accept (hsubmits [demoJob 1 0] (by decide) 3 2)) (.accept rfl)) <|
    .cons (.own rfl (.receive rfl rfl) (.receive (.submit rfl))) <|
    .cons (.own rfl (.receive rfl rfl) (.receive (.submit rfl))) <|
    .cons (.own rfl (.work rfl) (.work rfl (.lookup rfl))) <|
    .cons (.own rfl (.work rfl) (.work rfl (.pin rfl))) <|
    .cons (.own rfl (.work rfl) (.work rfl (.evaluate rfl rfl))) <|
    .cons (.own rfl (.work rfl) (.work rfl (.lookup rfl))) <|
    .cons (.own rfl (.work rfl) (.work rfl (.pin rfl))) <|
    .cons (.own rfl (.work rfl) (.work rfl (.evaluate rfl rfl))) <|
    .cons (.own rfl (.work rfl) (.work rfl (.commit rfl hfirst))) <|
    .cons (.own rfl (.work rfl) (.work rfl (.commitFailed rfl hstale))) <|
    .cons (.own rfl (.work rfl) (.work rfl (.readEvents rfl (Or.inl rfl)))) <|
    .cons (.own rfl (.respond rfl) (.respond hanswered)) <|
    .cons (.own rfl (.respond rfl) (.respond rfl)) <|
    .cons (.own rfl (.receive rfl rfl) (.receive (.submit rfl))) <|
    .cons (.own rfl (.work rfl) (.work rfl (.lookup rfl))) <|
    .cons (.own rfl (.work rfl) (.work rfl (.pin rfl))) <|
    .cons (.own rfl (.work rfl) (.work rfl (.evaluate rfl rfl))) <|
    .cons (.own rfl (.work rfl) (.work rfl (.commit rfl hthird))) <|
    .cons (.own rfl (.work rfl) (.work rfl (.readEvents rfl (Or.inl rfl)))) <|
    .cons (.own rfl .stop .stop) <|
    .cons (.own rfl (.respond rfl) (.respond hfinished)) <|
    .cons (.own rfl (.finish rfl rfl) .finish) <|
    .cons (.own rfl (.join rfl rfl rfl) .join) <| .cons (.wait rfl rfl) <| .single (.wait rfl rfl),
    rfl⟩

/-- In this run the queue of the first worker kept its order, and no ticket was given out twice. -/
theorem worker_queue_in_order_demo : ∃ first third answer last,
    ∃ started : RunningWorldRuntime,
    let labels := demoWorkerLabels first third answer last
    let own := ownActions true labels
    acceptedJobs own = [demoJob 1 0, demoJob 3 2] ∧ issuedTickets labels = [0, 1, 2] ∧
      (issuedTickets labels).Nodup ∧
      ∃ lost, acceptedJobs own = receivedJobs own ++ started.queue.buffer ++ lost := by
  obtain ⟨first, third, answer, last, state, started, hrun, hrunning⟩ := exists_demo_worker_run
  obtain ⟨htickets, ⟨lost, hfifo, -⟩, -⟩ := worker_queue_in_order hrun hrunning
  exact ⟨first, third, answer, last, started, rfl, rfl, htickets, lost, hfifo⟩

/-- In this run two of the three commands were committed, each of them once and in the order in
which they were committed. -/
theorem worker_commits_in_order_demo : ∃ first third answer last,
    let labels := demoWorkerLabels first third answer last
    processedCommands (serialLabels (worldLabels labels)) = [demoCommand 1, demoCommand 3] ∧
      ((allCommittedJobs labels).map CommandJob.response).Nodup := by
  obtain ⟨first, third, answer, last, state, started, hrun, -⟩ := exists_demo_worker_run
  obtain ⟨-, hcommands, honce, -⟩ := worker_commits_in_order hrun
  exact ⟨first, third, answer, last, hcommands, honce⟩

/-- In this run the commands of the first worker were answered before its thread was joined, and
the ticket of the second worker got its own result. -/
theorem tickets_get_their_results_demo : ∃ first third answer last,
    let labels := demoWorkerLabels first third answer last
    (∀ job, .own true (.accept job) ∈ labels → ∃ result, .own true (.respond job result) ∈ labels) ∧
      Recorded labels 1 (staleAnswer.mapError .runtime) := by
  obtain ⟨first, third, answer, last, state, started, hrun, -⟩ := exists_demo_worker_run
  obtain ⟨hwaits, hjoined, -⟩ := tickets_get_their_results hrun
  refine ⟨first, third, answer, last, fun job hjob => ?_,
    hwaits 1 (staleAnswer.mapError .runtime) (by simp [demoWorkerLabels])⟩
  obtain ⟨result, hsent, -⟩ := hjoined true (by simp [demoWorkerLabels]) job hjob
  exact ⟨result, hsent⟩

end Demo

end Rintawa.WorldRuntime
