/-
# Pumping deferred operations

A pump drains the queue of its control, carries out the operations one after the other,
and records the outcome of each. Components run while it does so and may request more
operations. The pump of user-content writes opens the home of the host between the drain
and the first operation, and returns when it cannot.

Every pump is a use of its control with the operations that it drained and has not
recorded. What a pump loses stays pending from then on.
-/

import Rintawa.Host.UserResources

namespace Rintawa.Host

open Rintawa.Lib Rintawa.Sdk

/-! ## The pumps -/

/-- What distinguishes the pumps from each other. -/
structure DeferredPump (Work Error : Type) where
  kind : DeferredKind Work Error
  opensHome : Bool
  maxDiagnosticBytes : Nat

def userContentWritePump : DeferredPump DeferredUserContentWrite HostAccessError where
  kind := userContentWriteRuntimeControl
  opensHome := true
  maxDiagnosticBytes := 2 * 1024

def worldProjectionPump :
    DeferredPump DeferredWorldProjectionRead WorldProjectionAccessError where
  kind := worldProjectionRuntimeControl
  opensHome := false
  maxDiagnosticBytes := 2 * 1024

/-- Diagnostics are cut at the last character that fits. -/
def boundedDiagnostic (limit : Nat) (value : String) : String :=
  if value.utf8ByteSize ≤ limit then value
  else String.ofList (charsWithin limit value.toList)

/-- Why a pump fails. -/
inductive DrainError
  | home (diagnostic : String)
  | control (error : ControlError)
  deriving DecidableEq

/-- What the host is doing about the operations. While it records them it counts those
that it has handled. -/
inductive DrainTask (Work : Type)
  | idle
  | drained (operations : List (DeferredOperation Work))
  | recording (handled : Nat) (operations : List (DeferredOperation Work))
  | failed (error : ControlError)

/-- The drained operations that have no outcome yet. -/
def DrainTask.remaining {Work : Type} : DrainTask Work → List (DeferredOperation Work)
  | .idle => []
  | .drained operations => operations
  | .recording _ operations => operations
  | .failed _ => []

/-- The control and the task of the host. -/
structure DrainState (Work View : Type) where
  control : DeferredState Work View
  task : DrainTask Work

def DrainState.start {Work View : Type} : DrainState Work View :=
  ⟨.empty, .idle⟩

section

variable {Work View Error : Type}

/-- The status of an outcome. -/
def outcomeStatus (pump : DeferredPump Work Error) : Except String View → DeferredStatus View
  | .ok view => .succeeded view
  | .error diagnostic => .failed (boundedDiagnostic pump.maxDiagnosticBytes diagnostic)

theorem outcomeStatus_ne_pending (pump : DeferredPump Work Error)
    (outcome : Except String View) : outcomeStatus pump outcome ≠ .pending := by
  cases outcome with
  | ok view => exact fun h => by cases h
  | error diagnostic => exact fun h => by cases h

/-- The task after a drain. Without operations there is nothing to open the home for. -/
def DrainTask.afterDrain (pump : DeferredPump Work Error)
    (operations : List (DeferredOperation Work)) : DrainTask Work :=
  if pump.opensHome && !operations.isEmpty then .drained operations
  else .recording 0 operations

theorem DrainTask.remaining_afterDrain (pump : DeferredPump Work Error)
    (operations : List (DeferredOperation Work)) :
    (DrainTask.afterDrain pump operations).remaining = operations := by
  unfold DrainTask.afterDrain
  split <;> rfl

/-- The task after an outcome was recorded. -/
def DrainTask.afterRecord (handled : Nat) (rest : List (DeferredOperation Work)) :
    Except ControlError Unit → DrainTask Work
  | .ok () => .recording (handled + 1) rest
  | .error error => .failed error

/-- What is visible of one step. -/
inductive DrainLabel (Work View Error : Type)
  | use (label : DeferredLabel Work View Error)
  | home (result : Except String Unit)
  | pumped (result : Except ControlError Nat)

/-- The result of the pump that returns with a step. -/
def DrainLabel.returns : DrainLabel Work View Error → Option (Except DrainError Nat)
  | .use _ => none
  | .home (.ok ()) => none
  | .home (.error diagnostic) => some (.error (.home diagnostic))
  | .pumped (.ok handled) => some (.ok handled)
  | .pumped (.error error) => some (.error (.control error))

/-- One step of a component or of the host. -/
inductive DrainStep (pump : DeferredPump Work Error) :
    DrainState Work View → DrainLabel Work View Error → DrainState Work View → Prop
  | request {state : DrainState Work View} {owner : ComponentRef} {work : Work}
      {operationId : String} :
      DrainStep pump state
        (.use (.request owner work operationId
          (state.control.request pump.kind owner work operationId).2))
        { state with control := (state.control.request pump.kind owner work operationId).1 }
  | status {state : DrainState Work View} {owner : ComponentRef} {operationId : String} :
      DrainStep pump state
        (.use (.status owner operationId (state.control.status pump.kind owner operationId)))
        state
  | drain {state : DrainState Work View} (idle : state.task = .idle) :
      DrainStep pump state (.use (.drain state.control.drainPending.2))
        ⟨state.control.drainPending.1, .afterDrain pump state.control.drainPending.2⟩
  | home {state : DrainState Work View} {operations : List (DeferredOperation Work)}
      (drained : state.task = .drained operations) :
      DrainStep pump state (.home (.ok ())) { state with task := .recording 0 operations }
  | homeFailed {state : DrainState Work View} {operations : List (DeferredOperation Work)}
      {diagnostic : String} (drained : state.task = .drained operations) :
      DrainStep pump state (.home (.error diagnostic)) { state with task := .idle }
  | record {state : DrainState Work View} {handled : Nat} {operation : DeferredOperation Work}
      {rest : List (DeferredOperation Work)} {outcome : Except String View}
      (recording : state.task = .recording handled (operation :: rest)) :
      DrainStep pump state
        (.use (.record operation.operationId (outcomeStatus pump outcome)
          (state.control.recordOutcome pump.kind operation.operationId
            (outcomeStatus pump outcome)).2))
        ⟨(state.control.recordOutcome pump.kind operation.operationId
            (outcomeStatus pump outcome)).1,
          .afterRecord handled rest (state.control.recordOutcome pump.kind
            operation.operationId (outcomeStatus pump outcome)).2⟩
  | done {state : DrainState Work View} {handled : Nat}
      (recording : state.task = .recording handled []) :
      DrainStep pump state (.pumped (.ok handled)) { state with task := .idle }
  | failed {state : DrainState Work View} {error : ControlError}
      (failed : state.task = .failed error) :
      DrainStep pump state (.pumped (.error error)) { state with task := .idle }

/-- The components and the host around one control. -/
def drainSystem (View : Type) (pump : DeferredPump Work Error) :
    Lts (DrainState Work View) (DrainLabel Work View Error) where
  init state := state = .start
  step := DrainStep pump

/-- After a pump has returned, every pending operation is in the queue. -/
def QueuesPending (_ : List (DrainLabel Work View Error)) (_ : DrainState Work View)
    (label : DrainLabel Work View Error) (state' : DrainState Work View) : Prop :=
  label.returns.isSome → ∀ owner operationId,
    state'.control.statuses.lookup operationId = some ⟨owner, .pending⟩ →
    ∃ operation ∈ state'.control.queue, operation.operationId = operationId

/-- The home opens whenever a pump needs it. -/
def HomeOpens (_ : List (DrainLabel Work View Error)) (_ : DrainState Work View)
    (label : DrainLabel Work View Error) (_ : DrainState Work View) : Prop :=
  ∀ diagnostic, label ≠ .home (.error diagnostic)

/-! ## A pump uses its control -/

/-- A pump is a use of its control: what it has drained, together with what was lost, has
no outcome. -/
structure Pumps (pump : DeferredPump Work Error) (lost : List (DeferredOperation Work))
    (state : DrainState Work View) : Prop where
  accounted : ∃ history : List (DeferredLabel Work View Error),
    Accounted pump.kind history ⟨state.control, lost ++ state.task.remaining⟩
  homes : ∀ operations, state.task = .drained operations →
    pump.opensHome = true ∧ operations ≠ []
  works : ∀ error, state.task ≠ .failed error

namespace Pumps

variable {pump : DeferredPump Work Error} {lost : List (DeferredOperation Work)}
  {state state' : DrainState Work View} {label : DrainLabel Work View Error}

theorem start : Pumps pump [] (.start : DrainState Work View) where
  accounted := ⟨[], .start⟩
  homes operations htask := by cases htask
  works error htask := by cases htask

/-- A home that does not open loses what was drained for it. -/
theorem homeFailed (h : Pumps pump lost state) {operations : List (DeferredOperation Work)}
    (hdrained : state.task = .drained operations) :
    Pumps pump (lost ++ operations) { state with task := .idle } := by
  obtain ⟨history, haccounted⟩ := h.accounted
  refine ⟨⟨history, ?_⟩, (fun _ h => by cases h), (fun _ h => by cases h)⟩
  rw [hdrained] at haccounted
  change Accounted _ _ ⟨_, (lost ++ operations) ++ []⟩
  rw [List.append_nil]
  exact haccounted

/-- Every step but a home that does not open loses nothing. -/
theorem step (hlimit : pump.kind.maxPendingBytes < usizeMax) (h : Pumps pump lost state)
    (hstep : DrainStep pump state label state') :
    ∃ dropped, Pumps pump (lost ++ dropped) state' ∧
      (dropped = [] ↔ ∀ diagnostic, label ≠ .home (.error diagnostic)) := by
  obtain ⟨⟨history, haccounted⟩, hhomes, hworks⟩ := h
  have same : ∀ {label : DrainLabel Work View Error},
      (∀ diagnostic, label ≠ .home (.error diagnostic)) →
      Pumps pump lost state' →
      ∃ dropped, Pumps pump (lost ++ dropped) state' ∧
        (dropped = [] ↔ ∀ diagnostic, label ≠ .home (.error diagnostic)) := by
    intro label hlabel hpumps
    exact ⟨[], (List.append_nil lost).symm ▸ hpumps, iff_of_true rfl hlabel⟩
  cases hstep with
  | @request owner work operationId =>
      obtain ⟨hrequest, -⟩ := haccounted.request hlimit owner work operationId
      exact same (fun _ h => by cases h) ⟨⟨_, hrequest⟩, hhomes, hworks⟩
  | status => exact same (fun _ h => by cases h) ⟨⟨history, haccounted⟩, hhomes, hworks⟩
  | drain idle =>
      have hdrain := haccounted.drain
      have hnil : lost ++ (DrainTask.idle : DrainTask Work).remaining = lost :=
        List.append_nil lost
      rw [idle, hnil] at hdrain
      have haccounted' : Accounted pump.kind (history ++ [.drain state.control.queue])
          ⟨state.control.drainPending.1,
            lost ++ (DrainTask.afterDrain pump state.control.queue).remaining⟩ := by
        rw [DrainTask.remaining_afterDrain]
        exact hdrain
      refine same (fun _ h => by cases h) ⟨⟨_, haccounted'⟩, ?_, ?_⟩
      · intro operations htask
        unfold DrainTask.afterDrain at htask
        split at htask
        · next hneeds =>
            cases htask
            obtain ⟨hopens, hsome⟩ := Bool.and_eq_true_iff.mp hneeds
            exact ⟨hopens, fun hnil => by simp [hnil] at hsome⟩
        · cases htask
      · intro error htask
        unfold DrainTask.afterDrain at htask
        split at htask <;> cases htask
  | home drained =>
      refine same (fun _ h => by cases h) ⟨⟨history, ?_⟩, (fun _ h => by cases h),
        (fun _ h => by cases h)⟩
      rw [drained] at haccounted
      exact haccounted
  | @homeFailed operations diagnostic drained =>
      exact ⟨operations, homeFailed ⟨⟨history, haccounted⟩, hhomes, hworks⟩ drained,
        iff_of_false (hhomes operations drained).2 fun h => h diagnostic rfl⟩
  | @record handled operation rest outcome recording =>
      rw [recording] at haccounted
      obtain ⟨hrecord, htaken⟩ := haccounted.record rfl (outcomeStatus_ne_pending pump outcome)
      refine same (fun _ h => by cases h) ⟨⟨_, by rw [htaken]; exact hrecord⟩, ?_, ?_⟩
      · intro operations htask
        rw [htaken] at htask
        cases htask
      · intro error htask
        rw [htaken] at htask
        cases htask
  | done recording =>
      rw [recording] at haccounted
      exact same (fun _ h => by cases h)
        ⟨⟨history, haccounted⟩, (fun _ h => by cases h), (fun _ h => by cases h)⟩
  | @failed error failed => exact absurd failed (hworks error)

/-- Along every run a pump uses its control. -/
theorem run (hlimit : pump.kind.maxPendingBytes < usizeMax) (h : Pumps pump lost state)
    {labels : List (DrainLabel Work View Error)}
    (hrun : (drainSystem View pump).Run state labels state') :
    ∃ dropped, Pumps pump (lost ++ dropped) state' := by
  induction hrun generalizing lost with
  | refl => exact ⟨[], (List.append_nil lost).symm ▸ h⟩
  | cons hstep _ ih =>
      obtain ⟨first, hfirst, -⟩ := h.step hlimit hstep
      obtain ⟨rest, hrest⟩ := ih hfirst
      exact ⟨first ++ rest, List.append_assoc lost first rest ▸ hrest⟩

variable {labels : List (DrainLabel Work View Error)}

/-- Nothing is lost as long as the home opens. -/
theorem of_homeOpens (hlimit : pump.kind.maxPendingBytes < usizeMax)
    (hrun : (drainSystem View pump).RunWith HomeOpens .start labels state) :
    Pumps pump [] state := by
  induction hrun with
  | refl => exact .start
  | snoc _ hstep hopens ih =>
      obtain ⟨dropped, hpumps, hnothing⟩ := ih.step hlimit hstep
      rw [hnothing.mpr hopens] at hpumps
      exact hpumps

/-- What was lost is pending, and not in the queue. -/
theorem lost_pending (h : Pumps pump lost state) {operation : DeferredOperation Work}
    (hlost : operation ∈ lost) :
    (∃ owner, state.control.statuses.lookup operation.operationId = some ⟨owner, .pending⟩) ∧
      ∀ queued ∈ state.control.queue, queued.operationId ≠ operation.operationId := by
  obtain ⟨history, haccounted⟩ := h.accounted
  have hmem : operation.operationId ∈
      (lost ++ state.task.remaining).map DeferredOperation.operationId :=
    List.mem_map_of_mem (List.mem_append_left _ hlost)
  have hlive : DeferredUse.live (⟨state.control, lost ++ state.task.remaining⟩ :
      DeferredUse Work View) = state.control.queue.map DeferredOperation.operationId ++
        (lost ++ state.task.remaining).map DeferredOperation.operationId :=
    List.map_append
  constructor
  · refine (haccounted.tracks.pending operation.operationId).mp ?_
    rw [hlive]
    exact List.mem_append_right _ hmem
  · intro queued hqueued hsame
    have hdistinct := haccounted.tracks.distinct
    rw [hlive, List.nodup_append] at hdistinct
    exact hdistinct.2.2 _ (List.mem_map_of_mem hqueued) _ hmem hsame

/-- When nothing was lost and no operation is being carried out, the pending operations
are those in the queue. -/
theorem queued (h : Pumps pump [] state) (hdone : state.task.remaining = [])
    {owner : ComponentRef} {operationId : String}
    (hpending : state.control.statuses.lookup operationId = some ⟨owner, .pending⟩) :
    ∃ operation ∈ state.control.queue, operation.operationId = operationId := by
  obtain ⟨history, haccounted⟩ := h.accounted
  rw [hdone] at haccounted
  have hlive := (haccounted.tracks.pending operationId).mpr ⟨owner, hpending⟩
  rw [DeferredUse.live, List.append_nil, List.append_nil] at hlive
  exact List.mem_map.mp hlive

/-- A step leaves the pending operations in the queue exactly when the home, if it is
needed, opens. -/
theorem queuesPending_iff (hlimit : pump.kind.maxPendingBytes < usizeMax)
    (h : Pumps pump [] state) (hstep : DrainStep pump state label state')
    (history : List (DrainLabel Work View Error)) :
    QueuesPending history state label state' ↔ HomeOpens history state label state' := by
  obtain ⟨dropped, hpumps, hnothing⟩ := h.step hlimit hstep
  refine Iff.trans ?_ hnothing
  constructor
  · intro hqueues
    by_contra hdropped
    obtain ⟨operation, hmem⟩ := List.exists_mem_of_ne_nil dropped hdropped
    obtain ⟨⟨owner, hpending⟩, hout⟩ := hpumps.lost_pending hmem
    have hreturns : label.returns.isSome := by
      have hfails := mt hnothing.mpr hdropped
      obtain ⟨diagnostic, hlabel⟩ := not_forall.mp hfails
      rw [not_not.mp hlabel]
      rfl
    obtain ⟨queued, hqueued, hsame⟩ := hqueues hreturns owner _ hpending
    exact hout queued hqueued hsame
  · rintro rfl hreturns owner operationId hpending
    refine hpumps.queued ?_ hpending
    cases hstep with
    | request => cases hreturns
    | status => cases hreturns
    | drain => cases hreturns
    | home => cases hreturns
    | homeFailed => rfl
    | record => cases hreturns
    | done => rfl
    | failed => rfl

/-- The runs whose pumps leave the pending operations in the queue are those whose homes
open. -/
theorem runWith_queuesPending_iff (hlimit : pump.kind.maxPendingBytes < usizeMax) :
    (drainSystem View pump).RunWith QueuesPending .start labels state ↔
      (drainSystem View pump).RunWith HomeOpens .start labels state := by
  symm
  refine Lts.runWith_congr fun history state label state' hbefore hstep => ?_
  exact ((of_homeOpens hlimit hbefore).queuesPending_iff hlimit hstep history).symm

/-- A pump without a home never waits for one. -/
theorem homeOpens_of_run (hlimit : pump.kind.maxPendingBytes < usizeMax)
    (hhome : pump.opensHome = false) (hrun : (drainSystem View pump).Run .start labels state) :
    (drainSystem View pump).RunWith HomeOpens .start labels state := by
  refine hrun.runWith fun history state label state' hbefore hstep diagnostic hlabel => ?_
  obtain ⟨lost, hpumps⟩ := start.run hlimit hbefore
  cases hstep with
  | homeFailed drained =>
      have hneeds := (hpumps.homes _ drained).1
      rw [hhome] at hneeds
      cases hneeds
  | _ => cases hlabel

end Pumps

end

/-! ## Pending operations are queued -/

/-- What a summary shows of the requests for a world. -/
def WorldSessionRuntimeState.pendingActive (state : WorldSessionRuntimeState)
    (worldId : WorldId) : Option Bool :=
  state.pending.lookup worldId

/-- User-content writes that are pending after a pump are in the queue as long as the home
opened in every pump. Projection reads and world sessions need no condition: a read is
carried out without the home, and a session is pending exactly while it is queued. -/
theorem pending_operations_queued
    (writeLabels : List (DrainLabel DeferredUserContentWrite UserContentSummary
      HostAccessError))
    (written : DrainState DeferredUserContentWrite UserContentSummary)
    (readLabels : List (DrainLabel DeferredWorldProjectionRead WorldProjectionReadView
      WorldProjectionAccessError))
    (read : DrainState DeferredWorldProjectionRead WorldProjectionReadView)
    (sessionLabels : List SessionLabel) (session : SessionState) :
    ((drainSystem UserContentSummary userContentWritePump).RunWith
        QueuesPending .start writeLabels written ↔
      (drainSystem UserContentSummary userContentWritePump).RunWith
        HomeOpens .start writeLabels written) ∧
    ((drainSystem WorldProjectionReadView worldProjectionPump).Run .start readLabels read →
      (drainSystem WorldProjectionReadView worldProjectionPump).RunWith
        QueuesPending .start readLabels read) ∧
    (sessionSystem.Run .start sessionLabels session →
      ∀ worldId active, session.control.pendingActive worldId = some active →
        (worldId, active) ∈ session.control.drainPending.2) := by
  refine ⟨Pumps.runWith_queuesPending_iff (by decide), fun hrun => ?_,
    fun _ worldId active hpending => ?_⟩
  · exact (Pumps.runWith_queuesPending_iff (by decide)).mpr
      (Pumps.homeOpens_of_run (by decide) rfl hrun)
  · rw [WorldSessionRuntimeState.drainPending, List.mem_insertionSort]
    exact Dict.mem_pairs_iff.mpr hpending

/-! ## A lost write -/

/-- A component of a script, which writes a document. -/
def writer : ComponentRef :=
  ⟨⟨"writer"⟩, ⟨"main"⟩⟩

def importWrite : DeferredUserContentWrite :=
  ⟨.import, [1]⟩

/-- The host while it drains the write. -/
def importState (task : DrainTask DeferredUserContentWrite) :
    DrainState DeferredUserContentWrite UserContentSummary where
  control :=
    { queue := []
      pendingBytes := 0
      statuses := (∅ : Dict String (OwnedStatus UserContentSummary)).insert "write"
        ⟨writer, .pending⟩
      completed := [] }
  task := task

/-- A write is requested and drained, and the home does not open. -/
def importLabels :
    List (DrainLabel DeferredUserContentWrite UserContentSummary HostAccessError) :=
  [.use (.request writer importWrite "write" (.ok "write")),
    .use (.drain [⟨"write", importWrite⟩]), .home (.error "the home is not readable")]

theorem run_drained_import :
    (drainSystem UserContentSummary userContentWritePump).Run .start (importLabels.take 2)
      (importState (.drained [⟨"write", importWrite⟩])) := by
  have hrequest := @DrainStep.request _ UserContentSummary _ userContentWritePump .start writer
    importWrite "write"
  have hdrain := @DrainStep.drain _ UserContentSummary _ userContentWritePump
    ⟨((DeferredState.empty).request userContentWriteRuntimeControl writer importWrite "write").1,
      .idle⟩ rfl
  exact .cons hrequest (.cons hdrain (.refl _))

/-- The pump that drained the write returns, and from then on the write is pending in every
state, and no queue holds it. -/
theorem import_stays_pending :
    (drainSystem UserContentSummary userContentWritePump).Run .start importLabels
        (importState .idle) ∧
      ∀ labels state,
        (drainSystem UserContentSummary userContentWritePump).Run (importState .idle) labels
          state →
        (∃ owner, state.control.statuses.lookup "write" = some ⟨owner, .pending⟩) ∧
          ∀ queued ∈ state.control.queue, queued.operationId ≠ "write" := by
  refine ⟨run_drained_import.snoc (.homeFailed rfl), fun labels state hrun => ?_⟩
  obtain ⟨dropped, hdrained⟩ := Pumps.start.run (by decide) run_drained_import
  obtain ⟨others, hpumps⟩ := (hdrained.homeFailed rfl).run (by decide) hrun
  have hlost : (⟨"write", importWrite⟩ : DeferredOperation DeferredUserContentWrite) ∈
      ([] ++ dropped ++ [⟨"write", importWrite⟩]) ++ others :=
    List.mem_append_left _ (List.mem_append_right _ List.mem_cons_self)
  exact hpumps.lost_pending hlost

end Rintawa.Host
