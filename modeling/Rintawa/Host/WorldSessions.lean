/-
# World sessions and their deletion

Components request the activation of worlds and delete worlds through a control
that is shared with the host. The host drains the requests, carries them out
without holding the lock of the control, and records each outcome afterwards. In
between the control does not know what the host is doing.
-/

import Mathlib.Data.Finset.Basic
import Rintawa.Host.EffectPump
import Rintawa.Lib.Dict

namespace Rintawa.Host

open Rintawa.Lib Rintawa.Sdk

def maxPendingWorldSessionRequests : Nat := 64
def maxWorldSessionDiagnosticBytes : Nat := 2 * 1024

/-- Stable host-access failure codes exposed to extensions. -/
inductive HostAccessError
  | invalidArtifact
  | invalidAsset
  | invalidDigest
  | invalidWorldId
  | invalidUserContentId
  | invalidContentType
  | queueFull
  | notFound
  | unsupportedContent
  | invalidPermission
  | invalidPreference
  | preferenceQuotaExceeded
  | rejected
  | unavailable
  deriving DecidableEq, Repr

/-! ## The control -/

/-- What the control knows: the worlds recorded as active, the requests that are not
drained, and the last failures. -/
structure WorldSessionRuntimeState where
  active : Finset WorldId
  pending : Dict WorldId Bool
  lastErrors : Dict WorldId String

def WorldSessionRuntimeState.empty : WorldSessionRuntimeState :=
  ⟨∅, ∅, ∅⟩

/-- Diagnostics are cut at the last character that fits. -/
def boundedWorldSessionDiagnostic (value : String) : String :=
  if value.utf8ByteSize ≤ maxWorldSessionDiagnosticBytes then value
  else String.ofList (charsWithin maxWorldSessionDiagnosticBytes value.toList)

namespace WorldSessionRuntimeState

variable (state : WorldSessionRuntimeState)

/-- Accept a lifecycle request, which replaces an earlier one of the same world. -/
def request (worldId : WorldId) (active : Bool) :
    WorldSessionRuntimeState × Except HostAccessError Unit :=
  if (state.pending.lookup worldId).isNone &&
      decide (maxPendingWorldSessionRequests ≤ state.pending.entries.length) then
    (state, .error .queueFull)
  else
    ({ state with
        pending := state.pending.insert worldId active
        lastErrors := state.lastErrors.erase worldId }, .ok ())

/-- Whether a deletion of a world is let through. -/
def deletable (worldId : WorldId) : Bool :=
  !(decide (worldId ∈ state.active) || (state.pending.lookup worldId).isSome)

/-- Run a deletion unless the world is known as active or has a pending request. The
deletion itself may fail. -/
def deleteInactive (worldId : WorldId) (delete : Except HostAccessError Unit) :
    WorldSessionRuntimeState × Except HostAccessError Unit :=
  if state.deletable worldId then
    match delete with
    | .error error => (state, .error error)
    | .ok () => ({ state with lastErrors := state.lastErrors.erase worldId }, .ok ())
  else (state, .error .rejected)

/-- Take all requests, in the order of their worlds. -/
def drainPending : WorldSessionRuntimeState × List (WorldId × Bool) :=
  ({ state with pending := ∅ },
    state.pending.pairs.insertionSort fun a b => a.1.intoBytes ≤ b.1.intoBytes)

/-- Record what the host has come to. A newer request stays. -/
def recordOutcome (worldId : WorldId) (actualActive : Bool) (diagnostic : Option String) :
    WorldSessionRuntimeState where
  active := if actualActive then insert worldId state.active else state.active.erase worldId
  pending := state.pending
  lastErrors :=
    match diagnostic with
    | some diagnostic =>
        state.lastErrors.insert worldId (boundedWorldSessionDiagnostic diagnostic)
    | none => state.lastErrors.erase worldId

end WorldSessionRuntimeState

/-! ## The host -/

/-- What the host is doing about world sessions. A recording task remembers the
transition it reports and, inside a pump, the requests that follow. -/
inductive SessionTask
  | idle
  | drained (requests : List (WorldId × Bool))
  | pumping (requests : List (WorldId × Bool))
  | recording (worldId : WorldId) (active : Bool) (failure : Option String)
      (rest : Option (List (WorldId × Bool)))

/-- The worlds that run in the host, and its task. -/
structure SessionHost where
  activeWorlds : Finset WorldId
  task : SessionTask

/-- Start a world, which may fail. -/
def activateWorldInner (activeWorlds : Finset WorldId) (worldId : WorldId)
    (startup : Option String) : Finset WorldId × Option String :=
  if worldId ∈ activeWorlds then
    (activeWorlds, some ("world `" ++ uuidText worldId.intoBytes ++ "` is already active"))
  else
    match startup with
    | some failure => (activeWorlds, some failure)
    | none => (insert worldId activeWorlds, none)

/-- Stop a world. It leaves the host even when its shutdown fails. -/
def deactivateWorldInner (activeWorlds : Finset WorldId) (worldId : WorldId)
    (shutdown : Option String) : Finset WorldId × Option String :=
  if worldId ∈ activeWorlds then (activeWorlds.erase worldId, shutdown)
  else (activeWorlds, some ("world `" ++ uuidText worldId.intoBytes ++ "` is not active"))

/-- One transition with the outcome that its inner work has. -/
def transition (activeWorlds : Finset WorldId) (worldId : WorldId) (active : Bool)
    (inner : Option String) : Finset WorldId × Option String :=
  if active then activateWorldInner activeWorlds worldId inner
  else deactivateWorldInner activeWorlds worldId inner

/-- The task after an outcome is recorded. -/
def SessionTask.resume : Option (List (WorldId × Bool)) → SessionTask
  | some rest => .pumping rest
  | none => .idle

/-- The control and the host. -/
structure SessionState where
  control : WorldSessionRuntimeState
  host : SessionHost

def SessionState.start : SessionState :=
  ⟨.empty, ⟨∅, .idle⟩⟩

/-- What is visible of one step. -/
inductive SessionLabel
  | request (worldId : WorldId) (active : Bool) (result : Except HostAccessError Unit)
  | deleteInactive (worldId : WorldId) (ran : Bool) (result : Except HostAccessError Unit)
  | drain (requests : List (WorldId × Bool))
  | home (available : Bool)
  | transition (worldId : WorldId) (active : Bool) (failure : Option String)
  | record (worldId : WorldId)
  | pumped

/-- One step of a component or of the host. Every step of the control happens under
its lock; transitions do not. -/
inductive SessionStep : SessionState → SessionLabel → SessionState → Prop
  | request {state : SessionState} {worldId : WorldId} {active : Bool} :
      SessionStep state (.request worldId active (state.control.request worldId active).2)
        { state with control := (state.control.request worldId active).1 }
  | deleteInactive {state : SessionState} {worldId : WorldId}
      {delete : Except HostAccessError Unit} :
      SessionStep state
        (.deleteInactive worldId (state.control.deletable worldId)
          (state.control.deleteInactive worldId delete).2)
        { state with control := (state.control.deleteInactive worldId delete).1 }
  | drain {state : SessionState} (idle : state.host.task = .idle) :
      SessionStep state (.drain state.control.drainPending.2)
        ⟨state.control.drainPending.1,
          { state.host with task := .drained state.control.drainPending.2 }⟩
  | home {state : SessionState} {requests : List (WorldId × Bool)}
      (drained : state.host.task = .drained requests) :
      SessionStep state (.home true)
        { state with host := { state.host with task := .pumping requests } }
  | homeFailed {state : SessionState} {requests : List (WorldId × Bool)}
      (drained : state.host.task = .drained requests) :
      SessionStep state (.home false)
        { state with host := { state.host with task := .idle } }
  | settled {state : SessionState} {worldId : WorldId} {active : Bool}
      {rest : List (WorldId × Bool)}
      (pumping : state.host.task = .pumping ((worldId, active) :: rest))
      (same : active = decide (worldId ∈ state.host.activeWorlds)) :
      SessionStep state (.record worldId)
        ⟨state.control.recordOutcome worldId active none,
          { state.host with task := .pumping rest }⟩
  | transition {state : SessionState} {worldId : WorldId} {active : Bool}
      {rest : List (WorldId × Bool)} {inner : Option String}
      (pumping : state.host.task = .pumping ((worldId, active) :: rest))
      (differs : active ≠ decide (worldId ∈ state.host.activeWorlds)) :
      SessionStep state
        (.transition worldId active (transition state.host.activeWorlds worldId active inner).2)
        { state with
          host := ⟨(transition state.host.activeWorlds worldId active inner).1,
            .recording worldId active
              (transition state.host.activeWorlds worldId active inner).2 (some rest)⟩ }
  | direct {state : SessionState} {worldId : WorldId} {active : Bool} {inner : Option String}
      (idle : state.host.task = .idle) :
      SessionStep state
        (.transition worldId active (transition state.host.activeWorlds worldId active inner).2)
        { state with
          host := ⟨(transition state.host.activeWorlds worldId active inner).1,
            .recording worldId active
              (transition state.host.activeWorlds worldId active inner).2 none⟩ }
  | record {state : SessionState} {worldId : WorldId} {active : Bool}
      {failure : Option String} {rest : Option (List (WorldId × Bool))}
      (recording : state.host.task = .recording worldId active failure rest) :
      SessionStep state (.record worldId)
        ⟨state.control.recordOutcome worldId (decide (worldId ∈ state.host.activeWorlds))
          failure, { state.host with task := .resume rest }⟩
  | pumped {state : SessionState} (done : state.host.task = .pumping []) :
      SessionStep state .pumped { state with host := { state.host with task := .idle } }

/-- The transition system of the control and the host. -/
def sessionSystem : Lts SessionState SessionLabel where
  init state := state = .start
  step := SessionStep

/-! ## What the history says -/

/-- The newest accepted request of a world that no drain has taken. -/
def newestAccepted (worldId : WorldId) (history : List SessionLabel) : Option Bool :=
  history.foldl (fun newest label =>
    match label with
    | .request other active (.ok ()) => if other = worldId then some active else newest
    | .drain _ => none
    | _ => newest) none

/-- An activation of a world has been drained, and no outcome of the world has been
recorded since. -/
def awaitsActivation (worldId : WorldId) (history : List SessionLabel) : Bool :=
  history.foldl (fun awaits label =>
    match label with
    | .drain requests => awaits || requests.contains (worldId, true)
    | .record other => awaits && decide (other ≠ worldId)
    | _ => awaits) false

/-- The host has started a world and has not recorded it. -/
def Unrecorded (state : SessionState) (worldId : WorldId) : Prop :=
  ∃ rest, state.host.task = .recording worldId true none rest

/-- What every step should keep: a deletion only runs for a world that neither runs nor
is being activated, a drain takes exactly the newest accepted requests, and they are
pending until then. -/
structure KeepsSessions (history : List SessionLabel) (state : SessionState)
    (label : SessionLabel) (state' : SessionState) : Prop where
  deletion : ∀ worldId result, label = .deleteInactive worldId true result →
    worldId ∉ state.host.activeWorlds ∧ awaitsActivation worldId history = false
  drained : ∀ requests, label = .drain requests → ∀ worldId active,
    (worldId, active) ∈ requests ↔ newestAccepted worldId history = some active
  pending : ∀ worldId,
    state'.control.pending.lookup worldId = newestAccepted worldId (history ++ [label])

/-- A deletion is attempted only when no activation of its world is under way, unless
the control shows the world as active or has a newer request for it. -/
def DeletesSettled (history : List SessionLabel) (state : SessionState)
    (label : SessionLabel) (_ : SessionState) : Prop :=
  ∀ worldId ran result, label = .deleteInactive worldId ran result →
    worldId ∈ state.control.active ∨ (state.control.pending.lookup worldId).isSome ∨
      (awaitsActivation worldId history = false ∧ ¬ Unrecorded state worldId)

/-! ## The queue follows the history -/

theorem newestAccepted_snoc (worldId : WorldId) (history : List SessionLabel)
    (label : SessionLabel) :
    newestAccepted worldId (history ++ [label]) =
      match label with
      | .request other active (.ok ()) =>
          if other = worldId then some active else newestAccepted worldId history
      | .drain _ => none
      | _ => newestAccepted worldId history := by
  rw [newestAccepted, List.foldl_append]
  rfl

/-- A request becomes the newest one of its world exactly when it is accepted. -/
theorem WorldSessionRuntimeState.request_pending (state : WorldSessionRuntimeState)
    (worldId other : WorldId) (active : Bool) :
    (state.request other active).1.pending.lookup worldId =
      match (state.request other active).2 with
      | .ok () => if other = worldId then some active else state.pending.lookup worldId
      | .error _ => state.pending.lookup worldId := by
  unfold WorldSessionRuntimeState.request
  by_cases hfull : ((state.pending.lookup other).isNone &&
      decide (maxPendingWorldSessionRequests ≤ state.pending.entries.length)) = true
  · rw [if_pos hfull]
  · rw [if_neg hfull]
    by_cases hsame : other = worldId
    · subst hsame
      simp
    · simp [hsame, AList.lookup_insert_ne (Ne.symm hsame)]

/-- Deletions leave the queue and the recorded worlds alone. -/
theorem WorldSessionRuntimeState.deleteInactive_keeps (state : WorldSessionRuntimeState)
    (worldId : WorldId) (delete : Except HostAccessError Unit) :
    (state.deleteInactive worldId delete).1.pending = state.pending ∧
      (state.deleteInactive worldId delete).1.active = state.active := by
  unfold WorldSessionRuntimeState.deleteInactive
  cases state.deletable worldId with
  | false => exact ⟨rfl, rfl⟩
  | true =>
      cases delete with
      | error error => exact ⟨rfl, rfl⟩
      | ok value => exact ⟨rfl, rfl⟩

/-- Requests leave the recorded worlds alone. -/
theorem WorldSessionRuntimeState.request_active (state : WorldSessionRuntimeState)
    (worldId : WorldId) (active : Bool) :
    (state.request worldId active).1.active = state.active := by
  unfold WorldSessionRuntimeState.request
  split <;> rfl

variable {label : SessionLabel} {state' : SessionState} {labels : List SessionLabel}
  {worldId : WorldId}

/-- One step keeps the queue equal to the newest accepted requests. -/
theorem SessionStep.pending_eq {state : SessionState} (h : SessionStep state label state')
    {history : List SessionLabel}
    (heq : ∀ worldId, state.control.pending.lookup worldId = newestAccepted worldId history)
    (worldId : WorldId) :
    state'.control.pending.lookup worldId = newestAccepted worldId (history ++ [label]) := by
  rw [newestAccepted_snoc, ← heq worldId]
  cases h with
  | request =>
      rw [WorldSessionRuntimeState.request_pending]
      cases (state.control.request _ _).2 with
      | ok value => rfl
      | error error => rfl
  | deleteInactive =>
      rw [(state.control.deleteInactive_keeps _ _).1]
  | drain idle => exact AList.lookup_empty worldId
  | home drained => rfl
  | homeFailed drained => rfl
  | settled pumping same => rfl
  | transition pumping differs => rfl
  | direct idle => rfl
  | record recording => rfl
  | pumped done => rfl

/-- In every run the queue holds the newest accepted request of each world. -/
theorem pending_eq_newestAccepted {state : SessionState}
    (hrun : sessionSystem.Run .start labels state) (worldId : WorldId) :
    state.control.pending.lookup worldId = newestAccepted worldId labels := by
  refine Lts.Run.history_induction
    (P := fun history (state : SessionState) => ∀ worldId,
      state.control.pending.lookup worldId = newestAccepted worldId history)
    ?_ ?_ hrun worldId
  · exact fun worldId => AList.lookup_empty worldId
  · intro history state label state' _ heq hstep worldId
    exact SessionStep.pending_eq hstep heq worldId

/-! ## What the control knows about the host -/

/-- A world that runs in the host is recorded as active or about to be recorded, and
nothing that is about to be recorded as started is missing from the host. -/
structure HostKnown (state : SessionState) : Prop where
  known : ∀ worldId, worldId ∈ state.host.activeWorlds →
    worldId ∈ state.control.active ∨ Unrecorded state worldId
  started : ∀ worldId, Unrecorded state worldId → worldId ∈ state.host.activeWorlds

/-- Outside a recording task nothing is unrecorded. -/
theorem not_unrecorded {state : SessionState} (worldId : WorldId)
    (h : ∀ rest, state.host.task ≠ .recording worldId true none rest) :
    ¬ Unrecorded state worldId := by
  rintro ⟨rest, htask⟩
  exact h rest htask

/-- A transition only moves its own world, and only in the direction that was asked. -/
theorem transition_mem {activeWorlds : Finset WorldId} {other : WorldId} {active : Bool}
    {inner : Option String} (h : other ∈ (transition activeWorlds worldId active inner).1) :
    other ∈ activeWorlds ∨
      (other = worldId ∧ active = true ∧
        (transition activeWorlds worldId active inner).2 = none) := by
  unfold transition at h ⊢
  cases active with
  | false =>
      refine .inl ?_
      simp only [deactivateWorldInner, Bool.false_eq_true, if_false] at h
      split at h
      · exact Finset.mem_of_mem_erase h
      · exact h
  | true =>
      simp only [activateWorldInner, if_true] at h ⊢
      by_cases hactive : worldId ∈ activeWorlds
      · rw [if_pos hactive] at h
        exact .inl h
      · rw [if_neg hactive] at h ⊢
        cases inner with
        | some failure => exact .inl h
        | none =>
            rcases Finset.mem_insert.mp h with heq | hmem
            · exact .inr ⟨heq, trivial, rfl⟩
            · exact .inl hmem

/-- A world that a transition has started runs in the host. -/
theorem transition_started {activeWorlds : Finset WorldId} {inner : Option String}
    (h : (transition activeWorlds worldId true inner).2 = none) :
    worldId ∈ (transition activeWorlds worldId true inner).1 := by
  unfold transition activateWorldInner at h ⊢
  simp only [if_true] at h ⊢
  by_cases hactive : worldId ∈ activeWorlds
  · rw [if_pos hactive] at h
    cases h
  · rw [if_neg hactive] at h ⊢
    cases inner with
    | some failure => cases h
    | none => exact Finset.mem_insert_self worldId activeWorlds

/-- A transition that starts from a settled task leaves every running world known. -/
theorem HostKnown.transition {state : SessionState} (hknown : HostKnown state)
    {worldId : WorldId} {active : Bool} {inner : Option String}
    {rest : Option (List (WorldId × Bool))}
    (hsettled : ∀ worldId, ¬ Unrecorded state worldId) :
    HostKnown { state with
      host := ⟨(Host.transition state.host.activeWorlds worldId active inner).1,
        .recording worldId active
          (Host.transition state.host.activeWorlds worldId active inner).2 rest⟩ } where
  known other hmem := by
    rcases transition_mem hmem with hbefore | ⟨rfl, hactive, hnone⟩
    · exact .inl ((hknown.known other hbefore).resolve_right (hsettled other))
    · refine .inr ⟨rest, ?_⟩
      subst hactive
      exact congrArg (SessionTask.recording other true · rest) hnone
  started other := by
    rintro ⟨rest', htask⟩
    cases active with
    | false => cases htask
    | true =>
        simp only [SessionTask.recording.injEq] at htask
        obtain ⟨rfl, -, hnone, -⟩ := htask
        exact transition_started hnone

/-- Recording the state of a world from a settled task leaves every running world
known. -/
theorem HostKnown.recordOutcome {state : SessionState} {active : Bool} {task : SessionTask}
    {diagnostic : Option String} (hactual : active = decide (worldId ∈ state.host.activeWorlds))
    (hothers : ∀ other, other ≠ worldId → other ∈ state.host.activeWorlds →
      other ∈ state.control.active)
    (hsettled : ∀ other rest, task ≠ .recording other true none rest) :
    HostKnown ⟨state.control.recordOutcome worldId active diagnostic,
      { state.host with task := task }⟩ where
  known other hmem := by
    refine .inl ?_
    change other ∈ (if active = true then insert worldId state.control.active
      else state.control.active.erase worldId)
    change other ∈ state.host.activeWorlds at hmem
    by_cases hsame : other = worldId
    · subst hsame
      rw [hactual, if_pos (decide_eq_true hmem)]
      exact Finset.mem_insert_self other _
    · have hcontrol := hothers other hsame hmem
      split
      · exact Finset.mem_insert_of_mem hcontrol
      · exact Finset.mem_erase.mpr ⟨hsame, hcontrol⟩
  started other := by
    rintro ⟨rest, htask⟩
    exact absurd htask (hsettled other rest)

/-- Steps of the host that change nothing but a task without recordings. -/
theorem HostKnown.ofSettled {state : SessionState} (hknown : HostKnown state)
    {control : WorldSessionRuntimeState} {task : SessionTask}
    (hcontrol : control.active = state.control.active)
    (hsettled : ∀ worldId, ¬ Unrecorded state worldId)
    (htask : ∀ worldId rest, task ≠ .recording worldId true none rest) :
    HostKnown ⟨control, { state.host with task := task }⟩ where
  known worldId hmem := by
    have hactive := (hknown.known worldId hmem).resolve_right (hsettled worldId)
    exact .inl (hcontrol.symm ▸ hactive)
  started worldId := by
    rintro ⟨rest, hrecording⟩
    exact absurd hrecording (htask worldId rest)

/-- Steps of the control that leave the recorded worlds alone. -/
theorem HostKnown.ofControl {state : SessionState} (hknown : HostKnown state)
    {control : WorldSessionRuntimeState}
    (hcontrol : control.active = state.control.active) :
    HostKnown { state with control := control } where
  known worldId hmem := by
    rcases hknown.known worldId hmem with hactive | hunrecorded
    · exact .inl (hcontrol.symm ▸ hactive)
    · exact .inr hunrecorded
  started worldId hunrecorded := hknown.started worldId hunrecorded

/-- What holds of the host survives every step. -/
theorem SessionStep.hostKnown {state : SessionState} (h : SessionStep state label state')
    (hknown : HostKnown state) : HostKnown state' := by
  have settled : ∀ {task : SessionTask}, state.host.task = task →
      (∀ worldId rest, task ≠ .recording worldId true none rest) →
      ∀ worldId, ¬ Unrecorded state worldId := by
    rintro task rfl htask worldId
    exact not_unrecorded worldId (htask worldId)
  cases h with
  | request => exact hknown.ofControl (state.control.request_active _ _)
  | deleteInactive => exact hknown.ofControl (state.control.deleteInactive_keeps _ _).2
  | drain idle =>
      exact hknown.ofSettled rfl (settled idle fun _ _ h => by cases h)
        fun _ _ h => by cases h
  | home drained =>
      exact hknown.ofSettled rfl (settled drained fun _ _ h => by cases h)
        fun _ _ h => by cases h
  | homeFailed drained =>
      exact hknown.ofSettled rfl (settled drained fun _ _ h => by cases h)
        fun _ _ h => by cases h
  | settled pumping same =>
      have hsettled := settled pumping fun _ _ h => by cases h
      refine HostKnown.recordOutcome same ?_ fun _ _ h => by cases h
      exact fun other _ hmem => (hknown.known other hmem).resolve_right (hsettled other)
  | transition pumping differs =>
      exact hknown.transition (settled pumping fun _ _ h => by cases h)
  | direct idle => exact hknown.transition (settled idle fun _ _ h => by cases h)
  | @record worldId active failure rest recording =>
      refine HostKnown.recordOutcome rfl ?_ fun _ _ h => by cases rest <;> cases h
      intro other hne hmem
      refine (hknown.known other hmem).resolve_right (not_unrecorded other ?_)
      intro rest' htask
      rw [recording] at htask
      cases htask
      exact hne rfl
  | pumped done =>
      exact hknown.ofSettled rfl (settled done fun _ _ h => by cases h)
        fun _ _ h => by cases h

/-- In every run the host's worlds are known. -/
theorem hostKnown_run {state : SessionState} (hrun : sessionSystem.Run .start labels state) :
    HostKnown state := by
  refine Lts.Run.preserves (P := HostKnown) ?_ hrun ?_
  · intro state label state' hknown hstep
    exact SessionStep.hostKnown hstep hknown
  refine ⟨fun worldId hmem => ?_, fun worldId hunrecorded => ?_⟩
  · cases hmem
  · obtain ⟨rest, htask⟩ := hunrecorded
    cases htask

/-! ## Deletions -/

/-- A deletion that the control lets through is harmless exactly when no activation of
the world is under way. -/
theorem deletable_harmless_iff {state : SessionState} (hknown : HostKnown state)
    (hdeletable : state.control.deletable worldId = true) :
    worldId ∉ state.host.activeWorlds ↔ ¬ Unrecorded state worldId := by
  have hinactive : worldId ∉ state.control.active := by
    simp only [WorldSessionRuntimeState.deletable, Bool.not_eq_true', Bool.or_eq_false_iff,
      decide_eq_false_iff_not] at hdeletable
    exact hdeletable.1
  constructor
  · exact fun hmem hunrecorded => hmem (hknown.started worldId hunrecorded)
  · intro hrecorded hmem
    exact (hknown.known worldId hmem).elim hinactive hrecorded

/-- The control lets a deletion through exactly when it shows neither activity nor a
request. -/
theorem deletable_iff {state : WorldSessionRuntimeState} :
    state.deletable worldId = true ↔
      ¬ (worldId ∈ state.active ∨ (state.pending.lookup worldId).isSome = true) := by
  simp [WorldSessionRuntimeState.deletable]

/-- A deletion runs exactly when the control lets it through. -/
theorem SessionStep.deletable_eq {state : SessionState} (h : SessionStep state label state')
    {ran : Bool} {result : Except HostAccessError Unit}
    (hlabel : label = .deleteInactive worldId ran result) :
    state.control.deletable worldId = ran := by
  cases h with
  | deleteInactive =>
      cases hlabel
      rfl
  | _ => cases hlabel

/-- One step keeps the sessions exactly when its deletion, if any, is attempted with
nothing under way. -/
theorem keepsSessions_iff {history : List SessionLabel} {state : SessionState}
    (hrun : sessionSystem.Run .start history state) (hstep : SessionStep state label state') :
    KeepsSessions history state label state' ↔ DeletesSettled history state label state' := by
  have hknown := hostKnown_run hrun
  have hpending := pending_eq_newestAccepted hrun
  constructor
  · rintro ⟨hdeletion, -, -⟩ worldId ran result rfl
    by_cases hshown : worldId ∈ state.control.active ∨
        (state.control.pending.lookup worldId).isSome = true
    · exact or_assoc.mp (.inl hshown)
    · have hdeletable := deletable_iff.mpr hshown
      have hran : ran = true := by
        cases hstep with
        | deleteInactive => exact hdeletable
      obtain ⟨hmem, hawaits⟩ := hdeletion worldId result (hran ▸ rfl)
      exact .inr (.inr ⟨hawaits, (deletable_harmless_iff hknown hdeletable).mp hmem⟩)
  · intro hsettled
    refine ⟨?_, ?_, SessionStep.pending_eq hstep hpending⟩
    · intro worldId result hlabel
      have hdeletable := SessionStep.deletable_eq hstep hlabel
      subst hlabel
      rcases hsettled worldId true result rfl with hactive | hrequest | ⟨hawaits, hrecorded⟩
      · exact absurd (.inl hactive) (deletable_iff.mp hdeletable)
      · exact absurd (.inr hrequest) (deletable_iff.mp hdeletable)
      · exact ⟨(deletable_harmless_iff hknown hdeletable).mpr hrecorded, hawaits⟩
    · rintro requests rfl worldId active
      cases hstep with
      | drain idle =>
          rw [← hpending worldId, WorldSessionRuntimeState.drainPending,
            List.mem_insertionSort, Dict.mem_pairs_iff]

/-- The runs in which every step keeps the sessions are those in which every deletion is
attempted with no activation of its world under way. -/
theorem world_session_deletion {state : SessionState} :
    sessionSystem.RunWith KeepsSessions .start labels state ↔
      sessionSystem.RunWith DeletesSettled .start labels state :=
  Lts.runWith_congr fun _ _ _ _ hbefore hstep => keepsSessions_iff hbefore.run hstep

/-! ## A deletion during an activation -/

/-- A world is requested, drained and started, and not yet recorded. -/
def activationLabels (worldId : WorldId) : List SessionLabel :=
  [.request worldId true (.ok ()), .drain [(worldId, true)], .home true,
    .transition worldId true none]

/-- The host once it has started the world. -/
def activationState (worldId : WorldId) : SessionState :=
  ⟨⟨∅, ∅, ∅⟩, ⟨{worldId}, .recording worldId true none (some [])⟩⟩

theorem run_activation (worldId : WorldId) :
    sessionSystem.Run .start (activationLabels worldId) (activationState worldId) := by
  have hrequest := @SessionStep.request .start worldId true
  have hdrain := @SessionStep.drain
    ⟨((SessionState.start).control.request worldId true).1, ⟨∅, .idle⟩⟩ rfl
  have hhome := @SessionStep.home ⟨⟨∅, ∅, ∅⟩, ⟨∅, .drained [(worldId, true)]⟩⟩ _ rfl
  have htransition := @SessionStep.transition
    ⟨⟨∅, ∅, ∅⟩, ⟨∅, .pumping [(worldId, true)]⟩⟩ _ _ _ none rfl (by simp)
  exact .cons hrequest (.cons hdrain (.cons hhome (.cons htransition (.refl _))))

/-- The deletion of a world that the host has just started runs. -/
theorem deletes_started_world :
    sessionSystem.Run .start (activationLabels ⟨1⟩) (activationState ⟨1⟩) ∧
      sessionSystem.step (activationState ⟨1⟩) (.deleteInactive ⟨1⟩ true (.ok ()))
        (activationState ⟨1⟩) ∧
      ⟨1⟩ ∈ (activationState ⟨1⟩).host.activeWorlds ∧
      awaitsActivation ⟨1⟩ (activationLabels ⟨1⟩) = true :=
  ⟨run_activation ⟨1⟩, @SessionStep.deleteInactive (activationState ⟨1⟩) ⟨1⟩ (.ok ()),
    Finset.mem_singleton_self _, rfl⟩

end Rintawa.Host
