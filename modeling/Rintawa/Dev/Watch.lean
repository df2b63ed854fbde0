/-
# Watch mode

The loop polls the revision of the sources and reloads the session once a new revision was
found twice in a row. After a reload it takes the revision that it finds then for its new
baseline. The sources may be edited between any two steps, also between two reads of one
preparation.
-/

import Rintawa.Dev.Reload
import Rintawa.Lib.Transition

namespace Rintawa.Dev

open Rintawa.Lib Rintawa.Sdk Rintawa.ExtensionEngine

/-! ## The loop -/

/-- What a start meets: what opening the project and preparing its snapshot give, and the
start of the snapshot. -/
structure StartAttempt where
  opening : DevResult Unit
  preparation : DevResult PreparedSnapshot
  conditions : StartConditions

/-- Start a session for a project. -/
def ReloadingDevSession.start (instanceId : ExtensionInstanceId) (scopeId : RuntimeScopeId)
    (attempt : StartAttempt) : DevResult ReloadingDevSession :=
  match attempt.opening with
  | .error error => .error error
  | .ok () =>
      match attempt.preparation with
      | .error error => .error error
      | .ok snapshot =>
          match DevSession.startSnapshot snapshot instanceId scopeId attempt.conditions with
          | .error error => .error error
          | .ok session => .ok ⟨instanceId, scopeId, some session⟩

/-- The snapshot that a start prepares. -/
def StartAttempt.snapshot (attempt : StartAttempt) : Option PreparedSnapshot :=
  match attempt.opening with
  | .error _ => none
  | .ok () => attempt.preparation.toOption

/-- The snapshot that a reload prepares. -/
def ReloadAttempt.snapshot (attempt : ReloadAttempt) : Option PreparedSnapshot :=
  match attempt.opening with
  | .error _ => none
  | .ok () => attempt.preparation.toOption

/-- Where the loop is. A reload and the scan after it keep the revision that led to it. -/
inductive WatchPhase (Rev : Type)
  | starting
  | started (runner : ReloadingDevSession)
  | waiting (runner : ReloadingDevSession) (baseline : Rev) (pendingRevision : Option Rev)
  | reloading (runner : ReloadingDevSession) (revision : Rev)
  | reloaded (runner : ReloadingDevSession) (revision : Rev)
  | ended

/-- A preparation: the sources at each of its reads so far, and its snapshot. -/
structure Preparation (Sources : Type) where
  reads : List Sources
  snapshot : Option PreparedSnapshot

variable {Sources Rev : Type}

/-- The sources, the loop, and the preparations up to now, the latest one apart. -/
structure WatchState (Sources Rev : Type) where
  sources : Sources
  phase : WatchPhase Rev
  current : Preparation Sources
  earlier : List (Preparation Sources)

namespace WatchState

/-- The start of the watch mode. -/
def starting (sources : Sources) : WatchState Sources Rev :=
  ⟨sources, .starting, ⟨[], none⟩, []⟩

variable (s : WatchState Sources Rev)

/-- A preparation reads the sources. -/
def record : WatchState Sources Rev :=
  { s with current := { s.current with reads := s.current.reads ++ [s.sources] } }

/-- A preparation ends. -/
def finish (snapshot : Option PreparedSnapshot) (phase : WatchPhase Rev) :
    WatchState Sources Rev :=
  { s with phase := phase, current := { s.current with snapshot := snapshot } }

/-- The loop has polled a revision. -/
def polled [DecidableEq Rev] (runner : ReloadingDevSession) (baseline : Rev)
    (pendingRevision : Option Rev) (revision : Rev) : WatchState Sources Rev :=
  if revision = baseline then { s with phase := .waiting runner baseline none }
  else if pendingRevision ≠ some revision then
    { s with phase := .waiting runner baseline (some revision) }
  else
    { s with
      phase := .reloading runner revision
      current := ⟨[], none⟩
      earlier := s.current :: s.earlier }

/-- The latest preparation that gave a snapshot. -/
def lastPrepared : Option (Preparation Sources) :=
  (s.current :: s.earlier).find? fun preparation => preparation.snapshot.isSome

/-- The preparation of the start. -/
def initial : Preparation Sources :=
  (s.current :: s.earlier).getLast (List.cons_ne_nil _ _)

end WatchState

/-- What can happen next. -/
inductive WatchLabel (Sources : Type)
  | edit (sources : Sources)
  | read
  | start (attempt : StartAttempt)
  | scan
  | scanFailed (error : DevError)
  | reload (attempt : ReloadAttempt)
  | interrupt

/-- The steps of the loop and of whoever edits the sources. -/
inductive WatchStep [DecidableEq Rev] (revision : Sources → Rev)
    (instanceId : ExtensionInstanceId) (scopeId : RuntimeScopeId) :
    WatchState Sources Rev → WatchLabel Sources → WatchState Sources Rev → Prop
  | edit (s : WatchState Sources Rev) (sources : Sources) :
      WatchStep revision instanceId scopeId s (.edit sources) { s with sources := sources }
  | readStart (s : WatchState Sources Rev) (phase : s.phase = .starting) :
      WatchStep revision instanceId scopeId s .read s.record
  | readReload (s : WatchState Sources Rev) {runner : ReloadingDevSession} {trigger : Rev}
      (phase : s.phase = .reloading runner trigger) :
      WatchStep revision instanceId scopeId s .read s.record
  | started (s : WatchState Sources Rev) (attempt : StartAttempt) {runner : ReloadingDevSession}
      (phase : s.phase = .starting)
      (result : ReloadingDevSession.start instanceId scopeId attempt = .ok runner)
      (read : s.current.reads ≠ []) :
      WatchStep revision instanceId scopeId s (.start attempt)
        (s.finish attempt.snapshot (.started runner))
  | startFailed (s : WatchState Sources Rev) (attempt : StartAttempt) {error : DevError}
      (phase : s.phase = .starting)
      (result : ReloadingDevSession.start instanceId scopeId attempt = .error error)
      (read : attempt.snapshot.isSome = true → s.current.reads ≠ []) :
      WatchStep revision instanceId scopeId s (.start attempt) (s.finish attempt.snapshot .ended)
  | firstScan (s : WatchState Sources Rev) {runner : ReloadingDevSession}
      (phase : s.phase = .started runner) :
      WatchStep revision instanceId scopeId s .scan
        { s with phase := .waiting runner (revision s.sources) none }
  | firstScanFailed (s : WatchState Sources Rev) (error : DevError)
      {runner : ReloadingDevSession} (phase : s.phase = .started runner) :
      WatchStep revision instanceId scopeId s (.scanFailed error) { s with phase := .ended }
  | interrupt (s : WatchState Sources Rev) {runner : ReloadingDevSession} {baseline : Rev}
      {pendingRevision : Option Rev} (phase : s.phase = .waiting runner baseline pendingRevision) :
      WatchStep revision instanceId scopeId s .interrupt { s with phase := .ended }
  | poll (s : WatchState Sources Rev) {runner : ReloadingDevSession} {baseline : Rev}
      {pendingRevision : Option Rev} (phase : s.phase = .waiting runner baseline pendingRevision) :
      WatchStep revision instanceId scopeId s .scan
        (s.polled runner baseline pendingRevision (revision s.sources))
  | pollFailed (s : WatchState Sources Rev) (error : DevError) {runner : ReloadingDevSession}
      {baseline : Rev} {pendingRevision : Option Rev}
      (phase : s.phase = .waiting runner baseline pendingRevision) :
      WatchStep revision instanceId scopeId s (.scanFailed error)
        { s with phase := .waiting runner baseline none }
  | reload (s : WatchState Sources Rev) (attempt : ReloadAttempt)
      {runner next : ReloadingDevSession} {trigger : Rev} {result : DevResult ReloadOutcome}
      (phase : s.phase = .reloading runner trigger)
      (reloads : runner.reload attempt = (next, result))
      (continues : ∀ error, result = .error error → next.session.isSome = true)
      (read : attempt.snapshot.isSome = true → s.current.reads ≠ []) :
      WatchStep revision instanceId scopeId s (.reload attempt)
        (s.finish attempt.snapshot (.reloaded next trigger))
  | reloadLost (s : WatchState Sources Rev) (attempt : ReloadAttempt)
      {runner next : ReloadingDevSession} {trigger : Rev} {error : DevError}
      (phase : s.phase = .reloading runner trigger)
      (reloads : runner.reload attempt = (next, .error error)) (lost : next.session = none)
      (read : attempt.snapshot.isSome = true → s.current.reads ≠ []) :
      WatchStep revision instanceId scopeId s (.reload attempt) (s.finish attempt.snapshot .ended)
  | postScan (s : WatchState Sources Rev) {runner : ReloadingDevSession} {trigger : Rev}
      (phase : s.phase = .reloaded runner trigger) :
      WatchStep revision instanceId scopeId s .scan
        { s with phase := .waiting runner (revision s.sources) none }
  | postScanFailed (s : WatchState Sources Rev) (error : DevError) {runner : ReloadingDevSession}
      {trigger : Rev} (phase : s.phase = .reloaded runner trigger) :
      WatchStep revision instanceId scopeId s (.scanFailed error)
        { s with phase := .waiting runner trigger none }

/-- Watch mode as a transition system. -/
def watchSystem [DecidableEq Rev] (revision : Sources → Rev) (instanceId : ExtensionInstanceId)
    (scopeId : RuntimeScopeId) : Lts (WatchState Sources Rev) (WatchLabel Sources) where
  init s := ∃ sources, s = .starting sources
  step := WatchStep revision instanceId scopeId

/-! ## What the loop keeps -/

namespace WatchState

variable (s : WatchState Sources Rev)

/-- A preparation has read sources that no scan has seen since. -/
def Unscanned : Prop :=
  match s.phase with
  | .starting | .reloading _ _ => s.current.reads ≠ []
  | .started _ | .reloaded _ _ => True
  | .waiting _ _ _ | .ended => False

/-- The sources do not change between the first read of a preparation and the scan after it.
That scan fails only after a reload whose sources are those that led to it. -/
def Undisturbed (revision : Sources → Rev) (_ : List (WatchLabel Sources))
    (s : WatchState Sources Rev) (label : WatchLabel Sources) (_ : WatchState Sources Rev) : Prop :=
  match label with
  | .edit sources => s.Unscanned → sources = s.sources
  | .scanFailed _ => ∀ runner trigger, s.phase = .reloaded runner trigger →
      revision s.sources = trigger
  | _ => True

/-- The latest preparation has read the sources that are there, or those of the baseline. -/
def ReadsCurrent (revision : Sources → Rev) : Prop :=
  match s.phase with
  | .waiting _ baseline _ => ∀ read ∈ s.current.reads, revision read = baseline
  | .ended => True
  | _ => ∀ read ∈ s.current.reads, read = s.sources

/-- A preparation that gave a snapshot has read sources. -/
def PreparedFromReads : Prop :=
  s.current.snapshot.isSome = true → s.current.reads ≠ []

/-- The latest preparation was made from the sources that are there: all that it read, and
the snapshot, which is then the latest one. -/
structure BuiltFromCurrent : Prop where
  reads : ∀ read ∈ s.current.reads, read = s.sources
  prepared : s.current.snapshot.isSome = true →
    s.current.reads ≠ [] ∧ s.lastPrepared = some s.current

/-- The revision that the loop compares with, or that it reloads for. -/
def knownRevision : Option Rev :=
  match s.phase with
  | .waiting _ baseline _ => some baseline
  | .reloading _ trigger | .reloaded _ trigger => some trigger
  | .starting | .started _ | .ended => none

/-- The latest preparation has read the sources that are there, and the loop knows their
revision. -/
structure Settled (revision : Sources → Rev) : Prop where
  reads : ∀ read ∈ s.current.reads, read = s.sources
  known : ∀ known, s.knownRevision = some known → revision s.sources = known

end WatchState

/-- A read that was just made is one of the sources that are there. -/
theorem WatchState.reads_record {s : WatchState Sources Rev}
    (h : ∀ read ∈ s.current.reads, read = s.sources) :
    ∀ read ∈ s.record.current.reads, read = s.sources := by
  intro read hread
  rcases List.mem_append.mp hread with hold | hnew
  · exact h read hold
  · exact List.mem_singleton.mp hnew

section Steps

variable [DecidableEq Rev] {revision : Sources → Rev} {instanceId : ExtensionInstanceId}
variable {scopeId : RuntimeScopeId} {s t : WatchState Sources Rev} {label : WatchLabel Sources}

/-- A poll stays at the baseline, waits for the revision to be found again, or reloads. -/
theorem WatchState.polled_cases (s : WatchState Sources Rev) (runner : ReloadingDevSession)
    (baseline : Rev) (pendingRevision : Option Rev) (found : Rev) :
    (found = baseline ∧ s.polled runner baseline pendingRevision found =
        { s with phase := .waiting runner baseline none }) ∨
      (pendingRevision ≠ some found ∧ s.polled runner baseline pendingRevision found =
        { s with phase := .waiting runner baseline (some found) }) ∨
      (found ≠ baseline ∧ pendingRevision = some found ∧
        s.polled runner baseline pendingRevision found =
          ⟨s.sources, .reloading runner found, ⟨[], none⟩, s.current :: s.earlier⟩) := by
  unfold WatchState.polled
  split
  · next hbaseline => exact .inl ⟨hbaseline, rfl⟩
  · next hchanged =>
      split
      · next hnew => exact .inr (.inl ⟨hnew, rfl⟩)
      · next hstable => exact .inr (.inr ⟨hchanged, not_not.mp hstable, rfl⟩)

/-- The loop never loses that the reads of the latest preparation are current. Before its first read
a preparation has nothing that an edit could make stale. -/
theorem WatchStep.readsCurrent (h : WatchStep revision instanceId scopeId s label t)
    (hcurrent : s.ReadsCurrent revision) {history : List (WatchLabel Sources)}
    (hundisturbed : WatchState.Undisturbed revision history s label t) :
    t.ReadsCurrent revision := by
  cases h with
  | edit sources =>
      cases hphase : s.phase with
      | starting | reloading runner trigger =>
          simp only [WatchState.ReadsCurrent, hphase] at hcurrent ⊢
          by_cases hreads : s.current.reads = []
          · simp [hreads]
          · have hsame : sources = s.sources :=
              hundisturbed (by simpa [WatchState.Unscanned, hphase] using hreads)
            rw [hsame]
            exact hcurrent
      | started runner | reloaded runner trigger =>
          have hsame : sources = s.sources :=
            hundisturbed (by simp [WatchState.Unscanned, hphase])
          simp only [WatchState.ReadsCurrent, hphase] at hcurrent ⊢
          rw [hsame]
          exact hcurrent
      | waiting runner baseline pendingRevision =>
          simp only [WatchState.ReadsCurrent, hphase] at hcurrent ⊢
          exact hcurrent
      | ended => simp only [WatchState.ReadsCurrent]
  | readStart phase | readReload phase =>
      simp only [WatchState.ReadsCurrent, phase, WatchState.record] at hcurrent ⊢
      exact WatchState.reads_record hcurrent
  | started attempt phase result read | reload attempt phase reloads continues read =>
      simp only [WatchState.ReadsCurrent, phase] at hcurrent
      exact hcurrent
  | startFailed attempt phase result read | reloadLost attempt phase reloads lost read => trivial
  | firstScanFailed error phase | interrupt phase => trivial
  | firstScan phase | postScan phase =>
      simp only [WatchState.ReadsCurrent, phase] at hcurrent
      intro read hread
      exact congrArg revision (hcurrent read hread)
  | poll phase =>
      simp only [WatchState.ReadsCurrent, phase] at hcurrent
      rcases s.polled_cases _ _ _ (revision s.sources) with ⟨-, hpolled⟩ | ⟨-, hpolled⟩ |
        ⟨-, -, hpolled⟩
      · rw [hpolled]
        exact hcurrent
      · rw [hpolled]
        exact hcurrent
      · rw [hpolled]
        exact fun read hread => absurd hread List.not_mem_nil
  | pollFailed error phase =>
      simp only [WatchState.ReadsCurrent, phase] at hcurrent
      exact hcurrent
  | postScanFailed error phase =>
      simp only [WatchState.ReadsCurrent, phase] at hcurrent
      have htrigger := hundisturbed _ _ phase
      intro read hread
      rw [hcurrent read hread, htrigger]

/-- A preparation that gives a snapshot has read sources. -/
theorem WatchStep.preparedFromReads (h : WatchStep revision instanceId scopeId s label t)
    (hprepared : s.PreparedFromReads) : t.PreparedFromReads := by
  cases h with
  | edit sources | firstScan phase | firstScanFailed error phase | interrupt phase
  | pollFailed error phase | postScan phase | postScanFailed error phase => exact hprepared
  | readStart phase | readReload phase =>
      exact fun _ => List.append_ne_nil_of_right_ne_nil _ (List.cons_ne_nil _ _)
  | started attempt phase result read => exact fun _ => read
  | startFailed attempt phase result read | reload attempt phase reloads continues read
  | reloadLost attempt phase reloads lost read => exact read
  | poll phase =>
      rcases s.polled_cases _ _ _ (revision s.sources) with ⟨-, hpolled⟩ | ⟨-, hpolled⟩ |
        ⟨-, -, hpolled⟩
      · rw [hpolled]
        exact hprepared
      · rw [hpolled]
        exact hprepared
      · rw [hpolled]
        exact fun hsome => by cases hsome

/-- Without edits, a loop that has caught up with the sources stays so. -/
theorem WatchStep.settled (h : WatchStep revision instanceId scopeId s label t)
    (hlabel : ∀ sources, label ≠ .edit sources) (hsettled : s.Settled revision) :
    t.Settled revision := by
  have hreads := hsettled.reads
  have hknown := hsettled.known
  cases h with
  | edit sources => exact absurd rfl (hlabel sources)
  | readStart phase | readReload phase => exact ⟨WatchState.reads_record hreads, hknown⟩
  | started attempt phase result read | startFailed attempt phase result read
  | reloadLost attempt phase reloads lost read | firstScanFailed error phase
  | interrupt phase => exact ⟨hreads, nofun⟩
  | firstScan phase | postScan phase =>
      exact ⟨hreads, fun known hbaseline => by cases hbaseline; rfl⟩
  | reload attempt phase reloads continues read | postScanFailed error phase
  | pollFailed error phase =>
      simp only [WatchState.knownRevision, phase] at hknown
      exact ⟨hreads, hknown⟩
  | poll phase =>
      simp only [WatchState.knownRevision, phase] at hknown
      rcases s.polled_cases _ _ _ (revision s.sources) with ⟨-, hpolled⟩ | ⟨-, hpolled⟩ |
        ⟨-, -, hpolled⟩
      · rw [hpolled]
        exact ⟨hreads, hknown⟩
      · rw [hpolled]
        exact ⟨hreads, hknown⟩
      · rw [hpolled]
        exact ⟨fun read hread => absurd hread List.not_mem_nil,
          fun known htrigger => by cases htrigger; rfl⟩

/-- Two scans in a row that succeed make the loop catch up with the sources. At the baseline, the
latest preparation has read these sources. -/
theorem settled_of_scans {u : WatchState Sources Rev} (hrevision : Function.Injective revision)
    (hcurrent : s.ReadsCurrent revision) (hfirst : WatchStep revision instanceId scopeId s .scan t)
    (hsecond : WatchStep revision instanceId scopeId t .scan u) : u.Settled revision := by
  have hnoEdit : ∀ sources, (.scan : WatchLabel Sources) ≠ .edit sources := nofun
  cases hfirst with
  | firstScan phase | postScan phase =>
      simp only [WatchState.ReadsCurrent, phase] at hcurrent
      exact hsecond.settled hnoEdit ⟨hcurrent, fun known hbaseline => by cases hbaseline; rfl⟩
  | @poll runner baseline pendingRevision phase =>
      simp only [WatchState.ReadsCurrent, phase] at hcurrent
      have hbuilt : revision s.sources = baseline →
          ∀ read ∈ s.current.reads, read = s.sources := by
        intro hbaseline read hread
        exact hrevision ((hcurrent read hread).trans hbaseline.symm)
      rcases s.polled_cases runner baseline pendingRevision (revision s.sources) with
        ⟨hbaseline, hpolled⟩ | ⟨-, hpolled⟩ | ⟨-, -, hpolled⟩
      · rw [hpolled] at hsecond
        exact hsecond.settled hnoEdit
          ⟨hbuilt hbaseline, fun known hknown => by cases hknown; exact hbaseline⟩
      · rw [hpolled] at hsecond
        cases hsecond with
        | firstScan phase | postScan phase => cases phase
        | poll phase =>
            cases phase
            rcases WatchState.polled_cases { s with phase := .waiting runner baseline _ } runner
              baseline (some (revision s.sources)) (revision s.sources) with
              ⟨hbaseline, hagain⟩ | ⟨hnew, -⟩ | ⟨-, -, hagain⟩
            · rw [hagain]
              exact ⟨hbuilt hbaseline, fun known hknown => by cases hknown; exact hbaseline⟩
            · exact absurd rfl hnew
            · rw [hagain]
              exact ⟨fun read hread => absurd hread List.not_mem_nil,
                fun known htrigger => by cases htrigger; rfl⟩
      · -- A reload does not scan.
        rw [hpolled] at hsecond
        cases hsecond with
        | firstScan phase | postScan phase | poll phase => cases phase

end Steps

/-! ## Runs -/

section Runs

variable [DecidableEq Rev] {revision : Sources → Rev} {instanceId : ExtensionInstanceId}
variable {scopeId : RuntimeScopeId} {start s : WatchState Sources Rev}
variable {labels : List (WatchLabel Sources)}

/-- What an undisturbed run keeps. -/
theorem readsCurrent_of_run (hinit : (watchSystem revision instanceId scopeId).init start)
    (hrun : (watchSystem revision instanceId scopeId).RunWith (WatchState.Undisturbed revision)
      start labels s) : s.ReadsCurrent revision ∧ s.PreparedFromReads := by
  induction hrun with
  | refl =>
      cases hinit with
      | intro sources hstart =>
          rw [hstart]
          exact ⟨fun read hread => absurd hread List.not_mem_nil, fun hsome => by cases hsome⟩
  | snoc _ hstep hundisturbed ih =>
      exact ⟨WatchStep.readsCurrent hstep ih.1 hundisturbed,
        WatchStep.preparedFromReads hstep ih.2⟩

/-- Without edits, a loop that has caught up stays so over a whole run. -/
theorem settled_of_run {t : WatchState Sources Rev}
    (hrun : (watchSystem revision instanceId scopeId).Run s labels t)
    (hlabels : ∀ label ∈ labels, ∀ sources, label ≠ .edit sources)
    (hsettled : s.Settled revision) : t.Settled revision := by
  induction hrun with
  | refl s => exact hsettled
  | cons hstep _ ih =>
      rw [List.forall_mem_cons] at hlabels
      exact ih hlabels.2 (WatchStep.settled hstep hlabels.1 hsettled)

/-- Watch mode does not lose edits that leave the preparations undisturbed. Whenever the loop
finds the revision of its baseline, the latest preparation has read nothing else than the
sources that are there. After the edits stop, this holds from two scans in a row on. -/
theorem watch_builds_current (hrevision : Function.Injective revision)
    (hinit : (watchSystem revision instanceId scopeId).init start)
    (hrun : (watchSystem revision instanceId scopeId).RunWith (WatchState.Undisturbed revision)
      start labels s) :
    (∀ runner baseline pendingRevision, s.phase = .waiting runner baseline pendingRevision →
      revision s.sources = baseline → s.BuiltFromCurrent) ∧
    ∀ before after, labels = before ++ [.scan, .scan] ++ after →
      (∀ label ∈ after, ∀ sources, label ≠ .edit sources) →
      ∀ read ∈ s.current.reads, read = s.sources := by
  constructor
  · intro runner baseline pendingRevision hphase hbaseline
    have hkept := readsCurrent_of_run hinit hrun
    have hcurrent := hkept.1
    simp only [WatchState.ReadsCurrent, hphase] at hcurrent
    constructor
    · intro read hread
      exact hrevision ((hcurrent read hread).trans hbaseline.symm)
    · intro hsome
      exact ⟨hkept.2 hsome, by simp [WatchState.lastPrepared, hsome]⟩
  · intro before after hlabels hafter
    rw [hlabels, List.append_assoc] at hrun
    obtain ⟨t, hbefore, hrest⟩ := hrun.split
    cases hrest with
    | cons hfirst hrest =>
        cases hrest with
        | cons hsecond hrest =>
            have hcurrent := (readsCurrent_of_run hinit hbefore).1
            have hsettled := settled_of_scans hrevision hcurrent hfirst hsecond
            exact (settled_of_run hrest hafter hsettled).reads

end Runs

/-! ## Edits that are not built -/

/-- When the loop finds the revision of its baseline, the latest snapshot was built from
sources of that revision only, or the session was started from these. -/
def WatchState.BuildsEdits (revision : Sources → Rev) (s : WatchState Sources Rev) : Prop :=
  ∀ runner baseline pendingRevision, s.phase = .waiting runner baseline pendingRevision →
    revision s.sources = baseline →
    (∃ build, s.lastPrepared = some build ∧ ∀ read ∈ build.reads, revision read = baseline) ∨
      ∀ read ∈ s.initial.reads, revision read = baseline

variable {runner : ReloadingDevSession}

/-- A session that was started runs the snapshot that its start prepared. -/
theorem ReloadingDevSession.start_ok {instanceId : ExtensionInstanceId} {scopeId : RuntimeScopeId}
    {attempt : StartAttempt}
    (h : ReloadingDevSession.start instanceId scopeId attempt = .ok runner) :
    ∃ session, runner.session = some session ∧ attempt.preparation = .ok session.snapshot := by
  unfold ReloadingDevSession.start at h
  split at h
  · cases h
  · split at h
    · cases h
    · next snapshot hprepared =>
        split at h
        · cases h
        · next session hstarted =>
            cases h
            exact ⟨session, rfl, by
              rw [hprepared, DevSession.snapshot_of_startSnapshot hstarted]⟩

/-- A start of the notes. -/
def notesStart : StartAttempt :=
  ⟨.ok (), .ok ⟨⟨1⟩⟩, ⟨.ok notesArchive, .quiet⟩⟩

theorem notesStart_ok : ∃ runner session,
    ReloadingDevSession.start ⟨"dev"⟩ ⟨"dev"⟩ notesStart = .ok runner ∧
      runner.session = some session ∧ session.snapshot = ⟨⟨1⟩⟩ := by
  have hok : (ReloadingDevSession.start ⟨"dev"⟩ ⟨"dev"⟩ notesStart).toOption.isSome = true := by
    decide +kernel
  cases hstart : ReloadingDevSession.start ⟨"dev"⟩ ⟨"dev"⟩ notesStart with
  | error error =>
      rw [hstart] at hok
      cases hok
  | ok runner =>
      obtain ⟨session, hsession, hprepared⟩ := ReloadingDevSession.start_ok hstart
      exact ⟨runner, session, rfl, hsession, (Except.ok.inj hprepared).symm⟩

/-- A reload whose build fails. -/
def brokenReload : ReloadAttempt :=
  { notesReload .quiet with preparation := .error (.buildFailed "exit status: 101") }

/-- A reload that prepares the same bytes again. -/
def sameReload : ReloadAttempt :=
  { notesReload .quiet with preparation := .ok ⟨⟨1⟩⟩ }

/-- The sources of the notes are a number, which is their revision. -/
abbrev notesWatch : Lts (WatchState Nat Nat) (WatchLabel Nat) :=
  watchSystem id ⟨"dev"⟩ ⟨"dev"⟩

/-- The notes are started, and a reload replaces them by another snapshot. -/
theorem notesReload_ok : ∃ runner next,
    ReloadingDevSession.start ⟨"dev"⟩ ⟨"dev"⟩ notesStart = .ok runner ∧
      runner.reload (notesReload .quiet) = (next, .ok (.reloaded ⟨1⟩ ⟨2⟩)) := by
  have hreloads : (match ReloadingDevSession.start ⟨"dev"⟩ ⟨"dev"⟩ notesStart with
      | .ok runner =>
          match (runner.reload (notesReload .quiet)).2 with
          | .ok outcome => decide (outcome = .reloaded ⟨1⟩ ⟨2⟩)
          | .error _ => false
      | .error _ => false) = true := by
    decide +kernel
  split at hreloads
  · next runner hstart =>
      split at hreloads
      · next outcome houtcome =>
          rw [of_decide_eq_true hreloads] at houtcome
          exact ⟨runner, _, hstart, Prod.ext rfl houtcome⟩
      · cases hreloads
  · cases hreloads

/-- The notes are started from the sources 0 and edited twice: while the loop waits, which makes it
reload, and again before the reload reads. The reload has built the second edit, and the scans
after it find nothing new. -/
theorem watch_builds_current_notes : ∃ (s : WatchState Nat Nat) (next : ReloadingDevSession),
    notesWatch.RunWith (WatchState.Undisturbed id) (.starting 0)
      ([.read, .start notesStart, .scan, .edit 1, .scan, .scan, .edit 2, .read,
        .reload (notesReload .quiet)] ++ [.scan, .scan] ++ [.scan]) s ∧
    s.phase = .waiting next 2 none ∧ s.current = ⟨[2], some ⟨⟨2⟩⟩⟩ ∧ s.sources = 2 ∧
    s.BuiltFromCurrent ∧ ∀ read ∈ s.current.reads, read = s.sources := by
  obtain ⟨runner, next, hstart, hreload⟩ := notesReload_ok
  have hread : notesWatch.RunWith (WatchState.Undisturbed id) (.starting 0) [.read]
      ⟨0, .starting, ⟨[0], none⟩, []⟩ := .snoc .refl (.readStart _ rfl) trivial
  have hstarted := hread.snoc (.started _ notesStart rfl hstart (List.cons_ne_nil _ _)) trivial
  have hwaiting := hstarted.snoc (.firstScan _ rfl) trivial
  have hedited := hwaiting.snoc (.edit _ 1) nofun
  have hpending : notesWatch.RunWith (WatchState.Undisturbed id) (.starting 0)
      [.read, .start notesStart, .scan, .edit 1, .scan]
      ⟨1, .waiting runner 0 (some 1), ⟨[0], some ⟨⟨1⟩⟩⟩, []⟩ :=
    hedited.snoc (.poll ⟨1, .waiting runner 0 none, ⟨[0], some ⟨⟨1⟩⟩⟩, []⟩ rfl) trivial
  have hreloading : notesWatch.RunWith (WatchState.Undisturbed id) (.starting 0)
      [.read, .start notesStart, .scan, .edit 1, .scan, .scan]
      ⟨1, .reloading runner 1, ⟨[], none⟩, [⟨[0], some ⟨⟨1⟩⟩⟩]⟩ :=
    hpending.snoc (.poll ⟨1, .waiting runner 0 (some 1), ⟨[0], some ⟨⟨1⟩⟩⟩, []⟩ rfl) trivial
  have hagain := hreloading.snoc (.edit _ 2) fun hread => absurd rfl hread
  have hbuilt := hagain.snoc (.readReload _ rfl) trivial
  have hreloaded := hbuilt.snoc (.reload _ (notesReload .quiet) rfl hreload nofun
    fun _ => List.cons_ne_nil _ _) trivial
  have hbaseline : notesWatch.RunWith (WatchState.Undisturbed id) (.starting 0)
      [.read, .start notesStart, .scan, .edit 1, .scan, .scan, .edit 2, .read,
        .reload (notesReload .quiet), .scan]
      ⟨2, .waiting next 2 none, ⟨[2], some ⟨⟨2⟩⟩⟩, [⟨[0], some ⟨⟨1⟩⟩⟩]⟩ :=
    hreloaded.snoc (.postScan _ rfl) trivial
  have hrun := (hbaseline.snoc (.poll _ rfl) trivial).snoc (.poll _ rfl) trivial
  have hcurrent := watch_builds_current Function.injective_id ⟨0, rfl⟩ hrun
  exact ⟨_, next, hrun, rfl, rfl, rfl, hcurrent.1 next 2 none rfl rfl,
    hcurrent.2 [.read, .start notesStart, .scan, .edit 1, .scan, .scan, .edit 2, .read,
      .reload (notesReload .quiet)] [.scan] rfl (by simp)⟩

/-- The notes are started from the sources 0 and edited once. The reload has read the edit. -/
theorem notesWatch_reloading
    (hstart : ReloadingDevSession.start ⟨"dev"⟩ ⟨"dev"⟩ notesStart = .ok runner) :
    notesWatch.Run (.starting 0)
      [.read, .start notesStart, .scan, .edit 1, .scan, .scan, .read]
      ⟨1, .reloading runner 1, ⟨[1], none⟩, [⟨[0], some ⟨⟨1⟩⟩⟩]⟩ :=
  .cons (.readStart _ rfl) <| .cons (.started _ notesStart rfl hstart (List.cons_ne_nil _ _)) <|
    .cons (.firstScan _ rfl) <| .cons (.edit _ 1) <| .cons (.poll _ rfl) <|
    .cons (.poll _ rfl) <| .cons (.readReload _ rfl) <| .refl _

/-- A state whose snapshot was built from one other source, as was that of the start. -/
theorem WatchState.not_buildsEdits {s : WatchState Nat Nat} {build : Preparation Nat} {read : Nat}
    (hphase : s.phase = .waiting runner s.sources none) (hbuild : s.lastPrepared = some build)
    (hread : read ∈ build.reads) (hstale : read ≠ s.sources) {first : Nat}
    (hfirst : first ∈ s.initial.reads) (hstarted : first ≠ s.sources) : ¬ s.BuildsEdits id := by
  intro hbuilds
  rcases hbuilds runner s.sources none hphase rfl with ⟨other, hother, hreads⟩ | hreads
  · rw [hbuild] at hother
    cases hother
    exact hstale (hreads read hread)
  · exact hstarted (hreads first hfirst)

/-- Edits can be lost. A build that fails makes its sources the baseline. An edit after the
last read of a reload is taken for the baseline by the scan after it, and so is an edit
before the first scan. -/
theorem watch_loses_edits : Function.Injective (id : Nat → Nat) ∧
    (∃ s, notesWatch.Run (.starting 0) ([.read, .start notesStart, .scan, .edit 1, .scan, .scan,
      .read] ++ [.reload brokenReload, .scan]) s ∧ ¬ s.BuildsEdits id) ∧
    (∃ s, notesWatch.Run (.starting 0) ([.read, .start notesStart, .scan, .edit 1, .scan, .scan,
      .read] ++ [.edit 2, .reload sameReload, .scan]) s ∧ ¬ s.BuildsEdits id) ∧
    ∃ s, notesWatch.Run (.starting 0) [.read, .start notesStart, .edit 1, .scan] s ∧
      ¬ s.BuildsEdits id := by
  obtain ⟨runner, session, hstart, hsession, hsnapshot⟩ := notesStart_ok
  have hreloading := notesWatch_reloading hstart
  refine ⟨Function.injective_id, ?_, ?_, ?_⟩
  · refine ⟨⟨1, .waiting runner 1 none, ⟨[1], none⟩, [⟨[0], some ⟨⟨1⟩⟩⟩]⟩,
      hreloading.append ?_, ?_⟩
    · have hkept : runner.session.isSome = true := by rw [hsession]; rfl
      exact .cons (.reload _ brokenReload rfl (reload_of_preparation_error rfl rfl)
        (fun _ _ => hkept) (fun _ => List.cons_ne_nil _ _)) (.single (.postScan _ rfl))
    · exact WatchState.not_buildsEdits rfl rfl List.mem_cons_self (by simp) List.mem_cons_self
        (by simp)
  · refine ⟨⟨2, .waiting runner 2 none, ⟨[1], some ⟨⟨1⟩⟩⟩, [⟨[0], some ⟨⟨1⟩⟩⟩]⟩,
      hreloading.append ?_, ?_⟩
    · have hsame : runner.reload sameReload = (runner, .ok .unchanged) :=
        reload_of_same_digest hsession rfl rfl (by rw [hsnapshot])
      exact .cons (.edit _ 2) <| .cons (.reload _ sameReload rfl hsame nofun
        (fun _ => List.cons_ne_nil _ _)) (.single (.postScan _ rfl))
    · exact WatchState.not_buildsEdits rfl rfl List.mem_cons_self (by simp) List.mem_cons_self
        (by simp)
  · refine ⟨⟨1, .waiting runner 1 none, ⟨[0], some ⟨⟨1⟩⟩⟩, []⟩, ?_, ?_⟩
    · exact .cons (.readStart _ rfl) <| .cons (.started _ notesStart rfl hstart
        (List.cons_ne_nil _ _)) <| .cons (.edit _ 1) (.single (.firstScan _ rfl))
    · exact WatchState.not_buildsEdits rfl rfl List.mem_cons_self (by simp) List.mem_cons_self
        (by simp)

end Rintawa.Dev
