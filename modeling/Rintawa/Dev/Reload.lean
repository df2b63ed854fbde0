/-
# Reloading a development session

When the sources of a project change, a new snapshot is prepared and replaces the running one.
A new snapshot that does not start is given up for the previous one. The session is moved out
before its cleanup, and a cleanup that fails puts nothing back.
-/

import Rintawa.Dev.Session

namespace Rintawa.Dev

open Rintawa.Lib Rintawa.Sdk Rintawa.ExtensionEngine
open Rintawa.Artifacts (ArtifactDigest)

/-- A reload that found nothing new, or another build. -/
inductive ReloadOutcome
  | unchanged
  | reloaded (previous current : ArtifactDigest)
  deriving DecidableEq

/-- A development session that can be reloaded. The project that its path leads to is read
from outside. -/
structure ReloadingDevSession where
  instanceId : ExtensionInstanceId
  scopeId : RuntimeScopeId
  session : Option DevSession

/-- What a reload meets: what opening the project and preparing its snapshot give, the
callbacks while the old instance is cleaned up, and what the two starts meet. -/
structure ReloadAttempt where
  opening : DevResult Unit
  preparation : DevResult PreparedSnapshot
  stopping : InstanceScript
  unregistering : InstanceScript
  next : StartConditions
  previous : StartConditions

namespace ReloadingDevSession

variable (dev : ReloadingDevSession)

/-- Start a snapshot for this session. -/
def startSnapshot (snapshot : PreparedSnapshot) (conditions : StartConditions) :
    DevResult DevSession :=
  DevSession.startSnapshot snapshot dev.instanceId dev.scopeId conditions

/-- Start a new snapshot after the old session was cleaned up, or else the previous one. -/
def replaceSnapshot (previousDigest : ArtifactDigest) (nextSnapshot : PreparedSnapshot)
    (previousSnapshot : PreparedSnapshot) (attempt : ReloadAttempt) :
    ReloadingDevSession × DevResult ReloadOutcome :=
  match dev.startSnapshot nextSnapshot attempt.next with
  | .ok session =>
      ({ dev with session := some session }, .ok (.reloaded previousDigest nextSnapshot.digest))
  | .error reloadError =>
      match dev.startSnapshot previousSnapshot attempt.previous with
      | .ok previousSession =>
          ({ dev with session := some previousSession }, .error (.reloadFailed reloadError))
      | .error rollbackError =>
          (dev, .error (.reloadAndRollbackFailed reloadError rollbackError))

/-- Prepare a snapshot and let it replace the running one when its bytes have changed. -/
def reload (attempt : ReloadAttempt) : ReloadingDevSession × DevResult ReloadOutcome :=
  match attempt.opening with
  | .error error => (dev, .error error)
  | .ok () =>
      match attempt.preparation with
      | .error error => (dev, .error error)
      | .ok nextSnapshot =>
          match dev.session with
          | none => (dev, .error .sessionUnavailable)
          | some current =>
              if current.digest = nextSnapshot.digest then (dev, .ok .unchanged)
              else
                let taken := { dev with session := none }
                match current.shutdownIntoSnapshot attempt.stopping attempt.unregistering with
                | .error error => (taken, .error error)
                | .ok previousSnapshot =>
                    taken.replaceSnapshot current.digest nextSnapshot previousSnapshot attempt

/-- A session is running a snapshot. -/
def Runs (snapshot : PreparedSnapshot) : Prop :=
  ∃ running, dev.session = some running ∧ running.snapshot = snapshot ∧
    running.state = some .active

/-- Both starts of a reload failed, and it reported both errors. -/
def BothStartsFailed (previous next : PreparedSnapshot) (attempt : ReloadAttempt)
    (result : DevResult ReloadOutcome) : Prop :=
  ∃ reloadError rollbackError, dev.startSnapshot next attempt.next = .error reloadError ∧
    dev.startSnapshot previous attempt.previous = .error rollbackError ∧
    result = .error (.reloadAndRollbackFailed reloadError rollbackError)

/-- What a reload promises to a session that was running a snapshot. -/
structure KeepsSession (previous : PreparedSnapshot) (attempt : ReloadAttempt)
    (outcome : ReloadingDevSession × DevResult ReloadOutcome) : Prop where
  unopened : ∀ error, attempt.opening = .error error → outcome = (dev, .error error)
  unprepared : ∀ error, attempt.opening = .ok () → attempt.preparation = .error error →
    outcome = (dev, .error error)
  unchanged : ∀ next, attempt.opening = .ok () → attempt.preparation = .ok next →
    next.digest = previous.digest → outcome = (dev, .ok .unchanged)
  reloaded : ∀ old new, outcome.2 = .ok (.reloaded old new) →
    ∃ next, attempt.preparation = .ok next ∧ outcome.1.Runs next ∧
      old = previous.digest ∧ new = next.digest
  otherwise : (∀ old new, outcome.2 ≠ .ok (.reloaded old new)) →
    outcome.1.Runs previous ∨
      ∃ next, attempt.preparation = .ok next ∧
        dev.BothStartsFailed previous next attempt outcome.2

/-- The cleanup of the old session is reached. -/
def Replaces (previous : PreparedSnapshot) (attempt : ReloadAttempt) : Prop :=
  attempt.opening = .ok () ∧ ∃ next, attempt.preparation = .ok next ∧
    next.digest ≠ previous.digest

variable {dev}

/-- A session that was started is running. -/
theorem runs_of_startSnapshot {snapshot : PreparedSnapshot} {conditions : StartConditions}
    {session : DevSession} (h : dev.startSnapshot snapshot conditions = .ok session) :
    ({ dev with session := some session } : ReloadingDevSession).Runs snapshot :=
  ⟨session, rfl, DevSession.snapshot_of_startSnapshot h, session.state_eq⟩

/-- A replacement keeps a session. -/
theorem keepsSession_replaceSnapshot {previous next : PreparedSnapshot} {attempt : ReloadAttempt}
    {taken : ReloadingDevSession} (htaken : taken.startSnapshot = dev.startSnapshot)
    (hopening : attempt.opening = .ok ()) (hpreparation : attempt.preparation = .ok next)
    (hdigest : next.digest ≠ previous.digest) :
    dev.KeepsSession previous attempt
      (taken.replaceSnapshot previous.digest next previous attempt) := by
  have hunopened : ∀ error, attempt.opening ≠ .error error := by
    intro error herror
    rw [hopening] at herror
    cases herror
  have hunprepared : ∀ error, attempt.preparation ≠ .error error := by
    intro error herror
    rw [hpreparation] at herror
    cases herror
  have hunchanged : ∀ other, attempt.preparation = .ok other →
      other.digest ≠ previous.digest := by
    intro other hother
    rw [hpreparation] at hother
    cases hother
    exact hdigest
  rw [replaceSnapshot]
  cases hnext : taken.startSnapshot next attempt.next with
  | ok session =>
      have hruns := runs_of_startSnapshot hnext
      refine ⟨fun error herror => absurd herror (hunopened error),
        fun error _ herror => absurd herror (hunprepared error),
        fun other _ hother hsame => absurd hsame (hunchanged other hother), ?_, ?_⟩
      · intro old new hresult
        cases hresult
        exact ⟨next, hpreparation, hruns, rfl, rfl⟩
      · intro hnot
        exact absurd rfl (hnot _ _)
  | error reloadError =>
      dsimp only
      cases hprevious : taken.startSnapshot previous attempt.previous with
      | ok session =>
          have hruns := runs_of_startSnapshot hprevious
          exact ⟨fun error herror => absurd herror (hunopened error),
            fun error _ herror => absurd herror (hunprepared error),
            fun other _ hother hsame => absurd hsame (hunchanged other hother), nofun,
            fun _ => .inl hruns⟩
      | error rollbackError =>
          rw [htaken] at hnext hprevious
          exact ⟨fun error herror => absurd herror (hunopened error),
            fun error _ herror => absurd herror (hunprepared error),
            fun other _ hother hsame => absurd hsame (hunchanged other hother), nofun,
            fun _ => .inr ⟨next, hpreparation, reloadError, rollbackError, hnext, hprevious, rfl⟩⟩

end ReloadingDevSession

/-! ## The ways in which a reload ends -/

section Endings

variable {dev : ReloadingDevSession} {current : DevSession} {attempt : ReloadAttempt}
variable {next : PreparedSnapshot} {error : DevError}

theorem reload_of_opening_error (hopening : attempt.opening = .error error) :
    dev.reload attempt = (dev, .error error) := by
  rw [ReloadingDevSession.reload, hopening]

theorem reload_of_preparation_error (hopening : attempt.opening = .ok ())
    (hpreparation : attempt.preparation = .error error) :
    dev.reload attempt = (dev, .error error) := by
  rw [ReloadingDevSession.reload, hopening, hpreparation]

variable (hrunning : dev.session = some current) (hopening : attempt.opening = .ok ())
  (hpreparation : attempt.preparation = .ok next)
include hrunning hopening hpreparation

theorem reload_of_same_digest (hdigest : next.digest = current.snapshot.digest) :
    dev.reload attempt = (dev, .ok .unchanged) := by
  rw [ReloadingDevSession.reload, hopening, hpreparation, hrunning]
  exact if_pos hdigest.symm

variable (hdigest : next.digest ≠ current.snapshot.digest)
include hdigest

/-- A cleanup that fails has no session put back. -/
theorem reload_of_cleanup_error
    (hcleanup : (cleanupEngine current.engine current.instanceId attempt.stopping
      attempt.unregistering).2 = .error error) :
    dev.reload attempt = ({ dev with session := none }, .error error) := by
  have hreplaced : current.digest ≠ next.digest := hdigest.symm
  rw [ReloadingDevSession.reload, hopening, hpreparation, hrunning]
  dsimp only
  rw [if_neg hreplaced, DevSession.shutdownIntoSnapshot, hcleanup]
  rfl

theorem reload_of_cleanup_ok
    (hcleanup : (cleanupEngine current.engine current.instanceId attempt.stopping
      attempt.unregistering).2 = .ok ()) :
    dev.reload attempt =
      ({ dev with session := none } : ReloadingDevSession).replaceSnapshot
        current.snapshot.digest next current.snapshot attempt := by
  have hreplaced : current.digest ≠ next.digest := hdigest.symm
  rw [ReloadingDevSession.reload, hopening, hpreparation, hrunning]
  dsimp only
  rw [if_neg hreplaced, DevSession.shutdownIntoSnapshot, hcleanup]
  rfl

end Endings

/-- A reload that does not reach the cleanup keeps the session that is running. -/
theorem keepsSession_untouched {dev : ReloadingDevSession} {current : DevSession}
    (hrunning : dev.session = some current) {attempt : ReloadAttempt}
    (huntouched : ¬ ReloadingDevSession.Replaces current.snapshot attempt) :
    dev.KeepsSession current.snapshot attempt (dev.reload attempt) := by
  have hruns : dev.Runs current.snapshot := ⟨current, hrunning, rfl, current.state_eq⟩
  have hkept : ∃ result, dev.reload attempt = (dev, result) ∧
      ∀ old new, result ≠ .ok (.reloaded old new) := by
    cases hopening : attempt.opening with
    | error error => exact ⟨_, reload_of_opening_error hopening, nofun⟩
    | ok _ =>
        cases hpreparation : attempt.preparation with
        | error error => exact ⟨_, reload_of_preparation_error hopening hpreparation, nofun⟩
        | ok next =>
            have hdigest : next.digest = current.snapshot.digest := by
              by_contra hdigest
              exact huntouched ⟨hopening, next, hpreparation, hdigest⟩
            exact ⟨_, reload_of_same_digest hrunning hopening hpreparation hdigest, nofun⟩
  refine ⟨fun _ hopening => reload_of_opening_error hopening,
    fun _ hopening hpreparation => reload_of_preparation_error hopening hpreparation,
    fun _ hopening hpreparation hdigest =>
      reload_of_same_digest hrunning hopening hpreparation hdigest, ?_, ?_⟩
  · intro old new hreloaded
    obtain ⟨result, hreload, hnever⟩ := hkept
    rw [hreload] at hreloaded
    exact absurd hreloaded (hnever old new)
  · intro _
    obtain ⟨result, hreload, -⟩ := hkept
    rw [hreload]
    exact .inl hruns

/-- A reload keeps a session exactly when no stop callback of the old instance fails, in case that
the old instance has to go. When one fails, nothing runs any more and no start is attempted. -/
theorem reload_keeps_session_iff {dev : ReloadingDevSession} {current : DevSession}
    (hrunning : dev.session = some current) (attempt : ReloadAttempt) :
    dev.KeepsSession current.snapshot attempt (dev.reload attempt) ↔
      (ReloadingDevSession.Replaces current.snapshot attempt →
        StopsQuietly current.engine current.instanceId attempt.stopping) := by
  have hcleanup := cleanupEngine_ok_iff current.runsAlone attempt.stopping attempt.unregistering
  constructor
  · intro hkeeps hreplaces
    obtain ⟨hopening, next, hpreparation, hdigest⟩ := hreplaces
    cases hresult : (cleanupEngine current.engine current.instanceId attempt.stopping
        attempt.unregistering).2 with
    | ok _ => exact hcleanup.mp hresult
    | error error =>
        rw [reload_of_cleanup_error hrunning hopening hpreparation hdigest hresult] at hkeeps
        rcases hkeeps.otherwise nofun with ⟨running, hsession, -⟩ |
          ⟨_, -, reloadError, rollbackError, -, -, hboth⟩
        · cases hsession
        · rcases cleanupEngine_error hresult with ⟨source, rfl⟩ | ⟨stop, unregister, rfl⟩ <;>
            cases hboth
  · intro hquiet
    by_cases hreplaces : ReloadingDevSession.Replaces current.snapshot attempt
    · have hok := hcleanup.mpr (hquiet hreplaces)
      obtain ⟨hopening, next, hpreparation, hdigest⟩ := hreplaces
      rw [reload_of_cleanup_ok hrunning hopening hpreparation hdigest hok]
      exact ReloadingDevSession.keepsSession_replaceSnapshot rfl hopening hpreparation hdigest
    · exact keepsSession_untouched hrunning hreplaces

/-! ## A session of notes -/

/-- An archive with one WebAssembly component. -/
def notesArchive : RtwArchive where
  manifest := .ok ⟨⟨"demo.notes"⟩, [⟨⟨"main"⟩, ⟨wasmComponentTargetV1⟩, true, ⟨[], []⟩⟩]⟩
  wasmEngine := .ok ()
  wasmComponent _ := .ok ⟨⟨none⟩, [], none, false⟩
  hostedComponent _ := .error "no host"

def notesEngine : Engine :=
  ((Engine.new.loadStoredExtension (.ok notesArchive) ⟨"dev"⟩ ⟨"dev"⟩).1.startExtensionInstance
    ⟨"dev"⟩ .quiet).1

theorem notesEngine_runsAlone : RunsAlone notesEngine ⟨"dev"⟩ := by
  have hloaded : (Engine.new.loadStoredExtension (.ok notesArchive) ⟨"dev"⟩ ⟨"dev"⟩).2 =
      .ok ⟨"demo.notes"⟩ := by
    decide +kernel
  have hstarted : ((Engine.new.loadStoredExtension (.ok notesArchive) ⟨"dev"⟩
      ⟨"dev"⟩).1.startExtensionInstance ⟨"dev"⟩ .quiet).2 = .ok () := by
    decide +kernel
  exact runsAlone_of_start (Prod.ext rfl hloaded) (Prod.ext rfl hstarted)

/-- A session that runs the archive. -/
def notesSession : DevSession :=
  ⟨⟨⟨1⟩⟩, notesEngine, ⟨"dev"⟩, ⟨"demo.notes"⟩, notesEngine_runsAlone⟩

def notesDev : ReloadingDevSession :=
  ⟨⟨"dev"⟩, ⟨"dev"⟩, some notesSession⟩

/-- A reload to another snapshot of the same archive. -/
def notesReload (stopping : InstanceScript) : ReloadAttempt where
  opening := .ok ()
  preparation := .ok ⟨⟨2⟩⟩
  stopping := stopping
  unregistering := .quiet
  next := ⟨.ok notesArchive, .quiet⟩
  previous := ⟨.ok notesArchive, .quiet⟩

theorem reload_keeps_session_notes :
    notesDev.KeepsSession notesSession.snapshot (notesReload .quiet)
      (notesDev.reload (notesReload .quiet)) :=
  (reload_keeps_session_iff rfl (notesReload .quiet)).mpr fun _ _ _ _ _ => rfl

/-- Stop callbacks that fail. -/
def busyScript : InstanceScript :=
  ⟨fun _ => ⟨[], none⟩, fun _ => ⟨[], some ⟨"busy", false⟩⟩⟩

/-- A stop callback that fails ends the session. The new snapshot is not started and the
previous one is not restored. -/
theorem reload_loses_session :
    notesDev.session = some notesSession ∧
      (notesDev.reload (notesReload busyScript)).1.session = none ∧
      (notesDev.reload (notesReload busyScript)).2 =
        .error (.engine (.stopFailed "demo.notes" [⟨"main", "busy"⟩])) ∧
      ¬ notesDev.KeepsSession notesSession.snapshot (notesReload busyScript)
        (notesDev.reload (notesReload busyScript)) := by
  have hcleanup : (cleanupEngine notesSession.engine notesSession.instanceId
      (notesReload busyScript).stopping (notesReload busyScript).unregistering).2 =
      .error (.engine (.stopFailed "demo.notes" [⟨"main", "busy"⟩])) := by
    decide +kernel
  have hreload : notesDev.reload (notesReload busyScript) =
      ({ notesDev with session := none },
        .error (.engine (.stopFailed "demo.notes" [⟨"main", "busy"⟩]))) :=
    reload_of_cleanup_error rfl rfl rfl (by decide +kernel) hcleanup
  rw [hreload]
  refine ⟨rfl, rfl, rfl, fun hkeeps => ?_⟩
  rcases hkeeps.otherwise nofun with ⟨running, hsession, -⟩ |
    ⟨next, -, reloadError, rollbackError, -, -, hboth⟩
  · cases hsession
  · cases hboth

end Rintawa.Dev
