/-
# Development sessions

The development tools run one extension in an engine of its own: a snapshot of the project
is loaded and started, and later stopped and unregistered. What the store of a snapshot
gives and what the callbacks of the components do is given from outside, for one start or
one cleanup at a time.
-/

import Rintawa.Artifacts.Objects
import Rintawa.ExtensionEngine.EngineSteps

namespace Rintawa.Dev

open Rintawa.Lib Rintawa.Sdk Rintawa.ExtensionEngine
open Rintawa.Artifacts (ArtifactDigest)

/-- Errors of the development tools. -/
inductive DevError
  | io (reason : String)
  | configParse (reason : String)
  | unsupportedConfigSchema (schema : Nat)
  | invalidArtifactRoot (path : String)
  | invalidWatchIgnore (reason : String)
  | emptyBuildCommand
  | buildFailed (status : String)
  | invalidRustComponentBuild (reason : String)
  | rustComponentBuildFailed (manifest status : String)
  | componentizeFailed (artifact reason : String)
  | artifact (reason : String)
  | engine (source : EngineError)
  | sessionUnavailable
  | reloadFailed (source : DevError)
  | reloadAndRollbackFailed (reload rollback : DevError)
  | shutdownFailed (stop unregister : EngineError)
  deriving DecidableEq

/-- What the development tools return. -/
abbrev DevResult (α : Type) : Type :=
  Except DevError α

/-- A snapshot of a project, in a store of its own. -/
structure PreparedSnapshot where
  digest : ArtifactDigest
  deriving DecidableEq

/-! ## Engines of one instance -/

/-- An engine that runs one instance and has no other one. -/
structure RunsAlone (engine : Engine) (instanceId : ExtensionInstanceId) : Prop where
  consistent : Consistent engine
  alone : ∀ other, (engine.extensions.lookup other).isSome = true → other = instanceId
  active : engine.isActive instanceId = true

/-- Operations that admit one instance only leave an engine with that instance only. -/
theorem alone_of_evolves {op : EngineOp} {engine engine' : Engine}
    {instanceId : ExtensionInstanceId} (hadmits : ∀ other, op.Admits other → other = instanceId)
    (h : Evolves op engine engine') (hconsistent : Consistent engine)
    (halone : ∀ other, (engine.extensions.lookup other).isSome = true → other = instanceId) :
    ∀ other, (engine'.extensions.lookup other).isSome = true → other = instanceId := by
  refine h.preserves (P := fun engine => ∀ other,
    (engine.extensions.lookup other).isSome = true → other = instanceId) ?_ hconsistent halone
  intro engine engine' _ halone hchange _
  have hinserted : ∀ ext : ManagedExtension, ext.instanceId = instanceId →
      ∀ other, ((engine.extensions.insert ext.instanceId ext).lookup other).isSome = true →
        other = instanceId := by
    intro ext hsame other hother
    by_cases heq : other = ext.instanceId
    · exact heq.trans hsame
    · rw [Dict.lookup_insert_ite, if_neg heq] at hother
      exact halone other hother
  have hkept : ∀ ext : ManagedExtension,
      engine.extensions.lookup ext.instanceId = some ext → ext.instanceId = instanceId := by
    intro ext hfound
    exact halone _ (by rw [hfound]; rfl)
  cases hchange with
  | enroll facilities ext permitted => exact hinserted ext (hadmits _ permitted)
  | activate facilities ext permitted found =>
      exact hinserted { ext with state := .active } (hkept ext found)
  | halt facilities ext found => exact hinserted { ext with state := .stopped } (hkept ext found)
  | forget ext =>
      intro other hother
      apply halone
      change ((engine.extensions.erase ext.instanceId).lookup other).isSome = true at hother
      rw [Dict.lookup_erase_ite] at hother
      split at hother
      · cases hother
      · exact hother
  | facilities | definePlatform | clearPlatform | prefer | grantSecret | grantPermission
  | revokeSecrets => exact halone

namespace RunsAlone

variable {engine : Engine} {instanceId : ExtensionInstanceId}

/-- The instance that is running. -/
theorem found (h : RunsAlone engine instanceId) : ∃ ext,
    engine.extensions.lookup instanceId = some ext ∧ ext.instanceId = instanceId ∧
      ext.state = .active := by
  have hactive := h.active
  unfold Engine.isActive at hactive
  cases hfound : engine.extensions.lookup instanceId with
  | none =>
      rw [hfound] at hactive
      cases hactive
  | some ext =>
      rw [hfound] at hactive
      exact ⟨ext, rfl, h.consistent.keyed _ _ hfound, by simpa using hactive⟩

end RunsAlone

/-- Nothing is instantiated through the only instance of an engine. -/
theorem providerNotInUse_of_alone {engine : Engine} {instanceId : ExtensionInstanceId}
    (hconsistent : Consistent engine)
    (halone : ∀ other, (engine.extensions.lookup other).isSome = true → other = instanceId) :
    engine.ensureExecutionTargetProviderNotInUse instanceId = .ok () := by
  have hnone : engine.executionTargetDependentsOf instanceId = [] := by
    rw [List.eq_nil_iff_forall_not_mem]
    intro dependent hmem
    have hdependent := hconsistent.mem_dependents.mp hmem
    exact hdependent.elim fun ext hext => hext.2.1 (halone _ (by rw [hext.1]; rfl))
  simp [Engine.ensureExecutionTargetProviderNotInUse, hnone]

/-- An instance whose start succeeded is active. -/
theorem isActive_of_start {engine engine' : Engine} {instanceId : ExtensionInstanceId}
    {script : InstanceScript} (hconsistent : Consistent engine)
    (hstarted : engine.startExtensionInstance instanceId script = (engine', .ok ())) :
    engine'.isActive instanceId = true := by
  unfold Engine.startExtensionInstance at hstarted
  split at hstarted
  · cases hstarted
  · next ext hinstance =>
      have hfound := instanceOf_ok hinstance
      have hkey := hconsistent.keyed _ _ hfound
      split at hstarted
      · next hactive =>
          cases hstarted
          simp [Engine.isActive, hfound, hactive]
      · split at hstarted
        · cases hstarted
        · split at hstarted
          · cases hstarted
          · unfold Engine.launch at hstarted
            split at hstarted
            · unfold Engine.abandonStart at hstarted
              split at hstarted <;> cases hstarted
            · split at hstarted
              · cases hstarted
              · cases hstarted
                simp [Engine.isActive, hkey]

/-! ## Sessions -/

/-- What a start meets: the artifact that the store of the snapshot gives, and the
callbacks of its components. -/
structure StartConditions where
  artifact : EngineResult RtwArchive
  script : InstanceScript

/-- An extension snapshot that is running in an engine of its own. -/
structure DevSession where
  snapshot : PreparedSnapshot
  engine : Engine
  instanceId : ExtensionInstanceId
  extensionId : ExtensionId
  runsAlone : RunsAlone engine instanceId

/-- A new engine runs the instance that it was made for. -/
theorem runsAlone_of_start {archive : EngineResult RtwArchive} {instanceId : ExtensionInstanceId}
    {scopeId : RuntimeScopeId} {script : InstanceScript} {loaded started : Engine}
    {extensionId : ExtensionId}
    (hloaded : Engine.new.loadStoredExtension archive instanceId scopeId =
      (loaded, .ok extensionId))
    (hstarted : loaded.startExtensionInstance instanceId script = (started, .ok ())) :
    RunsAlone started instanceId := by
  have hnew : ∀ other, (Engine.new.extensions.lookup other).isSome = true →
      other = instanceId := by
    intro other hother
    cases hother
  cases archive with
  | error error => cases hloaded
  | ok archive =>
      have hload : Evolves (.tryLoadArchive archive instanceId scopeId) .new
          (Engine.new.tryLoadArchive archive instanceId scopeId).1 :=
        consistent_new.load archive instanceId scopeId rfl
      have hengine : (Engine.new.tryLoadArchive archive instanceId scopeId).1 = loaded := by
        rw [← Engine.loadStoredExtension_ok, hloaded]
      rw [hengine] at hload
      have hconsistent := hload.consistent consistent_new
      have hadmits : ∀ other, (EngineOp.tryLoadArchive archive instanceId scopeId).Admits other →
          other = instanceId := fun other hother => Eq.symm hother
      have halone := alone_of_evolves hadmits hload consistent_new hnew
      have hstart : Evolves (.startExtensionInstance instanceId script) loaded
          (loaded.startExtensionInstance instanceId script).1 :=
        hconsistent.start instanceId script ⟨script, rfl⟩
      have hnone : ∀ other, (EngineOp.startExtensionInstance instanceId script).Admits other →
          other = instanceId := fun other hother => False.elim hother
      rw [hstarted] at hstart
      exact ⟨hstart.consistent hconsistent, alone_of_evolves hnone hstart hconsistent halone,
        isActive_of_start hconsistent hstarted⟩

namespace DevSession

/-- Load a snapshot into a new engine and start it. -/
def startSnapshot (snapshot : PreparedSnapshot) (instanceId : ExtensionInstanceId)
    (scopeId : RuntimeScopeId) (conditions : StartConditions) : DevResult DevSession :=
  match hloaded : Engine.new.loadStoredExtension conditions.artifact instanceId scopeId with
  | (_, .error error) => .error (.engine error)
  | (loaded, .ok extensionId) =>
      match hstarted : loaded.startExtensionInstance instanceId conditions.script with
      | (_, .error error) => .error (.engine error)
      | (engine, .ok ()) =>
          .ok ⟨snapshot, engine, instanceId, extensionId,
            @runsAlone_of_start conditions.artifact _ _ _ _ _ _ hloaded hstarted⟩

variable (session : DevSession)

/-- The digest of the running snapshot. -/
def digest : ArtifactDigest :=
  session.snapshot.digest

/-- The state of the instance. -/
def state : Option ExtensionState :=
  (session.engine.extensions.lookup session.instanceId).map fun ext => ext.state

/-- The instance of a session is active. -/
theorem state_eq : session.state = some .active := by
  have hfound := session.runsAlone.found
  exact hfound.elim fun ext hext => by simp [state, hext.1, hext.2.2]

/-- A session that was started runs the snapshot that it was started with. -/
theorem snapshot_of_startSnapshot {snapshot : PreparedSnapshot} {instanceId : ExtensionInstanceId}
    {scopeId : RuntimeScopeId} {conditions : StartConditions} {session : DevSession}
    (h : startSnapshot snapshot instanceId scopeId conditions = .ok session) :
    session.snapshot = snapshot := by
  unfold startSnapshot at h
  split at h
  · cases h
  · split at h
    · cases h
    · cases h
      rfl

end DevSession

/-! ## Cleanup -/

/-- Stop an instance and unregister it. Both are attempted. -/
def cleanupEngine (engine : Engine) (instanceId : ExtensionInstanceId)
    (stopping unregistering : InstanceScript) : Engine × DevResult Unit :=
  let stopped := engine.stopExtensionInstance instanceId stopping
  let unregistered := stopped.1.unregisterExtensionInstance instanceId unregistering
  (unregistered.1,
    match stopped.2, unregistered.2 with
    | .ok (), .ok () => .ok ()
    | .error error, .ok () => .error (.engine error)
    | .ok (), .error error => .error (.engine error)
    | .error stop, .error unregister => .error (.shutdownFailed stop unregister))

/-- A cleanup fails with errors of the engine. -/
theorem cleanupEngine_error {engine : Engine} {instanceId : ExtensionInstanceId}
    {stopping unregistering : InstanceScript} {error : DevError}
    (h : (cleanupEngine engine instanceId stopping unregistering).2 = .error error) :
    (∃ source, error = .engine source) ∨
      ∃ stop unregister, error = .shutdownFailed stop unregister := by
  rw [cleanupEngine] at h
  dsimp only at h
  split at h
  · cases h
  · cases h
    exact .inl ⟨_, rfl⟩
  · cases h
    exact .inl ⟨_, rfl⟩
  · cases h
    exact .inr ⟨_, _, rfl⟩

/-- Stop the instance of a session and keep its snapshot. -/
def DevSession.shutdownIntoSnapshot (session : DevSession)
    (stopping unregistering : InstanceScript) : DevResult PreparedSnapshot :=
  (cleanupEngine session.engine session.instanceId stopping unregistering).2.map
    fun _ => session.snapshot

/-- No component of an instance fails in its stop callback. -/
def StopsQuietly (engine : Engine) (instanceId : ExtensionInstanceId) (script : InstanceScript) :
    Prop :=
  ∀ ext, engine.extensions.lookup instanceId = some ext →
    ∀ index, index < ext.components.length → (script.stop index).failure = none

theorem stopComponents_failures (secrets : SecretManager) (ext : ManagedExtension)
    (script : InstanceScript) (facilities : EngineFacilities)
    (components : List (ManagedComponent × Nat)) :
    (Engine.stopComponents secrets ext script facilities components).2 = [] ↔
      ∀ entry ∈ components, (script.stop entry.2).failure = none := by
  induction components generalizing facilities with
  | nil => simp [Engine.stopComponents]
  | cons entry rest ih =>
      simp only [Engine.stopComponents, List.append_eq_nil_iff, Option.toList_eq_nil_iff,
        Option.map_eq_none_iff, ih, List.forall_mem_cons]

theorem forall_zipIdx_reverse {α : Type} {entries : List α} {P : Nat → Prop} :
    (∀ entry ∈ entries.zipIdx.reverse, P entry.2) ↔ ∀ index, index < entries.length → P index := by
  constructor
  · intro h index hindex
    have hmem : (entries[index], index) ∈ entries.zipIdx.reverse := by
      rw [List.mem_reverse, List.mem_zipIdx_iff_getElem?]
      exact List.getElem?_eq_getElem hindex
    exact h _ hmem
  · intro h entry hmem
    rw [List.mem_reverse] at hmem
    exact h _ (by simpa using List.snd_lt_of_mem_zipIdx hmem)

/-- A session is cleaned up exactly when no stop callback fails. The stopped instance is
unregistered without another callback. -/
theorem cleanupEngine_ok_iff {engine : Engine} {instanceId : ExtensionInstanceId}
    (h : RunsAlone engine instanceId) (stopping unregistering : InstanceScript) :
    (cleanupEngine engine instanceId stopping unregistering).2 = .ok () ↔
      StopsQuietly engine instanceId stopping := by
  obtain ⟨ext, hfound, rfl, hactive⟩ := h.found
  have hinstance : engine.instanceOf ext.instanceId = .ok ext := by
    simp [Engine.instanceOf, hfound]
  have hguard := providerNotInUse_of_alone h.consistent h.alone
  have hstop : engine.stopExtensionInstance ext.instanceId stopping =
      engine.shutDown ext stopping := by
    simp [Engine.stopExtensionInstance, Engine.stopExtensionInstanceInner, hinstance, hactive,
      hguard]
  have hstopped : Evolves (.stopExtensionInstance ext.instanceId stopping) engine
      (engine.shutDown ext stopping).1 := by
    rw [← hstop]
    exact h.consistent.stopInner ext.instanceId stopping true
  have hconsistent := hstopped.consistent h.consistent
  have hnone : ∀ other, (EngineOp.stopExtensionInstance ext.instanceId stopping).Admits other →
      other = ext.instanceId := fun other hother => False.elim hother
  have halone := alone_of_evolves hnone hstopped h.consistent h.alone
  have hunregister : ((engine.shutDown ext stopping).1.unregisterExtensionInstance ext.instanceId
      unregistering).2 = .ok () := by
    obtain ⟨facilities', hshut, -, -⟩ := h.consistent.shutDown_cases stopping hfound
    have hguard' := providerNotInUse_of_alone hconsistent halone
    have hlookup : (engine.shutDown ext stopping).1.extensions.lookup ext.instanceId =
        some { ext with state := .stopped } := by
      rw [hshut]
      simp
    simp [Engine.unregisterExtensionInstance, hguard', Engine.instanceOf, hlookup]
  have hcleanup : (cleanupEngine engine ext.instanceId stopping unregistering).2 = .ok () ↔
      (engine.shutDown ext stopping).2 = .ok () := by
    rw [cleanupEngine, hstop, hunregister]
    cases (engine.shutDown ext stopping).2 with
    | ok _ => exact iff_of_true rfl rfl
    | error error => exact iff_of_false (fun h => by cases h) fun h => by cases h
  have hresult : (engine.shutDown ext stopping).2 = .ok () ↔
      ∀ index, index < ext.components.length → (stopping.stop index).failure = none := by
    obtain ⟨ui', hset, -⟩ := Mirrors.setUiActive_false h.consistent.mirrors.ui
      hfound (by decide : ExtensionState.stopped ≠ .active)
    rw [← forall_zipIdx_reverse (P := fun index => (stopping.stop index).failure = none),
      Engine.shutDown, hset]
    dsimp only
    rw [← stopComponents_failures engine.secrets ext stopping]
    split
    · next hempty => exact iff_of_true rfl (List.isEmpty_iff.mp hempty)
    · next hsome =>
        exact iff_of_false (fun h => by cases h) fun hnil => hsome (List.isEmpty_iff.mpr hnil)
  rw [hcleanup, hresult]
  constructor
  · intro hquiet other hother
    rw [hfound] at hother
    cases hother
    exact hquiet
  · intro hquiet
    exact hquiet ext hfound

end Rintawa.Dev
