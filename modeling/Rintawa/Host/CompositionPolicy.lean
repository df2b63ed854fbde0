/-
# The policy of compositions

The profiles of a home are sound when they are read back with whole references. Saving a sound
profile keeps that, however the save ends, and so does every edit. An artifact is selected for
the instance that its subject has, or for a new one.
-/

import Rintawa.Host.CompositionHome
import Rintawa.Lib.Transition

namespace Rintawa.Host

open Rintawa.Lib Rintawa.Sdk
open Rintawa.Artifacts (ArtifactDigest ContentType IoError)

variable {profile : CompositionProfile} {scopeId : RuntimeScopeId}

/-- A save that fails keeps the document. -/
theorem CompositionProfile.save_of_failed {toml : ProfileToml} {file : Option String}
    {attempt : SaveAttempt} {error : ProfileError}
    (h : (CompositionProfile.save toml profile attempt file).2 = .failed error) :
    (CompositionProfile.save toml profile attempt file).1 = file := by
  rw [CompositionProfile.save] at h ⊢
  cases hdirectory : attempt.directoryFault with
  | some reason => rfl
  | none =>
      rw [hdirectory] at h
      cases hsource : toml.toStringPretty profile with
      | error reason => rfl
      | ok source =>
          rw [hsource] at h
          cases hending : attempt.ending with
          | failed reason => rfl
          | cutBefore => rfl
          | cutAfter | completed =>
              dsimp only at h
              rw [hending] at h
              cases h

/-! ## Sound homes -/

/-- A document that is read back with whole references. -/
def ReadsSound (deps : HomeDependencies) (scope : PersistedCompositionScope)
    (document : Option String) : Prop :=
  ∃ profile, CompositionProfile.load deps.toml none document = .ok profile ∧
    profile.Sound deps.readStoredManifest scope.scopeId

namespace CompositionHome

/-- All profiles of a home are read back with whole references. -/
def Sound (deps : HomeDependencies) (home : CompositionHome) : Prop :=
  ∀ scope document, home.document none scope = .ok document → ReadsSound deps scope document

/-- The documents that are there are kept, up to those of some scopes. -/
def Keeps (home : CompositionHome) (changed : PersistedCompositionScope → Prop)
    (after : CompositionHome) : Prop :=
  ∀ scope document, ¬ changed scope → home.document none scope = .ok document →
    after.document none scope = .ok document

end CompositionHome

section Documents

variable {deps : HomeDependencies} {home : CompositionHome} {scope : PersistedCompositionScope}

variable {document : Option String}

/-- What is read when the storage of a world opens is what is there. -/
theorem document_of_document {fault : Option HomeError}
    (h : home.document fault scope = .ok document) : home.document none scope = .ok document := by
  cases scope with
  | baseline | defaultWorld => exact h
  | world worldId =>
      unfold CompositionHome.document at h ⊢
      dsimp only at h ⊢
      split at h
      · cases h
      · cases fault with
        | none => exact h
        | some error => cases h

theorem document_withDocument {other : PersistedCompositionScope} :
    (home.withDocument document scope).document none other =
      if other = scope then .ok document else home.document none other := by
  cases scope with
  | baseline => cases other <;> rfl
  | defaultWorld => cases other <;> rfl
  | world worldId =>
      cases other with
      | baseline | defaultWorld => rfl
      | world otherId =>
          unfold CompositionHome.document CompositionHome.withDocument
          dsimp only
          rw [Dict.lookup_insert_ite]
          by_cases hsame : otherId = worldId
          · rw [if_pos hsame, if_pos (congrArg _ hsame)]
            rfl
          · rw [if_neg hsame, if_neg fun h => hsame (PersistedCompositionScope.world.inj h)]

/-- A profile that is read has whole references. -/
theorem load_sound (h : home.Sound deps) {readFault : Option IoError}
    {storageFault : Option HomeError}
    (hload : home.load deps scope readFault storageFault = .ok profile) :
    profile.Sound deps.readStoredManifest scope.scopeId := by
  unfold CompositionHome.load at hload
  split at hload
  · cases hload
  · next document hdocument =>
      split at hload
      · cases hload
      · next read hread =>
          split at hload
          · cases hload
          · cases hload
            obtain ⟨sound, hsound, hprofile⟩ := h scope document (document_of_document hdocument)
            rw [CompositionProfile.load_of_load hread] at hsound
            cases hsound
            exact hprofile

/-- Without faults every profile of a sound home is read. -/
theorem load_ok (h : home.Sound deps) (hdocument : home.document none scope = .ok document) :
    ∃ profile, home.load deps scope none none = .ok profile := by
  obtain ⟨profile, hload, hsound⟩ := h scope document hdocument
  refine ⟨profile, ?_⟩
  rw [CompositionHome.load, hdocument]
  dsimp only
  rw [hload]
  dsimp only
  rw [profile.validateScope_eq_ok_iff.mpr hsound.inScope]

/-- A home stays sound with another document that is read back. -/
theorem sound_withDocument (h : home.Sound deps) (hreads : ReadsSound deps scope document) :
    (home.withDocument document scope).Sound deps := by
  intro other found hfound
  rw [document_withDocument] at hfound
  split at hfound
  · next hsame =>
      cases hfound
      exact hsame ▸ hreads
  · exact h other found hfound

/-- An empty profile is read where there is no document. -/
theorem readsSound_none : ReadsSound deps scope none :=
  ⟨.default, rfl, CompositionProfile.sound_default⟩

theorem sound_new : CompositionHome.new.Sound deps := by
  intro scope document hdocument
  cases scope with
  | baseline | defaultWorld =>
      cases hdocument
      exact readsSound_none
  | world worldId => cases hdocument

variable (htoml : deps.toml.RoundTrips)
include htoml

/-- A save leaves a sound home, however it ends. -/
theorem save_sound (h : home.Sound deps)
    (hprofile : profile.Sound deps.readStoredManifest scope.scopeId) (attempt : EditAttempt) :
    (home.save deps scope profile attempt).1.Sound deps := by
  unfold CompositionHome.save
  split
  · exact h
  · split
    · exact h
    · next document hdocument =>
        refine sound_withDocument h ?_
        rcases @CompositionProfile.save_cases deps.toml profile document attempt.save with
          ⟨hkept, -⟩ | ⟨source, hsource, hwritten⟩
        · rw [hkept]
          exact h scope document (document_of_document hdocument)
        · rw [hwritten]
          exact ⟨profile, CompositionProfile.load_of_fromStr (htoml _ _ hsource) hprofile.schema
            hprofile.valid, hprofile⟩

end Documents

/-! ## Edits -/

/-- A scope is kept under its own identifier. -/
theorem scopeId_of_persisted {deps : HomeDependencies} {scope : PersistedCompositionScope}
    (h : deps.persistedCompositionScope scopeId = .ok scope) : scope.scopeId = scopeId := by
  unfold HomeDependencies.persistedCompositionScope at h
  split at h
  · next hhost =>
      cases h
      exact hhost.symm
  · split at h
    · next hdefault =>
        cases h
        exact hdefault.symm
    · split at h
      · cases h
      · split at h
        · cases h
        · split at h
          · next hworld =>
              cases h
              exact hworld
          · cases h

theorem persistedCompositionScope_host {deps : HomeDependencies} :
    deps.persistedCompositionScope hostScope = .ok .baseline := by
  rw [HomeDependencies.persistedCompositionScope, if_pos rfl]

theorem persistedCompositionScope_defaultWorld {deps : HomeDependencies} :
    deps.persistedCompositionScope defaultWorldScope = .ok .defaultWorld := by
  rw [HomeDependencies.persistedCompositionScope, if_neg (by decide), if_pos rfl]

/-- The scopes of worlds are other ones than the baseline. -/
theorem scopeId_world_ne (worldId : WorldId) : worldRuntimeScopeId worldId ≠ hostScope := by
  intro h
  have hchars : (worldRuntimeScopeId worldId).asStr.toList = "host".toList := by rw [h]; rfl
  rw [worldRuntimeScopeId, String.toList_append] at hchars
  cases hchars

section Edits

variable {deps : HomeDependencies} {home : CompositionHome}

/-- An edit that keeps references whole leaves a sound home. -/
theorem edit_sound (htoml : deps.toml.RoundTrips) (h : home.Sound deps) {attempt : EditAttempt}
    {change : CompositionProfile → HomeResult CompositionProfile}
    (hchange : ∀ profile edited, profile.Sound deps.readStoredManifest scopeId →
      change profile = .ok edited → edited.Sound deps.readStoredManifest scopeId) :
    (home.edit deps scopeId attempt change).1.Sound deps := by
  unfold CompositionHome.edit
  split
  · exact h
  · next scope hscope =>
      have hscopeId := scopeId_of_persisted hscope
      split
      · exact h
      · next profile hload =>
          split
          · exact h
          · next edited hedited =>
              have hsound := load_sound h hload
              rw [hscopeId] at hsound
              refine save_sound htoml h ?_ attempt
              rw [hscopeId]
              exact hchange profile edited hsound hedited

variable {edited : CompositionProfile}

/-- Only requested permissions are granted. -/
theorem grantRequested_sound {owner : ComponentRef} {permission : RuntimePermission}
    {manifestFault : Option HomeError} (h : profile.Sound deps.readStoredManifest scopeId)
    (hedited : CompositionHome.grantRequested deps scopeId owner permission manifestFault profile =
      .ok edited) : edited.Sound deps.readStoredManifest scopeId := by
  unfold CompositionHome.grantRequested at hedited
  split at hedited
  · cases hedited
  · next activation hfound =>
      have hactivation := List.mem_of_find?_eq_some hfound
      have hinstance := List.find?_some hfound
      rw [beq_iff_eq] at hinstance
      split at hedited
      · cases hedited
      · split at hedited
        · cases hedited
        · split at hedited
          · cases hedited
          · next manifest hmanifest =>
              have hread : deps.readStoredManifest activation.artifact = .ok manifest := by
                cases manifestFault with
                | none => exact hmanifest
                | some error => cases hmanifest
              split at hedited
              · cases hedited
              · next component hcomponent =>
                  have hcomponentId := List.find?_some hcomponent
                  rw [beq_iff_eq] at hcomponentId
                  split at hedited
                  · next hrequested =>
                      cases hedited
                      rw [← hinstance]
                      exact h.grant hactivation ⟨manifest, hread, component,
                        List.mem_of_find?_eq_some hcomponent, hcomponentId, hrequested⟩
                  · cases hedited

/-- Only providers that are activated are chosen. -/
theorem chooseProvider_sound {contract : ContractKey} {provider : ComponentRef}
    (h : profile.Sound deps.readStoredManifest scopeId)
    (hedited : CompositionHome.chooseProvider scopeId contract provider profile = .ok edited) :
    edited.Sound deps.readStoredManifest scopeId := by
  unfold CompositionHome.chooseProvider at hedited
  split at hedited
  · cases hedited
  · next activation hfound =>
      have hinstance := List.find?_some hfound
      rw [beq_iff_eq] at hinstance
      split at hedited
      · cases hedited
      · cases hedited
        refine h.setPreferredProvider rfl ?_
        exact List.mem_map.mpr ⟨activation, List.mem_of_find?_eq_some hfound, hinstance⟩

theorem putPreference_sound {owner : ComponentRef} {key value : String}
    (h : profile.Sound deps.readStoredManifest scopeId)
    (hedited : CompositionHome.putPreference scopeId owner key value profile = .ok edited) :
    edited.Sound deps.readStoredManifest scopeId := by
  have hset := h.setPreference owner key value
  unfold CompositionHome.putPreference at hedited
  split at hedited
  · cases hedited
  · next hdone =>
      cases hedited
      rwa [hdone] at hset

/-! ## Selections -/

/-- An instance that is generated is in no activation of a scope. -/
def FreshInstance (deps : HomeDependencies) (home : CompositionHome)
    (freshId : ExtensionInstanceId) (scope : PersistedCompositionScope) : Prop :=
  ∀ profile, home.load deps scope none none = .ok profile → freshId ∉ profile.instances

theorem load_of_load_faults {scope : PersistedCompositionScope} {readFault : Option IoError}
    {storageFault : Option HomeError}
    (h : home.load deps scope readFault storageFault = .ok profile) :
    home.load deps scope none none = .ok profile := by
  unfold CompositionHome.load at h ⊢
  split at h
  · cases h
  · next document hdocument =>
      rw [document_of_document hdocument]
      dsimp only
      split at h
      · cases h
      · next read hread =>
          rw [CompositionProfile.load_of_load hread]
          exact h

/-- The instance of a selection is that of the subject, or a new one. -/
theorem selectedInstance_free {scope : PersistedCompositionScope}
    (h : profile.Sound deps.readStoredManifest scope.scopeId) {subject : String}
    {freshId : ExtensionInstanceId} (hfresh : freshId ∉ profile.instances) :
    profile.FreeInstance subject
      (CompositionHome.selectedInstance profile subject freshId scope) := by
  have hnamed : scope = .baseline →
      profile.FreeInstance subject ⟨subject⟩ := by
    intro hbaseline
    unfold CompositionProfile.FreeInstance
    split
    · next existing hfound =>
        have hsubject := List.find?_some hfound
        rw [beq_iff_eq] at hsubject
        rw [h.named (hbaseline ▸ rfl) existing (List.mem_of_find?_eq_some hfound), hsubject]
    · next hnone =>
        intro hmem
        obtain ⟨activation, hactivation, hinstance⟩ := List.mem_map.mp hmem
        rw [h.named (hbaseline ▸ rfl) activation hactivation] at hinstance
        exact List.find?_eq_none.mp hnone activation hactivation
          (beq_iff_eq.mpr (congrArg (fun id : ExtensionInstanceId => id.asStr) hinstance))
  have hother : profile.FreeInstance subject
      (((profile.activations.find? fun activation =>
        activation.subject == subject && activation.scopeId == scope.scopeId).map
          fun activation => activation.instanceId).getD freshId) := by
    rw [h.find?_subject]
    unfold CompositionProfile.FreeInstance
    cases profile.activations.find? fun activation => activation.subject == subject with
    | some existing => rfl
    | none => exact hfresh
  cases scope with
  | baseline => exact hnamed rfl
  | defaultWorld | world worldId => exact hother

/-- A selection that reaches its save. -/
structure Selection (deps : HomeDependencies) (home : CompositionHome)
    (scopeId : RuntimeScopeId) (digest : ArtifactDigest) (enabled : Option Bool)
    (attempt : SelectAttempt) (outcome : HomeOutcome InstalledActivation)
    (content : ContentType) (manifest : ExtensionManifest) (scope : PersistedCompositionScope)
    (profile : CompositionProfile) : Prop where
  readable : deps.readStoredManifest digest = .ok manifest
  kept : deps.persistedCompositionScope scopeId = .ok scope
  loaded : home.load deps scope attempt.edit.readFault attempt.edit.storageFault = .ok profile
  saved : outcome.1 = (home.save deps scope (CompositionHome.withArtifact profile manifest content
    scope scopeId digest enabled attempt.freshId).1 attempt.edit).1
  failed : ∀ error, outcome.2 = .failed error →
    (home.save deps scope (CompositionHome.withArtifact profile manifest content scope scopeId
      digest enabled attempt.freshId).1 attempt.edit).2 = .failed error ∨
    scope = .baseline ∧ outcome.1.load deps .defaultWorld attempt.recipeFault none = .error error
  completed : ∀ installed, outcome.2 = .completed installed →
    (home.save deps scope (CompositionHome.withArtifact profile manifest content scope scopeId
      digest enabled attempt.freshId).1 attempt.edit).2 = .completed () ∧
    installed.instanceId =
      CompositionHome.selectedInstance profile manifest.id.asStr attempt.freshId scope

/-- A selection fails before its save or reaches it. -/
theorem selection_cases (scopeId : RuntimeScopeId) (digest : ArtifactDigest)
    (enabled : Option Bool) (attempt : SelectAttempt) :
    (∃ error, home.selectStoredRtwInScope deps scopeId digest enabled attempt =
      (home, .failed error)) ∨
    ∃ content manifest scope profile, Selection deps home scopeId digest enabled attempt
      (home.selectStoredRtwInScope deps scopeId digest enabled attempt) content manifest scope
      profile := by
  unfold CompositionHome.selectStoredRtwInScope
  split
  · next error _ => exact .inl ⟨error, rfl⟩
  · next archive harchive =>
      dsimp only
      split
      · exact .inl ⟨_, rfl⟩
      · split
        · next error _ => exact .inl ⟨error, rfl⟩
        · next manifest hmanifest =>
            have hread : deps.readStoredManifest digest = .ok manifest := by
              cases hfault : attempt.manifestFault with
              | none => rwa [hfault] at hmanifest
              | some error =>
                  rw [hfault] at hmanifest
                  cases hmanifest
            split
            · next error _ => exact .inl ⟨error, rfl⟩
            · next scope hscope =>
                split
                · next error _ => exact .inl ⟨error, rfl⟩
                · next profile hload =>
                    refine .inr ⟨archive.manifest.content, manifest, scope, profile, hread,
                      hscope, hload, ?_, ?_, ?_⟩
                    all_goals
                      generalize home.save deps scope (CompositionHome.withArtifact profile
                        manifest archive.manifest.content scope scopeId digest enabled
                        attempt.freshId).1 attempt.edit = saved
                      obtain ⟨after, ending⟩ := saved
                      dsimp only
                    · cases ending with
                      | failed error => rfl
                      | cutOff => rfl
                      | completed =>
                          dsimp only
                          split
                          · split <;> rfl
                          · rfl
                    · intro error hfailed
                      cases ending with
                      | failed other =>
                          cases hfailed
                          exact .inl rfl
                      | cutOff => cases hfailed
                      | completed =>
                          dsimp only at hfailed ⊢
                          split at hfailed
                          · next hbaseline =>
                              split at hfailed
                              · next other hother =>
                                  cases hfailed
                                  refine .inr ⟨hbaseline, ?_⟩
                                  rw [if_pos hbaseline]
                                  exact eq_error_of_map hother
                              · cases hfailed
                          · cases hfailed
                    · intro installed hinstalled
                      cases ending with
                      | failed other => cases hinstalled
                      | cutOff => cases hinstalled
                      | completed =>
                          refine ⟨rfl, ?_⟩
                          dsimp only at hinstalled
                          split at hinstalled
                          · split at hinstalled
                            · cases hinstalled
                            · cases hinstalled
                              rfl
                          · cases hinstalled
                            rfl

/-- What a selection saves has whole references. -/
theorem Selection.edited_sound (h : home.Sound deps) {digest : ArtifactDigest}
    {enabled : Option Bool} {attempt : SelectAttempt} {outcome : HomeOutcome InstalledActivation}
    {content : ContentType} {manifest : ExtensionManifest} {scope : PersistedCompositionScope}
    (hselection : Selection deps home scopeId digest enabled attempt outcome content manifest scope
      profile) (hfresh : FreshInstance deps home attempt.freshId scope) :
    (CompositionHome.withArtifact profile manifest content scope scopeId digest enabled
      attempt.freshId).1.Sound deps.readStoredManifest scope.scopeId := by
  have hscopeId := scopeId_of_persisted hselection.kept
  have hprofile := load_sound h hselection.loaded
  have hfree : profile.FreeInstance manifest.id.asStr _ :=
    selectedInstance_free hprofile (hfresh profile (load_of_load_faults hselection.loaded))
  rw [hscopeId] at hprofile ⊢
  refine hprofile.select rfl hfree (fun hhost => ?_) hselection.readable enabled
  have hkept := hselection.kept
  rw [hhost, persistedCompositionScope_host] at hkept
  cases hkept
  rfl

/-- A selection leaves a sound home. -/
theorem select_sound (htoml : deps.toml.RoundTrips) (h : home.Sound deps) {digest : ArtifactDigest}
    {enabled : Option Bool} {attempt : SelectAttempt}
    (hfresh : ∀ scope, deps.persistedCompositionScope scopeId = .ok scope →
      FreshInstance deps home attempt.freshId scope) :
    (home.selectStoredRtwInScope deps scopeId digest enabled attempt).1.Sound deps := by
  rcases @selection_cases deps home scopeId digest enabled attempt with
    ⟨error, hfailed⟩ | ⟨content, manifest, scope, profile, hselection⟩
  · rw [hfailed]
    exact h
  · rw [hselection.saved]
    exact save_sound htoml h (hselection.edited_sound h (hfresh scope hselection.kept))
      attempt.edit

end Edits

end Rintawa.Host
