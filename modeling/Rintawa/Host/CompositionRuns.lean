/-
# Runs of composition operations

A home goes through any sequence of operations on its compositions, with any faults and any
cuts. Its profiles stay sound. An operation that fails keeps them as they are up to what it saved
before: a selection in the baseline looks at the recipe after its save, and a default for worlds
is selected in the recipe before the policy of the baseline is copied there.
-/

import Rintawa.Host.CompositionPolicy
import Rintawa.Lib.Transition

namespace Rintawa.Host

open Rintawa.Lib Rintawa.Sdk
open Rintawa.Artifacts (ArtifactDigest ArtifactPath ContentType IoError RtwArchive RtwError)
open Rintawa.ExtensionEngine (RtwExtensionLoader.displayContent)

/-! ## Other documents -/

section Others

variable {deps : HomeDependencies} {home : CompositionHome} {scope : PersistedCompositionScope}
  {profile : CompositionProfile} {attempt : EditAttempt}

/-- A save leaves the documents of other scopes alone. -/
theorem document_save_of_ne {other : PersistedCompositionScope} (hother : other ≠ scope) :
    (home.save deps scope profile attempt).1.document none other = home.document none other := by
  unfold CompositionHome.save
  split
  · rfl
  · split
    · rfl
    · rw [document_withDocument, if_neg hother]

/-- A save that fails leaves all documents alone. -/
theorem keeps_of_save_failed {error : HomeError}
    (hfailed : (home.save deps scope profile attempt).2 = .failed error) :
    home.Keeps (fun _ => False) (home.save deps scope profile attempt).1 := by
  unfold CompositionHome.save at hfailed ⊢
  split at hfailed
  · exact fun _ _ _ hdocument => hdocument
  · split at hfailed
    · exact fun _ _ _ hdocument => hdocument
    · next document hdocument =>
        dsimp only at hfailed ⊢
        intro other found _ hfound
        rw [document_withDocument]
        split
        · next hsame =>
            rw [hsame, document_of_document hdocument] at hfound
            cases hfound
            split at hfailed
            · cases hfailed
            · next reason hreason => rw [CompositionProfile.save_of_failed hreason]
            · cases hfailed
        · exact hfound

end Others

/-! ## Copied policy -/

section Copies

variable {deps : HomeDependencies} {home : CompositionHome}

/-- A recipe with an artifact under an instance. -/
structure HasArtifact (deps : HomeDependencies) (artifact : ArtifactDigest)
    (instanceId : ExtensionInstanceId) (recipe : CompositionProfile) : Prop where
  sound : recipe.Sound deps.readStoredManifest defaultWorldScope
  activation : ∃ item ∈ recipe.activations,
    item.instanceId = instanceId ∧ item.artifact = artifact

variable {recipe : CompositionProfile}

/-- An edit of the other lists keeps the artifact. -/
theorem HasArtifact.edit {artifact : ArtifactDigest} {instanceId : ExtensionInstanceId}
    {edited : CompositionProfile} (h : HasArtifact deps artifact instanceId recipe)
    (hactivations : edited.activations = recipe.activations)
    (hsound : edited.Sound deps.readStoredManifest defaultWorldScope) :
    HasArtifact deps artifact instanceId edited :=
  ⟨hsound, hactivations ▸ h.activation⟩

theorem activations_grantRuntimePermission (profile : CompositionProfile)
    (grant : RuntimePermissionGrant) :
    (profile.grantRuntimePermission grant).activations = profile.activations := by
  rw [CompositionProfile.grantRuntimePermission]
  split <;> rfl

theorem activations_setPreference {profile : CompositionProfile} (h : profile.Valid)
    (scopeId : RuntimeScopeId) (owner : ComponentRef) (key value : String) :
    (profile.setPreference scopeId owner key value).1.activations = profile.activations := by
  rcases @CompositionProfile.setPreference_cases profile scopeId owner key value h with
    ⟨-, hdone⟩ | ⟨-, error, hdone⟩
  · rw [hdone]
    rfl
  · rw [hdone]

/-- The policy of an activation is copied to an instance with the same artifact, so what is granted
in the baseline is requested by the artifact there, too. -/
theorem copyPolicy_sound {baseline copied : CompositionProfile} {activation : ActivationRecord}
    {instanceId : ExtensionInstanceId}
    (hbaseline : baseline.Sound deps.readStoredManifest hostScope)
    (hactivation : activation ∈ baseline.activations)
    (h : HasArtifact deps activation.artifact instanceId recipe)
    (hcopied : CompositionHome.copyPolicy baseline activation instanceId recipe = .ok copied) :
    copied.Sound deps.readStoredManifest defaultWorldScope := by
  rw [CompositionHome.copyPolicy, bind_eq_ok_iff] at hcopied
  obtain ⟨preferred, hpreferred, hcopied⟩ := hcopied
  cases hcopied
  have hgranted : HasArtifact deps activation.artifact instanceId
      ((baseline.runtimePermissions.filter fun grant =>
        grant.instanceId == activation.instanceId).foldl (fun recipe grant =>
          recipe.grantRuntimePermission
            ⟨defaultWorldScope, instanceId, grant.componentId, grant.permission⟩) recipe) := by
    refine List.foldlRecOn _ _ h fun recipe hrecipe grant hgrant => ?_
    obtain ⟨hmem, hinstance⟩ := List.mem_filter.mp hgrant
    rw [beq_iff_eq] at hinstance
    obtain ⟨owner, howner, hsame, hrequests⟩ := hbaseline.grants grant hmem
    have howns : owner = activation :=
      List.inj_on_of_nodup_map hbaseline.instances howner hactivation (hsame.trans hinstance)
    obtain ⟨item, hitem, hselected, hartifact⟩ := hrecipe.activation
    refine hrecipe.edit (activations_grantRuntimePermission _ _) ?_
    rw [← hselected]
    refine hrecipe.sound.grant hitem ?_
    rw [hartifact, ← howns]
    exact hrequests
  have hset : HasArtifact deps activation.artifact instanceId preferred := by
    refine foldlM_preserves (fun before preference after hbefore hafter => ?_) hgranted hpreferred
    have hsound := hbefore.sound.setPreference ⟨instanceId, preference.componentId⟩
      preference.key preference.value
    have hkept := activations_setPreference hbefore.sound.valid defaultWorldScope
      ⟨instanceId, preference.componentId⟩ preference.key preference.value
    split at hafter
    · next edited hedited =>
        cases hafter
        rw [hedited] at hsound hkept
        exact hbefore.edit hkept hsound
    · cases hafter
  have hchosen : HasArtifact deps activation.artifact instanceId
      ((baseline.preferredProviders.filter fun selection =>
        selection.providerInstanceId == activation.instanceId).foldl (fun recipe selection =>
          recipe.setPreferredProvider ⟨defaultWorldScope, selection.contractId,
            selection.contractVersion, instanceId, selection.providerComponentId⟩) preferred) := by
    refine List.foldlRecOn _ _ hset fun recipe hrecipe selection _ => ?_
    obtain ⟨item, hitem, hselected, -⟩ := hrecipe.activation
    refine hrecipe.edit rfl (hrecipe.sound.setPreferredProvider rfl ?_)
    exact List.mem_map.mpr ⟨item, hitem, hselected⟩
  exact hchosen.sound

/-! ## Defaults and new worlds -/

/-- A profile whose save completes is read back. -/
theorem load_save (htoml : deps.toml.RoundTrips) {scope : PersistedCompositionScope}
    {profile : CompositionProfile}
    (hprofile : profile.Sound deps.readStoredManifest scope.scopeId) {attempt : EditAttempt}
    (hdone : (home.save deps scope profile attempt).2 = .completed ()) :
    (home.save deps scope profile attempt).1.load deps scope none none = .ok profile := by
  unfold CompositionHome.save at hdone ⊢
  split at hdone
  · cases hdone
  · next hscope =>
      split at hdone
      · cases hdone
      · next document hdocument =>
          dsimp only at hdone ⊢
          rcases @CompositionProfile.save_cases deps.toml profile document attempt.save with
            ⟨-, hending⟩ | ⟨source, hsource, hwritten⟩
          · split at hdone
            · next hcompleted => exact absurd hcompleted hending
            · cases hdone
            · cases hdone
          · rw [hwritten, CompositionHome.load, document_withDocument, if_pos rfl]
            dsimp only
            rw [CompositionProfile.load_of_fromStr (htoml _ _ hsource) hprofile.schema
              hprofile.valid]
            dsimp only
            rw [hscope]

variable (htoml : deps.toml.RoundTrips) (h : home.Sound deps)
include htoml h

theorem select_defaultWorld_sound {digest : ArtifactDigest} {enabled : Option Bool}
    {attempt : SelectAttempt} (hfresh : FreshInstance deps home attempt.freshId .defaultWorld) :
    (home.selectStoredRtwInScope deps defaultWorldScope digest enabled attempt).1.Sound deps := by
  refine select_sound htoml h fun scope hscope => ?_
  rw [persistedCompositionScope_defaultWorld] at hscope
  cases hscope
  exact hfresh

/-- The recipe that is read after a selection has the artifact. -/
theorem hasArtifact_of_select {digest : ArtifactDigest} {attempt : SelectAttempt}
    {after : CompositionHome} {selected : InstalledActivation}
    (hfresh : FreshInstance deps home attempt.freshId .defaultWorld)
    (hselected : home.selectStoredRtwInScope deps defaultWorldScope digest (some true) attempt =
      (after, .completed selected)) {readFault : Option IoError}
    (hload : after.load deps .defaultWorld readFault none = .ok recipe) :
    HasArtifact deps digest selected.instanceId recipe := by
  have hafter : (home.selectStoredRtwInScope deps defaultWorldScope digest (some true)
      attempt).1 = after := by rw [hselected]
  have hending : (home.selectStoredRtwInScope deps defaultWorldScope digest (some true)
      attempt).2 = .completed selected := by rw [hselected]
  have hsound : after.Sound deps := hafter ▸ select_defaultWorld_sound htoml h hfresh
  refine ⟨load_sound hsound hload, ?_⟩
  rcases @selection_cases deps home defaultWorldScope digest (some true) attempt with
    ⟨error, hfailed⟩ | ⟨content, manifest, scope, profile, hselection⟩
  · rw [hfailed] at hending
    cases hending
  · have hkept := hselection.kept
    rw [persistedCompositionScope_defaultWorld] at hkept
    cases hkept
    obtain ⟨hdone, hinstance⟩ := hselection.completed selected hending
    have hedited := hselection.edited_sound h hfresh
    have hread := load_save htoml hedited hdone
    rw [← hselection.saved, hafter, load_of_load_faults hload] at hread
    cases hread
    rw [hinstance]
    exact CompositionProfile.mem_upsert _ _ _

end Copies

/-- How a default for worlds is changed. -/
inductive DefaultChange (deps : HomeDependencies) (home : CompositionHome) (subject : String)
    (worldDefault : Bool) (attempt : DefaultAttempt) : HomeOutcome Unit → Prop
  | refused (error : HomeError) :
      DefaultChange deps home subject worldDefault attempt (home, .failed error)
  | kept : DefaultChange deps home subject worldDefault attempt (home, .completed ())
  | removed : DefaultChange deps home subject worldDefault attempt
      (home.edit deps defaultWorldScope attempt.removal fun recipe =>
        recipe.removeActivation subject)
  | unselected {artifact : ArtifactDigest} {after : CompositionHome} {error : HomeError} :
      home.selectStoredRtwInScope deps defaultWorldScope artifact (some true) attempt.selection =
        (after, .failed error) →
      DefaultChange deps home subject worldDefault attempt (after, .failed error)
  | cutOff {artifact : ArtifactDigest} {after : CompositionHome} :
      home.selectStoredRtwInScope deps defaultWorldScope artifact (some true) attempt.selection =
        (after, .cutOff) →
      DefaultChange deps home subject worldDefault attempt (after, .cutOff)
  | selected {artifact : ArtifactDigest} {after : CompositionHome}
      {installed : InstalledActivation} :
      home.selectStoredRtwInScope deps defaultWorldScope artifact (some true) attempt.selection =
        (after, .completed installed) →
      DefaultChange deps home subject worldDefault attempt (after, .completed ())
  | uncopied {artifact : ArtifactDigest} {recipe : CompositionProfile} {after : CompositionHome}
      {installed : InstalledActivation} {error : HomeError} :
      worldDefault = true →
      home.load deps .defaultWorld attempt.recipeFault none = .ok recipe →
      (∀ candidate ∈ recipe.activations, candidate.subject ≠ subject) →
      home.selectStoredRtwInScope deps defaultWorldScope artifact (some true) attempt.selection =
        (after, .completed installed) →
      DefaultChange deps home subject worldDefault attempt (after, .failed error)
  | copied {baseline recipe reloaded copied : CompositionProfile} {activation : ActivationRecord}
      {after : CompositionHome} {installed : InstalledActivation} :
      worldDefault = true →
      home.load deps .baseline attempt.baselineFault none = .ok baseline →
      activation ∈ baseline.activations →
      home.load deps .defaultWorld attempt.recipeFault none = .ok recipe →
      (∀ candidate ∈ recipe.activations, candidate.subject ≠ subject) →
      home.selectStoredRtwInScope deps defaultWorldScope activation.artifact (some true)
        attempt.selection = (after, .completed installed) →
      after.load deps .defaultWorld attempt.copy.readFault none = .ok reloaded →
      CompositionHome.copyPolicy baseline activation installed.instanceId reloaded =
        .ok copied →
      DefaultChange deps home subject worldDefault attempt
        (after.save deps .defaultWorld copied attempt.copy)

section Defaults

variable {deps : HomeDependencies} {home : CompositionHome}

theorem defaultChange_of_setWorldDefault (subject : String) (worldDefault : Bool)
    (attempt : DefaultAttempt) :
    DefaultChange deps home subject worldDefault attempt
      (home.setWorldDefault deps subject worldDefault attempt) := by
  unfold CompositionHome.setWorldDefault
  split
  · next error _ => exact .refused error
  · next baseline hbaseline =>
      split
      · exact .refused _
      · next activation hfound =>
          have hactivation := List.mem_of_find?_eq_some hfound
          split
          · next error _ => exact .refused error
          · next recipe hrecipe =>
              dsimp only
              split
              · next hdefault =>
                  split
                  · next after error hselect => exact .unselected hselect
                  · next after hselect => exact .cutOff hselect
                  · next after installed hselect =>
                      split
                      · exact .selected hselect
                      · next hnew =>
                          have hnone : ∀ candidate ∈ recipe.activations,
                              candidate.subject ≠ subject := by
                            intro candidate hcandidate hsame
                            exact hnew (List.any_eq_true.mpr
                              ⟨candidate, hcandidate, beq_iff_eq.mpr hsame⟩)
                          split
                          · next error _ => exact .uncopied hdefault hrecipe hnone hselect
                          · next reloaded hreload =>
                              split
                              · next error _ => exact .uncopied hdefault hrecipe hnone hselect
                              · next copied hcopied =>
                                  exact .copied hdefault hbaseline hactivation hrecipe hnone
                                    hselect hreload hcopied
              · split
                · exact .removed
                · exact .kept

/-- A default for worlds is changed in a sound home. -/
theorem setWorldDefault_sound (htoml : deps.toml.RoundTrips) (h : home.Sound deps)
    {subject : String} {worldDefault : Bool} {attempt : DefaultAttempt}
    (hfresh : FreshInstance deps home attempt.selection.freshId .defaultWorld) :
    (home.setWorldDefault deps subject worldDefault attempt).1.Sound deps := by
  have hselected : ∀ {artifact after ending},
      home.selectStoredRtwInScope deps defaultWorldScope artifact (some true) attempt.selection =
        (after, ending) → after.Sound deps := by
    intro artifact after ending hselect
    have hsound : (home.selectStoredRtwInScope deps defaultWorldScope artifact (some true)
        attempt.selection).1.Sound deps := select_defaultWorld_sound htoml h hfresh
    rwa [hselect] at hsound
  have hchange : DefaultChange deps home subject worldDefault attempt _ :=
    defaultChange_of_setWorldDefault subject worldDefault attempt
  generalize home.setWorldDefault deps subject worldDefault attempt = outcome at hchange ⊢
  cases hchange with
  | refused error => exact h
  | kept => exact h
  | removed =>
      exact edit_sound htoml h fun _ _ hprofile hedited => hprofile.removeActivation hedited
  | unselected hselect => exact hselected hselect
  | cutOff hselect => exact hselected hselect
  | selected hselect => exact hselected hselect
  | uncopied _ _ _ hselect => exact hselected hselect
  | copied _ hbaseline hactivation _ _ hselect hreload hcopied =>
      have hhas := hasArtifact_of_select htoml h hfresh hselect hreload
      have hcopy : CompositionProfile.Sound deps.readStoredManifest
          PersistedCompositionScope.defaultWorld.scopeId _ :=
        copyPolicy_sound (load_sound h hbaseline) hactivation hhas hcopied
      exact save_sound htoml (hselected hselect) hcopy attempt.copy

end Defaults

/-! ## New worlds -/

/-- How the creation of a world goes. -/
inductive WorldCreation (deps : HomeDependencies) (home : CompositionHome)
    (attempt : CreateAttempt) : HomeOutcome WorldId → Prop
  | refused (error : HomeError) : WorldCreation deps home attempt (home, .failed error)
  | made {recipe : CompositionProfile} {worldId : WorldId} {created : HomeOutcome Unit}
      {ending : HomeEnding WorldId} :
      home.load deps .defaultWorld attempt.recipeFault none = .ok recipe →
      home.worlds.lookup worldId = none →
      (created.1 = home.withDocument none (.world worldId) ∨
        created = (home.withDocument none (.world worldId)).save deps (.world worldId)
          (recipe.materializeAll (worldRuntimeScopeId worldId) attempt.freshId) attempt.edit) →
      WorldCreation deps home attempt (created.1, ending)
  | removed {recipe : CompositionProfile} {worldId : WorldId} {created : HomeOutcome Unit}
      {error : HomeError} :
      home.load deps .defaultWorld attempt.recipeFault none = .ok recipe →
      home.worlds.lookup worldId = none →
      (created.1 = home.withDocument none (.world worldId) ∨
        created = (home.withDocument none (.world worldId)).save deps (.world worldId)
          (recipe.materializeAll (worldRuntimeScopeId worldId) attempt.freshId) attempt.edit) →
      WorldCreation deps home attempt
        ({ created.1 with worlds := created.1.worlds.erase worldId }, .failed error)

section Worlds

variable {deps : HomeDependencies} {home : CompositionHome}

theorem worldCreation_of_createWorld (attempt : CreateAttempt) :
    WorldCreation deps home attempt (home.createWorld deps attempt) := by
  unfold CompositionHome.createWorld
  split
  · next error _ => exact .refused error
  · next recipe hrecipe =>
      split
      · exact .refused _
      · next worldId hfound =>
          have hnew : home.worlds.lookup worldId = none := by
            have hfree := List.find?_some hfound
            rwa [Option.isNone_iff_eq_none] at hfree
          split
          · exact .refused _
          · extract_lets made created
            have hcreated : created.1 = made ∨ created = made.save deps (.world worldId)
                (recipe.materializeAll (worldRuntimeScopeId worldId) attempt.freshId)
                attempt.edit := by
              cases hcontents : attempt.contents with
              | completed value => exact .inr (by simp only [created, hcontents])
              | failed error => exact .inl (by simp only [created, hcontents])
              | cutOff => exact .inl (by simp only [created, hcontents])
            generalize created = outcome at hcreated ⊢
            obtain ⟨after, ending⟩ := outcome
            cases ending with
            | completed value => exact .made hrecipe hnew hcreated
            | cutOff => exact .made hrecipe hnew hcreated
            | failed error =>
                dsimp only
                split
                · exact .made hrecipe hnew hcreated
                · exact .removed hrecipe hnew hcreated

/-- What is made of a world is a sound home that differs there only. -/
theorem made_world (htoml : deps.toml.RoundTrips) (h : home.Sound deps)
    {attempt : CreateAttempt} (hfresh : Function.Injective attempt.freshId)
    {recipe : CompositionProfile} {worldId : WorldId} {created : HomeOutcome Unit}
    (hrecipe : home.load deps .defaultWorld attempt.recipeFault none = .ok recipe)
    (hcreated : created.1 = home.withDocument none (.world worldId) ∨
      created = (home.withDocument none (.world worldId)).save deps (.world worldId)
        (recipe.materializeAll (worldRuntimeScopeId worldId) attempt.freshId) attempt.edit) :
    created.1.Sound deps ∧ ∀ other, other ≠ .world worldId →
      created.1.document none other = home.document none other := by
  have hmade : (home.withDocument none (.world worldId)).Sound deps :=
    sound_withDocument h readsSound_none
  rcases hcreated with hkept | hsaved
  · rw [hkept]
    refine ⟨hmade, fun other hother => ?_⟩
    rw [document_withDocument, if_neg hother]
  · rw [hsaved]
    have hprofile : (recipe.materializeAll (worldRuntimeScopeId worldId) attempt.freshId).Sound
        deps.readStoredManifest (PersistedCompositionScope.world worldId).scopeId :=
      (load_sound h hrecipe).materializeAll (scopeId_world_ne worldId) hfresh
    refine ⟨save_sound htoml hmade hprofile attempt.edit, fun other hother => ?_⟩
    rw [document_save_of_ne hother, document_withDocument, if_neg hother]

theorem document_erase (worldId : WorldId) (other : PersistedCompositionScope) :
    ({ home with worlds := home.worlds.erase worldId } : CompositionHome).document none other =
      if other = .world worldId then .error (.worldNotFound worldId)
      else home.document none other := by
  cases other with
  | baseline | defaultWorld => rfl
  | world otherId =>
      unfold CompositionHome.document
      dsimp only
      rw [Dict.lookup_erase_ite]
      by_cases hsame : otherId = worldId
      · rw [if_pos hsame, if_pos (congrArg _ hsame), hsame]
      · rw [if_neg hsame, if_neg fun h => hsame (PersistedCompositionScope.world.inj h)]

/-- A world is created in a sound home, whose documents are kept. -/
theorem createWorld_sound (htoml : deps.toml.RoundTrips) (h : home.Sound deps)
    {attempt : CreateAttempt} (hfresh : Function.Injective attempt.freshId) :
    (home.createWorld deps attempt).1.Sound deps ∧
      home.Keeps (fun _ => False) (home.createWorld deps attempt).1 := by
  have hcreation : WorldCreation deps home attempt _ := worldCreation_of_createWorld attempt
  generalize home.createWorld deps attempt = outcome at hcreation ⊢
  have hother : ∀ {worldId scope document}, home.worlds.lookup worldId = none →
      home.document none scope = .ok document → scope ≠ .world worldId := by
    intro worldId scope document hnew hdocument hsame
    rw [hsame] at hdocument
    unfold CompositionHome.document at hdocument
    dsimp only at hdocument
    rw [hnew] at hdocument
    cases hdocument
  cases hcreation with
  | refused error => exact ⟨h, fun _ _ _ hdocument => hdocument⟩
  | made hrecipe hnew hcreated =>
      obtain ⟨hsound, hkept⟩ := made_world htoml h hfresh hrecipe hcreated
      refine ⟨hsound, fun scope document _ hdocument => ?_⟩
      rw [hkept scope (hother hnew hdocument)]
      exact hdocument
  | removed hrecipe hnew hcreated =>
      obtain ⟨hsound, hkept⟩ := made_world htoml h hfresh hrecipe hcreated
      constructor
      · intro scope document hdocument
        rw [document_erase] at hdocument
        split at hdocument
        · cases hdocument
        · exact hsound scope document hdocument
      · intro scope document _ hdocument
        rw [document_erase, if_neg (hother hnew hdocument),
          hkept scope (hother hnew hdocument)]
        exact hdocument

end Worlds

/-! ## Failing operations -/

section Failures

variable {deps : HomeDependencies} {home : CompositionHome}

variable {error : HomeError} {scopeId : RuntimeScopeId}

theorem map_eq_failed {α β : Type} {ending : HomeEnding α} {f : α → β}
    (h : ending.map f = .failed error) : ending = .failed error := by
  cases ending with
  | completed value => cases h
  | failed other =>
      cases h
      rfl
  | cutOff => cases h

/-- An edit that fails keeps all documents. -/
theorem keeps_of_edit_failed {attempt : EditAttempt}
    {change : CompositionProfile → HomeResult CompositionProfile}
    (hfailed : (home.edit deps scopeId attempt change).2 = .failed error) :
    home.Keeps (fun _ => False) (home.edit deps scopeId attempt change).1 := by
  unfold CompositionHome.edit at hfailed ⊢
  split at hfailed
  · exact fun _ _ _ hdocument => hdocument
  · split at hfailed
    · exact fun _ _ _ hdocument => hdocument
    · split at hfailed
      · exact fun _ _ _ hdocument => hdocument
      · exact keeps_of_save_failed hfailed

/-- A selection leaves the documents of other scopes alone. -/
theorem document_select_of_ne {digest : ArtifactDigest} {enabled : Option Bool}
    {attempt : SelectAttempt} {other : PersistedCompositionScope}
    (hother : deps.persistedCompositionScope scopeId ≠ .ok other) :
    (home.selectStoredRtwInScope deps scopeId digest enabled attempt).1.document none other =
      home.document none other := by
  rcases @selection_cases deps home scopeId digest enabled attempt with
    ⟨error, hfailed⟩ | ⟨content, manifest, scope, profile, hselection⟩
  · rw [hfailed]
  · rw [hselection.saved]
    refine document_save_of_ne fun hsame => hother ?_
    rw [hsame]
    exact hselection.kept

/-- A selection that fails after its save is one in the baseline without a recipe to read. -/
theorem keeps_of_select_failed (htoml : deps.toml.RoundTrips) (h : home.Sound deps)
    {digest : ArtifactDigest} {enabled : Option Bool} {attempt : SelectAttempt}
    (hfresh : ∀ scope, deps.persistedCompositionScope scopeId = .ok scope →
      FreshInstance deps home attempt.freshId scope)
    (hfailed : (home.selectStoredRtwInScope deps scopeId digest enabled attempt).2 =
      .failed error) :
    home.Keeps
      (fun scope => scope = .baseline ∧ scopeId = hostScope ∧ attempt.recipeFault.isSome = true)
      (home.selectStoredRtwInScope deps scopeId digest enabled attempt).1 := by
  rcases @selection_cases deps home scopeId digest enabled attempt with
    ⟨early, hearly⟩ | ⟨content, manifest, scope, profile, hselection⟩
  · rw [hearly]
    exact fun _ _ _ hdocument => hdocument
  · rcases hselection.failed error hfailed with hsave | ⟨hbaseline, hrecipe⟩
    · rw [hselection.saved]
      exact fun other document _ => keeps_of_save_failed hsave other document not_false
    · intro other document hunchanged hdocument
      have hscopeId := scopeId_of_persisted hselection.kept
      have hfault : attempt.recipeFault.isSome = true := by
        rw [Option.isSome_iff_ne_none]
        intro hnone
        obtain ⟨recipe, hread⟩ : ∃ recipe, CompositionHome.load deps _ .defaultWorld none none =
            .ok recipe := load_ok (select_sound htoml h hfresh) rfl
        rw [hnone, hread] at hrecipe
        cases hrecipe
      rw [hselection.saved, document_save_of_ne]
      · exact hdocument
      · intro hsame
        refine hunchanged ⟨hsame.trans hbaseline, ?_, hfault⟩
        rw [← hscopeId, hbaseline]
        rfl

/-- A default that fails after its selection is a new one. -/
def DefaultAttempt.SelectsFirst (deps : HomeDependencies) (home : CompositionHome)
    (subject : String) (worldDefault : Bool) (attempt : DefaultAttempt) : Prop :=
  worldDefault = true ∧
    (∃ recipe, home.load deps .defaultWorld none none = .ok recipe ∧
      ∀ candidate ∈ recipe.activations, candidate.subject ≠ subject) ∧
    ∃ artifact installed, (home.selectStoredRtwInScope deps defaultWorldScope artifact
      (some true) attempt.selection).2 = .completed installed

theorem keeps_of_setWorldDefault_failed (htoml : deps.toml.RoundTrips) (h : home.Sound deps)
    {subject : String} {worldDefault : Bool} {attempt : DefaultAttempt}
    (hfresh : FreshInstance deps home attempt.selection.freshId .defaultWorld)
    (hfailed : (home.setWorldDefault deps subject worldDefault attempt).2 = .failed error) :
    home.Keeps
      (fun scope => scope = .defaultWorld ∧ attempt.SelectsFirst deps home subject worldDefault)
      (home.setWorldDefault deps subject worldDefault attempt).1 := by
  have hchange : DefaultChange deps home subject worldDefault attempt _ :=
    defaultChange_of_setWorldDefault subject worldDefault attempt
  generalize home.setWorldDefault deps subject worldDefault attempt = outcome
    at hchange hfailed ⊢
  have hother : ∀ {artifact after ending scope},
      home.selectStoredRtwInScope deps defaultWorldScope artifact (some true) attempt.selection =
        (after, ending) → scope ≠ .defaultWorld →
      after.document none scope = home.document none scope := by
    intro artifact after ending scope hselect hscope
    have hkept : (home.selectStoredRtwInScope deps defaultWorldScope artifact (some true)
        attempt.selection).1.document none scope = home.document none scope := by
      refine document_select_of_ne fun hsame => hscope ?_
      rw [persistedCompositionScope_defaultWorld] at hsame
      exact (Except.ok.inj hsame).symm
    rwa [hselect] at hkept
  have hfirst : ∀ {artifact recipe after installed}, worldDefault = true →
      home.load deps .defaultWorld attempt.recipeFault none = .ok recipe →
      (∀ candidate ∈ recipe.activations, candidate.subject ≠ subject) →
      home.selectStoredRtwInScope deps defaultWorldScope artifact (some true) attempt.selection =
        (after, .completed installed) →
      attempt.SelectsFirst deps home subject worldDefault := by
    intro artifact recipe after installed hdefault hrecipe hnone hselect
    exact ⟨hdefault, ⟨recipe, load_of_load_faults hrecipe, hnone⟩, artifact, installed,
      congrArg Prod.snd hselect⟩
  cases hchange with
  | refused error => exact fun _ _ _ hdocument => hdocument
  | kept => cases hfailed
  | removed =>
      exact fun scope document _ => keeps_of_edit_failed hfailed scope document not_false
  | @unselected artifact after reason hselect =>
      have hending : (home.selectStoredRtwInScope deps defaultWorldScope artifact (some true)
          attempt.selection).2 = .failed reason := by rw [hselect]
      have hkept := keeps_of_select_failed htoml h (fun scope hscope => by
        rw [persistedCompositionScope_defaultWorld] at hscope
        cases hscope
        exact hfresh) hending
      rw [hselect] at hkept
      exact fun scope document _ => hkept scope document fun hhost =>
        absurd hhost.2.1 (by decide)
  | cutOff hselect => cases hfailed
  | selected hselect => cases hfailed
  | uncopied hdefault hrecipe hnone hselect =>
      intro scope document hunchanged hdocument
      rw [hother hselect fun hsame =>
        hunchanged ⟨hsame, hfirst hdefault hrecipe hnone hselect⟩]
      exact hdocument
  | copied hdefault _ _ hrecipe hnone hselect _ _ =>
      intro scope document hunchanged hdocument
      have hscope : scope ≠ .defaultWorld := fun hsame =>
        hunchanged ⟨hsame, hfirst hdefault hrecipe hnone hselect⟩
      rw [document_save_of_ne hscope, hother hselect hscope]
      exact hdocument

end Failures

/-! ## Runs -/

/-- The identifiers that an operation generates are new ones. -/
def CompositionOp.Fresh (deps : HomeDependencies) (home : CompositionHome) :
    CompositionOp → Prop
  | .selectStoredRtw scopeId _ _ attempt =>
      ∀ scope, deps.persistedCompositionScope scopeId = .ok scope →
        FreshInstance deps home attempt.freshId scope
  | .setWorldDefault _ _ attempt =>
      FreshInstance deps home attempt.selection.freshId .defaultWorld
  | .createWorld attempt => Function.Injective attempt.freshId
  | _ => True

/-- The scopes whose profiles an operation saves before it fails. -/
def CompositionOp.SavesFirst (deps : HomeDependencies) (home : CompositionHome) :
    CompositionOp → PersistedCompositionScope → Prop
  | .selectStoredRtw scopeId _ _ attempt, scope =>
      scope = .baseline ∧ scopeId = hostScope ∧ attempt.recipeFault.isSome = true
  | .setWorldDefault subject worldDefault attempt, scope =>
      scope = .defaultWorld ∧ attempt.SelectsFirst deps home subject worldDefault
  | _, _ => False

/-- The runs of a home that starts without documents. -/
def compositionSystem (deps : HomeDependencies) : Lts CompositionHome CompositionOp where
  init home := home = .new
  step home op after := op.Fresh deps home ∧ (home.perform deps op).1 = after

section Runs

variable {deps : HomeDependencies} {home : CompositionHome}

/-- Every operation leaves a sound home. -/
theorem perform_sound (htoml : deps.toml.RoundTrips) (h : home.Sound deps) {op : CompositionOp}
    (hfresh : op.Fresh deps home) : (home.perform deps op).1.Sound deps := by
  cases op with
  | selectStoredRtw scopeId digest enabled attempt => exact select_sound htoml h hfresh
  | setEnabled scopeId subject enabled attempt =>
      exact edit_sound htoml h fun _ _ hprofile hedited => hprofile.setEnabled hedited
  | removeActivation scopeId subject attempt =>
      exact edit_sound htoml h fun _ _ hprofile hedited => hprofile.removeActivation hedited
  | setWorldDefault subject worldDefault attempt => exact setWorldDefault_sound htoml h hfresh
  | grantRuntimePermission scopeId owner permission manifestFault attempt =>
      exact edit_sound htoml h fun _ _ hprofile hedited => grantRequested_sound hprofile hedited
  | revokeRuntimePermission scopeId owner permission attempt =>
      refine edit_sound htoml h fun profile _ hprofile hedited => ?_
      cases hedited
      exact hprofile.revoke owner permission scopeId
  | setPreferredProvider scopeId contract provider attempt =>
      exact edit_sound htoml h fun _ _ hprofile hedited => chooseProvider_sound hprofile hedited
  | clearPreferredProvider scopeId contract attempt =>
      refine edit_sound htoml h fun profile _ hprofile hedited => ?_
      cases hedited
      exact hprofile.clearPreferredProvider scopeId contract
  | setPreference scopeId owner key value attempt =>
      exact edit_sound htoml h fun _ _ hprofile hedited => putPreference_sound hprofile hedited
  | deletePreference scopeId owner key attempt =>
      refine edit_sound htoml h fun profile edited hprofile hedited => ?_
      exact hprofile.deletePreference (eq_ok_of_mapError hedited)
  | createWorld attempt => exact (createWorld_sound htoml h hfresh).1

/-- An operation that fails keeps the documents that it did not save before. -/
theorem keeps_of_perform_failed (htoml : deps.toml.RoundTrips) (h : home.Sound deps)
    {op : CompositionOp} (hfresh : op.Fresh deps home) {error : HomeError}
    (hfailed : (home.perform deps op).2 = .failed error) :
    home.Keeps (op.SavesFirst deps home) (home.perform deps op).1 := by
  cases op with
  | selectStoredRtw scopeId digest enabled attempt =>
      exact keeps_of_select_failed htoml h hfresh (map_eq_failed hfailed)
  | setWorldDefault subject worldDefault attempt =>
      exact keeps_of_setWorldDefault_failed htoml h hfresh hfailed
  | createWorld attempt => exact (createWorld_sound htoml h hfresh).2
  | setEnabled | removeActivation | grantRuntimePermission | revokeRuntimePermission
  | setPreferredProvider | clearPreferredProvider | setPreference | deletePreference =>
      exact keeps_of_edit_failed hfailed

/-- After any sequence of operations, with any faults and cuts, every profile of the home is read
back with whole references, and an operation that fails keeps the profiles that are there up to
those that it saved before. -/
theorem composition_policy_invariant (deps : HomeDependencies) (htoml : deps.toml.RoundTrips)
    (h : (compositionSystem deps).Reachable home) :
    home.Sound deps ∧ ∀ op : CompositionOp, op.Fresh deps home → ∀ error,
      (home.perform deps op).2 = .failed error →
      home.Keeps (op.SavesFirst deps home) (home.perform deps op).1 := by
  have hsound : home.Sound deps := by
    refine h.induction (P := fun home => home.Sound deps) (fun home hinit => ?_)
      fun before op after _ hbefore hstep => ?_
    · rw [show home = .new from hinit]
      exact sound_new
    · obtain ⟨hfresh, rfl⟩ := hstep
      exact perform_sound htoml hbefore hfresh
  exact ⟨hsound, fun op hfresh error hfailed => keeps_of_perform_failed htoml hsound hfresh hfailed⟩

end Runs

/-! ## A home with notes -/

/-- The component of notes. -/
def notesComponent (instanceId : ExtensionInstanceId) : ComponentRef :=
  ⟨instanceId, ⟨"main"⟩⟩

/-- What notes declare: one component, which requests a permission. -/
def notesManifest : ExtensionManifest :=
  ⟨⟨"demo.notes"⟩, [⟨⟨"main"⟩, ⟨"demo.native@1"⟩, true, ⟨[], [.backgroundTask]⟩⟩]⟩

/-- The manifest as it is written. -/
def notesText : String :=
  "id = \"demo.notes\"\nname = \"Notes\"\nversion = \"1.0.0\"\nsdk = \"0.1\"\n" ++
    "[[components]]\nid = \"main\"\nkind = \"runtime\"\ntarget = \"demo.native@1\"\n" ++
    "[components.permissions]\nruntime = [\"background-task\"]\n"

/-- The path of the manifest in the artifact. -/
def notesPath : ArtifactPath := ⟨"extension.toml", rfl⟩

/-- The size of the manifest. -/
def notesSize : Nat :=
  (Artifacts.utf8 notesText).length

/-- The manifest in the artifact, stored without compression. -/
def notesFile : Artifacts.ZipFile where
  nameRaw := Artifacts.utf8 "extension.toml"
  name := "extension.toml"
  isDir := false
  isSymlink := false
  unixMode := none
  compression := .stored
  encrypted := false
  compressedSize := notesSize
  size := notesSize
  stream := ⟨Artifacts.utf8 notesText, none⟩

/-- The artifact of notes. -/
def notesArchive : RtwArchive where
  archive := [.ok notesFile]
  manifest := ⟨1, extensionContent, notesPath⟩
  entries := (∅ : Dict ArtifactPath Artifacts.ArtifactEntry).insert notesPath
    ⟨notesPath, notesSize, notesSize⟩
  entryIndices := (∅ : Dict ArtifactPath Nat).insert notesPath 0
  limits := ExtensionEngine.defaultLimits

/-- The profile of a scope that has notes. -/
def notesProfile (instanceId : ExtensionInstanceId) (scopeId : RuntimeScopeId) :
    CompositionProfile :=
  { CompositionProfile.default with
    activations :=
      [⟨"demo.notes", extensionContent, ⟨0⟩, instanceId, scopeId, true, false⟩] }

/-- The profile once notes are granted what they request. -/
def grantedProfile (instanceId : ExtensionInstanceId) (scopeId : RuntimeScopeId) :
    CompositionProfile :=
  { notesProfile instanceId scopeId with
    runtimePermissions := [⟨scopeId, instanceId, ⟨"main"⟩, .backgroundTask⟩] }

/-- The profile once notes are chosen as a provider as well. -/
def chosenProfile (instanceId : ExtensionInstanceId) (scopeId : RuntimeScopeId) :
    CompositionProfile :=
  { grantedProfile instanceId scopeId with
    preferredProviders := [⟨scopeId, ⟨"demo.pages"⟩, 1, instanceId, ⟨"main"⟩⟩] }

/-- The profile once notes have a preference as well. -/
def themedProfile (instanceId : ExtensionInstanceId) (scopeId : RuntimeScopeId) :
    CompositionProfile :=
  { chosenProfile instanceId scopeId with
    preferences := [⟨scopeId, instanceId, ⟨"main"⟩, "theme", "dark"⟩] }

/-- The lines of a chosen provider. -/
def PreferredProviderSelection.lines (selection : PreferredProviderSelection) : String :=
  "\n[[preferred_providers]]\nscope-id = \"" ++ selection.scopeId.asStr ++ "\"\ncontract-id = \"" ++
    selection.contractId.asStr ++ "\"\ncontract-version = " ++ toString selection.contractVersion ++
    "\nprovider-instance-id = \"" ++ selection.providerInstanceId.asStr ++
    "\"\nprovider-component-id = \"" ++ selection.providerComponentId.asStr ++ "\"\n"

/-- The lines of a granted permission. -/
def RuntimePermissionGrant.lines (grant : RuntimePermissionGrant) : String :=
  "\n[[runtime_permissions]]\nscope-id = \"" ++ grant.scopeId.asStr ++ "\"\ninstance-id = \"" ++
    grant.instanceId.asStr ++ "\"\ncomponent-id = \"" ++ grant.componentId.asStr ++
    "\"\npermission = \"" ++ grant.permission.display ++ "\"\n"

/-- The document of a profile that has notes. -/
def notesDocument (profile : CompositionProfile) : String :=
  "schema = 6\n" ++
    String.join (profile.activations.map fun item =>
      activationLines item.subject item.instanceId.asStr item.scopeId.asStr item.worldDefault) ++
    String.join (profile.preferredProviders.map PreferredProviderSelection.lines) ++
    String.join (profile.runtimePermissions.map RuntimePermissionGrant.lines) ++
    String.join (profile.preferences.map fun record =>
      preferenceLines record.instanceId.asStr record.scopeId.asStr)

/-- The profiles that the home of notes goes through. -/
def notesProfiles : List CompositionProfile :=
  [notesProfile ⟨"demo.notes"⟩ hostScope, grantedProfile ⟨"demo.notes"⟩ hostScope,
    chosenProfile ⟨"demo.notes"⟩ hostScope, themedProfile ⟨"demo.notes"⟩ hostScope,
    notesProfile (homeId 0) defaultWorldScope]

/-- A library that knows the documents of these profiles. -/
def notesToml : ProfileToml where
  toStringPretty profile :=
    if profile ∈ notesProfiles then .ok (notesDocument profile) else .error ⟨"unknown profile"⟩
  fromStr source :=
    match notesProfiles.find? fun profile => notesDocument profile == source with
    | some profile => .ok profile
    | none => .error ⟨"unknown document"⟩

/-- Different profiles have different documents, so each is read back from its own. -/
theorem notesToml_roundTrips : notesToml.RoundTrips := by
  have hdistinct : (notesProfiles.map notesDocument).Nodup := by decide +kernel
  intro profile source hsource
  simp only [notesToml] at hsource ⊢
  split at hsource
  · next hknown =>
      cases hsource
      have hfound : (notesProfiles.find? fun other =>
          notesDocument other == notesDocument profile).isSome = true :=
        List.find?_isSome.mpr ⟨profile, hknown, beq_self_eq_true _⟩
      obtain ⟨other, hother⟩ := Option.isSome_iff_exists.mp hfound
      have hwritten := (List.find?_eq_some_iff_append.mp hother).1
      have hsame : other = profile :=
        List.inj_on_of_nodup_map hdistinct (List.mem_of_find?_eq_some hother) hknown
          (beq_iff_eq.mp hwritten)
      rw [hother, hsame]
  · cases hsource

/-- A store that has the artifact of notes. -/
def notesDeps : HomeDependencies where
  toml := notesToml
  parseWorldId _ := none
  openArtifact digest :=
    if digest = ⟨0⟩ then .ok notesArchive else .error (.storedArtifactNotFound digest.toString)
  parseManifest source :=
    if source = notesText then .ok notesManifest else .error (.artifact "unexpected manifest")

/-- An edit without faults. -/
def plainEdit : EditAttempt :=
  ⟨none, none, none, none, .completed⟩

/-- Select notes in a scope. The recipe may be unreadable afterwards. -/
def selectNotes (scopeId : RuntimeScopeId) (recipeFault : Option IoError) : CompositionOp :=
  .selectStoredRtw scopeId ⟨0⟩ none ⟨none, none, plainEdit, homeId 0, recipeFault⟩

/-- Give notes to new worlds. The recipe cannot be read after the selection. -/
def giveNotes : CompositionOp :=
  .setWorldDefault "demo.notes" true ⟨none, none, plainEdit,
    ⟨none, none, plainEdit, homeId 0, none⟩, { plainEdit with readFault := some .invalidData }⟩

/-- The home after notes were selected in a scope. -/
def homeWithNotes (scopeId : RuntimeScopeId) : CompositionHome :=
  (CompositionHome.new.perform notesDeps (selectNotes scopeId none)).1

instance {α : Type} (ending : HomeEnding α) : Decidable (∃ error, ending = .failed error) :=
  match ending with
  | .failed error => isTrue ⟨error, rfl⟩
  | .completed _ => isFalse fun ⟨_, h⟩ => by cases h
  | .cutOff => isFalse fun ⟨_, h⟩ => by cases h

/-- Every instance is a new one where there is no document. -/
theorem freshInstance_of_none {deps : HomeDependencies} {home : CompositionHome}
    {scope : PersistedCompositionScope} (hnone : home.document none scope = .ok none)
    (freshId : ExtensionInstanceId) : FreshInstance deps home freshId scope := by
  intro profile hload
  rw [CompositionHome.load, hnone] at hload
  dsimp only at hload
  split at hload
  · cases hload
  · next read hread =>
      cases hread
      split at hload
      · cases hload
      · cases hload
        exact List.not_mem_nil

/-- Notes are selected in a scope that is kept. -/
theorem reachable_homeWithNotes (scopeId : RuntimeScopeId)
    (hscope : scopeId = hostScope ∨ scopeId = defaultWorldScope) :
    (compositionSystem notesDeps).Reachable (homeWithNotes scopeId) := by
  have hstep : (selectNotes scopeId none).Fresh notesDeps .new → (compositionSystem notesDeps).step
      .new (selectNotes scopeId none) (homeWithNotes scopeId) := fun hfresh => ⟨hfresh, rfl⟩
  refine (Lts.Reachable.of_init rfl).step (hstep fun scope hpersisted => ?_)
  rcases hscope with rfl | rfl
  · rw [persistedCompositionScope_host] at hpersisted
    cases hpersisted
    exact freshInstance_of_none rfl _
  · rw [persistedCompositionScope_defaultWorld] at hpersisted
    cases hpersisted
    exact freshInstance_of_none rfl _

/-- Notes are granted what they request. -/
def grantNotes : CompositionOp :=
  .grantRuntimePermission hostScope (notesComponent ⟨"demo.notes"⟩) .backgroundTask none plainEdit

/-- Notes are chosen as a provider. -/
def chooseNotes : CompositionOp :=
  .setPreferredProvider hostScope ⟨⟨"demo.pages"⟩, 1⟩ (notesComponent ⟨"demo.notes"⟩) plainEdit

/-- Notes get a preference. -/
def themeNotes : CompositionOp :=
  .setPreference hostScope (notesComponent ⟨"demo.notes"⟩) "theme" "dark" plainEdit

/-- A home with a document of the baseline. -/
def baselineHome (profile : CompositionProfile) : CompositionHome :=
  ⟨some (notesDocument profile), none, ∅⟩

/-- The home after these operations. -/
def policyHome : CompositionHome :=
  baselineHome (themedProfile ⟨"demo.notes"⟩ hostScope)

/-- A grant of something that notes do not request. -/
def grantUnrequested : CompositionOp :=
  .grantRuntimePermission hostScope (notesComponent ⟨"demo.notes"⟩) .httpFetch none plainEdit

/-- A profile that the home of notes reads and writes in the baseline. -/
structure KnownProfile (profile : CompositionProfile) : Prop where
  known : profile ∈ notesProfiles
  schema : profile.schema = profileSchema
  validate : profile.validate = .ok ()
  scope : profile.validateScope hostScope = .ok ()

/-- The profiles of the baseline are known. -/
theorem knownProfile_of_mem {profile : CompositionProfile} (h : profile ∈ notesProfiles.take 4) :
    KnownProfile profile := by
  have hall : ∀ profile ∈ notesProfiles.take 4, profile.schema = profileSchema ∧
      profile.validate = .ok () ∧ profile.validateScope hostScope = .ok () := by decide +kernel
  obtain ⟨hschema, hvalidate, hscope⟩ := hall profile h
  exact ⟨List.mem_of_mem_take h, hschema, hvalidate, hscope⟩

/-- The manifest of notes is read from the store. -/
theorem readStoredManifest_notes : notesDeps.readStoredManifest ⟨0⟩ = .ok notesManifest := by
  have hread : (notesDeps.readStoredManifest ⟨0⟩).toOption = some notesManifest := by
    decide +kernel
  cases hresult : notesDeps.readStoredManifest ⟨0⟩ with
  | error error =>
      rw [hresult] at hread
      cases hread
  | ok manifest =>
      rw [hresult] at hread
      exact congrArg Except.ok (Option.some.inj hread)

/-- What is saved in the baseline is read from it. -/
theorem load_baselineHome {profile : CompositionProfile} (h : KnownProfile profile) :
    (baselineHome profile).load notesDeps .baseline none none = .ok profile := by
  have hsource : notesToml.fromStr (notesDocument profile) = .ok profile :=
    notesToml_roundTrips profile _ (if_pos h.known)
  have hload := CompositionProfile.load_of_fromStr hsource h.schema
    (profile.validate_eq_ok_iff.mp h.validate)
  unfold CompositionHome.load
  dsimp only [CompositionHome.document, baselineHome]
  rw [show notesDeps.toml = notesToml from rfl, hload]
  dsimp only
  rw [show PersistedCompositionScope.baseline.scopeId = hostScope from rfl, h.scope]

/-- A known profile is saved as the document of the baseline. -/
theorem save_baseline {home : CompositionHome} {profile : CompositionProfile}
    (h : KnownProfile profile) : home.save notesDeps .baseline profile plainEdit =
      ({ home with baseline := some (notesDocument profile) }, .completed ()) := by
  have hsource : notesToml.toStringPretty profile = .ok (notesDocument profile) := if_pos h.known
  unfold CompositionHome.save
  rw [show PersistedCompositionScope.baseline.scopeId = hostScope from rfl, h.scope]
  dsimp only [CompositionHome.document, plainEdit, CompositionProfile.save, notesDeps]
  rw [hsource]
  rfl

variable {change : CompositionProfile → HomeResult CompositionProfile}

/-- An edit without faults replaces the document of the baseline. -/
theorem edit_baselineHome {profile edited : CompositionProfile} (h : KnownProfile profile)
    (hedited : KnownProfile edited) (hchange : change profile = .ok edited) :
    (baselineHome profile).edit notesDeps hostScope plainEdit change =
      (baselineHome edited, .completed ()) := by
  unfold CompositionHome.edit
  rw [persistedCompositionScope_host]
  dsimp only [plainEdit]
  rw [load_baselineHome h]
  dsimp only
  rw [hchange]
  exact save_baseline hedited

/-- An edit that is refused leaves the home as it was. -/
theorem edit_baselineHome_refused {profile : CompositionProfile} {error : HomeError}
    (h : KnownProfile profile) (hchange : change profile = .error error) :
    (baselineHome profile).edit notesDeps hostScope plainEdit change =
      (baselineHome profile, .failed error) := by
  unfold CompositionHome.edit
  rw [persistedCompositionScope_host]
  dsimp only [plainEdit]
  rw [load_baselineHome h]
  dsimp only
  rw [hchange]

/-- Selecting notes in the baseline of a new home leaves the document of a known profile. -/
theorem homeWithNotes_host :
    homeWithNotes hostScope = baselineHome (notesProfile ⟨"demo.notes"⟩ hostScope) := by
  have hopen : (notesDeps.openArtifact ⟨0⟩).mapError HomeError.artifact = .ok notesArchive := rfl
  have hcontent : RtwExtensionLoader.displayContent notesArchive.manifest.content =
      extensionContentV1 := by decide +kernel
  have hnew : CompositionHome.new.load notesDeps .baseline none none = .ok .default := rfl
  have hselected : CompositionHome.withArtifact .default notesManifest notesArchive.manifest.content
      .baseline hostScope ⟨0⟩ none (homeId 0) = (notesProfile ⟨"demo.notes"⟩ hostScope, true) := by
    decide +kernel
  have hsaved : CompositionHome.new.save notesDeps .baseline
      (notesProfile ⟨"demo.notes"⟩ hostScope) plainEdit =
        (baselineHome (notesProfile ⟨"demo.notes"⟩ hostScope), .completed ()) :=
    save_baseline (knownProfile_of_mem List.mem_cons_self)
  simp only [homeWithNotes, selectNotes, CompositionHome.perform,
    CompositionHome.selectStoredRtwInScope, orFault, hopen, hcontent, readStoredManifest_notes,
    persistedCompositionScope_host, plainEdit] at hsaved ⊢
  simp only [hnew, hselected, hsaved]
  rfl

/-- An operation that edits the baseline from one known profile to another one is a step. -/
theorem reachable_edit (op : CompositionOp) {before : CompositionProfile}
    (after : CompositionProfile) (hperform : ∀ home : CompositionHome,
      home.perform notesDeps op = home.edit notesDeps hostScope plainEdit change)
    (hfresh : ∀ home, op.Fresh notesDeps home) (hbefore : KnownProfile before)
    (hafter : KnownProfile after) (hchange : change before = .ok after)
    (h : (compositionSystem notesDeps).Reachable (baselineHome before)) :
    (compositionSystem notesDeps).Reachable (baselineHome after) := by
  have hdone := edit_baselineHome hbefore hafter hchange
  exact h.step ⟨hfresh _, congrArg Prod.fst ((hperform _).trans hdone)⟩

/-- Notes are granted what they request in the baseline, and nothing else. -/
theorem grantRequested_notes {profile : CompositionProfile} (permission : RuntimePermission)
    (hactivations : profile.activations =
      (notesProfile ⟨"demo.notes"⟩ hostScope).activations) :
    CompositionHome.grantRequested notesDeps hostScope (notesComponent ⟨"demo.notes"⟩) permission
      none profile =
        if permission = .backgroundTask then
          .ok (profile.grantRuntimePermission ⟨hostScope, ⟨"demo.notes"⟩, ⟨"main"⟩, permission⟩)
        else
          .error (.runtimePermissionNotRequested "demo.notes" "main" permission.display) := by
  have hfound : profile.activations.find? (fun activation => activation.instanceId ==
      (notesComponent ⟨"demo.notes"⟩).instanceId) = some
        ⟨"demo.notes", extensionContent, ⟨0⟩, ⟨"demo.notes"⟩, hostScope, true, false⟩ := by
    rw [hactivations]
    decide +kernel
  have hcontent : ¬ RtwExtensionLoader.displayContent extensionContent ≠ extensionContentV1 := by
    decide +kernel
  unfold CompositionHome.grantRequested
  rw [hfound]
  dsimp only [orFault]
  rw [if_neg (not_not_intro rfl), if_neg hcontent, readStoredManifest_notes]
  dsimp only [notesManifest]
  simp [notesComponent]

/-- The home is reached by a selection, a grant, a choice and a preference. -/
theorem reachable_policyHome : (compositionSystem notesDeps).Reachable policyHome := by
  have hgrants : CompositionHome.grantRequested notesDeps hostScope
      (notesComponent ⟨"demo.notes"⟩) .backgroundTask none
      (notesProfile ⟨"demo.notes"⟩ hostScope) = .ok (grantedProfile ⟨"demo.notes"⟩ hostScope) :=
    grantRequested_notes .backgroundTask rfl
  have hknown : ∀ profile ∈ notesProfiles.take 4, KnownProfile profile :=
    fun _ => knownProfile_of_mem
  simp only [notesProfiles, List.take, List.forall_mem_cons] at hknown
  obtain ⟨hnotes, hgranted, hchosen, hthemed, -⟩ := hknown
  have hselected := reachable_homeWithNotes hostScope (.inl rfl)
  rw [homeWithNotes_host] at hselected
  have hfirst := reachable_edit grantNotes (grantedProfile ⟨"demo.notes"⟩ hostScope)
    (fun _ => rfl) (fun _ => trivial) hnotes hgranted hgrants hselected
  have hsecond := reachable_edit chooseNotes (chosenProfile ⟨"demo.notes"⟩ hostScope)
    (fun _ => rfl) (fun _ => trivial) hgranted hchosen rfl hfirst
  exact reachable_edit themeNotes (themedProfile ⟨"demo.notes"⟩ hostScope)
    (fun _ => rfl) (fun _ => trivial) hchosen hthemed rfl hsecond

/-- The home has a grant, a provider and a preference for notes. It is sound, and a grant of
something that notes do not request fails and keeps the document. -/
theorem composition_policy_invariant_notes :
    policyHome.load notesDeps .baseline none none = .ok (themedProfile ⟨"demo.notes"⟩ hostScope) ∧
    policyHome.Sound notesDeps ∧
    (∃ error, (policyHome.perform notesDeps grantUnrequested).2 = .failed error) ∧
    policyHome.Keeps (grantUnrequested.SavesFirst notesDeps policyHome)
      (policyHome.perform notesDeps grantUnrequested).1 := by
  obtain ⟨hsound, hkeeps⟩ :=
    composition_policy_invariant notesDeps notesToml_roundTrips reachable_policyHome
  have hthemed : KnownProfile (themedProfile ⟨"demo.notes"⟩ hostScope) :=
    knownProfile_of_mem (by decide +kernel)
  have hrefused : (policyHome.perform notesDeps grantUnrequested).2 =
      .failed (.runtimePermissionNotRequested "demo.notes" "main" "http-fetch") :=
    congrArg Prod.snd (edit_baselineHome_refused hthemed (grantRequested_notes .httpFetch rfl))
  exact ⟨load_baselineHome hthemed, hsound, ⟨_, hrefused⟩,
    hkeeps grantUnrequested trivial _ hrefused⟩

/-- Notes are given to new worlds and are selected in the baseline. Both operations fail, and
the profile that they saved before stays changed. -/
theorem failed_operations_change_profiles :
    (let home := homeWithNotes hostScope
     (compositionSystem notesDeps).Reachable home ∧ giveNotes.Fresh notesDeps home ∧
       (∃ error, (home.perform notesDeps giveNotes).2 = .failed error) ∧
       (home.perform notesDeps giveNotes).1.recipe ≠ home.recipe) ∧
    (let home := homeWithNotes defaultWorldScope
     let op := selectNotes hostScope (some .invalidData)
     (compositionSystem notesDeps).Reachable home ∧ op.Fresh notesDeps home ∧
       (∃ error, (home.perform notesDeps op).2 = .failed error) ∧
       (home.perform notesDeps op).1.baseline ≠ home.baseline) := by
  refine ⟨⟨reachable_homeWithNotes hostScope (.inl rfl), freshInstance_of_none ?_ _, ?_⟩,
    ⟨reachable_homeWithNotes defaultWorldScope (.inr rfl), fun scope hpersisted => ?_, ?_⟩⟩
  · rw [homeWithNotes_host]
    rfl
  · decide +kernel
  · rw [persistedCompositionScope_host] at hpersisted
    cases hpersisted
    refine freshInstance_of_none ?_ _
    rw [CompositionHome.document,
      show (homeWithNotes defaultWorldScope).baseline = none by decide +kernel]
  · decide +kernel

end Rintawa.Host
