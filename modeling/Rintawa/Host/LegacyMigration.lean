/-
# Migration of the old defaults for worlds

Older profiles marked the activations that new worlds get in the baseline. Opening a home moves
them to a recipe of their own: the recipe is written first and then the baseline without the
marks. An open that is cut off between both finds the recipe later and only clears the marks.
-/

import Rintawa.Host.Materialization
import Rintawa.Lib.Numerals

namespace Rintawa.Host

open Rintawa.Lib Rintawa.Sdk
open Rintawa.Artifacts (ArtifactDigest ContentType IoError TomlError)

/-! ## Files -/

/-- The scope of the baseline. -/
def hostScope : RuntimeScopeId := ⟨"host"⟩

/-- The scope of the recipe for new worlds. -/
def defaultWorldScope : RuntimeScopeId := ⟨"default-world"⟩

/-- The library that writes a profile as a document and reads it back. -/
structure ProfileToml where
  toStringPretty : CompositionProfile → Except TomlError String
  fromStr : String → Except TomlError CompositionProfile

/-- A profile is read back from the document that was written for it. -/
def ProfileToml.RoundTrips (toml : ProfileToml) : Prop :=
  ∀ profile source, toml.toStringPretty profile = .ok source → toml.fromStr source = .ok profile

/-- The documents of the baseline and of the recipe. -/
structure ProfileFiles where
  baseline : Option String
  recipe : Option String
  deriving DecidableEq

/-- How replacing a document goes. The new one is there at once; the host can be cut off before
that or after it. -/
inductive SaveEnding
  | failed (error : IoError)
  | cutBefore
  | cutAfter
  | completed
  deriving DecidableEq

/-- What one save meets. -/
structure SaveAttempt where
  directoryFault : Option IoError
  ending : SaveEnding

/-- How an open goes. -/
inductive OpenEnding
  | completed
  | failed (error : ProfileError)
  | cutOff
  deriving DecidableEq

/-- What one open of a home meets: faults of reading, the identifiers that it generates, and
how its saves go. -/
structure OpenAttempt where
  baselineFault : Option IoError
  recipeFault : Option IoError
  freshId : Nat → ExtensionInstanceId
  recipeSave : SaveAttempt
  baselineSave : SaveAttempt

/-- Replace a document. -/
def SaveEnding.replace (ending : SaveEnding) (source : String) (file : Option String) :
    Option String × OpenEnding :=
  match ending with
  | .failed error => (file, .failed (.io error))
  | .cutBefore => (file, .cutOff)
  | .cutAfter => (some source, .cutOff)
  | .completed => (some source, .completed)

namespace CompositionProfile

/-- Profiles with older schemas are taken over. -/
def upgraded (profile : CompositionProfile) : ProfileResult CompositionProfile :=
  if profile.schema = profileSchema then .ok profile
  else if profile.schema ∈ [1, 2, 3, 4, 5] then .ok { profile with schema := profileSchema }
  else .error (.unsupportedProfileSchema profile.schema)

/-- Read the profile of a document, if there is one. -/
def load (toml : ProfileToml) (fault : Option IoError) (file : Option String) :
    ProfileResult CompositionProfile :=
  match file with
  | none => .ok .default
  | some source =>
      match fault with
      | some error => .error (.io error)
      | none => do
          let decoded ← (toml.fromStr source).mapError .profileDecode
          let profile ← decoded.upgraded
          profile.validate
          .ok profile

/-- Save a profile. The document that is there afterwards is part of the result. -/
def save (toml : ProfileToml) (profile : CompositionProfile) (attempt : SaveAttempt)
    (file : Option String) : Option String × OpenEnding :=
  match attempt.directoryFault with
  | some error => (file, .failed (.io error))
  | none =>
      match toml.toStringPretty profile with
      | .error error => (file, .failed (.profileEncode error))
      | .ok source => attempt.ending.replace source file

end CompositionProfile

/-! ## The migration -/

namespace ProfileFiles

variable (toml : ProfileToml) (attempt : OpenAttempt)

/-- Keep the recipe that is there, or write one. -/
def ensureRecipe (baseline : CompositionProfile) (recipe : Option String) :
    Option String × OpenEnding :=
  match recipe with
  | some _ =>
      match CompositionProfile.load toml attempt.recipeFault recipe with
      | .error error => (recipe, .failed error)
      | .ok profile =>
          match profile.validateScope defaultWorldScope with
          | .error error => (recipe, .failed error)
          | .ok () => (recipe, .completed)
  | none =>
      CompositionProfile.save toml
        (baseline.materializeLegacyWorldDefaults defaultWorldScope attempt.freshId)
        attempt.recipeSave none

/-- Write the recipe and then the baseline without the marks. -/
def moveDefaults (baseline : CompositionProfile) (files : ProfileFiles) :
    ProfileFiles × OpenEnding :=
  match ensureRecipe toml attempt baseline files.recipe with
  | (recipe, .failed error) => (⟨files.baseline, recipe⟩, .failed error)
  | (recipe, .cutOff) => (⟨files.baseline, recipe⟩, .cutOff)
  | (recipe, .completed) =>
      let saved := CompositionProfile.save toml baseline.clearLegacyWorldDefaults
        attempt.baselineSave files.baseline
      (⟨saved.1, recipe⟩, saved.2)

/-- Move the old defaults to the recipe, if any activation is marked. -/
def migrateLegacyWorldDefaults (files : ProfileFiles) : ProfileFiles × OpenEnding :=
  match CompositionProfile.load toml attempt.baselineFault files.baseline with
  | .error error => (files, .failed error)
  | .ok baseline =>
      match baseline.validateScope hostScope with
      | .error error => (files, .failed error)
      | .ok () =>
          if !baseline.activations.any fun item => item.worldDefault then (files, .completed)
          else files.moveDefaults toml attempt baseline

/-- Open a home again and again. -/
def openAll (files : ProfileFiles) : List OpenAttempt → ProfileFiles × List OpenEnding
  | [] => (files, [])
  | attempt :: rest =>
      let opened := files.migrateLegacyWorldDefaults toml attempt
      let last := opened.1.openAll rest
      (last.1, opened.2 :: last.2)

end ProfileFiles

/-! ## Reading and saving -/

namespace CompositionProfile

variable {toml : ProfileToml} {profile : CompositionProfile} {file : Option String}

/-- A profile with the current schema is read as it is. -/
theorem load_of_fromStr {source : String} (hsource : toml.fromStr source = .ok profile)
    (hschema : profile.schema = profileSchema) (hvalid : profile.Valid) :
    load toml none (some source) = .ok profile := by
  rw [load, hsource]
  change (profile.upgraded >>= fun profile => profile.validate >>= fun _ => .ok profile) = _
  rw [upgraded, if_pos hschema]
  change (profile.validate >>= fun _ => .ok profile) = .ok profile
  rw [profile.validate_eq_ok_iff.mpr hvalid]
  rfl

/-- What is read without faults is what is read when none occurs. -/
theorem load_of_load {fault : Option IoError} (h : load toml fault file = .ok profile) :
    load toml none file = .ok profile := by
  cases file with
  | none => exact h
  | some source =>
      cases fault with
      | none => exact h
      | some error => cases h

theorem upgraded_schema {decoded : CompositionProfile} (h : decoded.upgraded = .ok profile) :
    profile.schema = profileSchema := by
  rw [upgraded] at h
  split at h
  · next hschema =>
      cases h
      exact hschema
  · split at h
    · cases h
      rfl
    · cases h

/-- A profile that is read is valid and has the current schema. -/
theorem load_valid {fault : Option IoError} (h : load toml fault file = .ok profile) :
    profile.schema = profileSchema ∧ profile.Valid := by
  cases file with
  | none =>
      cases h
      exact ⟨rfl, List.nodup_nil, List.nodup_nil, fun _ hmem => absurd hmem List.not_mem_nil,
        List.nodup_nil, fun _ _ => .nil⟩
  | some source =>
      cases fault with
      | some error => cases h
      | none =>
          obtain ⟨decoded, -, hrest⟩ := bind_eq_ok_iff.mp h
          obtain ⟨upgraded, hupgraded, hchecked⟩ := bind_eq_ok_iff.mp hrest
          obtain ⟨_, hvalidate, hsame⟩ := bind_eq_ok_iff.mp hchecked
          cases hsame
          exact ⟨upgraded_schema hupgraded, profile.validate_eq_ok_iff.mp hvalidate⟩

/-- A save keeps the document or replaces it. Only a document that was replaced completes
it. -/
theorem save_cases (attempt : SaveAttempt) :
    (save toml profile attempt file).1 = file ∧ (save toml profile attempt file).2 ≠ .completed ∨
      ∃ source, toml.toStringPretty profile = .ok source ∧
        (save toml profile attempt file).1 = some source := by
  rw [save]
  cases attempt.directoryFault with
  | some error => exact .inl ⟨rfl, fun h => by cases h⟩
  | none =>
      cases toml.toStringPretty profile with
      | error error => exact .inl ⟨rfl, fun h => by cases h⟩
      | ok source =>
          dsimp only
          cases attempt.ending with
          | failed error => exact .inl ⟨rfl, fun h => by cases h⟩
          | cutBefore => exact .inl ⟨rfl, fun h => by cases h⟩
          | cutAfter => exact .inr ⟨source, rfl, rfl⟩
          | completed => exact .inr ⟨source, rfl, rfl⟩

/-- The marks of activations are not checked. -/
theorem Valid.clearLegacyWorldDefaults (h : profile.Valid) :
    profile.clearLegacyWorldDefaults.Valid :=
  ⟨h.selections, h.grants, h.fits, h.addresses, h.quota⟩

/-- Nothing is marked any more. -/
theorem not_any_cleared :
    (profile.clearLegacyWorldDefaults.activations.any fun item => item.worldDefault) = false := by
  simp [CompositionProfile.clearLegacyWorldDefaults]

/-- Without marks there is nothing to clear. -/
theorem cleared_of_unmarked
    (h : (profile.activations.any fun item => item.worldDefault) = false) :
    profile.clearLegacyWorldDefaults = profile := by
  have hsame : profile.activations.map (fun item => { item with worldDefault := false }) =
      profile.activations := by
    rw [List.any_eq_false] at h
    refine (List.map_congr_left fun item hitem => ?_).trans (List.map_id _)
    have hunmarked := h item hitem
    cases item
    simpa using hunmarked
  rw [CompositionProfile.clearLegacyWorldDefaults, hsame]

/-- Without marks the recipe is empty. -/
theorem default_isRenamedPart {scopeId : RuntimeScopeId}
    (h : (profile.activations.any fun item => item.worldDefault) = false) :
    profile.IsRenamedPart (fun item => item.worldDefault) scopeId id .default := by
  have hnone : profile.activations.filter (fun item => item.worldDefault) = [] := by
    rw [List.any_eq_false] at h
    exact List.filter_eq_nil_iff.mpr h
  have hinstances : profile.instancesOf (fun item => item.worldDefault) = [] := by
    rw [instancesOf, hnone]
    rfl
  refine ⟨Function.injective_id.injOn, rfl, ?_, ?_, ?_, ?_⟩
  · rw [hnone]
    rfl
  all_goals simp [hinstances, CompositionProfile.default]

end CompositionProfile

/-! ## Phases -/

/-- The recipe holds what was marked. -/
def RecipeReads (toml : ProfileToml) (original : CompositionProfile) (recipe : Option String) :
    Prop :=
  ∃ rename part, CompositionProfile.load toml none recipe = .ok part ∧
    original.IsRenamedPart (fun item => item.worldDefault) defaultWorldScope rename part

/-- The marks are cleared and the recipe holds what was marked. -/
structure Migrated (toml : ProfileToml) (original : CompositionProfile) (files : ProfileFiles) :
    Prop where
  baseline : CompositionProfile.load toml none files.baseline =
    .ok original.clearLegacyWorldDefaults
  recipe : RecipeReads toml original files.recipe

/-- How far a migration has come. -/
inductive MigrationPhase (toml : ProfileToml) (original : CompositionProfile)
    (document : Option String) : ProfileFiles → Prop
  | untouched : MigrationPhase toml original document ⟨document, none⟩
  | recipeWritten {recipe : String} (reads : RecipeReads toml original (some recipe)) :
      MigrationPhase toml original document ⟨document, some recipe⟩
  | migrated {files : ProfileFiles} (migrated : Migrated toml original files) :
      MigrationPhase toml original document files

/-- An open goes on with a migration. Only migrated files complete it. -/
structure GoesOn (toml : ProfileToml) (original : CompositionProfile) (document : Option String)
    (outcome : ProfileFiles × OpenEnding) : Prop where
  phase : MigrationPhase toml original document outcome.1
  finished : outcome.2 = .completed → Migrated toml original outcome.1

section Steps

variable {toml : ProfileToml} {original : CompositionProfile} {document : Option String}
variable {attempt : OpenAttempt}

/-- Migrated files are not changed any more. -/
theorem Migrated.stable {files : ProfileFiles} (h : Migrated toml original files)
    (attempt : OpenAttempt) :
    (files.migrateLegacyWorldDefaults toml attempt).1 = files := by
  rw [ProfileFiles.migrateLegacyWorldDefaults]
  cases hload : CompositionProfile.load toml attempt.baselineFault files.baseline with
  | error error => rfl
  | ok baseline =>
      have hbaseline := CompositionProfile.load_of_load hload
      rw [h.baseline] at hbaseline
      cases hbaseline
      dsimp only
      cases original.clearLegacyWorldDefaults.validateScope hostScope with
      | error error => rfl
      | ok _ =>
          dsimp only
          rw [CompositionProfile.not_any_cleared]
          rfl

variable (htoml : toml.RoundTrips)
  (hdocument : CompositionProfile.load toml none document = .ok original)
include htoml hdocument

/-- The last save of a migration. -/
theorem goesOn_of_save {recipe : String} (hrecipe : RecipeReads toml original (some recipe))
    (attempt : SaveAttempt) :
    let saved := CompositionProfile.save toml original.clearLegacyWorldDefaults attempt document
    GoesOn toml original document (⟨saved.1, some recipe⟩, saved.2) := by
  intro saved
  obtain ⟨hschema, hvalid⟩ := CompositionProfile.load_valid hdocument
  rcases @CompositionProfile.save_cases toml original.clearLegacyWorldDefaults document attempt with
    ⟨hkept, hending⟩ | ⟨source, hsource, hwritten⟩
  · refine ⟨?_, fun hcompleted => absurd hcompleted hending⟩
    rw [show saved.1 = document from hkept]
    exact .recipeWritten hrecipe
  · have hmigrated : Migrated toml original ⟨saved.1, some recipe⟩ := by
      refine ⟨?_, hrecipe⟩
      rw [show saved.1 = some source from hwritten]
      exact CompositionProfile.load_of_fromStr (htoml _ _ hsource) hschema
        hvalid.clearLegacyWorldDefaults
    exact ⟨.migrated hmigrated, fun _ => hmigrated⟩

/-- The recipe that is written holds what is marked. -/
theorem recipeReads_of_save
    (hdistinct : (original.activations.map fun item => item.instanceId).Nodup)
    (hfresh : Function.Injective attempt.freshId) (hscope : original.InScope hostScope)
    {source : String}
    (hsource : toml.toStringPretty (original.materializeLegacyWorldDefaults defaultWorldScope
      attempt.freshId) = .ok source) :
    RecipeReads toml original (some source) := by
  obtain ⟨-, hvalid⟩ := CompositionProfile.load_valid hdocument
  have hpart : original.IsRenamedPart (fun item => item.worldDefault) defaultWorldScope _
      (original.materializeLegacyWorldDefaults defaultWorldScope attempt.freshId) :=
    CompositionProfile.materializeMatching_isRenamedPart hdistinct hfresh
  exact ⟨_, _, CompositionProfile.load_of_fromStr (htoml _ _ hsource) hpart.schema
    (hpart.valid hscope hvalid), hpart⟩

variable {recipe : Option String}

/-- The recipe is there after the first save, unless nothing was written. -/
theorem ensureRecipe_cases
    (hdistinct : (original.activations.map fun item => item.instanceId).Nodup)
    (hfresh : Function.Injective attempt.freshId) (hscope : original.InScope hostScope)
    (hrecipe : ∀ source, recipe = some source → RecipeReads toml original (some source)) :
    let ensured := ProfileFiles.ensureRecipe toml attempt original recipe
    ensured.1 = none ∧ ensured.2 ≠ .completed ∨
      ∃ source, ensured.1 = some source ∧ RecipeReads toml original (some source) := by
  intro ensured
  cases recipe with
  | none =>
      rcases @CompositionProfile.save_cases toml
        (original.materializeLegacyWorldDefaults defaultWorldScope attempt.freshId) none
        attempt.recipeSave with ⟨hkept, hending⟩ | ⟨source, hsource, hwritten⟩
      · exact .inl ⟨hkept, hending⟩
      · exact .inr ⟨source, hwritten,
          recipeReads_of_save htoml hdocument hdistinct hfresh hscope hsource⟩
  | some source =>
      have hkept : ensured.1 = some source := by
        simp only [ensured, ProfileFiles.ensureRecipe]
        cases CompositionProfile.load toml attempt.recipeFault (some source) with
        | error error => rfl
        | ok profile =>
            dsimp only
            cases profile.validateScope defaultWorldScope with
            | error error => rfl
            | ok _ => rfl
      exact .inr ⟨source, hkept, hrecipe source rfl⟩

/-- Moving the defaults goes on with the migration. -/
theorem goesOn_moveDefaults
    (hdistinct : (original.activations.map fun item => item.instanceId).Nodup)
    (hfresh : Function.Injective attempt.freshId) (hscope : original.InScope hostScope)
    (hrecipe : ∀ source, recipe = some source → RecipeReads toml original (some source)) :
    GoesOn toml original document
      (ProfileFiles.moveDefaults toml attempt original ⟨document, recipe⟩) := by
  have hcases := ensureRecipe_cases htoml hdocument hdistinct hfresh hscope hrecipe
  rw [ProfileFiles.moveDefaults]
  generalize ProfileFiles.ensureRecipe toml attempt original recipe = ensured at hcases ⊢
  obtain ⟨written, ending⟩ := ensured
  rcases hcases with ⟨hnone, hending⟩ | ⟨source, hsource, hreads⟩
  · obtain rfl : written = none := hnone
    cases ending with
    | completed => exact absurd rfl hending
    | failed error => exact ⟨.untouched, fun h => by cases h⟩
    | cutOff => exact ⟨.untouched, fun h => by cases h⟩
  · obtain rfl : written = some source := hsource
    cases ending with
    | completed => exact goesOn_of_save htoml hdocument hreads attempt.baselineSave
    | failed error => exact ⟨.recipeWritten hreads, fun h => by cases h⟩
    | cutOff => exact ⟨.recipeWritten hreads, fun h => by cases h⟩

/-- An open of files whose baseline is still the original one goes on with the migration. -/
theorem goesOn_of_original
    (hdistinct : (original.activations.map fun item => item.instanceId).Nodup)
    (hfresh : Function.Injective attempt.freshId)
    (hphase : MigrationPhase toml original document ⟨document, recipe⟩)
    (hrecipe : ∀ source, recipe = some source → RecipeReads toml original (some source)) :
    GoesOn toml original document
      (ProfileFiles.migrateLegacyWorldDefaults toml attempt ⟨document, recipe⟩) := by
  rw [ProfileFiles.migrateLegacyWorldDefaults]
  cases hload : CompositionProfile.load toml attempt.baselineFault document with
  | error error => exact ⟨hphase, fun h => by cases h⟩
  | ok baseline =>
      have hbaseline := CompositionProfile.load_of_load hload
      rw [hdocument] at hbaseline
      cases hbaseline
      dsimp only
      cases hscope : original.validateScope hostScope with
      | error error => exact ⟨hphase, fun h => by cases h⟩
      | ok _ =>
          dsimp only
          cases hmarked : original.activations.any fun item => item.worldDefault with
          | true =>
              exact goesOn_moveDefaults htoml hdocument hdistinct hfresh
                (original.validateScope_eq_ok_iff.mp hscope) hrecipe
          | false =>
              refine ⟨hphase, fun _ => ⟨?_, ?_⟩⟩
              · rw [CompositionProfile.cleared_of_unmarked hmarked]
                exact hdocument
              · cases recipe with
                | none =>
                    exact ⟨id, .default, rfl, CompositionProfile.default_isRenamedPart hmarked⟩
                | some source => exact hrecipe source rfl

/-- Every open goes on with the migration. -/
theorem MigrationPhase.step
    (hdistinct : (original.activations.map fun item => item.instanceId).Nodup)
    {files : ProfileFiles} (h : MigrationPhase toml original document files)
    (hfresh : Function.Injective attempt.freshId) :
    GoesOn toml original document (files.migrateLegacyWorldDefaults toml attempt) := by
  cases h with
  | migrated hmigrated =>
      have hstable := hmigrated.stable attempt
      refine ⟨?_, fun _ => ?_⟩
      · rw [hstable]
        exact .migrated hmigrated
      · rw [hstable]
        exact hmigrated
  | untouched =>
      exact goesOn_of_original htoml hdocument hdistinct hfresh .untouched fun _ h => by cases h
  | recipeWritten hrecipe =>
      refine goesOn_of_original htoml hdocument hdistinct hfresh (.recipeWritten hrecipe) ?_
      intro source hsource
      cases hsource
      exact hrecipe

/-- Any number of opens goes on with the migration. -/
theorem MigrationPhase.run
    (hdistinct : (original.activations.map fun item => item.instanceId).Nodup)
    {attempts : List OpenAttempt}
    (hfresh : ∀ attempt ∈ attempts, Function.Injective attempt.freshId)
    {files : ProfileFiles} (h : MigrationPhase toml original document files) :
    MigrationPhase toml original document (files.openAll toml attempts).1 := by
  induction attempts generalizing files with
  | nil => exact h
  | cons attempt rest ih =>
      rw [List.forall_mem_cons] at hfresh
      exact ih hfresh.2 (h.step htoml hdocument hdistinct hfresh.1).phase

end Steps

/-- Any number of opens leaves migrated files. -/
theorem Migrated.stable_run {toml : ProfileToml} {original : CompositionProfile}
    {files : ProfileFiles} (h : Migrated toml original files) (attempts : List OpenAttempt) :
    (files.openAll toml attempts).1 = files := by
  induction attempts with
  | nil => rfl
  | cons attempt rest ih =>
      rw [ProfileFiles.openAll, h.stable attempt]
      exact ih

/-- Whatever opens were cut off or failed before, one that completes leaves the baseline without
its marks and the recipe with exactly what was marked, and no later one changes the files. -/
theorem legacy_migration_completes {toml : ProfileToml} (htoml : toml.RoundTrips)
    {document : Option String} {original : CompositionProfile}
    (hdocument : CompositionProfile.load toml none document = .ok original)
    (hdistinct : (original.activations.map fun item => item.instanceId).Nodup)
    {before : List OpenAttempt} {attempt : OpenAttempt}
    (hfresh : ∀ other ∈ before ++ [attempt], Function.Injective other.freshId)
    (hcompleted : ((ProfileFiles.openAll toml ⟨document, none⟩ before).1.migrateLegacyWorldDefaults
      toml attempt).2 = .completed) :
    let files := ((ProfileFiles.openAll toml ⟨document, none⟩
      before).1.migrateLegacyWorldDefaults toml attempt).1
    Migrated toml original files ∧ ∀ later, (files.openAll toml later).1 = files := by
  intro files
  have hphase : MigrationPhase toml original document
      (ProfileFiles.openAll toml ⟨document, none⟩ before).1 :=
    MigrationPhase.untouched.run htoml hdocument hdistinct
      fun other hother => hfresh other (List.mem_append_left _ hother)
  have hstep := hphase.step htoml hdocument hdistinct (hfresh attempt (by simp))
  have hmigrated : Migrated toml original files := hstep.finished hcompleted
  exact ⟨hmigrated, hmigrated.stable_run⟩

/-! ## A home with notes and a clock -/

def extensionContent : ContentType := ⟨"rintawa.extension", 1, by decide +kernel⟩

/-- An activation of an extension whose artifact has the digest zero. -/
def homeActivation (name : String) (isMarked : Bool) : ActivationRecord where
  subject := "demo." ++ name
  content := extensionContent
  artifact := ⟨0⟩
  instanceId := ⟨name⟩
  scopeId := hostScope
  enabled := true
  worldDefault := isMarked

/-- Notes are given to new worlds, and the clock is not. -/
def homeProfile : CompositionProfile :=
  { CompositionProfile.default with
    activations := [homeActivation "notes" true, homeActivation "clock" false]
    preferences := [⟨hostScope, ⟨"notes"⟩, ⟨"main"⟩, "theme", "dark"⟩] }

/-- Generated identifiers. -/
def homeId (index : Nat) : ExtensionInstanceId :=
  ⟨"01970000-0000-7000-8000-" ++ toString index⟩

theorem homeId_injective : Function.Injective homeId := by
  intro first second hsame
  exact append_toString_injective "01970000-0000-7000-8000-" (congrArg StringId.asStr hsame)

/-- The recipe for new worlds of the home. -/
def homeRecipe : CompositionProfile :=
  { CompositionProfile.default with
    activations := [{ homeActivation "notes" false with
      instanceId := homeId 0, scopeId := defaultWorldScope }]
    preferences := [⟨defaultWorldScope, homeId 0, ⟨"main"⟩, "theme", "dark"⟩] }

/-- The lines of an activation. -/
def activationLines (subject instanceId scopeId : String) (isMarked : Bool) : String :=
  "\n[[activations]]\nsubject = \"" ++ subject ++ "\"\ncontent = \"rintawa.extension@1\"\n" ++
    "artifact = \"" ++ (⟨0⟩ : ArtifactDigest).toString ++ "\"\ninstance-id = \"" ++ instanceId ++
    "\"\nscope-id = \"" ++ scopeId ++ "\"\nenabled = true\nworld-default = " ++
    toString isMarked ++ "\n"

/-- The lines of the preference. -/
def preferenceLines (instanceId scopeId : String) : String :=
  "\n[[preferences]]\nscope-id = \"" ++ scopeId ++ "\"\ninstance-id = \"" ++ instanceId ++
    "\"\ncomponent-id = \"main\"\nkey = \"theme\"\nvalue = \"dark\"\n"

/-- The document of a version before the migration. -/
def legacyDocument : String :=
  "schema = 5\n" ++ activationLines "demo.notes" "notes" "host" true ++
    activationLines "demo.clock" "clock" "host" false ++ preferenceLines "notes" "host"

def clearedDocument : String :=
  "schema = 6\n" ++ activationLines "demo.notes" "notes" "host" false ++
    activationLines "demo.clock" "clock" "host" false ++ preferenceLines "notes" "host"

def recipeDocument : String :=
  "schema = 6\n" ++ activationLines "demo.notes" (homeId 0).asStr "default-world" false ++
    preferenceLines (homeId 0).asStr "default-world"

/-- A library that knows the documents of the home. -/
def homeToml : ProfileToml where
  toStringPretty profile :=
    if profile = homeProfile.clearLegacyWorldDefaults then .ok clearedDocument
    else if profile = homeRecipe then .ok recipeDocument
    else .error ⟨"unknown profile"⟩
  fromStr source :=
    if source = clearedDocument then .ok homeProfile.clearLegacyWorldDefaults
    else if source = recipeDocument then .ok homeRecipe
    else if source = legacyDocument then .ok { homeProfile with schema := 5 }
    else .error ⟨"unknown document"⟩

theorem homeToml_roundTrips : homeToml.RoundTrips := by
  intro profile source hsource
  simp only [homeToml] at hsource ⊢
  split at hsource
  · next hcleared =>
      cases hsource
      rw [if_pos rfl, hcleared]
  · split at hsource
    · next hrecipe =>
        cases hsource
        rw [if_neg (by decide +kernel), if_pos rfl, hrecipe]
    · cases hsource

/-- An open whose save of the recipe goes in some way. -/
def homeAttempt (ending : SaveEnding) : OpenAttempt :=
  ⟨none, none, homeId, ⟨none, ending⟩, ⟨none, .completed⟩⟩

/-- An open is cut off between both saves and the next one completes the migration. -/
theorem legacy_migration_completes_home :
    let files := ((ProfileFiles.openAll homeToml ⟨some legacyDocument, none⟩
      [homeAttempt .cutAfter]).1.migrateLegacyWorldDefaults homeToml
        (homeAttempt .completed)).1
    Migrated homeToml homeProfile files ∧
      ∀ later, (files.openAll homeToml later).1 = files := by
  have hfresh : ∀ other ∈ [homeAttempt .cutAfter] ++ [homeAttempt .completed],
      Function.Injective other.freshId := by
    intro other hother
    rw [List.mem_append, List.mem_singleton, List.mem_singleton] at hother
    rcases hother with rfl | rfl
    · exact homeId_injective
    · exact homeId_injective
  have hdocument : CompositionProfile.load homeToml none (some legacyDocument) =
      .ok homeProfile := by
    decide +kernel
  have hdistinct : (homeProfile.activations.map fun item => item.instanceId).Nodup := by
    decide +kernel
  have hcompleted : ((ProfileFiles.openAll homeToml ⟨some legacyDocument, none⟩
      [homeAttempt .cutAfter]).1.migrateLegacyWorldDefaults homeToml
        (homeAttempt .completed)).2 = .completed := by
    decide +kernel
  exact legacy_migration_completes homeToml_roundTrips hdocument hdistinct hfresh hcompleted

end Rintawa.Host
