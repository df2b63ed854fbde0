/-
# Compositions of a home

A home keeps one profile for the baseline, one as the recipe for new worlds, and one for each
world. An operation reads the profile of a scope, edits it and replaces its document. Reading
and saving can fail, and the host can be cut off while it saves. A new world gets the recipe
under new instances.
-/

import Rintawa.Host.CompositionEdits

namespace Rintawa.Host

open Rintawa.Lib Rintawa.Sdk
open Rintawa.Artifacts (ArtifactDigest ContentType IoError RtwArchive RtwError)
open Rintawa.ExtensionEngine (EngineResult RtwExtensionLoader.readManifest
  RtwExtensionLoader.displayContent)

/-! ## Scopes -/

/-- The type of contents that the host knows. -/
def extensionContentV1 : String := "rintawa.extension@1"

def worldScopePrefix : String := "world:"

/-- The scope of a world. -/
def worldRuntimeScopeId (worldId : WorldId) : RuntimeScopeId :=
  ⟨worldScopePrefix ++ uuidText worldId.intoBytes⟩

/-- The scopes whose compositions are kept. -/
inductive PersistedCompositionScope
  | baseline
  | defaultWorld
  | world (worldId : WorldId)
  deriving DecidableEq

def PersistedCompositionScope.scopeId : PersistedCompositionScope → RuntimeScopeId
  | .baseline => hostScope
  | .defaultWorld => defaultWorldScope
  | .world worldId => worldRuntimeScopeId worldId

/-- What a home relies on: the library for its documents, the one for the identifiers of worlds,
and its artifacts with the reader of their manifests. What a digest names never changes, and an
artifact that is not in the store yet is met as a fault. -/
structure HomeDependencies where
  toml : ProfileToml
  parseWorldId : String → Option WorldId
  openArtifact : ArtifactDigest → Except RtwError RtwArchive
  parseManifest : String → EngineResult ExtensionManifest

namespace HomeDependencies

variable (deps : HomeDependencies)

/-- Read the manifest of an artifact in the store. -/
def readStoredManifest : ManifestReader := fun digest =>
  match deps.openArtifact digest with
  | .error error => .error (.artifact error)
  | .ok archive =>
      (RtwExtensionLoader.readManifest deps.parseManifest archive).mapError .manifest

/-- The kept scope with an identifier. -/
def persistedCompositionScope (scopeId : RuntimeScopeId) :
    HomeResult PersistedCompositionScope :=
  if scopeId = hostScope then .ok .baseline
  else if scopeId = defaultWorldScope then .ok .defaultWorld
  else
    match scopeId.asStr.toList.dropPrefix? worldScopePrefix.toList with
    | none => .error (.unsupportedCompositionScope scopeId.asStr)
    | some raw =>
        match deps.parseWorldId (String.ofList raw) with
        | none => .error (.unsupportedCompositionScope scopeId.asStr)
        | some worldId =>
            if worldRuntimeScopeId worldId = scopeId then .ok (.world worldId)
            else .error (.unsupportedCompositionScope scopeId.asStr)

end HomeDependencies

/-! ## Homes -/

/-- The documents of a home: of the baseline, of the recipe, and of the worlds that have a
directory. -/
structure CompositionHome where
  baseline : Option String
  recipe : Option String
  worlds : Dict WorldId (Option String)

/-- How an operation ends. -/
inductive HomeEnding (α : Type)
  | completed (value : α)
  | failed (error : HomeError)
  | cutOff

def HomeEnding.map {α β : Type} (f : α → β) : HomeEnding α → HomeEnding β
  | .completed value => .completed (f value)
  | .failed error => .failed error
  | .cutOff => .cutOff

/-- What an operation leaves and how it ends. -/
abbrev HomeOutcome (α : Type) := CompositionHome × HomeEnding α

/-- What one edit meets: faults of reading the profile, of opening the storage of a world before
and after that, and how the save goes. -/
structure EditAttempt where
  readFault : Option IoError
  storageFault : Option HomeError
  pathFault : Option HomeError
  save : SaveAttempt

/-- What selecting an artifact meets: faults of opening it twice, the edit, the instance that is
generated, and a fault of reading the recipe afterwards. -/
structure SelectAttempt where
  artifactFault : Option HomeError
  manifestFault : Option HomeError
  edit : EditAttempt
  freshId : ExtensionInstanceId
  recipeFault : Option IoError

/-- What changing a default for worlds meets. -/
structure DefaultAttempt where
  baselineFault : Option IoError
  recipeFault : Option IoError
  removal : EditAttempt
  selection : SelectAttempt
  copy : EditAttempt

/-- What creating a world meets: the identifiers that are generated, and how its directory, its
database with its metadata, its composition and the removal of them go. -/
structure CreateAttempt where
  recipeFault : Option IoError
  worldIds : Nat → WorldId
  directoryFault : Option IoError
  contents : HomeEnding Unit
  freshId : Nat → ExtensionInstanceId
  edit : EditAttempt
  cleanupFault : Option IoError

/-- An activation that was selected. -/
structure InstalledActivation where
  subject : String
  content : ContentType
  digest : ArtifactDigest
  instanceId : ExtensionInstanceId
  scopeId : RuntimeScopeId
  enabled : Bool
  worldDefault : Bool

/-- What fails or else goes on. -/
def orFault {α : Type} (fault : Option HomeError) (result : HomeResult α) : HomeResult α :=
  match fault with
  | some error => .error error
  | none => result

namespace CompositionHome

def new : CompositionHome :=
  ⟨none, none, ∅⟩

variable (deps : HomeDependencies) (home : CompositionHome)

/-- The document of a scope. That of a world is only reached when its storage opens. -/
def document (storageFault : Option HomeError) :
    PersistedCompositionScope → HomeResult (Option String)
  | .baseline => .ok home.baseline
  | .defaultWorld => .ok home.recipe
  | .world worldId =>
      match home.worlds.lookup worldId with
      | none => .error (.worldNotFound worldId)
      | some document => orFault storageFault (.ok document)

/-- Replace the document of a scope. -/
def withDocument (document : Option String) : PersistedCompositionScope → CompositionHome
  | .baseline => { home with baseline := document }
  | .defaultWorld => { home with recipe := document }
  | .world worldId => { home with worlds := home.worlds.insert worldId document }

/-- Read the profile of a scope. -/
def load (scope : PersistedCompositionScope) (readFault : Option IoError)
    (storageFault : Option HomeError) : HomeResult CompositionProfile :=
  match home.document storageFault scope with
  | .error error => .error error
  | .ok document =>
      match CompositionProfile.load deps.toml readFault document with
      | .error error => .error (.profile error)
      | .ok profile =>
          match profile.validateScope scope.scopeId with
          | .error error => .error (.profile error)
          | .ok () => .ok profile

/-- Save the profile of a scope. -/
def save (scope : PersistedCompositionScope) (profile : CompositionProfile)
    (attempt : EditAttempt) : HomeOutcome Unit :=
  match profile.validateScope scope.scopeId with
  | .error error => (home, .failed (.profile error))
  | .ok () =>
      match home.document attempt.pathFault scope with
      | .error error => (home, .failed error)
      | .ok document =>
          let saved := CompositionProfile.save deps.toml profile attempt.save document
          (home.withDocument saved.1 scope,
            match saved.2 with
            | .completed => .completed ()
            | .failed error => .failed (.profile error)
            | .cutOff => .cutOff)

/-- Read a profile, edit it and save it. -/
def edit (scopeId : RuntimeScopeId) (attempt : EditAttempt)
    (change : CompositionProfile → HomeResult CompositionProfile) : HomeOutcome Unit :=
  match deps.persistedCompositionScope scopeId with
  | .error error => (home, .failed error)
  | .ok scope =>
      match home.load deps scope attempt.readFault attempt.storageFault with
      | .error error => (home, .failed error)
      | .ok profile =>
          match change profile with
          | .error error => (home, .failed error)
          | .ok edited => home.save deps scope edited attempt

/-! ## Selecting artifacts -/

/-- Whether the recipe has an artifact enabled for a subject. -/
def isExactDefaultWorldActivation (subject : String) (digest : ArtifactDigest)
    (readFault : Option IoError) : HomeResult Bool :=
  (home.load deps .defaultWorld readFault none).map fun recipe =>
    recipe.activations.any fun activation =>
      activation.subject == subject && activation.artifact == digest && activation.enabled

/-- The instance of a subject: in the baseline it is named by the subject, elsewhere it stays or
is generated. -/
def selectedInstance (profile : CompositionProfile) (subject : String)
    (freshId : ExtensionInstanceId) : PersistedCompositionScope → ExtensionInstanceId
  | .baseline => ⟨subject⟩
  | scope@.defaultWorld | scope@(.world _) =>
      ((profile.activations.find? fun activation =>
        activation.subject == subject && activation.scopeId == scope.scopeId).map
          fun activation => activation.instanceId).getD freshId

/-- The profile of a scope with an artifact selected, and whether that is enabled. -/
def withArtifact (profile : CompositionProfile) (manifest : ExtensionManifest)
    (content : ContentType) (scope : PersistedCompositionScope) (scopeId : RuntimeScopeId)
    (digest : ArtifactDigest) (enabled : Option Bool) (freshId : ExtensionInstanceId) :
    CompositionProfile × Bool :=
  let subject := manifest.id.asStr
  let instanceId := selectedInstance profile subject freshId scope
  let upserted := profile.upsert
    ⟨subject, content, digest, instanceId, scopeId, true, false⟩ enabled
  (upserted.1.retainRequested scopeId instanceId manifest, upserted.2)

/-- Select an artifact of the store in a scope. In the baseline it is reported whether new worlds
get it too. -/
def selectStoredRtwInScope (scopeId : RuntimeScopeId) (digest : ArtifactDigest)
    (enabled : Option Bool) (attempt : SelectAttempt) : HomeOutcome InstalledActivation :=
  match orFault attempt.artifactFault ((deps.openArtifact digest).mapError .artifact) with
  | .error error => (home, .failed error)
  | .ok archive =>
      let content := archive.manifest.content
      if RtwExtensionLoader.displayContent content ≠ extensionContentV1 then
        (home, .failed (.unsupportedContent (RtwExtensionLoader.displayContent content)))
      else
        match orFault attempt.manifestFault (deps.readStoredManifest digest) with
        | .error error => (home, .failed error)
        | .ok manifest =>
            match deps.persistedCompositionScope scopeId with
            | .error error => (home, .failed error)
            | .ok scope =>
                match home.load deps scope attempt.edit.readFault attempt.edit.storageFault with
                | .error error => (home, .failed error)
                | .ok profile =>
                    let subject := manifest.id.asStr
                    let instanceId := selectedInstance profile subject attempt.freshId scope
                    let edited := withArtifact profile manifest content scope scopeId digest
                      enabled attempt.freshId
                    let installed : Bool → InstalledActivation := fun worldDefault =>
                      ⟨subject, content, digest, instanceId, scopeId, edited.2, worldDefault⟩
                    match home.save deps scope edited.1 attempt.edit with
                    | (home, .failed error) => (home, .failed error)
                    | (home, .cutOff) => (home, .cutOff)
                    | (home, .completed ()) =>
                        if scope = .baseline then
                          match home.isExactDefaultWorldActivation deps subject digest
                              attempt.recipeFault with
                          | .error error => (home, .failed error)
                          | .ok worldDefault => (home, .completed (installed worldDefault))
                        else (home, .completed (installed false))

/-! ## Defaults for worlds -/

/-- Take the permissions, preferences and providers of an activation of the baseline over to its
instance in the recipe. -/
def copyPolicy (baseline : CompositionProfile) (activation : ActivationRecord)
    (instanceId : ExtensionInstanceId) (recipe : CompositionProfile) :
    HomeResult CompositionProfile := do
  let granted := (baseline.runtimePermissions.filter fun grant =>
    grant.instanceId == activation.instanceId).foldl (fun recipe grant =>
      recipe.grantRuntimePermission
        ⟨defaultWorldScope, instanceId, grant.componentId, grant.permission⟩) recipe
  let preferred ← (baseline.preferences.filter fun preference =>
    preference.instanceId == activation.instanceId).foldlM (fun recipe preference =>
      match recipe.setPreference defaultWorldScope ⟨instanceId, preference.componentId⟩
        preference.key preference.value with
      | (recipe, .ok ()) => .ok recipe
      | (_, .error error) => .error (.profile error)) granted
  .ok ((baseline.preferredProviders.filter fun selection =>
    selection.providerInstanceId == activation.instanceId).foldl (fun recipe selection =>
      recipe.setPreferredProvider ⟨defaultWorldScope, selection.contractId,
        selection.contractVersion, instanceId, selection.providerComponentId⟩) preferred)

/-- Add the artifact of an activation of the baseline to the recipe, or remove it from there. -/
def setWorldDefault (subject : String) (worldDefault : Bool) (attempt : DefaultAttempt) :
    HomeOutcome Unit :=
  match home.load deps .baseline attempt.baselineFault none with
  | .error error => (home, .failed error)
  | .ok baseline =>
      match baseline.activations.find? fun activation => activation.subject == subject with
      | none => (home, .failed (.activationNotFound subject))
      | some activation =>
          match home.load deps .defaultWorld attempt.recipeFault none with
          | .error error => (home, .failed error)
          | .ok recipe =>
              let hasRecipeActivation :=
                recipe.activations.any fun candidate => candidate.subject == subject
              if worldDefault then
                match home.selectStoredRtwInScope deps defaultWorldScope activation.artifact
                    (some true) attempt.selection with
                | (home, .failed error) => (home, .failed error)
                | (home, .cutOff) => (home, .cutOff)
                | (home, .completed selected) =>
                    if hasRecipeActivation then (home, .completed ())
                    else
                      match home.load deps .defaultWorld attempt.copy.readFault none with
                      | .error error => (home, .failed error)
                      | .ok recipe =>
                          match copyPolicy baseline activation selected.instanceId recipe with
                          | .error error => (home, .failed error)
                          | .ok copied => home.save deps .defaultWorld copied attempt.copy
              else if hasRecipeActivation then
                home.edit deps defaultWorldScope attempt.removal fun recipe =>
                  recipe.removeActivation subject
              else (home, .completed ())

/-! ## Permissions and providers -/

/-- Grant a permission that the artifact of an activation requests. -/
def grantRequested (scopeId : RuntimeScopeId) (owner : ComponentRef)
    (permission : RuntimePermission) (manifestFault : Option HomeError)
    (profile : CompositionProfile) : HomeResult CompositionProfile :=
  match profile.activations.find? fun activation =>
      activation.instanceId == owner.instanceId with
  | none => .error (.runtimePermissionActivationNotFound owner.instanceId.asStr)
  | some activation =>
      if activation.scopeId ≠ scopeId then
        .error (.runtimePermissionScopeMismatch owner.instanceId.asStr scopeId.asStr
          activation.scopeId.asStr)
      else if RtwExtensionLoader.displayContent activation.content ≠ extensionContentV1 then
        .error (.unsupportedContent (RtwExtensionLoader.displayContent activation.content))
      else
        match orFault manifestFault (deps.readStoredManifest activation.artifact) with
        | .error error => .error error
        | .ok manifest =>
            match manifest.components.find? fun component =>
                component.id == owner.componentId with
            | none =>
                .error (.runtimePermissionComponentNotFound owner.instanceId.asStr
                  owner.componentId.asStr)
            | some component =>
                if permission ∈ component.permissions.runtime then
                  .ok (profile.grantRuntimePermission
                    ⟨scopeId, owner.instanceId, owner.componentId, permission⟩)
                else
                  .error (.runtimePermissionNotRequested owner.instanceId.asStr
                    owner.componentId.asStr permission.display)

/-- Choose a provider that is activated. -/
def chooseProvider (scopeId : RuntimeScopeId) (contract : ContractKey) (provider : ComponentRef)
    (profile : CompositionProfile) : HomeResult CompositionProfile :=
  match profile.activations.find? fun activation =>
      activation.instanceId == provider.instanceId with
  | none => .error (.preferredProviderActivationNotFound provider.instanceId.asStr)
  | some activation =>
      if activation.scopeId ≠ scopeId then
        .error (.preferredProviderScopeMismatch provider.instanceId.asStr scopeId.asStr
          activation.scopeId.asStr)
      else
        .ok (profile.setPreferredProvider ⟨scopeId, contract.id, contract.version,
          provider.instanceId, provider.componentId⟩)

/-- Set a preference of any component. -/
def putPreference (scopeId : RuntimeScopeId) (owner : ComponentRef) (key value : String)
    (profile : CompositionProfile) : HomeResult CompositionProfile :=
  match profile.setPreference scopeId owner key value with
  | (_, .error error) => .error (.profile error)
  | (edited, .ok ()) => .ok edited

/-! ## New worlds -/

/-- Create a world from the recipe. What was made of it is removed when that fails. -/
def createWorld (attempt : CreateAttempt) : HomeOutcome WorldId :=
  match home.load deps .defaultWorld attempt.recipeFault none with
  | .error error => (home, .failed error)
  | .ok recipe =>
      match ((List.range worldIdCreationAttempts).map attempt.worldIds).find? fun worldId =>
          (home.worlds.lookup worldId).isNone with
      | none => (home, .failed .worldIdCollision)
      | some worldId =>
          match attempt.directoryFault with
          | some error => (home, .failed (.io error))
          | none =>
              let made := home.withDocument none (.world worldId)
              let created : HomeOutcome Unit :=
                match attempt.contents with
                | .completed () =>
                    made.save deps (.world worldId)
                      (recipe.materializeAll (worldRuntimeScopeId worldId) attempt.freshId)
                      attempt.edit
                | .failed error => (made, .failed error)
                | .cutOff => (made, .cutOff)
              match created with
              | (created, .completed ()) => (created, .completed worldId)
              | (created, .cutOff) => (created, .cutOff)
              | (created, .failed error) =>
                  match attempt.cleanupFault with
                  | some cleanup =>
                      (created, .failed (.worldCreateRollbackFailed error cleanup))
                  | none => ({ created with worlds := created.worlds.erase worldId },
                      .failed error)

end CompositionHome

/-! ## Operations -/

/-- The operations on compositions, with what they meet. -/
inductive CompositionOp
  | selectStoredRtw (scopeId : RuntimeScopeId) (digest : ArtifactDigest) (enabled : Option Bool)
      (attempt : SelectAttempt)
  | setEnabled (scopeId : RuntimeScopeId) (subject : String) (enabled : Bool)
      (attempt : EditAttempt)
  | removeActivation (scopeId : RuntimeScopeId) (subject : String) (attempt : EditAttempt)
  | setWorldDefault (subject : String) (worldDefault : Bool) (attempt : DefaultAttempt)
  | grantRuntimePermission (scopeId : RuntimeScopeId) (owner : ComponentRef)
      (permission : RuntimePermission) (manifestFault : Option HomeError) (attempt : EditAttempt)
  | revokeRuntimePermission (scopeId : RuntimeScopeId) (owner : ComponentRef)
      (permission : RuntimePermission) (attempt : EditAttempt)
  | setPreferredProvider (scopeId : RuntimeScopeId) (contract : ContractKey)
      (provider : ComponentRef) (attempt : EditAttempt)
  | clearPreferredProvider (scopeId : RuntimeScopeId) (contract : ContractKey)
      (attempt : EditAttempt)
  | setPreference (scopeId : RuntimeScopeId) (owner : ComponentRef) (key value : String)
      (attempt : EditAttempt)
  | deletePreference (scopeId : RuntimeScopeId) (owner : ComponentRef) (key : String)
      (attempt : EditAttempt)
  | createWorld (attempt : CreateAttempt)

/-- Carry out an operation. -/
def CompositionHome.perform (deps : HomeDependencies) (home : CompositionHome) :
    CompositionOp → HomeOutcome Unit
  | .selectStoredRtw scopeId digest enabled attempt =>
      let selected := home.selectStoredRtwInScope deps scopeId digest enabled attempt
      (selected.1, selected.2.map fun _ => ())
  | .setEnabled scopeId subject enabled attempt =>
      home.edit deps scopeId attempt fun profile => profile.setEnabled subject enabled
  | .removeActivation scopeId subject attempt =>
      home.edit deps scopeId attempt fun profile => profile.removeActivation subject
  | .setWorldDefault subject worldDefault attempt =>
      home.setWorldDefault deps subject worldDefault attempt
  | .grantRuntimePermission scopeId owner permission manifestFault attempt =>
      home.edit deps scopeId attempt (grantRequested deps scopeId owner permission manifestFault)
  | .revokeRuntimePermission scopeId owner permission attempt =>
      home.edit deps scopeId attempt fun profile =>
        .ok (profile.revokeRuntimePermission scopeId owner permission)
  | .setPreferredProvider scopeId contract provider attempt =>
      home.edit deps scopeId attempt (chooseProvider scopeId contract provider)
  | .clearPreferredProvider scopeId contract attempt =>
      home.edit deps scopeId attempt fun profile =>
        .ok (profile.clearPreferredProvider scopeId contract)
  | .setPreference scopeId owner key value attempt =>
      home.edit deps scopeId attempt (putPreference scopeId owner key value)
  | .deletePreference scopeId owner key attempt =>
      home.edit deps scopeId attempt fun profile =>
        (profile.deletePreference scopeId owner key).mapError .profile
  | .createWorld attempt =>
      let created := home.createWorld deps attempt
      (created.1, created.2.map fun _ => ())

end Rintawa.Host
