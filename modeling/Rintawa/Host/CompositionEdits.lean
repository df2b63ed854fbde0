/-
# Edits of compositions

The operations of a home edit the four lists of a profile: its activations, and the providers,
permissions and preferences that refer to their instances. Every edit keeps the references
whole. An activation that gets another artifact keeps the permissions that this one requests,
and an activation that is removed takes all that refers to it along.
-/

import Mathlib.Data.List.Find
import Rintawa.ExtensionEngine.ManifestReading
import Rintawa.Host.LegacyMigration
import Rintawa.Host.PreferenceQuota
import Rintawa.Host.WorldCatalog

namespace Rintawa.Host

open Rintawa.Lib Rintawa.Sdk
open Rintawa.Artifacts (ArtifactDigest ContentType IoError RtwArchive RtwError)
open Rintawa.ExtensionEngine (EngineResult ManifestReadError)

/-! ## Errors -/

/-- The errors of the host that concern compositions. -/
inductive HomeError
  | profile (error : ProfileError)
  | artifact (error : RtwError)
  | manifest (error : ManifestReadError)
  | unsupportedContent (content : String)
  | unsupportedCompositionScope (scope : String)
  | activationNotFound (subject : String)
  | runtimePermissionActivationNotFound (instanceId : String)
  | runtimePermissionScopeMismatch (instanceId selectedScope actualScope : String)
  | runtimePermissionComponentNotFound (instanceId componentId : String)
  | runtimePermissionNotRequested (instanceId componentId permission : String)
  | preferredProviderActivationNotFound (instanceId : String)
  | preferredProviderScopeMismatch (instanceId selectedScope actualScope : String)
  | io (error : IoError)
  | world (error : WorldCatalogError)
  | worldNotFound (worldId : WorldId)
  | worldCreateRollbackFailed (creation : HomeError) (cleanup : IoError)
  | worldIdCollision

abbrev HomeResult (α : Type) := Except HomeError α

/-! ## Lists -/

section Lists

variable {α β : Type} {isMeant : α → Bool} {change : α → α} {items : List α}

/-- Change the first entry that is meant. -/
def modifyFirst (isMeant : α → Bool) (change : α → α) : List α → List α
  | [] => []
  | item :: rest =>
      if isMeant item then change item :: rest else item :: modifyFirst isMeant change rest

variable {item : α}

theorem mem_of_mem_modifyFirst (h : item ∈ modifyFirst isMeant change items) :
    item ∈ items ∨ ∃ before ∈ items, isMeant before = true ∧ item = change before := by
  induction items with
  | nil => cases h
  | cons first rest ih =>
      rw [modifyFirst] at h
      split at h
      · next hmeant =>
          cases List.mem_cons.mp h with
          | inl hchanged => exact .inr ⟨first, List.mem_cons_self, hmeant, hchanged⟩
          | inr hrest => exact .inl (List.mem_cons_of_mem _ hrest)
      · cases List.mem_cons.mp h with
        | inl hfirst => exact .inl (hfirst ▸ List.mem_cons_self)
        | inr hrest =>
            cases ih hrest with
            | inl hkept => exact .inl (List.mem_cons_of_mem _ hkept)
            | inr hchanged =>
                obtain ⟨before, hbefore, hmeant, hitem⟩ := hchanged
                exact .inr ⟨before, List.mem_cons_of_mem _ hbefore, hmeant, hitem⟩

/-- Where entries are not meant, or keep a name, the names stay as they are. -/
theorem map_modifyFirst {name : α → β}
    (h : ∀ item ∈ items, isMeant item = true → name (change item) = name item) :
    (modifyFirst isMeant change items).map name = items.map name := by
  induction items with
  | nil => rfl
  | cons first rest ih =>
      obtain ⟨hfirst, hrest⟩ := List.forall_mem_cons.mp h
      rw [modifyFirst]
      split
      · next hmeant => rw [List.map_cons, List.map_cons, hfirst hmeant]
      · rw [List.map_cons, List.map_cons, ih hrest]

/-- Every entry stays or is changed. -/
theorem mem_or_change_mem (hitem : item ∈ items) :
    item ∈ modifyFirst isMeant change items ∨
      isMeant item = true ∧ change item ∈ modifyFirst isMeant change items := by
  induction items with
  | nil => cases hitem
  | cons first rest ih =>
      rw [modifyFirst]
      split
      · next hmeant =>
          cases List.mem_cons.mp hitem with
          | inl hfirst => exact .inr ⟨hfirst ▸ hmeant, hfirst ▸ List.mem_cons_self⟩
          | inr hrest => exact .inl (List.mem_cons_of_mem _ hrest)
      · cases List.mem_cons.mp hitem with
        | inl hfirst => exact .inl (hfirst ▸ List.mem_cons_self)
        | inr hrest =>
            exact (ih hrest).imp (List.mem_cons_of_mem _)
              fun hchanged => ⟨hchanged.1, List.mem_cons_of_mem _ hchanged.2⟩

/-- The first entry that is meant is changed. -/
theorem change_mem_modifyFirst (h : items.find? isMeant = some item) :
    change item ∈ modifyFirst isMeant change items := by
  induction items with
  | nil => cases h
  | cons first rest ih =>
      rw [List.find?_cons] at h
      rw [modifyFirst]
      split at h
      · next hmeant =>
          cases h
          rw [if_pos hmeant]
          exact List.mem_cons_self
      · next hnot =>
          rw [if_neg (by simp [hnot])]
          exact List.mem_cons_of_mem _ (ih h)

end Lists

/-! ## Edits -/

/-- Whether a component of a manifest requests a permission. -/
def requestsPermission (manifest : ExtensionManifest) (componentId : ComponentId)
    (permission : RuntimePermission) : Bool :=
  manifest.components.any fun component =>
    component.id == componentId && component.permissions.runtime.contains permission

/-- The manifests of artifacts, by their digests. -/
abbrev ManifestReader := ArtifactDigest → HomeResult ExtensionManifest

/-- An artifact has a component that requests a permission. -/
def ManifestReader.Requests (manifestOf : ManifestReader) (artifact : ArtifactDigest)
    (componentId : ComponentId) (permission : RuntimePermission) : Prop :=
  ∃ manifest, manifestOf artifact = .ok manifest ∧
    ∃ component ∈ manifest.components, component.id = componentId ∧
      permission ∈ component.permissions.runtime

namespace CompositionProfile

variable (profile : CompositionProfile)

/-- Select an artifact for a subject. An activation that is there keeps its mark, and whether it
is enabled unless that is overridden. -/
def upsert (activation : ActivationRecord) (overrideEnabled : Option Bool) :
    CompositionProfile × Bool :=
  let isMeant := fun existing : ActivationRecord =>
    existing.subject == activation.subject && existing.scopeId == activation.scopeId
  match profile.activations.find? isMeant with
  | some existing =>
      let enabled := overrideEnabled.getD existing.enabled
      ({ profile with
          activations := modifyFirst isMeant (fun existing =>
            { activation with enabled := enabled, worldDefault := existing.worldDefault })
            profile.activations },
        enabled)
  | none =>
      let enabled := overrideEnabled.getD activation.enabled
      ({ profile with
          activations := profile.activations ++ [{ activation with enabled := enabled }] },
        enabled)

/-- Drop the permissions of an instance that its manifest does not request. -/
def retainRequested (scopeId : RuntimeScopeId) (instanceId : ExtensionInstanceId)
    (manifest : ExtensionManifest) : CompositionProfile :=
  { profile with
    runtimePermissions := profile.runtimePermissions.filter fun grant =>
      if grant.scopeId != scopeId || grant.instanceId != instanceId then true
      else requestsPermission manifest grant.componentId grant.permission }

def setEnabled (subject : String) (enabled : Bool) : HomeResult CompositionProfile :=
  match profile.activations.find? fun activation => activation.subject == subject with
  | none => .error (.activationNotFound subject)
  | some _ =>
      .ok { profile with
        activations := modifyFirst (fun activation => activation.subject == subject)
          (fun activation => { activation with enabled := enabled }) profile.activations }

/-- Remove an activation and what refers to its instance. -/
def removeActivation (subject : String) : HomeResult CompositionProfile :=
  match profile.activations.find? fun activation => activation.subject == subject with
  | none => .error (.activationNotFound subject)
  | some removed =>
      .ok { profile with
        activations := profile.activations.eraseP fun activation => activation.subject == subject
        runtimePermissions := profile.runtimePermissions.filter fun grant =>
          grant.scopeId != removed.scopeId || grant.instanceId != removed.instanceId
        preferredProviders := profile.preferredProviders.filter fun selection =>
          selection.scopeId != removed.scopeId ||
            selection.providerInstanceId != removed.instanceId
        preferences := profile.preferences.filter fun preference =>
          preference.scopeId != removed.scopeId || preference.instanceId != removed.instanceId }

def grantRuntimePermission (grant : RuntimePermissionGrant) : CompositionProfile :=
  if grant ∈ profile.runtimePermissions then profile
  else { profile with runtimePermissions := profile.runtimePermissions ++ [grant] }

def revokeRuntimePermission (scopeId : RuntimeScopeId) (owner : ComponentRef)
    (permission : RuntimePermission) : CompositionProfile :=
  { profile with
    runtimePermissions := profile.runtimePermissions.filter fun grant =>
      grant.scopeId != scopeId || grant.instanceId != owner.instanceId ||
        grant.componentId != owner.componentId || grant.permission != permission }

def setPreferredProvider (selection : PreferredProviderSelection) : CompositionProfile :=
  let isMeant := fun existing : PreferredProviderSelection =>
    existing.scopeId == selection.scopeId && existing.contract == selection.contract
  { profile with
    preferredProviders :=
      if (profile.preferredProviders.find? isMeant).isSome then
        modifyFirst isMeant (fun _ => selection) profile.preferredProviders
      else profile.preferredProviders ++ [selection] }

def clearPreferredProvider (scopeId : RuntimeScopeId) (contract : ContractKey) :
    CompositionProfile :=
  { profile with
    preferredProviders := profile.preferredProviders.filter fun selection =>
      selection.scopeId != scopeId || selection.contract != contract }

def deletePreference (scopeId : RuntimeScopeId) (owner : ComponentRef) (key : String) :
    ProfileResult CompositionProfile :=
  match validatePreferenceValue key "" with
  | .error error => .error error
  | .ok () =>
      .ok { profile with
        preferences := profile.preferences.filter fun item =>
          !(item.ownerMatches scopeId owner && item.key == key) }

def materializeAll (scopeId : RuntimeScopeId) (freshId : Nat → ExtensionInstanceId) :
    CompositionProfile :=
  profile.materializeMatching scopeId freshId fun _ => true

/-! ## Whole references -/

/-- The instances of the activations. -/
def instances : List ExtensionInstanceId :=
  profile.activations.map fun activation => activation.instanceId

/-- A profile that is read back as it is, with one activation for every subject and every
instance, all of it in one scope. Permissions are requested by the artifacts of the activations
that they are granted to, and providers are activated. In the baseline instances are named by
their subjects. -/
structure Sound (manifestOf : ManifestReader) (scopeId : RuntimeScopeId)
    (profile : CompositionProfile) : Prop where
  schema : profile.schema = profileSchema
  valid : profile.Valid
  inScope : profile.InScope scopeId
  subjects : (profile.activations.map fun activation => activation.subject).Nodup
  instances : profile.instances.Nodup
  grants : ∀ grant ∈ profile.runtimePermissions, ∃ activation ∈ profile.activations,
    activation.instanceId = grant.instanceId ∧
      manifestOf.Requests activation.artifact grant.componentId grant.permission
  providers : ∀ selection ∈ profile.preferredProviders,
    selection.providerInstanceId ∈ profile.instances
  named : scopeId = hostScope → ∀ activation ∈ profile.activations,
    activation.instanceId = ⟨activation.subject⟩

/-! ## Parts -/

/-- A profile with some of the entries of another one. -/
structure PartOf (part profile : CompositionProfile) : Prop where
  schema : part.schema = profile.schema
  activations : part.activations.Sublist profile.activations
  preferredProviders : part.preferredProviders.Sublist profile.preferredProviders
  runtimePermissions : part.runtimePermissions.Sublist profile.runtimePermissions
  preferences : part.preferences.Sublist profile.preferences

variable {manifestOf : ManifestReader} {scopeId : RuntimeScopeId}
variable {profile part : CompositionProfile}

/-- A part of a valid profile is valid. -/
theorem PartOf.valid (hpart : part.PartOf profile) (h : profile.Valid) : part.Valid := by
  refine ⟨h.selections.sublist (hpart.preferredProviders.map _),
    h.grants.sublist hpart.runtimePermissions,
    fun record hrecord => h.fits record (hpart.preferences.subset hrecord),
    h.addresses.sublist (hpart.preferences.map _), fun scopeId owner => ?_⟩
  have howned : (part.ownedPreferences scopeId owner).Sublist
      (profile.ownedPreferences scopeId owner) := hpart.preferences.filter _
  have hquota := h.quota scopeId owner
  refine ⟨howned.length_le.trans hquota.entries, ?_⟩
  exact ((howned.map _).sum_le_sum fun _ _ => Nat.zero_le _).trans hquota.bytes

theorem PartOf.inScope (hpart : part.PartOf profile) (h : profile.InScope scopeId) :
    part.InScope scopeId :=
  ⟨fun item hitem => h.activations item (hpart.activations.subset hitem),
    fun item hitem => h.preferredProviders item (hpart.preferredProviders.subset hitem),
    fun item hitem => h.runtimePermissions item (hpart.runtimePermissions.subset hitem),
    fun item hitem => h.preferences item (hpart.preferences.subset hitem)⟩

/-- A part keeps references whole when it keeps the activations that it refers to. -/
theorem Sound.of_partOf (h : profile.Sound manifestOf scopeId) (hpart : part.PartOf profile)
    (hgrants : ∀ grant ∈ part.runtimePermissions, ∀ activation ∈ profile.activations,
      activation.instanceId = grant.instanceId → activation ∈ part.activations)
    (hproviders : ∀ selection ∈ part.preferredProviders, ∀ activation ∈ profile.activations,
      activation.instanceId = selection.providerInstanceId → activation ∈ part.activations) :
    part.Sound manifestOf scopeId where
  schema := hpart.schema.trans h.schema
  valid := hpart.valid h.valid
  inScope := hpart.inScope h.inScope
  subjects := h.subjects.sublist (hpart.activations.map _)
  instances := h.instances.sublist (hpart.activations.map _)
  grants := by
    intro grant hgrant
    obtain ⟨activation, hactivation, hinstance, hrequests⟩ :=
      h.grants grant (hpart.runtimePermissions.subset hgrant)
    exact ⟨activation, hgrants grant hgrant activation hactivation hinstance, hinstance, hrequests⟩
  providers := by
    intro selection hselection
    obtain ⟨activation, hactivation, hinstance⟩ :=
      List.mem_map.mp (h.providers selection (hpart.preferredProviders.subset hselection))
    exact List.mem_map.mpr
      ⟨activation, hproviders selection hselection activation hactivation hinstance, hinstance⟩
  named := fun hscope activation hactivation =>
    h.named hscope activation (hpart.activations.subset hactivation)

/-- A part with all activations keeps references whole. -/
theorem Sound.of_same_activations (h : profile.Sound manifestOf scopeId)
    (hpart : part.PartOf profile) (hsame : part.activations = profile.activations) :
    part.Sound manifestOf scopeId :=
  h.of_partOf hpart (fun _ _ _ hactivation _ => hsame ▸ hactivation)
    fun _ _ _ hactivation _ => hsame ▸ hactivation

theorem Sound.revoke (h : profile.Sound manifestOf scopeId) (owner : ComponentRef)
    (permission : RuntimePermission) (other : RuntimeScopeId) :
    (profile.revokeRuntimePermission other owner permission).Sound manifestOf scopeId :=
  h.of_same_activations ⟨rfl, .refl _, .refl _, List.filter_sublist, .refl _⟩ rfl

theorem Sound.clearPreferredProvider (h : profile.Sound manifestOf scopeId)
    (other : RuntimeScopeId) (contract : ContractKey) :
    (profile.clearPreferredProvider other contract).Sound manifestOf scopeId :=
  h.of_same_activations ⟨rfl, .refl _, List.filter_sublist, .refl _, .refl _⟩ rfl

variable {edited : CompositionProfile} {activation : ActivationRecord}

theorem Sound.deletePreference (h : profile.Sound manifestOf scopeId) {other : RuntimeScopeId}
    {owner : ComponentRef} {key : String}
    (hedited : profile.deletePreference other owner key = .ok edited) :
    edited.Sound manifestOf scopeId := by
  rw [CompositionProfile.deletePreference] at hedited
  split at hedited
  · cases hedited
  · cases hedited
    exact h.of_same_activations ⟨rfl, .refl _, .refl _, .refl _, List.filter_sublist⟩ rfl

/-- There is one activation for a subject. -/
theorem Sound.eq_of_subject (h : profile.Sound manifestOf scopeId) {first second : ActivationRecord}
    (hfirst : first ∈ profile.activations) (hsecond : second ∈ profile.activations)
    (hsame : first.subject = second.subject) : first = second :=
  List.inj_on_of_nodup_map h.subjects hfirst hsecond hsame

/-- An activation takes all that refers to it along. What is left refers to other instances, and so
to other subjects. -/
theorem Sound.removeActivation (h : profile.Sound manifestOf scopeId) {subject : String}
    (hedited : profile.removeActivation subject = .ok edited) :
    edited.Sound manifestOf scopeId := by
  rw [CompositionProfile.removeActivation] at hedited
  split at hedited
  · cases hedited
  · next removed hfound =>
      have hremoved := List.mem_of_find?_eq_some hfound
      have hsubject := List.find?_some hfound
      rw [beq_iff_eq] at hsubject
      have hkept : ∀ activation ∈ profile.activations,
          activation.instanceId ≠ removed.instanceId →
          activation ∈ profile.activations.eraseP fun activation =>
            activation.subject == subject := by
        intro activation hactivation hother
        rw [List.mem_eraseP_of_neg]
        · exact hactivation
        · rw [beq_iff_eq]
          intro hsame
          have heq := h.eq_of_subject hactivation hremoved (hsame.trans hsubject.symm)
          exact hother (congrArg _ heq)
      cases hedited
      refine h.of_partOf ⟨rfl, List.eraseP_sublist, List.filter_sublist, List.filter_sublist,
        List.filter_sublist⟩ ?_ ?_
      · intro grant hgrant activation hactivation hinstance
        obtain ⟨hmem, hleft⟩ := List.mem_filter.mp hgrant
        refine hkept activation hactivation fun hsame => ?_
        simp [h.inScope.runtimePermissions grant hmem, h.inScope.activations removed hremoved,
          ← hinstance, hsame] at hleft
      · intro selection hselection activation hactivation hinstance
        obtain ⟨hmem, hleft⟩ := List.mem_filter.mp hselection
        refine hkept activation hactivation fun hsame => ?_
        simp [h.inScope.preferredProviders selection hmem,
          h.inScope.activations removed hremoved, ← hinstance, hsame] at hleft

/-! ## Changed entries -/

/-- References stay whole with other activations for the instances that are referred to. -/
theorem Sound.of_activations (h : profile.Sound manifestOf scopeId)
    (hschema : edited.schema = profile.schema)
    (hselections : edited.preferredProviders = profile.preferredProviders)
    (hpermissions : edited.runtimePermissions.Sublist profile.runtimePermissions)
    (hpreferences : edited.preferences = profile.preferences)
    (hscopes : ∀ activation ∈ edited.activations, activation.scopeId = scopeId)
    (hsubjects : (edited.activations.map fun activation => activation.subject).Nodup)
    (hinstances : edited.instances.Nodup) (hkept : profile.instances ⊆ edited.instances)
    (hgrants : ∀ grant ∈ edited.runtimePermissions, ∃ activation ∈ edited.activations,
      activation.instanceId = grant.instanceId ∧
        manifestOf.Requests activation.artifact grant.componentId grant.permission)
    (hnamed : scopeId = hostScope → ∀ activation ∈ edited.activations,
      activation.instanceId = ⟨activation.subject⟩) : edited.Sound manifestOf scopeId := by
  have hpart : ({ edited with activations := [] } : CompositionProfile).PartOf profile :=
    ⟨hschema, List.nil_sublist _, hselections ▸ .refl _, hpermissions, hpreferences ▸ .refl _⟩
  have hvalid := hpart.valid h.valid
  have hscope := hpart.inScope h.inScope
  exact ⟨hschema.trans h.schema,
    ⟨hvalid.selections, hvalid.grants, hvalid.fits, hvalid.addresses, hvalid.quota⟩,
    ⟨hscopes, hscope.preferredProviders, hscope.runtimePermissions, hscope.preferences⟩,
    hsubjects, hinstances, hgrants,
    fun selection hselection => hkept (h.providers selection (hselections ▸ hselection)), hnamed⟩

/-- An activation is enabled or disabled. -/
theorem Sound.setEnabled (h : profile.Sound manifestOf scopeId) {subject : String} {enabled : Bool}
    (hedited : profile.setEnabled subject enabled = .ok edited) :
    edited.Sound manifestOf scopeId := by
  rw [CompositionProfile.setEnabled] at hedited
  split at hedited
  · cases hedited
  · cases hedited
    have hsubjects : (modifyFirst (fun activation : ActivationRecord =>
        activation.subject == subject) (fun activation => { activation with enabled := enabled })
        profile.activations).map (fun activation => activation.subject) =
          profile.activations.map fun activation => activation.subject :=
      map_modifyFirst fun _ _ _ => rfl
    have hinstances : (modifyFirst (fun activation : ActivationRecord =>
        activation.subject == subject) (fun activation => { activation with enabled := enabled })
        profile.activations).map (fun activation => activation.instanceId) = profile.instances :=
      map_modifyFirst fun _ _ _ => rfl
    refine h.of_activations rfl rfl (.refl _) rfl ?_ ?_ ?_ ?_ ?_ ?_
    · intro activation hactivation
      cases mem_of_mem_modifyFirst hactivation with
      | inl hkept => exact h.inScope.activations activation hkept
      | inr hchanged =>
          obtain ⟨before, hbefore, -, hsame⟩ := hchanged
          rw [hsame]
          exact h.inScope.activations before hbefore
    · rw [hsubjects]
      exact h.subjects
    · rw [CompositionProfile.instances, hinstances]
      exact h.instances
    · intro instanceId hmem
      rw [CompositionProfile.instances, hinstances]
      exact hmem
    · intro grant hgrant
      obtain ⟨activation, hactivation, hinstance, hrequests⟩ := h.grants grant hgrant
      cases mem_or_change_mem hactivation with
      | inl hkept => exact ⟨activation, hkept, hinstance, hrequests⟩
      | inr hchanged => exact ⟨_, hchanged.2, hinstance, hrequests⟩
    · intro hscope activation hactivation
      cases mem_of_mem_modifyFirst hactivation with
      | inl hkept => exact h.named hscope activation hkept
      | inr hchanged =>
          obtain ⟨before, hbefore, -, hsame⟩ := hchanged
          rw [hsame]
          exact h.named hscope before hbefore

/-- An instance for the activation of a subject: that of the activation that is there, or a new
one. -/
def FreeInstance (profile : CompositionProfile) (subject : String)
    (instanceId : ExtensionInstanceId) : Prop :=
  match profile.activations.find? fun activation => activation.subject == subject with
  | some existing => instanceId = existing.instanceId
  | none => instanceId ∉ profile.instances

/-- In one scope activations are found by their subjects. -/
theorem Sound.find?_subject (h : profile.Sound manifestOf scopeId) (subject : String) :
    (profile.activations.find? fun existing =>
      existing.subject == subject && existing.scopeId == scopeId) =
    profile.activations.find? fun existing => existing.subject == subject := by
  apply List.find?_congr
  intro existing hexisting
  rw [h.inScope.activations existing hexisting, beq_self_eq_true, Bool.and_true]

/-- The artifact that is selected is there under its instance. -/
theorem mem_upsert (profile : CompositionProfile) (activation : ActivationRecord)
    (enabled : Option Bool) :
    ∃ item ∈ (profile.upsert activation enabled).1.activations,
      item.instanceId = activation.instanceId ∧ item.artifact = activation.artifact := by
  rw [CompositionProfile.upsert]
  dsimp only
  split
  · next existing hfound => exact ⟨_, change_mem_modifyFirst hfound, rfl, rfl⟩
  · exact ⟨_, List.mem_append_right _ List.mem_cons_self, rfl, rfl⟩

/-- What selecting an artifact does to the other activations. -/
structure Selects (scopeId : RuntimeScopeId) (activation : ActivationRecord)
    (profile edited : CompositionProfile) : Prop where
  scopes : ∀ item ∈ edited.activations, item.scopeId = scopeId
  subjects : (edited.activations.map fun item => item.subject).Nodup
  instances : edited.instances.Nodup
  kept : profile.instances ⊆ edited.instances
  others : ∀ item ∈ profile.activations, item.instanceId ≠ activation.instanceId →
    item ∈ edited.activations
  known : ∀ item ∈ edited.activations, item ∈ profile.activations ∨
    item.instanceId = activation.instanceId ∧ item.subject = activation.subject

/-- An activation that is there gets the artifact. -/
theorem Sound.selects_of_some (h : profile.Sound manifestOf scopeId) {existing : ActivationRecord}
    (hscope : activation.scopeId = scopeId)
    (hfound : (profile.activations.find? fun existing => existing.subject == activation.subject) =
      some existing) (hinstance : activation.instanceId = existing.instanceId)
    (enabled : Option Bool) :
    Selects scopeId activation profile (profile.upsert activation enabled).1 := by
  have hfind := h.find?_subject activation.subject
  rw [← hscope, hfound] at hfind
  have hmeant : ∀ item ∈ profile.activations,
      (item.subject == activation.subject && item.scopeId == activation.scopeId) = true →
      item = existing := by
    intro item hitem hmeant
    have hsubject := List.find?_some hfound
    rw [Bool.and_eq_true, beq_iff_eq] at hmeant
    rw [beq_iff_eq] at hsubject
    exact h.eq_of_subject hitem (List.mem_of_find?_eq_some hfound)
      (hmeant.1.trans hsubject.symm)
  rw [CompositionProfile.upsert]
  dsimp only
  rw [hfind]
  constructor
  case scopes =>
    intro item hitem
    cases mem_of_mem_modifyFirst hitem with
    | inl hkept => exact h.inScope.activations item hkept
    | inr hchanged =>
        obtain ⟨_, _, _, rfl⟩ := hchanged
        exact hscope
  case subjects =>
    rw [map_modifyFirst]
    · exact h.subjects
    · intro item _ hitem
      rw [Bool.and_eq_true, beq_iff_eq] at hitem
      exact hitem.1.symm
  case instances =>
    rw [CompositionProfile.instances, map_modifyFirst]
    · exact h.instances
    · intro item hitem hmatches
      rw [hmeant item hitem hmatches]
      exact hinstance
  case kept =>
    intro instanceId hmem
    rw [CompositionProfile.instances, map_modifyFirst]
    · exact hmem
    · intro item hitem hmatches
      rw [hmeant item hitem hmatches]
      exact hinstance
  case others =>
    intro item hitem hother
    cases mem_or_change_mem hitem with
    | inl hkept => exact hkept
    | inr hchanged =>
        rw [hmeant item hitem hchanged.1] at hother
        exact absurd hinstance.symm hother
  case known =>
    intro item hitem
    cases mem_of_mem_modifyFirst hitem with
    | inl hkept => exact .inl hkept
    | inr hchanged =>
        obtain ⟨_, _, _, rfl⟩ := hchanged
        exact .inr ⟨rfl, rfl⟩

/-- A new activation gets the artifact. -/
theorem Sound.selects_of_none (h : profile.Sound manifestOf scopeId)
    (hscope : activation.scopeId = scopeId)
    (hfound : (profile.activations.find? fun existing => existing.subject == activation.subject) =
      none) (hfresh : activation.instanceId ∉ profile.instances) (enabled : Option Bool) :
    Selects scopeId activation profile (profile.upsert activation enabled).1 := by
  have hfind := h.find?_subject activation.subject
  rw [← hscope, hfound] at hfind
  rw [CompositionProfile.upsert]
  dsimp only
  rw [hfind]
  constructor
  case scopes =>
    intro item hitem
    cases List.mem_append.mp hitem with
    | inl hkept => exact h.inScope.activations item hkept
    | inr hlast =>
        rw [List.mem_singleton.mp hlast]
        exact hscope
  case subjects =>
    rw [List.map_append, List.map_singleton, ← List.concat_eq_append]
    refine h.subjects.concat fun hthere => ?_
    obtain ⟨item, hitem, hsame⟩ := List.mem_map.mp hthere
    exact List.find?_eq_none.mp hfound item hitem (beq_iff_eq.mpr hsame)
  case instances =>
    rw [CompositionProfile.instances, List.map_append, List.map_singleton,
      ← List.concat_eq_append]
    exact h.instances.concat hfresh
  case kept =>
    intro instanceId hmem
    rw [CompositionProfile.instances, List.map_append]
    exact List.mem_append_left _ hmem
  case others => exact fun item hitem _ => List.mem_append_left _ hitem
  case known =>
    intro item hitem
    cases List.mem_append.mp hitem with
    | inl hkept => exact .inl hkept
    | inr hlast =>
        rw [List.mem_singleton.mp hlast]
        exact .inr ⟨rfl, rfl⟩

/-- Another artifact is selected. The permissions of its instance are those that it requests. -/
theorem Sound.select (h : profile.Sound manifestOf scopeId) (hscope : activation.scopeId = scopeId)
    (hfree : profile.FreeInstance activation.subject activation.instanceId)
    (hnamed : scopeId = hostScope → activation.instanceId = ⟨activation.subject⟩)
    {manifest : ExtensionManifest} (hmanifest : manifestOf activation.artifact = .ok manifest)
    (enabled : Option Bool) :
    ((profile.upsert activation enabled).1.retainRequested scopeId activation.instanceId
      manifest).Sound manifestOf scopeId := by
  have hselects : Selects scopeId activation profile (profile.upsert activation enabled).1 := by
    rw [FreeInstance] at hfree
    split at hfree
    · next existing hfound => exact h.selects_of_some hscope hfound hfree enabled
    · next hfound => exact h.selects_of_none hscope hfound hfree enabled
  have hothers : (profile.upsert activation enabled).1.schema = profile.schema ∧
      (profile.upsert activation enabled).1.preferredProviders = profile.preferredProviders ∧
      (profile.upsert activation enabled).1.runtimePermissions = profile.runtimePermissions ∧
      (profile.upsert activation enabled).1.preferences = profile.preferences := by
    rw [CompositionProfile.upsert]
    dsimp only
    split <;> exact ⟨rfl, rfl, rfl, rfl⟩
  obtain ⟨hschema, hproviders, hpermissions, hpreferences⟩ := hothers
  refine h.of_activations hschema hproviders ?_ hpreferences hselects.scopes hselects.subjects
    hselects.instances hselects.kept ?_ ?_
  · exact hpermissions ▸ List.filter_sublist
  · intro grant hgrant
    obtain ⟨hmem, hretained⟩ := List.mem_filter.mp hgrant
    rw [hpermissions] at hmem
    by_cases hsame : grant.instanceId = activation.instanceId
    · -- The new artifact requests what is retained.
      rw [h.inScope.runtimePermissions grant hmem, hsame] at hretained
      rw [if_neg (by simp), requestsPermission, List.any_eq_true] at hretained
      obtain ⟨component, hcomponent, hrequests⟩ := hretained
      rw [Bool.and_eq_true, beq_iff_eq, List.contains_iff_mem] at hrequests
      obtain ⟨item, hitem, hinstance, hartifact⟩ := mem_upsert profile activation enabled
      exact ⟨item, hitem, hinstance.trans hsame.symm, manifest, hartifact ▸ hmanifest, component,
        hcomponent, hrequests⟩
    · obtain ⟨item, hitem, hinstance, hrequests⟩ := h.grants grant hmem
      exact ⟨item, hselects.others item hitem (hinstance ▸ hsame), hinstance, hrequests⟩
  · intro hhost item hitem
    cases hselects.known item hitem with
    | inl hkept => exact h.named hhost item hkept
    | inr hselected =>
        rw [hselected.1, hselected.2]
        exact hnamed hhost

/-- A permission is granted to an activation whose artifact requests it. -/
theorem Sound.grant (h : profile.Sound manifestOf scopeId)
    (hactivation : activation ∈ profile.activations) {componentId : ComponentId}
    {permission : RuntimePermission}
    (hrequests : manifestOf.Requests activation.artifact componentId permission) :
    (profile.grantRuntimePermission
      ⟨scopeId, activation.instanceId, componentId, permission⟩).Sound manifestOf scopeId := by
  rw [grantRuntimePermission]
  split
  · exact h
  · next hnew =>
      refine ⟨h.schema, ⟨h.valid.selections, ?_, h.valid.fits, h.valid.addresses, h.valid.quota⟩,
        ⟨h.inScope.activations, h.inScope.preferredProviders, ?_, h.inScope.preferences⟩,
        h.subjects, h.instances, ?_, h.providers, h.named⟩
      · rw [← List.concat_eq_append]
        exact h.valid.grants.concat hnew
      · intro grant hgrant
        cases List.mem_append.mp hgrant with
        | inl hold => exact h.inScope.runtimePermissions grant hold
        | inr hlast =>
            rw [List.mem_singleton.mp hlast]
      · intro grant hgrant
        cases List.mem_append.mp hgrant with
        | inl hold => exact h.grants grant hold
        | inr hlast =>
            rw [List.mem_singleton.mp hlast]
            exact ⟨activation, hactivation, rfl, hrequests⟩

/-- A provider that is activated is chosen for a contract. -/
theorem Sound.setPreferredProvider (h : profile.Sound manifestOf scopeId)
    {selection : PreferredProviderSelection} (hscope : selection.scopeId = scopeId)
    (hprovider : selection.providerInstanceId ∈ profile.instances) :
    (profile.setPreferredProvider selection).Sound manifestOf scopeId := by
  have hmem : ∀ item ∈ (profile.setPreferredProvider selection).preferredProviders,
      item ∈ profile.preferredProviders ∨ item = selection := by
    intro item hitem
    rw [CompositionProfile.setPreferredProvider] at hitem
    dsimp only at hitem
    split at hitem
    · cases mem_of_mem_modifyFirst hitem with
      | inl hkept => exact .inl hkept
      | inr hchanged =>
          obtain ⟨_, _, _, hsame⟩ := hchanged
          exact .inr hsame
    · cases List.mem_append.mp hitem with
      | inl hkept => exact .inl hkept
      | inr hlast => exact .inr (List.mem_singleton.mp hlast)
  have hselections : ((profile.setPreferredProvider selection).preferredProviders.map
      fun item => (item.scopeId, item.contract)).Nodup := by
    rw [CompositionProfile.setPreferredProvider]
    dsimp only
    split
    · rw [map_modifyFirst]
      · exact h.valid.selections
      · intro item _ hmeant
        rw [Bool.and_eq_true, beq_iff_eq, beq_iff_eq] at hmeant
        rw [hmeant.1, hmeant.2]
    · next hnone =>
        rw [List.map_append, List.map_singleton, ← List.concat_eq_append]
        refine h.valid.selections.concat fun hthere => ?_
        obtain ⟨item, hitem, hsame⟩ := List.mem_map.mp hthere
        rw [Prod.mk.injEq] at hsame
        refine hnone (List.find?_isSome.mpr ⟨item, hitem, ?_⟩)
        rw [Bool.and_eq_true, beq_iff_eq, beq_iff_eq]
        exact hsame
  refine ⟨h.schema, ⟨hselections, h.valid.grants, h.valid.fits, h.valid.addresses, h.valid.quota⟩,
    ⟨h.inScope.activations, fun item hitem => ?_, h.inScope.runtimePermissions,
      h.inScope.preferences⟩,
    h.subjects, h.instances, h.grants, fun item hitem => ?_, h.named⟩
  · cases hmem item hitem with
    | inl hkept => exact h.inScope.preferredProviders item hkept
    | inr hsame => exact hsame ▸ hscope
  · cases hmem item hitem with
    | inl hkept => exact h.providers item hkept
    | inr hsame => exact hsame ▸ hprovider

/-- A preference is set within the quota. -/
theorem Sound.setPreference (h : profile.Sound manifestOf scopeId) (owner : ComponentRef)
    (key value : String) :
    (profile.setPreference scopeId owner key value).1.Sound manifestOf scopeId := by
  rcases @setPreference_cases profile scopeId owner key value h.valid with
    ⟨hset, hdone⟩ | ⟨-, error, hdone⟩
  · rw [hdone]
    refine ⟨h.schema, (valid_withPreference_iff h.valid).mpr hset,
      ⟨h.inScope.activations, h.inScope.preferredProviders, h.inScope.runtimePermissions,
        fun record hrecord => ?_⟩,
      h.subjects, h.instances, h.grants, h.providers, h.named⟩
    rcases mem_withPreference hrecord with rfl | hbefore
    · rfl
    · exact h.inScope.preferences record hbefore
  · rw [hdone]
    exact h

/-! ## New profiles -/

/-- An empty profile refers to nothing. -/
theorem sound_default : CompositionProfile.default.Sound manifestOf scopeId :=
  ⟨rfl,
    ⟨List.nodup_nil, List.nodup_nil, List.forall_mem_nil _, List.nodup_nil, fun _ _ => .nil⟩,
    ⟨List.forall_mem_nil _, List.forall_mem_nil _, List.forall_mem_nil _, List.forall_mem_nil _⟩,
    List.nodup_nil, List.nodup_nil, List.forall_mem_nil _, List.forall_mem_nil _,
    fun _ => List.forall_mem_nil _⟩

/-- A recipe is materialized with new instances for all of its activations. -/
theorem Sound.materializeAll (h : profile.Sound manifestOf scopeId) {other : RuntimeScopeId}
    (hother : other ≠ hostScope) {freshId : Nat → ExtensionInstanceId}
    (hfresh : Function.Injective freshId) :
    (profile.materializeAll other freshId).Sound manifestOf other := by
  have hpart : profile.IsRenamedPart (fun _ => true) other _
      (profile.materializeAll other freshId) :=
    materializeMatching_isRenamedPart h.instances hfresh
  have hall : profile.activations.filter (fun _ => true) = profile.activations :=
    List.filter_true profile.activations
  have hinstancesOf : profile.instancesOf (fun _ => true) = profile.instances := by
    rw [instancesOf, hall]
    rfl
  generalize hrename : (fun instanceId => freshId
    ((profile.instancesOf fun _ => true).idxOf instanceId)) = rename at hpart
  have hactivations := hpart.activations
  rw [hall] at hactivations
  have hinstances : (profile.materializeAll other freshId).instances =
      profile.instances.map rename := by
    rw [CompositionProfile.instances, hactivations, List.map_map, CompositionProfile.instances,
      List.map_map]
    rfl
  constructor
  case schema => exact hpart.schema
  case valid => exact hpart.valid h.inScope h.valid
  case inScope => exact hpart.inScope
  case subjects =>
    rw [hactivations, List.map_map]
    exact h.subjects
  case instances =>
    rw [hinstances]
    refine h.instances.map_on fun first hfirst second hsecond hsame => ?_
    rw [← hinstancesOf] at hfirst hsecond
    exact hpart.injective hfirst hsecond hsame
  case grants =>
    intro grant hgrant
    rw [hpart.runtimePermissions] at hgrant
    obtain ⟨before, hbefore, rfl⟩ := List.mem_map.mp hgrant
    obtain ⟨activation, hactivation, hinstance, hrequests⟩ :=
      h.grants before (List.mem_filter.mp hbefore).1
    refine ⟨activation.moved other (rename activation.instanceId), ?_, ?_, hrequests⟩
    · rw [hactivations]
      exact List.mem_map_of_mem hactivation
    · exact congrArg rename hinstance
  case providers =>
    intro selection hselection
    rw [hpart.preferredProviders] at hselection
    obtain ⟨before, hbefore, rfl⟩ := List.mem_map.mp hselection
    rw [hinstances]
    exact List.mem_map_of_mem (h.providers before (List.mem_filter.mp hbefore).1)
  case named => exact fun hhost => absurd hhost hother

end CompositionProfile

end Rintawa.Host
