/-
# Composition profiles

A profile names the activations of one scope, the providers and permissions that were chosen
for them, and the preferences of their components. Every choice is made once. The preferences
of one component are limited in number and in bytes.
-/

import Mathlib.Data.List.Dedup
import Rintawa.Artifacts.Objects
import Rintawa.Host.DeferredOperations
import Rintawa.Lib.Table
import Rintawa.Sdk.Contracts
import Rintawa.Sdk.Manifest

namespace Rintawa.Host

open Rintawa.Lib Rintawa.Sdk
open Rintawa.Artifacts (ArtifactDigest ContentType IoError TomlError)

/-! ## Records -/

def profileSchema : UInt32 := 6

def maxPreferenceEntriesPerComponent : Nat := 256

def maxPreferenceKeyBytes : Nat := 128

def maxPreferenceValueBytes : Nat := 64 * 1024

def maxPreferenceTotalBytesPerComponent : Nat := 1024 * 1024

/-- An exact artifact that is selected for a composition. -/
structure ActivationRecord where
  subject : String
  content : ContentType
  artifact : ArtifactDigest
  instanceId : ExtensionInstanceId
  scopeId : RuntimeScopeId
  enabled : Bool
  worldDefault : Bool
  deriving DecidableEq

/-- A provider that is chosen for a contract in a scope. -/
structure PreferredProviderSelection where
  scopeId : RuntimeScopeId
  contractId : ContractId
  contractVersion : Nat
  providerInstanceId : ExtensionInstanceId
  providerComponentId : ComponentId
  deriving DecidableEq

def PreferredProviderSelection.contract (selection : PreferredProviderSelection) : ContractKey :=
  ⟨selection.contractId, selection.contractVersion⟩

/-- A permission that is approved for a component. -/
structure RuntimePermissionGrant where
  scopeId : RuntimeScopeId
  instanceId : ExtensionInstanceId
  componentId : ComponentId
  permission : RuntimePermission
  deriving DecidableEq

/-- A preference of a component. -/
structure PreferenceRecord where
  scopeId : RuntimeScopeId
  instanceId : ExtensionInstanceId
  componentId : ComponentId
  key : String
  value : String
  deriving DecidableEq

namespace PreferenceRecord

variable (record : PreferenceRecord)

/-- The component in its scope. -/
def owner : RuntimeScopeId × ComponentRef :=
  (record.scopeId, ⟨record.instanceId, record.componentId⟩)

/-- What names a preference among all of a profile. -/
def address : (RuntimeScopeId × ComponentRef) × String :=
  (record.owner, record.key)

def ownerMatches (scopeId : RuntimeScopeId) (owner : ComponentRef) : Bool :=
  record.scopeId == scopeId && record.instanceId == owner.instanceId &&
    record.componentId == owner.componentId

@[simp]
theorem ownerMatches_iff {scopeId : RuntimeScopeId} {owner : ComponentRef} :
    record.ownerMatches scopeId owner = true ↔ record.owner = (scopeId, owner) := by
  cases owner
  simp [ownerMatches, PreferenceRecord.owner, and_assoc]

end PreferenceRecord

/-- What the host keeps of a composition. -/
structure CompositionProfile where
  schema : UInt32
  activations : List ActivationRecord
  preferredProviders : List PreferredProviderSelection
  runtimePermissions : List RuntimePermissionGrant
  preferences : List PreferenceRecord
  deriving DecidableEq

def CompositionProfile.default : CompositionProfile :=
  ⟨profileSchema, [], [], [], []⟩

/-! ## Errors -/

/-- The errors of the host that concern profiles. -/
inductive ProfileError
  | io (error : IoError)
  | profileDecode (error : TomlError)
  | profileEncode (error : TomlError)
  | unsupportedProfileSchema (schema : UInt32)
  | duplicatePreferredProviderSelection (scopeId contract : String)
  | duplicateRuntimePermissionGrant (scopeId instanceId componentId permission : String)
  | duplicatePreference (scopeId instanceId componentId key : String)
  | invalidPreference (reason : String)
  | preferenceQuotaExceeded
  | compositionScopeMismatch (expectedScope actualScope : String)
  deriving DecidableEq

abbrev ProfileResult (α : Type) := Except ProfileError α

/-! ## Counted bytes -/

/-- The bytes that a preference counts for. -/
def PreferenceRecord.bytes (record : PreferenceRecord) : Nat :=
  record.key.utf8ByteSize + record.value.utf8ByteSize

/-- Count the bytes of some preferences. -/
def countBytes (records : List PreferenceRecord) : Nat :=
  records.foldl (fun total record =>
    saturatingSizeAdd (saturatingSizeAdd total record.key.utf8ByteSize) record.value.utf8ByteSize) 0

theorem saturatingSizeAdd_twice (a b c : Nat) :
    saturatingSizeAdd (saturatingSizeAdd (min a usizeMax) b) c = min (a + (b + c)) usizeMax := by
  simp only [saturatingSizeAdd]
  omega

/-- The count is the sum, up to the largest number. -/
theorem countBytes_eq (records : List PreferenceRecord) :
    countBytes records = min (records.map PreferenceRecord.bytes).sum usizeMax := by
  have hfold : ∀ (rest : List PreferenceRecord) (total : Nat),
      rest.foldl (fun total record => saturatingSizeAdd
        (saturatingSizeAdd total record.key.utf8ByteSize) record.value.utf8ByteSize)
        (min total usizeMax) =
      min (total + (rest.map PreferenceRecord.bytes).sum) usizeMax := by
    intro rest
    induction rest with
    | nil => simp
    | cons record rest ih =>
        intro total
        rw [List.foldl_cons, saturatingSizeAdd_twice, ih, List.map_cons, List.sum_cons,
          PreferenceRecord.bytes, Nat.add_assoc total]
  have hstart := hfold records 0
  rw [Nat.zero_min, Nat.zero_add] at hstart
  exact hstart

/-- The count exceeds the limit exactly when the sum does. -/
theorem countBytes_le_iff {records : List PreferenceRecord} :
    countBytes records ≤ maxPreferenceTotalBytesPerComponent ↔
      (records.map PreferenceRecord.bytes).sum ≤ maxPreferenceTotalBytesPerComponent := by
  have hlimit : maxPreferenceTotalBytesPerComponent < usizeMax := by decide
  rw [countBytes_eq]
  omega

/-! ## Validation -/

namespace CompositionProfile

def validatePreferenceValue (key value : String) : ProfileResult Unit :=
  if key.isEmpty || maxPreferenceKeyBytes < key.utf8ByteSize then
    .error (.invalidPreference ("key must be 1..=" ++ toString maxPreferenceKeyBytes ++
      " UTF-8 bytes"))
  else if maxPreferenceValueBytes < value.utf8ByteSize then
    .error (.invalidPreference ("value exceeds " ++ toString maxPreferenceValueBytes ++
      " UTF-8 bytes"))
  else .ok ()

variable (profile : CompositionProfile)

/-- Every contract has one provider in a scope. -/
def validateSelections : ProfileResult Unit :=
  match firstRepeated [] (profile.preferredProviders.map fun selection =>
      (selection.scopeId, selection.contract)) with
  | some (scopeId, contract) =>
      .error (.duplicatePreferredProviderSelection scopeId.asStr contract.display)
  | none => .ok ()

/-- Every permission is granted once. -/
def validateGrants : ProfileResult Unit :=
  match firstRepeated [] profile.runtimePermissions with
  | some grant =>
      .error (.duplicateRuntimePermissionGrant grant.scopeId.asStr grant.instanceId.asStr
        grant.componentId.asStr grant.permission.display)
  | none => .ok ()

/-- Every preference is there once, with a key and a value that fit. -/
def validatePreferences (seen : List ((RuntimeScopeId × ComponentRef) × String)) :
    List PreferenceRecord → ProfileResult Unit
  | [] => .ok ()
  | record :: rest => do
      validatePreferenceValue record.key record.value
      if record.address ∈ seen then
        .error (.duplicatePreference record.scopeId.asStr record.instanceId.asStr
          record.componentId.asStr record.key)
      else validatePreferences (record.address :: seen) rest

/-- The preferences of a component. -/
def ownedPreferences (scopeId : RuntimeScopeId) (owner : ComponentRef) : List PreferenceRecord :=
  profile.preferences.filter fun item => item.ownerMatches scopeId owner

variable {profile} in
theorem mem_ownedPreferences {scopeId : RuntimeScopeId} {owner : ComponentRef}
    {record : PreferenceRecord} :
    record ∈ profile.ownedPreferences scopeId owner ↔
      record ∈ profile.preferences ∧ record.owner = (scopeId, owner) := by
  rw [ownedPreferences, List.mem_filter, PreferenceRecord.ownerMatches_iff]

def validatePreferenceOwnerQuota (scopeId : RuntimeScopeId) (owner : ComponentRef) :
    ProfileResult Unit :=
  let owned := profile.ownedPreferences scopeId owner
  if maxPreferenceEntriesPerComponent < owned.length then .error .preferenceQuotaExceeded
  else if maxPreferenceTotalBytesPerComponent < countBytes owned then
    .error .preferenceQuotaExceeded
  else .ok ()

/-- Validate a profile. The quotas of the components are checked in some order; all of them
fail with the same error. -/
def validate : ProfileResult Unit := do
  profile.validateSelections
  profile.validateGrants
  validatePreferences [] profile.preferences
  (profile.preferences.map PreferenceRecord.owner).dedup.forM fun owner =>
    profile.validatePreferenceOwnerQuota owner.1 owner.2

/-! ## What validation accepts -/

/-- A key and a value that fit. -/
def FitsPreference (key value : String) : Prop :=
  key ≠ "" ∧ key.utf8ByteSize ≤ maxPreferenceKeyBytes ∧
    value.utf8ByteSize ≤ maxPreferenceValueBytes

theorem validatePreferenceValue_eq_ok_iff {key value : String} :
    validatePreferenceValue key value = .ok () ↔ FitsPreference key value := by
  rw [validatePreferenceValue, FitsPreference]
  constructor
  · intro h
    split at h
    · cases h
    · next hkey =>
        split at h
        · cases h
        · next hvalue =>
            rw [Bool.or_eq_true, decide_eq_true_eq, String.isEmpty_iff, not_or] at hkey
            exact ⟨hkey.1, Nat.le_of_not_lt hkey.2, Nat.le_of_not_lt hvalue⟩
  · intro h
    have hkey : ¬ (key.isEmpty || decide (maxPreferenceKeyBytes < key.utf8ByteSize)) = true := by
      rw [Bool.or_eq_true, decide_eq_true_eq, String.isEmpty_iff, not_or]
      exact ⟨h.1, Nat.not_lt_of_le h.2.1⟩
    rw [if_neg hkey, if_neg (Nat.not_lt_of_le h.2.2)]

/-- Preferences of one component that are within its quota. -/
structure WithinQuota (owned : List PreferenceRecord) : Prop where
  entries : owned.length ≤ maxPreferenceEntriesPerComponent
  bytes : (owned.map PreferenceRecord.bytes).sum ≤ maxPreferenceTotalBytesPerComponent

theorem WithinQuota.nil : WithinQuota [] :=
  ⟨Nat.zero_le _, Nat.zero_le _⟩

theorem validatePreferenceOwnerQuota_eq_ok_iff {scopeId : RuntimeScopeId} {owner : ComponentRef} :
    profile.validatePreferenceOwnerQuota scopeId owner = .ok () ↔
      WithinQuota (profile.ownedPreferences scopeId owner) := by
  rw [validatePreferenceOwnerQuota]
  constructor
  · intro h
    split at h
    · cases h
    · next hentries =>
        split at h
        · cases h
        · next hbytes =>
            exact ⟨Nat.le_of_not_lt hentries, countBytes_le_iff.mp (Nat.le_of_not_lt hbytes)⟩
  · intro h
    rw [if_neg (Nat.not_lt_of_le h.entries),
      if_neg (Nat.not_lt_of_le (countBytes_le_iff.mpr h.bytes))]

theorem validatePreferences_eq_ok_iff {seen : List ((RuntimeScopeId × ComponentRef) × String)}
    {records : List PreferenceRecord} :
    validatePreferences seen records = .ok () ↔
      (∀ record ∈ records, FitsPreference record.key record.value) ∧
        (records.map PreferenceRecord.address).Nodup ∧
        ∀ record ∈ records, record.address ∉ seen := by
  induction records generalizing seen with
  | nil => simp [validatePreferences]
  | cons record rest ih =>
      rw [validatePreferences, checks_eq_ok_iff]
      simp only [validatePreferenceValue_eq_ok_iff, List.map_cons, List.nodup_cons,
        List.forall_mem_cons]
      by_cases hseen : record.address ∈ seen
      · simp [hseen]
      · rw [if_neg hseen, ih]
        simp only [hseen, not_false_eq_true, true_and, List.mem_cons, not_or, List.mem_map,
          not_exists, not_and]
        constructor
        · intro h
          obtain ⟨hfits, hrest, hnodup, hfresh⟩ := h
          exact ⟨⟨hfits, hrest⟩, ⟨fun other hother => (hfresh other hother).1, hnodup⟩,
            fun other hother => (hfresh other hother).2⟩
        · intro h
          obtain ⟨⟨hfits, hrest⟩, ⟨hnew, hnodup⟩, hfresh⟩ := h
          exact ⟨hfits, hrest, hnodup,
            fun other hother => ⟨hnew other hother, hfresh other hother⟩⟩

/-- The profiles that are accepted. -/
structure Valid : Prop where
  selections : (profile.preferredProviders.map fun selection =>
    (selection.scopeId, selection.contract)).Nodup
  grants : profile.runtimePermissions.Nodup
  fits : ∀ record ∈ profile.preferences, FitsPreference record.key record.value
  addresses : (profile.preferences.map PreferenceRecord.address).Nodup
  quota : ∀ scopeId owner, WithinQuota (profile.ownedPreferences scopeId owner)

/-- The components that are checked are all that have preferences. -/
theorem forall_quota_iff :
    (∀ owner ∈ (profile.preferences.map PreferenceRecord.owner).dedup,
      WithinQuota (profile.ownedPreferences owner.1 owner.2)) ↔
    ∀ scopeId owner, WithinQuota (profile.ownedPreferences scopeId owner) := by
  constructor
  · intro h scopeId owner
    by_cases howns : (scopeId, owner) ∈ profile.preferences.map PreferenceRecord.owner
    · exact h _ (List.mem_dedup.mpr howns)
    · have hnone : profile.ownedPreferences scopeId owner = [] := by
        rw [ownedPreferences, List.filter_eq_nil_iff]
        intro record hrecord hmatches
        rw [PreferenceRecord.ownerMatches_iff] at hmatches
        exact howns (hmatches ▸ List.mem_map_of_mem hrecord)
      rw [hnone]
      exact .nil
  · intro h owner _
    exact h owner.1 owner.2

theorem validate_eq_ok_iff : profile.validate = .ok () ↔ profile.Valid := by
  have hselections : profile.validateSelections = .ok () ↔
      (profile.preferredProviders.map fun selection =>
        (selection.scopeId, selection.contract)).Nodup := by
    rw [validateSelections]
    constructor
    · intro h
      split at h
      · cases h
      · next hnone => exact (firstRepeated_eq_none_iff.mp hnone).1
    · intro h
      rw [firstRepeated_eq_none_iff.mpr ⟨h, fun _ _ => List.not_mem_nil⟩]
  have hgrants : profile.validateGrants = .ok () ↔ profile.runtimePermissions.Nodup := by
    rw [validateGrants]
    constructor
    · intro h
      split at h
      · cases h
      · next hnone => exact (firstRepeated_eq_none_iff.mp hnone).1
    · intro h
      rw [firstRepeated_eq_none_iff.mpr ⟨h, fun _ _ => List.not_mem_nil⟩]
  rw [validate]
  simp only [checks_eq_ok_iff, hselections, hgrants, validatePreferences_eq_ok_iff,
    forM_eq_ok_iff, validatePreferenceOwnerQuota_eq_ok_iff, forall_quota_iff]
  constructor
  · intro h
    obtain ⟨hselections, hgrants, ⟨hfits, haddresses, -⟩, hquota⟩ := h
    exact ⟨hselections, hgrants, hfits, haddresses, hquota⟩
  · intro h
    exact ⟨h.selections, h.grants, ⟨h.fits, h.addresses, fun _ _ => List.not_mem_nil⟩,
      h.quota⟩

/-! ## Scopes -/

/-- The scopes of all records. -/
def scopes : List RuntimeScopeId :=
  (profile.activations.map fun item => item.scopeId) ++
    (profile.preferredProviders.map fun item => item.scopeId) ++
    (profile.runtimePermissions.map fun item => item.scopeId) ++
    profile.preferences.map fun item => item.scopeId

/-- Every record belongs to the scope of the profile. -/
def validateScope (expected : RuntimeScopeId) : ProfileResult Unit :=
  match profile.scopes.find? fun scope => scope != expected with
  | some actual => .error (.compositionScopeMismatch expected.asStr actual.asStr)
  | none => .ok ()

/-- The profiles of one scope. -/
structure InScope (scopeId : RuntimeScopeId) : Prop where
  activations : ∀ item ∈ profile.activations, item.scopeId = scopeId
  preferredProviders : ∀ item ∈ profile.preferredProviders, item.scopeId = scopeId
  runtimePermissions : ∀ item ∈ profile.runtimePermissions, item.scopeId = scopeId
  preferences : ∀ item ∈ profile.preferences, item.scopeId = scopeId

theorem validateScope_eq_ok_iff {expected : RuntimeScopeId} :
    profile.validateScope expected = .ok () ↔ profile.InScope expected := by
  have hnone : profile.validateScope expected = .ok () ↔
      ∀ scope ∈ profile.scopes, scope = expected := by
    rw [validateScope]
    constructor
    · intro h
      split at h
      · cases h
      · next hfind =>
          intro scope hscope
          simpa using List.find?_eq_none.mp hfind scope hscope
    · intro h
      rw [List.find?_eq_none.mpr fun scope hscope => by simpa using h scope hscope]
  rw [hnone]
  simp only [scopes, List.mem_append, List.mem_map]
  constructor
  · intro h
    exact ⟨fun item hitem => h _ (.inl (.inl (.inl ⟨item, hitem, rfl⟩))),
      fun item hitem => h _ (.inl (.inl (.inr ⟨item, hitem, rfl⟩))),
      fun item hitem => h _ (.inl (.inr ⟨item, hitem, rfl⟩)),
      fun item hitem => h _ (.inr ⟨item, hitem, rfl⟩)⟩
  · rintro h scope (((⟨item, hitem, rfl⟩ | ⟨item, hitem, rfl⟩) | ⟨item, hitem, rfl⟩) |
      ⟨item, hitem, rfl⟩)
    · exact h.activations item hitem
    · exact h.preferredProviders item hitem
    · exact h.runtimePermissions item hitem
    · exact h.preferences item hitem

end CompositionProfile

end Rintawa.Host
