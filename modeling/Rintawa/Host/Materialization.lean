/-
# Materialized profiles

A profile is materialized in another scope: some of its activations get new instances there,
and their permissions, preferences and providers follow them. Nothing of the other activations
is taken over. A materialized profile is valid when the original one is.
-/

import Rintawa.Host.Profile
import Rintawa.Lib.Lists

namespace Rintawa.Host

open Rintawa.Lib Rintawa.Sdk

/-! ## Instances -/

/-- The new instances of some activations, which are made in order. -/
def instanceMap (freshId : Nat → ExtensionInstanceId) (selected : List ActivationRecord) :
    Dict ExtensionInstanceId ExtensionInstanceId :=
  selected.zipIdx.foldl (fun ids entry => ids.insert entry.1.instanceId (freshId entry.2)) ∅

theorem lookup_instanceMap_from {freshId : Nat → ExtensionInstanceId}
    {selected : List ActivationRecord}
    (hnodup : (selected.map fun item => item.instanceId).Nodup) (start : Nat)
    (ids : Dict ExtensionInstanceId ExtensionInstanceId) (instanceId : ExtensionInstanceId) :
    ((selected.zipIdx start).foldl
        (fun ids entry => ids.insert entry.1.instanceId (freshId entry.2)) ids).lookup instanceId =
      if instanceId ∈ selected.map (fun item => item.instanceId) then
        some (freshId (start + (selected.map fun item => item.instanceId).idxOf instanceId))
      else ids.lookup instanceId := by
  induction selected generalizing start ids with
  | nil => simp
  | cons item rest ih =>
      rw [List.map_cons, List.nodup_cons] at hnodup
      rw [List.zipIdx_cons, List.foldl_cons, ih hnodup.2, List.map_cons]
      by_cases hsame : instanceId = item.instanceId
      · rw [hsame, if_neg hnodup.1, if_pos List.mem_cons_self, List.idxOf_cons_self,
          Dict.lookup_insert_ite, if_pos rfl, Nat.add_zero]
      · have hidx : (item.instanceId :: rest.map fun item => item.instanceId).idxOf instanceId =
            (rest.map fun item => item.instanceId).idxOf instanceId + 1 :=
          List.idxOf_cons_ne _ (Ne.symm hsame)
        rw [Dict.lookup_insert_ite, if_neg hsame, hidx]
        by_cases hrest : instanceId ∈ rest.map fun item => item.instanceId
        · rw [if_pos hrest, if_pos (List.mem_cons_of_mem _ hrest), Nat.add_assoc, Nat.add_comm 1]
        · have hnone : instanceId ∉ item.instanceId :: rest.map fun item => item.instanceId := by
            rw [List.mem_cons, not_or]
            exact ⟨hsame, hrest⟩
          rw [if_neg hrest, if_neg hnone]

/-- Exactly the instances of the activations are found. -/
theorem lookup_instanceMap {freshId : Nat → ExtensionInstanceId}
    {selected : List ActivationRecord}
    (hnodup : (selected.map fun item => item.instanceId).Nodup)
    (instanceId : ExtensionInstanceId) :
    (instanceMap freshId selected).lookup instanceId =
      if instanceId ∈ selected.map (fun item => item.instanceId) then
        some (freshId ((selected.map fun item => item.instanceId).idxOf instanceId))
      else none := by
  rw [instanceMap, lookup_instanceMap_from hnodup, Nat.zero_add]
  rfl

/-! ## Materialization -/

section Records

variable (scopeId : RuntimeScopeId) (instanceId : ExtensionInstanceId)

/-- An activation with another instance. -/
def ActivationRecord.moved (item : ActivationRecord) : ActivationRecord :=
  { item with instanceId := instanceId, scopeId := scopeId, worldDefault := false }

/-- A choice of another instance as the provider. -/
def PreferredProviderSelection.moved (item : PreferredProviderSelection) :
    PreferredProviderSelection :=
  { item with scopeId := scopeId, providerInstanceId := instanceId }

/-- A permission of another instance. -/
def RuntimePermissionGrant.moved (item : RuntimePermissionGrant) : RuntimePermissionGrant :=
  { item with scopeId := scopeId, instanceId := instanceId }

/-- A preference of another instance. -/
def PreferenceRecord.moved (item : PreferenceRecord) : PreferenceRecord :=
  { item with scopeId := scopeId, instanceId := instanceId }

end Records

namespace CompositionProfile

variable (profile : CompositionProfile)

/-- Materialize the activations that match in a scope. -/
def materializeMatching (scopeId : RuntimeScopeId) (freshId : Nat → ExtensionInstanceId)
    (isIncluded : ActivationRecord → Bool) : CompositionProfile :=
  let selected := profile.activations.filter isIncluded
  let ids := instanceMap freshId selected
  { schema := profileSchema
    activations := selected.zipIdx.map fun entry => entry.1.moved scopeId (freshId entry.2)
    preferredProviders := profile.preferredProviders.filterMap fun item =>
      (ids.lookup item.providerInstanceId).map fun instanceId => item.moved scopeId instanceId
    runtimePermissions := profile.runtimePermissions.filterMap fun item =>
      (ids.lookup item.instanceId).map fun instanceId => item.moved scopeId instanceId
    preferences := profile.preferences.filterMap fun item =>
      (ids.lookup item.instanceId).map fun instanceId => item.moved scopeId instanceId }

def materializeLegacyWorldDefaults (scopeId : RuntimeScopeId)
    (freshId : Nat → ExtensionInstanceId) : CompositionProfile :=
  profile.materializeMatching scopeId freshId fun item => item.worldDefault

def clearLegacyWorldDefaults : CompositionProfile :=
  { profile with
    activations := profile.activations.map fun item => { item with worldDefault := false } }

/-- The instances of the activations that match. -/
def instancesOf (isIncluded : ActivationRecord → Bool) : List ExtensionInstanceId :=
  (profile.activations.filter isIncluded).map fun item => item.instanceId

/-- A profile with exactly the activations that match and with what belongs to them, under
new names. -/
structure IsRenamedPart (isIncluded : ActivationRecord → Bool) (scopeId : RuntimeScopeId)
    (rename : ExtensionInstanceId → ExtensionInstanceId) (part : CompositionProfile) : Prop where
  injective : Set.InjOn rename {instanceId | instanceId ∈ profile.instancesOf isIncluded}
  schema : part.schema = profileSchema
  activations : part.activations = (profile.activations.filter isIncluded).map fun item =>
    item.moved scopeId (rename item.instanceId)
  preferredProviders : part.preferredProviders =
    (profile.preferredProviders.filter fun item =>
      decide (item.providerInstanceId ∈ profile.instancesOf isIncluded)).map fun item =>
        item.moved scopeId (rename item.providerInstanceId)
  runtimePermissions : part.runtimePermissions =
    (profile.runtimePermissions.filter fun item =>
      decide (item.instanceId ∈ profile.instancesOf isIncluded)).map fun item =>
        item.moved scopeId (rename item.instanceId)
  preferences : part.preferences =
    (profile.preferences.filter fun item =>
      decide (item.instanceId ∈ profile.instancesOf isIncluded)).map fun item =>
        item.moved scopeId (rename item.instanceId)

end CompositionProfile

namespace CompositionProfile

variable {profile : CompositionProfile} {isIncluded : ActivationRecord → Bool}
variable {scopeId : RuntimeScopeId} {freshId : Nat → ExtensionInstanceId}

/-- A materialized profile is the part that was selected, under the new names. -/
theorem materializeMatching_isRenamedPart
    (hdistinct : (profile.activations.map fun item => item.instanceId).Nodup)
    (hfresh : Function.Injective freshId) :
    profile.IsRenamedPart isIncluded scopeId
      (fun instanceId => freshId ((profile.instancesOf isIncluded).idxOf instanceId))
      (profile.materializeMatching scopeId freshId isIncluded) := by
  have hnodup : (profile.instancesOf isIncluded).Nodup :=
    hdistinct.sublist (List.filter_sublist.map _)
  have hlookup : ∀ instanceId,
      (instanceMap freshId (profile.activations.filter isIncluded)).lookup instanceId = _ :=
    lookup_instanceMap hnodup
  constructor
  · intro first hfirst second _ hsame
    have hidx := hfresh hsame
    exact (List.idxOf_inj hfirst).mp hidx
  · rfl
  · apply List.ext_getElem
    · simp [materializeMatching]
    · intro index hleft hright
      have hindex : index < (profile.instancesOf isIncluded).length := by
        simpa [instancesOf] using hright
      have hposition : (profile.instancesOf isIncluded).idxOf
          (profile.instancesOf isIncluded)[index] = index :=
        hnodup.idxOf_getElem index hindex
      simp only [instancesOf, List.getElem_map] at hposition
      simp only [materializeMatching, List.getElem_map, List.getElem_zipIdx, Nat.zero_add,
        instancesOf]
      rw [hposition]
  · exact filterMap_of_lookup
      (fun k (item : PreferredProviderSelection) => item.moved scopeId k) hlookup _
  · exact filterMap_of_lookup
      (fun k (item : RuntimePermissionGrant) => item.moved scopeId k) hlookup _
  · exact filterMap_of_lookup (fun k (item : PreferenceRecord) => item.moved scopeId k) hlookup _

/-! ## Validity -/

namespace IsRenamedPart

variable {rename : ExtensionInstanceId → ExtensionInstanceId} {part : CompositionProfile}
variable (h : profile.IsRenamedPart isIncluded scopeId rename part)
include h

/-- All records are in the new scope. -/
theorem inScope : part.InScope scopeId := by
  refine ⟨?_, ?_, ?_, ?_⟩
  · intro item hitem
    rw [h.activations] at hitem
    obtain ⟨_, _, rfl⟩ := List.mem_map.mp hitem
    rfl
  · intro item hitem
    rw [h.preferredProviders] at hitem
    obtain ⟨_, _, rfl⟩ := List.mem_map.mp hitem
    rfl
  · intro item hitem
    rw [h.runtimePermissions] at hitem
    obtain ⟨_, _, rfl⟩ := List.mem_map.mp hitem
    rfl
  · intro item hitem
    rw [h.preferences] at hitem
    obtain ⟨_, _, rfl⟩ := List.mem_map.mp hitem
    rfl

variable {original : RuntimeScopeId} (hscope : profile.InScope original)
include hscope

/-- Preferences of one component were preferences of one component. -/
theorem owner_of_moved {first second : PreferenceRecord} (hfirst : first ∈ profile.preferences)
    (hsecond : second ∈ profile.preferences)
    (hfirstIn : first.instanceId ∈ profile.instancesOf isIncluded)
    (hsecondIn : second.instanceId ∈ profile.instancesOf isIncluded)
    (hsame : (first.moved scopeId (rename first.instanceId)).owner =
      (second.moved scopeId (rename second.instanceId)).owner) :
    first.owner = second.owner := by
  have hscopes : first.scopeId = second.scopeId :=
    (hscope.preferences first hfirst).trans (hscope.preferences second hsecond).symm
  simp only [PreferenceRecord.owner, PreferenceRecord.moved, Prod.mk.injEq, ComponentRef.mk.injEq,
    true_and] at hsame
  have hinstances := h.injective hfirstIn hsecondIn hsame.1
  rw [PreferenceRecord.owner, PreferenceRecord.owner, hscopes, hinstances, hsame.2]

variable (hvalid : profile.Valid)
include hvalid

theorem selections_nodup :
    (part.preferredProviders.map fun item => (item.scopeId, item.contract)).Nodup := by
  have hcontracts : (profile.preferredProviders.map fun item => item.contract).Nodup := by
    have hpairs : profile.preferredProviders.map (fun item => (item.scopeId, item.contract)) =
        (profile.preferredProviders.map fun item => item.contract).map fun contract =>
          (original, contract) := by
      rw [List.map_map]
      apply List.map_congr_left
      intro item hitem
      rw [Function.comp_apply, hscope.preferredProviders item hitem]
    have hselections := hvalid.selections
    rw [hpairs] at hselections
    exact hselections.of_map _
  have hmoved : part.preferredProviders.map (fun item => (item.scopeId, item.contract)) =
      ((profile.preferredProviders.filter fun item =>
        decide (item.providerInstanceId ∈ profile.instancesOf isIncluded)).map fun item =>
          item.contract).map fun contract => (scopeId, contract) := by
    rw [h.preferredProviders, List.map_map, List.map_map]
    rfl
  rw [hmoved]
  exact (hcontracts.sublist (List.filter_sublist.map _)).map fun _ _ hsame =>
    congrArg Prod.snd hsame

theorem grants_nodup : part.runtimePermissions.Nodup := by
  rw [h.runtimePermissions]
  apply List.Nodup.map_on
  · intro first hfirst second hsecond hsame
    obtain ⟨hfirst, hfirstIn⟩ := List.mem_filter.mp hfirst
    obtain ⟨hsecond, hsecondIn⟩ := List.mem_filter.mp hsecond
    have hscopes : first.scopeId = second.scopeId :=
      (hscope.runtimePermissions first hfirst).trans
        (hscope.runtimePermissions second hsecond).symm
    cases first
    cases second
    simp only [RuntimePermissionGrant.moved, RuntimePermissionGrant.mk.injEq, true_and] at hsame
    obtain ⟨hinstance, rfl, rfl⟩ := hsame
    obtain rfl := h.injective (of_decide_eq_true hfirstIn) (of_decide_eq_true hsecondIn) hinstance
    obtain rfl : _ = _ := hscopes
    rfl
  · exact hvalid.grants.filter _

theorem addresses_nodup : (part.preferences.map PreferenceRecord.address).Nodup := by
  have hmoved := hvalid.addresses.of_map.filter fun item =>
    decide (item.instanceId ∈ profile.instancesOf isIncluded)
  rw [h.preferences, List.map_map]
  refine hmoved.map_on ?_
  intro first hfirst second hsecond hsame
  obtain ⟨hfirst, hfirstIn⟩ := List.mem_filter.mp hfirst
  obtain ⟨hsecond, hsecondIn⟩ := List.mem_filter.mp hsecond
  have howner := h.owner_of_moved hscope hfirst hsecond (of_decide_eq_true hfirstIn)
    (of_decide_eq_true hsecondIn) (congrArg Prod.fst hsame)
  have hkey : first.key = second.key := congrArg Prod.snd hsame
  have haddress : first.address = second.address := by
    rw [PreferenceRecord.address, PreferenceRecord.address, howner, hkey]
  exact List.inj_on_of_nodup_map hvalid.addresses hfirst hsecond haddress

/-- The preferences of a component that was moved. -/
theorem withinQuota (scopeId' : RuntimeScopeId) (owner : ComponentRef) :
    WithinQuota (part.ownedPreferences scopeId' owner) := by
  by_cases hnone : part.ownedPreferences scopeId' owner = []
  · rw [hnone]
    exact .nil
  · obtain ⟨moved, hmoved⟩ := List.exists_mem_of_ne_nil _ hnone
    obtain ⟨hmem, howner⟩ := mem_ownedPreferences.mp hmoved
    rw [h.preferences] at hmem
    obtain ⟨first, hfirst, rfl⟩ := List.mem_map.mp hmem
    obtain ⟨hfirst, hfirstIn⟩ := List.mem_filter.mp hfirst
    have howned : part.ownedPreferences scopeId' owner =
        (profile.ownedPreferences first.scopeId ⟨first.instanceId, first.componentId⟩).map
          fun item => item.moved scopeId (rename item.instanceId) := by
      rw [ownedPreferences, h.preferences, List.filter_map, List.filter_filter, ownedPreferences]
      congr 1
      apply List.filter_congr
      intro item hitem
      rw [Bool.eq_iff_iff, Bool.and_eq_true, decide_eq_true_eq, Function.comp_apply,
        PreferenceRecord.ownerMatches_iff, PreferenceRecord.ownerMatches_iff, ← howner]
      constructor
      · intro hboth
        exact h.owner_of_moved hscope hitem hfirst hboth.2 (of_decide_eq_true hfirstIn) hboth.1
      · intro hsame
        have hinstance : item.instanceId = first.instanceId :=
          congrArg (fun owner => owner.2.instanceId) hsame
        have hcomponent : item.componentId = first.componentId :=
          congrArg (fun owner => owner.2.componentId) hsame
        refine ⟨?_, hinstance ▸ of_decide_eq_true hfirstIn⟩
        simp only [PreferenceRecord.owner, PreferenceRecord.moved, hinstance, hcomponent]
    have hquota := hvalid.quota first.scopeId ⟨first.instanceId, first.componentId⟩
    rw [howned]
    refine ⟨?_, ?_⟩
    · rw [List.length_map]
      exact hquota.entries
    · rw [List.map_map]
      exact hquota.bytes

/-- A renamed part of a valid profile is valid. -/
theorem valid : part.Valid := by
  refine ⟨h.selections_nodup hscope hvalid, h.grants_nodup hscope hvalid, ?_,
    h.addresses_nodup hscope hvalid, h.withinQuota hscope hvalid⟩
  intro record hrecord
  rw [h.preferences] at hrecord
  obtain ⟨before, hbefore, rfl⟩ := List.mem_map.mp hrecord
  exact hvalid.fits before (List.mem_filter.mp hbefore).1

end IsRenamedPart

end CompositionProfile

end Rintawa.Host
