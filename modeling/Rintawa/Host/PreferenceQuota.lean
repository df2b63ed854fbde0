/-
# Quotas of preferences

A preference is set without another validation of the whole profile: the entries and the bytes
that its component would have are computed from those that it has. For a profile that is valid
this accepts exactly the preferences with which the profile stays valid.
-/

import Mathlib.Algebra.Order.BigOperators.Group.List
import Rintawa.Host.Profile
import Rintawa.Lib.Numerals

namespace Rintawa.Host

open Rintawa.Lib Rintawa.Sdk

/-! ## Setting a preference -/

/-- Give the first preference that is meant another value. -/
def setFirst (isCurrent : PreferenceRecord → Bool) (value : String) :
    List PreferenceRecord → List PreferenceRecord
  | [] => []
  | record :: rest =>
      if isCurrent record then { record with value := value } :: rest
      else record :: setFirst isCurrent value rest

/-- Give an entry another value if it is the one that is meant. -/
def replaceValue (scopeId : RuntimeScopeId) (owner : ComponentRef) (key value : String)
    (record : PreferenceRecord) : PreferenceRecord :=
  if record.address = ((scopeId, owner), key) then { record with value := value } else record

namespace CompositionProfile

variable (profile : CompositionProfile) (scopeId : RuntimeScopeId) (owner : ComponentRef)
variable (key value : String)

/-- Set a preference of a component. -/
def setPreference : CompositionProfile × ProfileResult Unit :=
  match validatePreferenceValue key value with
  | .error error => (profile, .error error)
  | .ok () =>
      let isCurrent := fun item : PreferenceRecord =>
        item.ownerMatches scopeId owner && item.key == key
      let current := profile.preferences.find? isCurrent
      let existingBytes := (current.map PreferenceRecord.bytes).getD 0
      let owned := profile.ownedPreferences scopeId owner
      let nextCount := if current.isSome then owned.length else saturatingSizeAdd owned.length 1
      let nextBytes := saturatingSizeAdd
        (saturatingSizeAdd (countBytes owned - existingBytes) key.utf8ByteSize) value.utf8ByteSize
      if maxPreferenceEntriesPerComponent < nextCount ∨
          maxPreferenceTotalBytesPerComponent < nextBytes then
        (profile, .error .preferenceQuotaExceeded)
      else
        ({ profile with
            preferences :=
              if current.isSome then setFirst isCurrent value profile.preferences
              else
                profile.preferences ++
                  [⟨scopeId, owner.instanceId, owner.componentId, key, value⟩] },
          .ok ())

/-- The preferences with the entry of a component for a key replaced, or else appended. -/
def replacedPreferences : List PreferenceRecord :=
  if profile.preferences.any fun record => decide (record.address = ((scopeId, owner), key)) then
    profile.preferences.map (replaceValue scopeId owner key value)
  else profile.preferences ++ [⟨scopeId, owner.instanceId, owner.componentId, key, value⟩]

/-- The profile in which a preference has a value. -/
def withPreference : CompositionProfile :=
  { profile with preferences := profile.replacedPreferences scopeId owner key value }

end CompositionProfile

/-! ## Sums in which one entry changes -/

/-- A sum changes by what one of its entries changes. -/
theorem sum_map_change {α κ : Type} {name : α → κ} {size size' : α → Nat} {entries : List α}
    {entry : α} (hnodup : (entries.map name).Nodup) (hmem : entry ∈ entries)
    (hother : ∀ other, name other ≠ name entry → size' other = size other) :
    (entries.map size').sum + size entry = (entries.map size).sum + size' entry := by
  induction entries with
  | nil => cases hmem
  | cons first rest ih =>
      rw [List.map_cons, List.nodup_cons] at hnodup
      simp only [List.map_cons, List.sum_cons]
      rcases List.mem_cons.mp hmem with rfl | hrest
      · have hsame : rest.map size' = rest.map size := by
          apply List.map_congr_left
          intro other hin
          apply hother
          intro hname
          exact hnodup.1 (hname ▸ List.mem_map_of_mem hin)
        rw [hsame]
        omega
      · have hfirst : size' first = size first := by
          apply hother
          intro hname
          exact hnodup.1 (hname ▸ List.mem_map_of_mem hrest)
        have hsum := ih hnodup.2 hrest
        omega

/-! ## Replacing one entry -/

section Replacing

variable {scopeId : RuntimeScopeId} {owner : ComponentRef} {key value : String}

variable {record : PreferenceRecord} {records : List PreferenceRecord}

theorem isCurrent_iff :
    (record.ownerMatches scopeId owner && record.key == key) = true ↔
      record.address = ((scopeId, owner), key) := by
  rw [Bool.and_eq_true, PreferenceRecord.ownerMatches_iff, beq_iff_eq, PreferenceRecord.address]
  exact Prod.mk.injEq _ _ _ _ |>.symm.to_iff

@[simp]
theorem address_replaceValue (record : PreferenceRecord) :
    (replaceValue scopeId owner key value record).address = record.address := by
  rw [replaceValue]
  split <;> rfl

theorem replaceValue_of_ne (h : record.address ≠ ((scopeId, owner), key)) :
    replaceValue scopeId owner key value record = record :=
  if_neg h

theorem ownerMatches_replaceValue (record : PreferenceRecord) (scopeId' : RuntimeScopeId)
    (owner' : ComponentRef) :
    (replaceValue scopeId owner key value record).ownerMatches scopeId' owner' =
      record.ownerMatches scopeId' owner' := by
  rw [replaceValue]
  split <;> rfl

/-- Entries with other names stay. -/
theorem map_replaceValue_of_not_mem
    (h : ((scopeId, owner), key) ∉ records.map PreferenceRecord.address) :
    records.map (replaceValue scopeId owner key value) = records := by
  have hsame : ∀ record ∈ records, replaceValue scopeId owner key value record = record := by
    intro record hrecord
    apply replaceValue_of_ne
    intro haddress
    exact h (haddress ▸ List.mem_map_of_mem hrecord)
  rw [List.map_congr_left hsame, List.map_id']

/-- The first entry is the only one. -/
theorem setFirst_eq_map (hnodup : (records.map PreferenceRecord.address).Nodup) :
    setFirst (fun item => item.ownerMatches scopeId owner && item.key == key) value records =
      records.map (replaceValue scopeId owner key value) := by
  induction records with
  | nil => rfl
  | cons record rest ih =>
      rw [List.map_cons, List.nodup_cons] at hnodup
      rw [setFirst, List.map_cons]
      by_cases hcurrent : record.address = ((scopeId, owner), key)
      · have hrest : rest.map (replaceValue scopeId owner key value) = rest :=
          map_replaceValue_of_not_mem (hcurrent ▸ hnodup.1)
        rw [if_pos (isCurrent_iff.mpr hcurrent), hrest, replaceValue, if_pos hcurrent]
      · rw [if_neg (mt isCurrent_iff.mp hcurrent), ih hnodup.2, replaceValue_of_ne hcurrent]

/-- The entry that is found is the one that is meant. -/
theorem find_isCurrent
    (h : records.find? (fun item => item.ownerMatches scopeId owner && item.key == key) =
      some record) : record ∈ records ∧ record.address = ((scopeId, owner), key) := by
  have hcurrent := List.find?_some h
  exact ⟨List.mem_of_find?_eq_some h, isCurrent_iff.mp hcurrent⟩

theorem find_isCurrent_eq_none_iff :
    records.find? (fun item => item.ownerMatches scopeId owner && item.key == key) = none ↔
      ((scopeId, owner), key) ∉ records.map PreferenceRecord.address := by
  rw [List.find?_eq_none, List.mem_map, not_exists]
  constructor
  · intro h record hrecord
    exact h record hrecord.1 (isCurrent_iff.mpr hrecord.2)
  · intro h record hrecord hcurrent
    exact h record ⟨hrecord, isCurrent_iff.mp hcurrent⟩

end Replacing

namespace CompositionProfile

variable {profile : CompositionProfile} {scopeId : RuntimeScopeId} {owner : ComponentRef}
variable {key value : String}

/-- The names of the preferences of a component differ. -/
theorem Valid.owned_addresses (h : profile.Valid) :
    ((profile.ownedPreferences scopeId owner).map PreferenceRecord.address).Nodup :=
  h.addresses.sublist (List.filter_sublist.map _)

/-- The preferences of a component after one of them was replaced. -/
theorem owned_replaced (scopeId' : RuntimeScopeId) (owner' : ComponentRef) :
    (profile.preferences.map (replaceValue scopeId owner key value)).filter
        (fun item => item.ownerMatches scopeId' owner') =
      (profile.ownedPreferences scopeId' owner').map (replaceValue scopeId owner key value) := by
  rw [List.filter_map, ownedPreferences]
  congr 1
  apply List.filter_congr
  intro record _
  exact ownerMatches_replaceValue record scopeId' owner'

theorem any_address_iff :
    (profile.preferences.any fun record => decide (record.address = ((scopeId, owner), key))) =
        true ↔
      ((scopeId, owner), key) ∈ profile.preferences.map PreferenceRecord.address := by
  rw [List.any_eq_true, List.mem_map]
  simp only [decide_eq_true_eq]

theorem replacedPreferences_of_mem
    (h : ((scopeId, owner), key) ∈ profile.preferences.map PreferenceRecord.address) :
    profile.replacedPreferences scopeId owner key value =
      profile.preferences.map (replaceValue scopeId owner key value) :=
  if_pos (any_address_iff.mpr h)

theorem replacedPreferences_of_not_mem
    (h : ((scopeId, owner), key) ∉ profile.preferences.map PreferenceRecord.address) :
    profile.replacedPreferences scopeId owner key value =
      profile.preferences ++ [⟨scopeId, owner.instanceId, owner.componentId, key, value⟩] :=
  if_neg (mt any_address_iff.mp h)

/-- What the quota of the changed component counts. -/
theorem bytes_replaced (h : profile.Valid) {record : PreferenceRecord}
    (hrecord : record ∈ profile.preferences)
    (haddress : record.address = ((scopeId, owner), key)) :
    (((profile.ownedPreferences scopeId owner).map (replaceValue scopeId owner key value)).map
        PreferenceRecord.bytes).sum + record.bytes =
      ((profile.ownedPreferences scopeId owner).map PreferenceRecord.bytes).sum +
        (key.utf8ByteSize + value.utf8ByteSize) := by
  have howned : record ∈ profile.ownedPreferences scopeId owner :=
    mem_ownedPreferences.mpr ⟨hrecord, congrArg Prod.fst haddress⟩
  have hother : ∀ other : PreferenceRecord, other.address ≠ record.address →
      (replaceValue scopeId owner key value other).bytes = other.bytes := by
    intro other hdifferent
    rw [replaceValue_of_ne (haddress ▸ hdifferent)]
  have hchange := sum_map_change h.owned_addresses howned hother
  have hnew : (replaceValue scopeId owner key value record).bytes =
      key.utf8ByteSize + value.utf8ByteSize := by
    rw [replaceValue, if_pos haddress, PreferenceRecord.bytes]
    dsimp only
    rw [show record.key = key from congrArg Prod.snd haddress]
  rw [List.map_map]
  rw [hnew] at hchange
  exact hchange

/-! ## The profile with the preference -/

/-- The preferences of a component in the new profile. -/
def ownedWith (profile : CompositionProfile) (scopeId : RuntimeScopeId) (owner : ComponentRef)
    (key value : String) : List PreferenceRecord :=
  (profile.withPreference scopeId owner key value).ownedPreferences scopeId owner

/-- The other components have the preferences that they had. -/
theorem owned_withPreference_of_ne {scopeId' : RuntimeScopeId} {owner' : ComponentRef}
    (hother : (scopeId', owner') ≠ (scopeId, owner)) :
    (profile.withPreference scopeId owner key value).ownedPreferences scopeId' owner' =
      profile.ownedPreferences scopeId' owner' := by
  have hunmatched : ∀ record : PreferenceRecord, record.owner = (scopeId, owner) →
      ¬ record.ownerMatches scopeId' owner' = true := by
    intro record howner hmatches
    rw [PreferenceRecord.ownerMatches_iff, howner] at hmatches
    exact hother hmatches.symm
  rw [ownedPreferences, withPreference, replacedPreferences]
  dsimp only
  split
  · rw [owned_replaced]
    apply map_replaceValue_of_not_mem
    intro hmem
    obtain ⟨record, hrecord, haddress⟩ := List.mem_map.mp hmem
    exact hunmatched record (congrArg Prod.fst haddress) (List.mem_filter.mp hrecord).2
  · have hnone : [(⟨scopeId, owner.instanceId, owner.componentId, key, value⟩ :
        PreferenceRecord)].filter (fun item => item.ownerMatches scopeId' owner') = [] :=
      List.filter_eq_nil_iff.mpr fun record hrecord => by
        rw [List.mem_singleton.mp hrecord]
        exact hunmatched _ rfl
    rw [List.filter_append, hnone, List.append_nil, ownedPreferences]

/-- The names of the preferences in the new profile. -/
theorem addresses_withPreference :
    (profile.withPreference scopeId owner key value).preferences.map PreferenceRecord.address =
      if ((scopeId, owner), key) ∈ profile.preferences.map PreferenceRecord.address then
        profile.preferences.map PreferenceRecord.address
      else profile.preferences.map PreferenceRecord.address ++ [((scopeId, owner), key)] := by
  rw [withPreference]
  dsimp only
  split
  · next hthere =>
      rw [replacedPreferences_of_mem hthere, List.map_map]
      exact List.map_congr_left fun record _ => address_replaceValue record
  · next hnew =>
      rw [replacedPreferences_of_not_mem hnew, List.map_append]
      rfl

/-- An entry of the new profile is the one that was set, or it was there before. -/
theorem mem_withPreference {record : PreferenceRecord}
    (h : record ∈ (profile.withPreference scopeId owner key value).preferences) :
    record = ⟨scopeId, owner.instanceId, owner.componentId, key, value⟩ ∨
      record ∈ profile.preferences := by
  rw [withPreference, replacedPreferences] at h
  dsimp only at h
  split at h
  · obtain ⟨before, hbefore, rfl⟩ := List.mem_map.mp h
    by_cases haddress : before.address = ((scopeId, owner), key)
    · left
      rw [replaceValue, if_pos haddress]
      cases before
      cases haddress
      rfl
    · right
      rw [replaceValue_of_ne haddress]
      exact hbefore
  · rcases List.mem_append.mp h with hbefore | hnew
    · exact .inr hbefore
    · exact .inl (List.mem_singleton.mp hnew)

/-- The entry that was set is there. -/
theorem set_mem_withPreference :
    ⟨scopeId, owner.instanceId, owner.componentId, key, value⟩ ∈
      (profile.withPreference scopeId owner key value).preferences := by
  rw [withPreference, replacedPreferences]
  dsimp only
  split
  · next hthere =>
      obtain ⟨before, hbefore, haddress⟩ := List.mem_map.mp (any_address_iff.mp hthere)
      refine List.mem_map.mpr ⟨before, hbefore, ?_⟩
      rw [replaceValue, if_pos haddress]
      cases before
      cases haddress
      rfl
  · exact List.mem_append_right _ List.mem_cons_self

/-- The new profile is valid exactly when the preference fits and the component is within its
quota. -/
theorem valid_withPreference_iff (h : profile.Valid) :
    (profile.withPreference scopeId owner key value).Valid ↔
      FitsPreference key value ∧ WithinQuota (profile.ownedWith scopeId owner key value) := by
  constructor
  · intro hvalid
    exact ⟨hvalid.fits _ set_mem_withPreference, hvalid.quota scopeId owner⟩
  · intro hset
    refine ⟨h.selections, h.grants, ?_, ?_, ?_⟩
    · intro record hrecord
      rcases mem_withPreference hrecord with rfl | hbefore
      · exact hset.1
      · exact h.fits record hbefore
    · rw [addresses_withPreference]
      split
      · exact h.addresses
      · next hnew =>
          refine List.nodup_append.mpr ⟨h.addresses, List.nodup_singleton _, ?_⟩
          intro first hfirst second hsecond hsame
          rw [List.mem_singleton.mp hsecond] at hsame
          exact hnew (hsame ▸ hfirst)
    · intro scopeId' owner'
      by_cases hsame : (scopeId', owner') = (scopeId, owner)
      · cases hsame
        exact hset.2
      · rw [owned_withPreference_of_ne hsame]
        exact h.quota scopeId' owner'

/-! ## The incremental quota -/

/-- The preferences that a component with an entry for a key would have. -/
theorem ownedWith_of_mem
    (hthere : ((scopeId, owner), key) ∈ profile.preferences.map PreferenceRecord.address) :
    profile.ownedWith scopeId owner key value =
      (profile.ownedPreferences scopeId owner).map (replaceValue scopeId owner key value) := by
  rw [ownedWith, ownedPreferences, withPreference]
  dsimp only
  rw [replacedPreferences_of_mem hthere, owned_replaced]

/-- The preferences that a component without an entry for a key would have. -/
theorem ownedWith_of_not_mem
    (hnew : ((scopeId, owner), key) ∉ profile.preferences.map PreferenceRecord.address) :
    profile.ownedWith scopeId owner key value =
      profile.ownedPreferences scopeId owner ++
        [⟨scopeId, owner.instanceId, owner.componentId, key, value⟩] := by
  have hself : [(⟨scopeId, owner.instanceId, owner.componentId, key, value⟩ :
      PreferenceRecord)].filter (fun item => item.ownerMatches scopeId owner) =
      [⟨scopeId, owner.instanceId, owner.componentId, key, value⟩] :=
    List.filter_eq_self.mpr fun record hrecord => by
      rw [List.mem_singleton.mp hrecord, PreferenceRecord.ownerMatches_iff]
      rfl
  rw [ownedWith, ownedPreferences, withPreference]
  dsimp only
  rw [replacedPreferences_of_not_mem hnew, List.filter_append, hself, ownedPreferences]

/-- Numbers far below the largest one are added without saturation. -/
theorem saturatingSizeAdd_eq_add {a b : Nat} (ha : a ≤ 2 * maxPreferenceTotalBytesPerComponent)
    (hb : b ≤ maxPreferenceTotalBytesPerComponent) : saturatingSizeAdd a b = a + b := by
  have hlimit : 3 * maxPreferenceTotalBytesPerComponent ≤ usizeMax := by decide
  rw [saturatingSizeAdd]
  omega

/-- The computed numbers are within the limits exactly when the new preferences are. -/
theorem nextQuota_iff (h : profile.Valid) (hfits : FitsPreference key value) :
    let current := profile.preferences.find? fun item =>
      item.ownerMatches scopeId owner && item.key == key
    let owned := profile.ownedPreferences scopeId owner
    let nextCount := if current.isSome then owned.length else saturatingSizeAdd owned.length 1
    let nextBytes := saturatingSizeAdd
      (saturatingSizeAdd (countBytes owned - (current.map PreferenceRecord.bytes).getD 0)
        key.utf8ByteSize) value.utf8ByteSize
    WithinQuota (profile.ownedWith scopeId owner key value) ↔
      nextCount ≤ maxPreferenceEntriesPerComponent ∧
        nextBytes ≤ maxPreferenceTotalBytesPerComponent := by
  intro current owned nextCount nextBytes
  have hquota : WithinQuota owned := h.quota scopeId owner
  have hcounted : countBytes owned = (owned.map PreferenceRecord.bytes).sum := by
    have hlimit : maxPreferenceTotalBytesPerComponent < usizeMax := by decide
    rw [countBytes_eq]
    exact Nat.min_eq_left (Nat.le_trans hquota.bytes hlimit.le)
  have hadded : ∀ total, total ≤ maxPreferenceTotalBytesPerComponent →
      saturatingSizeAdd (saturatingSizeAdd total key.utf8ByteSize) value.utf8ByteSize =
        total + (key.utf8ByteSize + value.utf8ByteSize) := by
    intro total htotal
    have hkey : maxPreferenceKeyBytes ≤ maxPreferenceTotalBytesPerComponent := by decide
    have hvalue : maxPreferenceValueBytes ≤ maxPreferenceTotalBytesPerComponent := by decide
    have hfirst : total + key.utf8ByteSize ≤ 2 * maxPreferenceTotalBytesPerComponent := by
      have := hfits.2.1
      omega
    rw [saturatingSizeAdd_eq_add (by omega) (hfits.2.1.trans hkey),
      saturatingSizeAdd_eq_add hfirst (hfits.2.2.trans hvalue), Nat.add_assoc]
  cases hcurrent : current with
  | none =>
      have hnew := find_isCurrent_eq_none_iff.mp hcurrent
      have hcount : nextCount = owned.length + 1 := by
        have hlimit : maxPreferenceEntriesPerComponent ≤ maxPreferenceTotalBytesPerComponent := by
          decide
        simp only [nextCount, hcurrent]
        exact saturatingSizeAdd_eq_add (by have := hquota.entries; omega) (by decide)
      have hbytes : nextBytes = (owned.map PreferenceRecord.bytes).sum +
          (key.utf8ByteSize + value.utf8ByteSize) := by
        simp only [nextBytes, hcurrent, hcounted, Option.map_none, Option.getD_none, Nat.sub_zero]
        exact hadded _ hquota.bytes
      rw [ownedWith_of_not_mem hnew, hcount, hbytes]
      constructor
      · intro hwithin
        have hentries := hwithin.entries
        have hsum := hwithin.bytes
        rw [List.length_append] at hentries
        rw [List.map_append, List.sum_append] at hsum
        exact ⟨hentries, hsum⟩
      · intro hwithin
        refine ⟨?_, ?_⟩
        · rw [List.length_append]
          exact hwithin.1
        · rw [List.map_append, List.sum_append]
          exact hwithin.2
  | some record =>
      obtain ⟨hrecord, haddress⟩ := find_isCurrent hcurrent
      have hthere : ((scopeId, owner), key) ∈ profile.preferences.map PreferenceRecord.address :=
        haddress ▸ List.mem_map_of_mem hrecord
      have howned : record ∈ owned :=
        mem_ownedPreferences.mpr ⟨hrecord, congrArg Prod.fst haddress⟩
      have hpart : record.bytes ≤ (owned.map PreferenceRecord.bytes).sum :=
        List.le_sum_of_mem (List.mem_map_of_mem howned)
      have hreplaced : (((owned.map (replaceValue scopeId owner key value)).map
          PreferenceRecord.bytes).sum + record.bytes =
            (owned.map PreferenceRecord.bytes).sum + (key.utf8ByteSize + value.utf8ByteSize)) :=
        bytes_replaced h hrecord haddress
      have hcount : nextCount = owned.length := by
        simp only [nextCount, hcurrent]
        rfl
      have hbytes : nextBytes = (owned.map PreferenceRecord.bytes).sum - record.bytes +
          (key.utf8ByteSize + value.utf8ByteSize) := by
        simp only [nextBytes, hcurrent, hcounted, Option.map_some, Option.getD_some]
        exact hadded _ ((Nat.sub_le _ _).trans hquota.bytes)
      rw [ownedWith_of_mem hthere, hcount, hbytes]
      constructor
      · intro hwithin
        have hsum : ((owned.map (replaceValue scopeId owner key value)).map
            PreferenceRecord.bytes).sum ≤ maxPreferenceTotalBytesPerComponent := hwithin.bytes
        refine ⟨hquota.entries, ?_⟩
        omega
      · intro hwithin
        refine ⟨?_, ?_⟩
        · rw [List.length_map]
          exact hquota.entries
        · change ((owned.map (replaceValue scopeId owner key value)).map
            PreferenceRecord.bytes).sum ≤ maxPreferenceTotalBytesPerComponent
          omega

/-! ## The outcomes -/

/-- The first entry for a key is replaced, or else a new one is appended. -/
theorem setPreferences_eq (h : profile.Valid) :
    (if (profile.preferences.find? fun item =>
          item.ownerMatches scopeId owner && item.key == key).isSome then
        setFirst (fun item => item.ownerMatches scopeId owner && item.key == key) value
          profile.preferences
      else profile.preferences ++ [⟨scopeId, owner.instanceId, owner.componentId, key, value⟩]) =
      profile.replacedPreferences scopeId owner key value := by
  by_cases hthere : ((scopeId, owner), key) ∈ profile.preferences.map PreferenceRecord.address
  · have hsome : (profile.preferences.find? fun item =>
        item.ownerMatches scopeId owner && item.key == key).isSome = true := by
      rw [Option.isSome_iff_ne_none]
      exact fun hnone => find_isCurrent_eq_none_iff.mp hnone hthere
    rw [if_pos hsome, replacedPreferences_of_mem hthere, setFirst_eq_map h.addresses]
  · rw [find_isCurrent_eq_none_iff.mpr hthere, replacedPreferences_of_not_mem hthere]
    rfl

/-- A preference is set when it fits and its component is within its quota, and otherwise the
profile stays. -/
theorem setPreference_cases (h : profile.Valid) :
    (FitsPreference key value ∧ WithinQuota (profile.ownedWith scopeId owner key value)) ∧
        profile.setPreference scopeId owner key value =
          (profile.withPreference scopeId owner key value, .ok ()) ∨
      ¬ (FitsPreference key value ∧ WithinQuota (profile.ownedWith scopeId owner key value)) ∧
        ∃ error, profile.setPreference scopeId owner key value = (profile, .error error) := by
  rw [setPreference]
  cases hvalue : validatePreferenceValue key value with
  | error error =>
      right
      refine ⟨fun hset => ?_, error, rfl⟩
      rw [validatePreferenceValue_eq_ok_iff.mpr hset.1] at hvalue
      cases hvalue
  | ok _ =>
      have hfits := validatePreferenceValue_eq_ok_iff.mp hvalue
      have hquota := @nextQuota_iff profile scopeId owner key value h hfits
      dsimp only at hquota ⊢
      by_cases hwithin : WithinQuota (profile.ownedWith scopeId owner key value)
      · left
        refine ⟨⟨hfits, hwithin⟩, ?_⟩
        rw [if_neg (by
          rw [not_or, Nat.not_lt, Nat.not_lt]
          exact hquota.mp hwithin), setPreferences_eq h]
        rfl
      · right
        refine ⟨fun hset => hwithin hset.2, .preferenceQuotaExceeded, ?_⟩
        rw [if_pos (by
          by_contra hnone
          rw [not_or, Nat.not_lt, Nat.not_lt] at hnone
          exact hwithin (hquota.mpr hnone))]

/-! ## Agreement with validation -/

/-- What setting a preference of a valid profile has to do. -/
structure SetsExactly (profile : CompositionProfile) (scopeId : RuntimeScopeId)
    (owner : ComponentRef) (key value : String)
    (outcome : CompositionProfile × ProfileResult Unit) : Prop where
  accepted : outcome.2 = .ok () ↔
    (profile.withPreference scopeId owner key value).validate = .ok ()
  replaced : outcome.2 = .ok () → outcome.1 = profile.withPreference scopeId owner key value
  rejected : ∀ error, outcome.2 = .error error → outcome.1 = profile
  others : outcome.1.preferences.filter (fun record =>
      decide (record.address ≠ ((scopeId, owner), key))) =
    profile.preferences.filter fun record =>
      decide (record.address ≠ ((scopeId, owner), key))
  kept : { outcome.1 with preferences := profile.preferences } = profile

/-- The entries with other names are the ones that were there. -/
theorem others_withPreference :
    (profile.withPreference scopeId owner key value).preferences.filter (fun record =>
        decide (record.address ≠ ((scopeId, owner), key))) =
      profile.preferences.filter fun record =>
        decide (record.address ≠ ((scopeId, owner), key)) := by
  rw [withPreference, replacedPreferences]
  dsimp only
  split
  · rw [List.filter_map]
    have hkept : (profile.preferences.filter fun record =>
        decide (record.address ≠ ((scopeId, owner), key))).map
          (replaceValue scopeId owner key value) =
        profile.preferences.filter fun record =>
          decide (record.address ≠ ((scopeId, owner), key)) := by
      apply map_replaceValue_of_not_mem
      intro hmem
      obtain ⟨record, hrecord, haddress⟩ := List.mem_map.mp hmem
      exact of_decide_eq_true (List.mem_filter.mp hrecord).2 haddress
    rw [← hkept]
    congr 1
    apply List.filter_congr
    intro record _
    simp
  · have hself : [(⟨scopeId, owner.instanceId, owner.componentId, key, value⟩ :
        PreferenceRecord)].filter (fun record =>
          decide (record.address ≠ ((scopeId, owner), key))) = [] :=
      List.filter_eq_nil_iff.mpr fun record hrecord => by
        rw [List.mem_singleton.mp hrecord, decide_eq_true_eq]
        exact fun hdifferent => hdifferent rfl
    rw [List.filter_append, hself, List.append_nil]

/-- A preference is set exactly when the profile with it is valid. -/
theorem set_preference_agrees_with_validate (hvalid : profile.validate = .ok ())
    (scopeId : RuntimeScopeId) (owner : ComponentRef) (key value : String) :
    SetsExactly profile scopeId owner key value
      (profile.setPreference scopeId owner key value) := by
  have h := profile.validate_eq_ok_iff.mp hvalid
  have haccepts : (profile.withPreference scopeId owner key value).validate = .ok () ↔
      FitsPreference key value ∧ WithinQuota (profile.ownedWith scopeId owner key value) :=
    (validate_eq_ok_iff _).trans (valid_withPreference_iff h)
  rcases @setPreference_cases profile scopeId owner key value h with
    ⟨hset, hdone⟩ | ⟨hunset, error, hdone⟩
  · rw [hdone]
    exact ⟨iff_of_true rfl (haccepts.mpr hset), fun _ => rfl, nofun, others_withPreference, rfl⟩
  · rw [hdone]
    exact ⟨iff_of_false nofun (mt haccepts.mp hunset), nofun, fun _ _ => rfl, rfl, rfl⟩

/-- A component that has as many preferences as it may. -/
def fullProfile : CompositionProfile :=
  { CompositionProfile.default with
    preferences := (List.range maxPreferenceEntriesPerComponent).map fun index =>
      ⟨⟨"host"⟩, ⟨"notes"⟩, ⟨"main"⟩, "key-" ++ toString index, "on"⟩ }

/-- The profile is valid: the keys are different, and the preferences just fit. -/
theorem validate_fullProfile : fullProfile.validate = .ok () := by
  have hsmall : ∀ record ∈ fullProfile.preferences, record.key ≠ "" ∧
      record.key.utf8ByteSize ≤ maxPreferenceKeyBytes ∧ record.bytes ≤ 4096 := by decide +kernel
  have hvalues : ∀ record ∈ fullProfile.preferences, record.value = "on" := by
    intro record hrecord
    obtain ⟨index, -, rfl⟩ := List.mem_map.mp hrecord
    rfl
  refine fullProfile.validate_eq_ok_iff.mpr
    ⟨.nil, .nil, fun record hrecord => ?_, ?_, fun scopeId owner => ?_⟩
  · obtain ⟨hkey, hsize, -⟩ := hsmall record hrecord
    refine ⟨hkey, hsize, ?_⟩
    rw [hvalues record hrecord]
    decide
  · unfold fullProfile
    rw [List.map_map]
    refine List.nodup_range.map fun index other hsame => ?_
    exact append_toString_injective "key-" (congrArg Prod.snd hsame)
  · have howned : (fullProfile.ownedPreferences scopeId owner).Sublist fullProfile.preferences :=
      List.filter_sublist
    have hlength : fullProfile.preferences.length = maxPreferenceEntriesPerComponent := by
      unfold fullProfile
      rw [List.length_map, List.length_range]
    have hcount : (fullProfile.ownedPreferences scopeId owner).length ≤
        maxPreferenceEntriesPerComponent := hlength ▸ howned.length_le
    have hbytes : ∀ bytes ∈ (fullProfile.ownedPreferences scopeId owner).map
        PreferenceRecord.bytes, bytes ≤ 4096 := by
      intro bytes hmem
      obtain ⟨record, hrecord, rfl⟩ := List.mem_map.mp hmem
      exact (hsmall record (howned.subset hrecord)).2.2
    have hsum := List.sum_le_card_nsmul _ _ hbytes
    rw [List.length_map, Nat.nsmul_eq_mul] at hsum
    have htotal : maxPreferenceEntriesPerComponent * 4096 = maxPreferenceTotalBytesPerComponent :=
      by decide +kernel
    exact ⟨hcount, htotal ▸ hsum.trans (Nat.mul_le_mul_right 4096 hcount)⟩

/-- The component can replace a preference that it has, and a further one is refused. -/
theorem set_preference_agrees_with_validate_full :
    let owner : ComponentRef := ⟨⟨"notes"⟩, ⟨"main"⟩⟩
    SetsExactly fullProfile ⟨"host"⟩ owner "key-7" "off"
        (fullProfile.setPreference ⟨"host"⟩ owner "key-7" "off") ∧
      (fullProfile.setPreference ⟨"host"⟩ owner "key-7" "off").2.toBool = true ∧
      SetsExactly fullProfile ⟨"host"⟩ owner "theme" "dark"
        (fullProfile.setPreference ⟨"host"⟩ owner "theme" "dark") ∧
      (fullProfile.setPreference ⟨"host"⟩ owner "theme" "dark").2.toBool = false := by
  intro owner
  refine ⟨set_preference_agrees_with_validate validate_fullProfile _ _ _ _, ?_,
    set_preference_agrees_with_validate validate_fullProfile _ _ _ _, ?_⟩
  · decide +kernel
  · decide +kernel

end CompositionProfile

end Rintawa.Host
