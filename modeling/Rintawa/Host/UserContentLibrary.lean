/-
# The library of user content over whole histories

Artifacts are added to the store of a home while its library of user content is changed and
listed. Every call may meet failures of the file system. The entries of the index keep
unique identities in ascending order, and each refers to a stored artifact of its own type,
although only listings check revisions that were there before.
-/

import Rintawa.Host.UserContent
import Rintawa.Lib.Transition

namespace Rintawa.Host

open Rintawa.Lib Rintawa.Artifacts

/-! ## Sorted entries -/

/-- Entries have unique identities and are sorted by them. -/
def SortedEntries (entries : List UserContentEntry) : Prop :=
  entries.Pairwise fun left right => left.id.rank < right.id.rank

variable {entries : List UserContentEntry} {entry : UserContentEntry}

theorem mem_sortEntries : entry ∈ sortEntries entries ↔ entry ∈ entries :=
  List.mem_insertionSort _

theorem SortedEntries.nodup (h : SortedEntries entries) :
    (entries.map UserContentEntry.id).Nodup := by
  rw [List.Nodup, List.pairwise_map]
  exact h.imp fun hlt hsame => Nat.ne_of_lt hlt (congrArg _ hsame)

/-- Sorting distinct identities sorts them strictly. -/
theorem sortedEntries_sortEntries (hnodup : (entries.map UserContentEntry.id).Nodup) :
    SortedEntries (sortEntries entries) := by
  have hperm : (sortEntries entries).Perm entries := List.perm_insertionSort _ _
  have hle : (sortEntries entries).Pairwise fun left right => left.id.rank ≤ right.id.rank := by
    have : Std.Total fun left right : UserContentEntry => left.id.rank ≤ right.id.rank :=
      ⟨fun left right => Nat.le_total _ _⟩
    have : IsTrans UserContentEntry fun left right => left.id.rank ≤ right.id.rank :=
      ⟨fun _ _ _ => Nat.le_trans⟩
    exact List.pairwise_insertionSort _ _
  have hne : (sortEntries entries).Pairwise fun left right => left.id ≠ right.id :=
    List.pairwise_map.mp ((hperm.map _).nodup_iff.mpr hnodup)
  exact hle.imp₂ (fun _ _ hle hne =>
    Nat.lt_of_le_of_ne hle fun hsame => hne (UserContentId.rank_injective hsame)) hne

/-- Sorting changes nothing that is sorted. -/
theorem SortedEntries.sortEntries_eq (h : SortedEntries entries) : sortEntries entries = entries :=
  List.Pairwise.insertionSort_eq (h.imp Nat.le_of_lt)

/-- Sorted entries are the same when they have the same identity. -/
theorem SortedEntries.unique (h : SortedEntries entries) {first second : UserContentEntry}
    (hfirst : first ∈ entries) (hsecond : second ∈ entries) (hid : first.id = second.id) :
    first = second :=
  List.inj_on_of_nodup_map h.nodup hfirst hsecond hid

/-! ## Reading and writing the index -/

/-- An attempt in which nothing fails. -/
def undisturbed : Attempt where
  metadataFault := none
  metadataFault_ne := by simp
  readFault := none
  openFault _ := none
  directoryFault := none
  writeFault := none
  newId := ⟨0⟩

section Index

variable {toml : LibraryToml} {store : ArtifactStore}

variable {library : UserContentLibrary} {attempt : Attempt} {file : Option IndexFile}

theorem sorted_of_parse {source : String} (h : UserContentLibrary.parse toml source = .ok library) :
    library.schema = userContentLibrarySchema ∧ SortedEntries library.entries := by
  unfold UserContentLibrary.parse at h
  split at h
  · cases h
  · next read hread =>
      split at h
      · cases h
      · next hschema =>
          dsimp only at h
          split at h
          · cases h
          · next hunique =>
              cases h
              have hnodup := (firstRepeated_eq_none_iff.mp hunique).1
              refine ⟨not_not.mp hschema, sortedEntries_sortEntries ?_⟩
              exact ((List.perm_insertionSort _ _).map _).nodup_iff.mp hnodup

/-- What an attempt reads is in the file. -/
theorem load_undisturbed (h : UserContentLibrary.load toml attempt file = .ok library) :
    UserContentLibrary.load toml undisturbed file = .ok library := by
  unfold UserContentLibrary.load at h
  split at h
  · cases h
  · exact h
  · cases h
  · next hfault bytes =>
      cases hread : attempt.readFault with
      | some error => simp [fault, hread, bind, Except.bind] at h
      | none => simpa [UserContentLibrary.load, undisturbed, fault, hread] using h

theorem sorted_of_load (h : UserContentLibrary.load toml attempt file = .ok library) :
    library.schema = userContentLibrarySchema ∧ SortedEntries library.entries := by
  unfold UserContentLibrary.load at h
  split at h
  · cases h
  · cases h
    exact ⟨rfl, .nil⟩
  · cases h
  · next hfault bytes =>
      simp only [bind_eq_ok_iff] at h
      obtain ⟨⟨⟩, -, h⟩ := h
      split at h
      · cases h
      · exact sorted_of_parse h

/-- A sorted index is read back after it was saved. -/
theorem load_of_save (htoml : toml.RoundTrips) {file' : Option IndexFile}
    (hschema : library.schema = userContentLibrarySchema) (hsorted : SortedEntries library.entries)
    (h : library.save toml attempt file = (.ok (), file')) :
    UserContentLibrary.load toml undisturbed file' = .ok library := by
  obtain ⟨schema, entries⟩ := library
  dsimp only at hschema hsorted
  subst hschema
  unfold UserContentLibrary.save at h
  split at h
  · cases h
  · split at h
    · cases h
    · next source hsource =>
        split at h
        · cases h
        · cases h
          have hunique : firstRepeated [] (entries.map UserContentEntry.id) = none :=
            firstRepeated_eq_none_iff.mpr ⟨hsorted.nodup, by simp⟩
          simp [UserContentLibrary.load, undisturbed, fault, Text.intoBytes, bind, Except.bind,
            UserContentLibrary.parse, htoml _ source hsource, hsorted.sortEntries_eq, hunique]

/-- A save that fails leaves the file. -/
theorem file_of_save_error {file' : Option IndexFile} {error : HostError}
    (h : library.save toml attempt file = (.error error, file')) : file' = file := by
  unfold UserContentLibrary.save at h
  split at h
  · cases h; rfl
  · split at h
    · cases h; rfl
    · split at h
      · cases h; rfl
      · cases h

/-- A store has an artifact of the given type under a digest. -/
def HasContent (store : ArtifactStore) (objects : StoredObjects) (revision : ArtifactDigest)
    (content : ContentType) : Prop :=
  ∃ archive, store.Has objects revision archive ∧ archive.manifest.content = content

theorem verifyUserContentRevision_eq_ok_iff {home : HostHome} {id : UserContentId}
    {content : ContentType} {revision : ArtifactDigest} {value : Unit} :
    home.verifyUserContentRevision store attempt id content revision = .ok value ↔
      attempt.openFault revision = none ∧ HasContent store home.objects revision content := by
  unfold HostHome.verifyUserContentRevision
  cases hopen : store.openArtifact home.objects (attempt.openFault revision) revision with
  | error error =>
      refine ⟨by rintro ⟨⟩, fun ⟨hfault, archive, hhas, _⟩ => ?_⟩
      cases hopen.symm.trans (ArtifactStore.openArtifact_eq_ok_iff.mpr ⟨hfault, hhas⟩)
  | ok archive =>
      have hhas := ArtifactStore.openArtifact_eq_ok_iff.mp hopen
      dsimp only
      split
      · next hcontent =>
          refine ⟨by rintro ⟨⟩, fun ⟨_, other, hother, hsame⟩ => ?_⟩
          have hopen' := ArtifactStore.openArtifact_eq_ok_iff.mpr ⟨hhas.1, hother⟩
          cases hopen.symm.trans hopen'
          exact absurd hsame hcontent
      · next hcontent => simpa using ⟨hhas.1, archive, hhas.2, not_not.mp hcontent⟩

/-! ## Positions -/

theorem id_of_position {id : UserContentId} {index : Fin library.entries.length}
    (h : HostHome.position library id = .ok index) : (library.entries.get index).id = id := by
  unfold HostHome.position at h
  split at h
  · cases h
  · next found hfound =>
      cases h
      simpa using (List.findFinIdx?_eq_some_iff.mp hfound).1

/-- Removing an entry by its position removes what has its identity. -/
theorem mem_eraseIdx (hsorted : SortedEntries entries) (index : Fin entries.length)
    (entry : UserContentEntry) :
    entry ∈ entries.eraseIdx index ↔ entry ∈ entries ∧ entry.id ≠ (entries.get index).id := by
  rw [List.mem_eraseIdx_iff_getElem]
  constructor
  · rintro ⟨other, hlt, hne, rfl⟩
    refine ⟨List.getElem_mem _, fun hid => hne ?_⟩
    have hsame := hsorted.unique (List.getElem_mem _) (List.get_mem entries index) hid
    exact (hsorted.nodup.of_map _).getElem_inj_iff.mp hsame
  · rintro ⟨hmem, hid⟩
    obtain ⟨other, hlt, rfl⟩ := List.mem_iff_getElem.mp hmem
    refine ⟨other, hlt, ?_, rfl⟩
    rintro rfl
    exact hid rfl

/-- An entry that keeps its identity keeps its place. -/
theorem SortedEntries.set (hsorted : SortedEntries entries) (index : Fin entries.length)
    (hid : entry.id = (entries.get index).id) : SortedEntries (entries.set index entry) := by
  have hmap : (entries.set index entry).map (fun entry => entry.id.rank) =
      entries.map fun entry => entry.id.rank := by
    have hlt : index.val < (entries.map fun entry => entry.id.rank).length := by simp
    have hplace : (entries.get index).id.rank =
        (entries.map fun entry => entry.id.rank).get ⟨index, hlt⟩ := by simp
    rw [List.map_set, hid, hplace]
    exact List.set_getElem_self hlt
  have hranks := List.pairwise_map.mpr hsorted
  rw [← hmap] at hranks
  exact List.pairwise_map.mp hranks

theorem mem_set (hsorted : SortedEntries entries) (index : Fin entries.length)
    (hid : entry.id = (entries.get index).id) (other : UserContentEntry) :
    other ∈ entries.set index entry ↔ other = entry ∨ other ∈ entries ∧ other.id ≠ entry.id := by
  have hself : entry ∈ entries.set index entry := List.mem_set index.isLt entry
  constructor
  · intro hmem
    by_cases hsame : other.id = entry.id
    · exact .inl ((hsorted.set index hid).unique hmem hself hsame)
    · rcases List.mem_or_eq_of_mem_set hmem with hbefore | rfl
      · exact .inr ⟨hbefore, hsame⟩
      · exact absurd rfl hsame
  · rintro (rfl | ⟨hbefore, hne⟩)
    · exact hself
    · obtain ⟨place, hlt, rfl⟩ := List.mem_iff_getElem.mp hbefore
      have hplace : index.val ≠ place := by
        rintro rfl
        exact hne hid.symm
      refine List.mem_iff_getElem.mpr ⟨place, by simpa using hlt, ?_⟩
      exact List.getElem_set_ne hplace _

/-! ## One call -/

end Index

/-- A call on the library of a home. -/
inductive UserContentCall
  | insert (content : ContentType) (revision : ArtifactDigest)
  | replace (id : UserContentId) (content : ContentType) (revision : ArtifactDigest)
  | remove (id : UserContentId)
  | list
  deriving DecidableEq

/-- What a call of the library returns. -/
inductive UserContentReply
  | entry (entry : UserContentEntry)
  | entries (entries : List UserContentEntry)
  deriving DecidableEq

def singleEntry (outcome : HostResult UserContentEntry × HostHome) :
    HostResult UserContentReply × HostHome :=
  (outcome.1.map .entry, outcome.2)

def HostHome.perform (home : HostHome) (toml : LibraryToml) (store : ArtifactStore)
    (attempt : Attempt) : UserContentCall → HostResult UserContentReply × HostHome
  | .insert content revision =>
      singleEntry (home.insertUserContentRevision toml store attempt content revision)
  | .replace id content revision =>
      singleEntry (home.replaceUserContentRevision toml store attempt id content revision)
  | .remove id => singleEntry (home.removeUserContent toml attempt id)
  | .list => ((home.listUserContent toml store attempt).map .entries, home)

/-- What a call that succeeds does to the entries. -/
inductive Changes (store : ArtifactStore) (objects : StoredObjects) (newId : UserContentId) :
    UserContentCall → UserContentReply → List UserContentEntry → List UserContentEntry → Prop
  | insert {content : ContentType} {revision : ArtifactDigest}
      {before after : List UserContentEntry} :
      HasContent store objects revision content →
      (∀ entry, entry ∈ after ↔ entry = ⟨newId, content, revision⟩ ∨ entry ∈ before) →
      Changes store objects newId (.insert content revision)
        (.entry ⟨newId, content, revision⟩) before after
  | replace {id : UserContentId} {content : ContentType} {revision : ArtifactDigest}
      {old : UserContentEntry} {before after : List UserContentEntry} :
      HasContent store objects revision content →
      old ∈ before → old.id = id → old.content = content →
      (∀ entry, entry ∈ after ↔
        entry = ⟨id, content, revision⟩ ∨ entry ∈ before ∧ entry.id ≠ id) →
      Changes store objects newId (.replace id content revision)
        (.entry ⟨id, content, revision⟩) before after
  | remove {id : UserContentId} {old : UserContentEntry}
      {before after : List UserContentEntry} :
      old ∈ before → old.id = id →
      (∀ entry, entry ∈ after ↔ entry ∈ before ∧ entry.id ≠ id) →
      Changes store objects newId (.remove id) (.entry old) before after
  | list {entries : List UserContentEntry} :
      (∀ entry ∈ entries, HasContent store objects entry.revision entry.content) →
      Changes store objects newId .list (.entries entries) entries entries

section Calls

variable {toml : LibraryToml} {store : ArtifactStore} {home home' : HostHome} {attempt : Attempt}

variable {change : UserContentLibrary → HostResult (UserContentEntry × UserContentLibrary)}

theorem rewriteUserContent_error {error : HostError}
    (h : home.rewriteUserContent toml attempt change = (.error error, home')) : home' = home := by
  unfold HostHome.rewriteUserContent at h
  split at h
  · cases h; rfl
  · split at h
    · cases h; rfl
    · next entry changed hchange =>
        dsimp only at h
        cases hsave : changed.save toml attempt home.userContentFile with
        | mk outcome file =>
            rw [hsave] at h
            cases outcome with
            | ok => simp [Except.map] at h
            | error =>
                cases h
                rw [file_of_save_error hsave]

theorem rewriteUserContent_ok
    (h : home.rewriteUserContent toml attempt change = (.ok entry, home')) :
    ∃ library changed, UserContentLibrary.load toml attempt home.userContentFile = .ok library ∧
      change library = .ok (entry, changed) ∧
      changed.save toml attempt home.userContentFile = (.ok (), home'.userContentFile) ∧
      home'.objects = home.objects := by
  unfold HostHome.rewriteUserContent at h
  split at h
  · cases h
  · next library hload =>
      split at h
      · cases h
      · next written changed hchange =>
          dsimp only at h
          cases hsave : changed.save toml attempt home.userContentFile with
          | mk outcome file =>
              rw [hsave] at h
              cases outcome with
              | error => simp [Except.map] at h
              | ok =>
                  cases h
                  exact ⟨library, changed, hload, hchange, hsave, rfl⟩

/-- The library that a home has. -/
def HostHome.Reads (toml : LibraryToml) (home : HostHome) (library : UserContentLibrary) : Prop :=
  UserContentLibrary.load toml undisturbed home.userContentFile = .ok library

theorem HostHome.Reads.sorted {library : UserContentLibrary} (h : home.Reads toml library) :
    SortedEntries library.entries :=
  (sorted_of_load h).2

/-- The effect of a call follows from what it does to the library that it reads. -/
theorem changes_of_rewrite (htoml : toml.RoundTrips) {objects : StoredObjects}
    {newId : UserContentId} {call : UserContentCall}
    (h : home.rewriteUserContent toml attempt change = (.ok entry, home'))
    (hchange : ∀ library changed, home.Reads toml library →
      change library = .ok (entry, changed) →
      changed.schema = library.schema ∧ SortedEntries changed.entries ∧
        Changes store objects newId call (.entry entry) library.entries changed.entries) :
    ∃ before after, home.Reads toml before ∧ home'.Reads toml after ∧
      home'.objects = home.objects ∧
      Changes store objects newId call (.entry entry) before.entries after.entries := by
  obtain ⟨library, changed, hload, hchanged, hsave, hobjects⟩ := rewriteUserContent_ok h
  have hreads : home.Reads toml library := load_undisturbed hload
  obtain ⟨hschema, hsorted, hchanges⟩ := hchange library changed hreads hchanged
  have hafter := load_of_save htoml (hschema.trans (sorted_of_load hload).1) hsorted hsave
  exact ⟨library, changed, hreads, hafter, hobjects, hchanges⟩

theorem changes_insert (htoml : toml.RoundTrips) {content : ContentType} {revision : ArtifactDigest}
    (hfresh : ∀ library, home.Reads toml library →
      ∀ entry ∈ library.entries, entry.id ≠ attempt.newId)
    (h : home.insertUserContentRevision toml store attempt content revision =
      (.ok entry, home')) :
    ∃ before after, home.Reads toml before ∧ home'.Reads toml after ∧
      home'.objects = home.objects ∧
      Changes store home.objects attempt.newId (.insert content revision) (.entry entry)
        before.entries after.entries := by
  refine changes_of_rewrite htoml h fun library changed hreads hchange => ?_
  simp only [bind_eq_ok_iff, verifyUserContentRevision_eq_ok_iff] at hchange
  obtain ⟨⟨⟩, ⟨-, hcontent⟩, hchange⟩ := hchange
  cases hchange
  refine ⟨rfl, sortedEntries_sortEntries ?_, .insert hcontent fun other => ?_⟩
  · rw [List.map_append, List.nodup_append]
    refine ⟨hreads.sorted.nodup, by simp, ?_⟩
    intro id hid last hlast
    obtain ⟨other, hother, rfl⟩ := List.mem_map.mp hid
    cases List.mem_singleton.mp hlast
    exact hfresh library hreads other hother
  · rw [mem_sortEntries, List.mem_append, List.mem_singleton, or_comm]

theorem changes_replace (htoml : toml.RoundTrips) {id : UserContentId} {content : ContentType}
    {revision : ArtifactDigest}
    (h : home.replaceUserContentRevision toml store attempt id content revision =
      (.ok entry, home')) :
    ∃ before after, home.Reads toml before ∧ home'.Reads toml after ∧
      home'.objects = home.objects ∧
      Changes store home.objects attempt.newId (.replace id content revision) (.entry entry)
        before.entries after.entries := by
  refine changes_of_rewrite htoml h fun library changed hreads hchange => ?_
  simp only [bind_eq_ok_iff] at hchange
  obtain ⟨index, hindex, hchange⟩ := hchange
  have hid := id_of_position hindex
  split at hchange
  · cases hchange
  · next hsame =>
      simp only [bind_eq_ok_iff, verifyUserContentRevision_eq_ok_iff] at hchange
      obtain ⟨⟨⟩, ⟨-, hcontent⟩, hchange⟩ := hchange
      cases hchange
      have hupdated : { library.entries.get index with revision := revision } =
          (⟨id, content, revision⟩ : UserContentEntry) := by
        rw [← hid, ← not_not.mp hsame]
      rw [hupdated]
      refine ⟨rfl, hreads.sorted.set index hid.symm, ?_⟩
      refine .replace hcontent (List.get_mem _ index) hid (not_not.mp hsame) fun other => ?_
      exact mem_set hreads.sorted index hid.symm other

theorem changes_remove (htoml : toml.RoundTrips) {id : UserContentId}
    (h : home.removeUserContent toml attempt id = (.ok entry, home')) :
    ∃ before after, home.Reads toml before ∧ home'.Reads toml after ∧
      home'.objects = home.objects ∧
      Changes store home.objects attempt.newId (.remove id) (.entry entry)
        before.entries after.entries := by
  refine changes_of_rewrite htoml h fun library changed hreads hchange => ?_
  simp only [bind_eq_ok_iff] at hchange
  obtain ⟨index, hindex, hchange⟩ := hchange
  cases hchange
  have hid := id_of_position hindex
  refine ⟨rfl, hreads.sorted.sublist (List.eraseIdx_sublist _ _), ?_⟩
  refine .remove (List.get_mem _ index) hid fun other => ?_
  rw [mem_eraseIdx hreads.sorted index, hid]

theorem changes_list (h : home.listUserContent toml store attempt = .ok entries) :
    ∃ library, home.Reads toml library ∧ library.entries = entries ∧
      Changes store home.objects attempt.newId .list (.entries entries) entries entries := by
  simp only [HostHome.listUserContent, HostHome.loadUserContentLibrary, bind_eq_ok_iff] at h
  obtain ⟨library, ⟨read, hload, ⟨⟩, hverified, hread⟩, hentries⟩ := h
  cases hread
  cases hentries
  refine ⟨library, load_undisturbed hload, rfl, .list fun entry hentry => ?_⟩
  have hentry' := (forM_eq_ok_iff.mp hverified) entry hentry
  exact (verifyUserContentRevision_eq_ok_iff.mp hentry').2

end Calls

end Rintawa.Host
