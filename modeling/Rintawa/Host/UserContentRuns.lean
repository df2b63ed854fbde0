/-
# Histories of the library of user content

The identity of an entry is new when it is inserted, so that an entry of a later library is
either of an identity that was never used before, or it descends from an entry of the
earlier library and has its type. An identity that was removed is used and not listed, and
so it stays.
-/

import Rintawa.Artifacts.PackAgreement
import Rintawa.Host.UserContentLibrary

namespace Rintawa.Host

open Rintawa.Lib Rintawa.Artifacts

/-! ## The system -/

/-- A home with the identities that its entries ever had. -/
structure LibraryState where
  home : HostHome
  used : List UserContentId

/-- A call with its outcome, or an import of the old documents. -/
inductive LibraryLabel
  | called (call : UserContentCall) (attempt : Attempt) (reply : HostResult UserContentReply)
  | imported

/-- The identity that a call puts to use. -/
def issued (newId : UserContentId) : UserContentCall → HostResult UserContentReply →
    List UserContentId
  | .insert _ _, .ok _ => [newId]
  | _, _ => []

section System

variable (toml : LibraryToml) (store : ArtifactStore)

/-- Calls are made one after the other, and artifacts are stored between them. -/
inductive LibraryStep : LibraryState → LibraryLabel → LibraryState → Prop
  | called {s : LibraryState} {call : UserContentCall} {attempt : Attempt}
      {reply : HostResult UserContentReply} {home : HostHome} :
      (∀ content revision, call = .insert content revision → attempt.newId ∉ s.used) →
      s.home.perform toml store attempt call = (reply, home) →
      LibraryStep s (.called call attempt reply)
        ⟨home, issued attempt.newId call reply ++ s.used⟩
  | imported {s : LibraryState} {objects : StoredObjects} :
      s.home.objects.Extends objects →
      LibraryStep s .imported ⟨{ s.home with objects := objects }, s.used⟩

/-- A new home has no index yet. Its store may have objects. -/
def librarySystem : Lts LibraryState LibraryLabel where
  init s := s.home.userContentFile = none ∧ s.used = []
  step := LibraryStep toml store

/-- An entry that is in the index of a home. -/
def HostHome.Indexed (home : HostHome) (entry : UserContentEntry) : Prop :=
  ∃ library, home.Reads toml library ∧ entry ∈ library.entries

/-- Every entry refers to a stored artifact of its type, and its identity is in use. -/
def LibraryInvariant (s : LibraryState) : Prop :=
  ∃ library, s.home.Reads toml library ∧
    (∀ entry ∈ library.entries,
      HasContent store s.home.objects entry.revision entry.content) ∧
    ∀ entry ∈ library.entries, entry.id ∈ s.used

/-- What the entries of a later library have to do with those of an earlier one. -/
structure Descends (s t : LibraryState) : Prop where
  used : ∀ id ∈ s.used, id ∈ t.used
  indexed : ∀ later, t.home.Indexed toml later → later.id ∉ s.used ∨
    ∃ entry, s.home.Indexed toml entry ∧ entry.id = later.id ∧ entry.content = later.content

end System

section Runs

variable {toml : LibraryToml} {store : ArtifactStore} {s t u : LibraryState}

/-! ## One step -/

theorem HasContent.extends {objects after : StoredObjects} {revision : ArtifactDigest}
    {content : ContentType} (h : HasContent store objects revision content)
    (hextends : objects.Extends after) : HasContent store after revision content := by
  obtain ⟨archive, hhas, hcontent⟩ := h
  exact ⟨archive, hhas.extends hextends, hcontent⟩

variable {entry : UserContentEntry} {attempt : Attempt}

variable {home : HostHome}

theorem HostHome.Reads.indexed_iff {library : UserContentLibrary} (h : home.Reads toml library) :
    home.Indexed toml entry ↔ entry ∈ library.entries := by
  constructor
  · rintro ⟨other, hother, hentry⟩
    cases hother.symm.trans h
    exact hentry
  · intro hentry
    exact ⟨library, h, hentry⟩

/-- A call that fails changes nothing. -/
theorem home_of_perform_error {home' : HostHome} {call : UserContentCall} {error : HostError}
    (h : home.perform toml store attempt call = (.error error, home')) : home' = home := by
  have single {outcome : HostResult UserContentEntry × HostHome}
      (hsingle : singleEntry outcome = (.error error, home')) :
      outcome = (.error error, home') := by
    obtain ⟨result, after⟩ := outcome
    cases result with
    | ok => simp [singleEntry, Except.map] at hsingle
    | error => simpa [singleEntry, Except.map] using hsingle
  cases call with
  | insert => exact rewriteUserContent_error (single h)
  | replace => exact rewriteUserContent_error (single h)
  | remove => exact rewriteUserContent_error (single h)
  | list =>
      simp only [HostHome.perform, Prod.mk.injEq] at h
      exact h.2.symm

/-- A call that succeeds changes what it is about, and nothing else. -/
theorem changes_of_perform (htoml : toml.RoundTrips) {home' : HostHome} {call : UserContentCall}
    {reply : UserContentReply} (hfresh : ∀ content revision, call = .insert content revision →
      ∀ entry, home.Indexed toml entry → entry.id ≠ attempt.newId)
    (h : home.perform toml store attempt call = (.ok reply, home')) :
    ∃ before after, home.Reads toml before ∧ home'.Reads toml after ∧
      home'.objects = home.objects ∧
      Changes store home.objects attempt.newId call reply before.entries after.entries := by
  have single {outcome : HostResult UserContentEntry × HostHome}
      (hsingle : singleEntry outcome = (.ok reply, home')) :
      ∃ entry, reply = .entry entry ∧ outcome = (.ok entry, home') := by
    obtain ⟨result, after⟩ := outcome
    cases result with
    | error => simp [singleEntry, Except.map] at hsingle
    | ok entry =>
        cases hsingle
        exact ⟨entry, rfl, rfl⟩
  cases call with
  | insert content revision =>
      obtain ⟨entry, rfl, hinsert⟩ := single h
      refine changes_insert htoml (fun library hreads entry hentry => ?_) hinsert
      exact hfresh content revision rfl entry (hreads.indexed_iff.mpr hentry)
  | replace =>
      obtain ⟨entry, rfl, hreplace⟩ := single h
      exact changes_replace htoml hreplace
  | remove =>
      obtain ⟨entry, rfl, hremove⟩ := single h
      exact changes_remove htoml hremove
  | list =>
      simp only [HostHome.perform, Prod.mk.injEq] at h
      obtain ⟨hlist, rfl⟩ := h
      cases hresult : home.listUserContent toml store attempt with
      | error => simp [hresult, Except.map] at hlist
      | ok entries =>
          rw [hresult] at hlist
          cases hlist
          obtain ⟨library, hreads, hentries, hchanges⟩ := changes_list hresult
          rw [← hentries] at hchanges ⊢
          exact ⟨library, library, hreads, hreads, rfl, hchanges⟩

/-! ## What a change keeps -/

section Changes

variable {objects : StoredObjects} {newId : UserContentId} {call : UserContentCall}
  {reply : UserContentReply} {before after : List UserContentEntry}

theorem Changes.verified (h : Changes store objects newId call reply before after)
    (hbefore : ∀ entry ∈ before, HasContent store objects entry.revision entry.content) :
    ∀ entry ∈ after, HasContent store objects entry.revision entry.content := by
  intro entry hentry
  cases h with
  | insert hcontent hafter =>
      rcases (hafter entry).mp hentry with rfl | hold
      · exact hcontent
      · exact hbefore entry hold
  | replace hcontent _ _ _ hafter =>
      rcases (hafter entry).mp hentry with rfl | ⟨hold, -⟩
      · exact hcontent
      · exact hbefore entry hold
  | remove _ _ hafter => exact hbefore entry ((hafter entry).mp hentry).1
  | list => exact hbefore entry hentry

/-- An entry has a new identity or the type of the entry that had its identity before. -/
theorem Changes.descends (h : Changes store objects newId call reply before after) :
    ∀ entry ∈ after, entry.id ∈ issued newId call (.ok reply) ∨
      ∃ old ∈ before, old.id = entry.id ∧ old.content = entry.content := by
  intro entry hentry
  cases h with
  | insert _ hafter =>
      rcases (hafter entry).mp hentry with rfl | hold
      · exact .inl List.mem_cons_self
      · exact .inr ⟨entry, hold, rfl, rfl⟩
  | replace _ hmem hid hsame hafter =>
      rcases (hafter entry).mp hentry with rfl | ⟨hold, -⟩
      · exact .inr ⟨_, hmem, hid, hsame⟩
      · exact .inr ⟨entry, hold, rfl, rfl⟩
  | remove _ _ hafter => exact .inr ⟨entry, ((hafter entry).mp hentry).1, rfl, rfl⟩
  | list => exact .inr ⟨entry, hentry, rfl, rfl⟩

/-- The entries with other identities stay. -/
theorem Changes.others {changed : UserContentEntry}
    (h : Changes store objects newId call (.entry changed) before after)
    (hother : entry.id ≠ changed.id) : entry ∈ after ↔ entry ∈ before := by
  cases h with
  | insert _ hafter =>
      rw [hafter]
      refine or_iff_right fun hsame => hother ?_
      rw [hsame]
  | replace _ _ _ _ hafter =>
      rw [hafter, and_iff_left hother]
      refine or_iff_right fun hsame => hother ?_
      rw [hsame]
  | remove _ hid hafter => rw [hafter, and_iff_left (hid ▸ hother)]

/-- Nothing is left of a removed entry. -/
theorem Changes.removed {id : UserContentId}
    (h : Changes store objects newId (.remove id) reply before after) :
    (∃ old ∈ before, old.id = id) ∧ ∀ entry ∈ after, entry.id ≠ id := by
  cases h with
  | remove hmem hid hafter =>
      exact ⟨⟨_, hmem, hid⟩, fun entry hentry => ((hafter entry).mp hentry).2⟩

end Changes

/-! ## The invariant -/

theorem LibraryInvariant.used (h : LibraryInvariant toml store s)
    (hentry : s.home.Indexed toml entry) : entry.id ∈ s.used := by
  obtain ⟨library, hreads, -, hused⟩ := h
  exact hused entry (hreads.indexed_iff.mp hentry)

/-- The change that a call makes to a library whose identities are in use. -/
theorem changes_of_step (htoml : toml.RoundTrips) (h : LibraryInvariant toml store s)
    {call : UserContentCall} {reply : UserContentReply}
    (hstep : LibraryStep toml store s (.called call attempt (.ok reply)) t) :
    ∃ before after, s.home.Reads toml before ∧ t.home.Reads toml after ∧
      t.home.objects = s.home.objects ∧
      Changes store s.home.objects attempt.newId call reply before.entries after.entries := by
  cases hstep with
  | called hfresh hperform =>
      refine changes_of_perform htoml (fun content revision hcall entry hentry hsame => ?_)
        hperform
      exact hfresh content revision hcall (hsame ▸ h.used hentry)

theorem LibraryInvariant.step (htoml : toml.RoundTrips) (h : LibraryInvariant toml store s)
    {label : LibraryLabel} (hstep : LibraryStep toml store s label t) :
    LibraryInvariant toml store t := by
  obtain ⟨library, hreads, hverified, hused⟩ := id h
  cases hstep with
  | imported hextends =>
      exact ⟨library, hreads, fun entry hentry => (hverified entry hentry).extends hextends, hused⟩
  | @called call attempt reply home hfresh hperform =>
      cases reply with
      | error error =>
          cases home_of_perform_error hperform
          refine ⟨library, hreads, hverified, fun entry hentry => ?_⟩
          exact List.mem_append_right _ (hused entry hentry)
      | ok reply =>
          obtain ⟨before, after, hbefore, hafter, hobjects, hchanges⟩ :=
            changes_of_step htoml h (.called hfresh hperform)
          cases hbefore.symm.trans hreads
          refine ⟨after, hafter, fun entry hentry => ?_, fun entry hentry => ?_⟩
          · rw [hobjects]
            exact hchanges.verified hverified entry hentry
          · rcases hchanges.descends entry hentry with hnew | ⟨old, hold, hid, -⟩
            · exact List.mem_append_left _ hnew
            · exact List.mem_append_right _ (hid ▸ hused old hold)

theorem libraryInvariant_of_reachable (htoml : toml.RoundTrips)
    (h : (librarySystem toml store).Reachable s) : LibraryInvariant toml store s := by
  refine h.induction (fun start hinit => ?_) fun _ _ _ _ hinvariant hstep =>
    hinvariant.step htoml hstep
  refine ⟨.default, ?_, by simp [UserContentLibrary.default], by simp [UserContentLibrary.default]⟩
  simp [HostHome.Reads, UserContentLibrary.load, undisturbed, hinit.1]

/-! ## Descent -/

theorem Descends.refl (s : LibraryState) : Descends toml s s where
  used _ h := h
  indexed later h := .inr ⟨later, h, rfl, rfl⟩

theorem Descends.trans (hfirst : Descends toml s t) (hsecond : Descends toml t u) :
    Descends toml s u where
  used id h := hsecond.used id (hfirst.used id h)
  indexed later h := by
    rcases hsecond.indexed later h with hnew | ⟨middle, hmiddle, hid, hcontent⟩
    · exact .inl fun hused => hnew (hfirst.used _ hused)
    · rcases hfirst.indexed middle hmiddle with hnew | ⟨entry, hentry, hid', hcontent'⟩
      · exact .inl (hid ▸ hnew)
      · exact .inr ⟨entry, hentry, hid'.trans hid, hcontent'.trans hcontent⟩

/-- The identities that a call puts to use are new. -/
theorem not_mem_used_of_issued {call : UserContentCall} {reply : HostResult UserContentReply}
    (hfresh : ∀ content revision, call = .insert content revision → attempt.newId ∉ s.used)
    {id : UserContentId} (hid : id ∈ issued attempt.newId call reply) : id ∉ s.used := by
  unfold issued at hid
  split at hid
  · next content revision value =>
      cases List.mem_singleton.mp hid
      exact hfresh content revision rfl
  · cases hid

theorem descends_of_step (htoml : toml.RoundTrips) (h : LibraryInvariant toml store s)
    {label : LibraryLabel} (hstep : LibraryStep toml store s label t) : Descends toml s t := by
  cases hstep with
  | imported => exact ⟨fun _ h => h, fun later h => .inr ⟨later, h, rfl, rfl⟩⟩
  | @called call attempt reply home hfresh hperform =>
      refine ⟨fun _ hused => List.mem_append_right _ hused, fun later hlater => ?_⟩
      cases reply with
      | error error =>
          cases home_of_perform_error hperform
          exact .inr ⟨later, hlater, rfl, rfl⟩
      | ok reply =>
          obtain ⟨before, after, hbefore, hafter, -, hchanges⟩ :=
            changes_of_step htoml h (.called hfresh hperform)
          rcases hchanges.descends later (hafter.indexed_iff.mp hlater) with
            hnew | ⟨old, hold, hsame⟩
          · exact .inl (not_mem_used_of_issued hfresh hnew)
          · exact .inr ⟨old, hbefore.indexed_iff.mpr hold, hsame⟩

theorem descends_of_run (htoml : toml.RoundTrips) (h : LibraryInvariant toml store s)
    {labels : List LibraryLabel} (hrun : (librarySystem toml store).Run s labels t) :
    Descends toml s t := by
  induction hrun with
  | refl s => exact .refl s
  | cons hstep _ ih => exact (descends_of_step htoml h hstep).trans (ih (h.step htoml hstep))

end Runs

/-! ## The guarantee -/

section Guarantee

variable (toml : LibraryToml) (store : ArtifactStore)

/-- In every history the library is sorted and unique and can be listed, with revisions that
are stored and have the type of their entry. An identity keeps its type while it is listed
and is not listed again after its removal. A call that fails changes nothing, and one that
succeeds changes the entry that it replies with and no other. -/
theorem user_content_library_invariant (htoml : toml.RoundTrips) :
    (∀ s, (librarySystem toml store).Reachable s → ∃ library, s.home.Reads toml library ∧
      SortedEntries library.entries ∧
      (∀ entry ∈ library.entries,
        HasContent store s.home.objects entry.revision entry.content) ∧
      s.home.listUserContent toml store undisturbed = .ok library.entries) ∧
    (∀ s labels t, (librarySystem toml store).Reachable s →
      (librarySystem toml store).Run s labels t →
      ∀ entry later, s.home.Indexed toml entry → t.home.Indexed toml later →
        entry.id = later.id → entry.content = later.content) ∧
    (∀ s id attempt reply t labels u, (librarySystem toml store).Reachable s →
      LibraryStep toml store s (.called (.remove id) attempt (.ok reply)) t →
      (librarySystem toml store).Run t labels u →
      ∀ entry, u.home.Indexed toml entry → entry.id ≠ id) ∧
    (∀ s call attempt error t,
      LibraryStep toml store s (.called call attempt (.error error)) t → t.home = s.home) ∧
    ∀ s call attempt reply t, (librarySystem toml store).Reachable s →
      LibraryStep toml store s (.called call attempt (.ok reply)) t →
      ∃ before after, s.home.Reads toml before ∧ t.home.Reads toml after ∧
        Changes store s.home.objects attempt.newId call reply before.entries after.entries ∧
        ∀ changed, reply = .entry changed → ∀ entry, entry.id ≠ changed.id →
          (t.home.Indexed toml entry ↔ s.home.Indexed toml entry) := by
  refine ⟨?_, ?_, ?_, ?_, ?_⟩
  · intro s hreachable
    obtain ⟨library, hreads, hverified, -⟩ := libraryInvariant_of_reachable htoml hreachable
    refine ⟨library, hreads, hreads.sorted, hverified, ?_⟩
    simp only [HostHome.listUserContent, HostHome.loadUserContentLibrary, bind_eq_ok_iff]
    refine ⟨library, ⟨library, hreads, (), forM_eq_ok_iff.mpr fun entry hentry => ?_, rfl⟩, rfl⟩
    exact verifyUserContentRevision_eq_ok_iff.mpr ⟨rfl, hverified entry hentry⟩
  · intro s labels t hreachable hrun entry later hentry hlater hid
    have hinvariant := libraryInvariant_of_reachable htoml hreachable
    rcases (descends_of_run htoml hinvariant hrun).indexed later hlater with
      hnew | ⟨old, hold, hsame, hcontent⟩
    · exact absurd (hinvariant.used hentry) (hid ▸ hnew)
    · obtain ⟨library, hreads, -⟩ := id hinvariant
      have hentry' := hreads.indexed_iff.mp hentry
      have hold' := hreads.indexed_iff.mp hold
      rw [hreads.sorted.unique hentry' hold' (hid.trans hsame.symm), hcontent]
  · intro s id attempt reply t labels u hreachable hstep hrun entry hentry hid
    have hinvariant := libraryInvariant_of_reachable htoml hreachable
    obtain ⟨before, after, hbefore, hafter, -, hchanges⟩ :=
      changes_of_step htoml hinvariant hstep
    obtain ⟨⟨old, hold, hsame⟩, hgone⟩ := hchanges.removed
    have hused : id ∈ s.used := hsame ▸ hinvariant.used (hbefore.indexed_iff.mpr hold)
    have hlater := descends_of_run htoml (hinvariant.step htoml hstep) hrun
    rcases hlater.indexed entry hentry with hnew | ⟨other, hother, hid', -⟩
    · exact hnew (hid ▸ (descends_of_step htoml hinvariant hstep).used id hused)
    · exact hgone other (hafter.indexed_iff.mp hother) (hid'.trans hid)
  · intro s call attempt error t hstep
    cases hstep with
    | called hfresh hperform => exact home_of_perform_error hperform
  · intro s call attempt reply t hreachable hstep
    obtain ⟨before, after, hbefore, hafter, -, hchanges⟩ :=
      changes_of_step htoml (libraryInvariant_of_reachable htoml hreachable) hstep
    refine ⟨before, after, hbefore, hafter, hchanges, ?_⟩
    rintro changed rfl entry hother
    rw [hafter.indexed_iff, hbefore.indexed_iff]
    exact hchanges.others hother

end Guarantee

/-! ## An inserted revision -/

def insertedDigest : ArtifactDigest :=
  ⟨0xaeff15db2f195ce37a4ebb82fa7157937465ea0d20b04ea67e778fa4beb76f4e⟩

def insertedStore : ArtifactStore where
  zip := storedZip
  toml := storedToml
  sha256 bytes := if bytes = storedBytes then insertedDigest else ⟨0⟩
  limits := storedLimits

def insertedEntry : UserContentEntry :=
  ⟨⟨0x01890a5dac96774bbcceb302099a8057⟩, storedManifest.content, insertedDigest⟩

def insertedLibrary : UserContentLibrary :=
  ⟨userContentLibrarySchema, [insertedEntry]⟩

def insertedText : Text :=
  ⟨"schema = 1\n\n[[entries]]\nid = \"01890a5d-ac96-774b-bcce-b302099a8057\"\n" ++
    "content = \"a.b@1\"\n" ++
    "revision = \"sha256:aeff15db2f195ce37a4ebb82fa715793" ++
    "7465ea0d20b04ea67e778fa4beb76f4e\"\n", by decide +kernel⟩

def insertedToml : LibraryToml where
  toStringPretty library :=
    if library = insertedLibrary then .ok insertedText else .error ⟨"unsupported value"⟩
  fromStr source :=
    if source = insertedText.value then .ok insertedLibrary else .error ⟨"unexpected content"⟩

theorem insertedToml_roundTrips : insertedToml.RoundTrips := by
  intro library text h
  simp only [insertedToml] at h ⊢
  split at h
  · next hlibrary =>
      cases h
      rw [if_pos rfl, hlibrary]
  · cases h

/-- A home with one stored archive and no index. -/
def insertingHome : HostHome :=
  ⟨none, fun digest => if digest = insertedDigest then some (.regular storedBytes) else none⟩

def insertingAttempt : Attempt :=
  { undisturbed with newId := insertedEntry.id }

/-- The home after the archive became a new entry. -/
def insertedHome : HostHome :=
  (insertingHome.insertUserContentRevision insertedToml insertedStore insertingAttempt
    storedManifest.content insertedDigest).2

theorem user_content_library_invariant_inserted :
    (insertingHome.insertUserContentRevision insertedToml insertedStore insertingAttempt
        storedManifest.content insertedDigest).1 = .ok insertedEntry ∧
      insertedHome.listUserContent insertedToml insertedStore undisturbed =
        .ok [insertedEntry] := by
  have hinsert : (insertingHome.insertUserContentRevision insertedToml insertedStore
      insertingAttempt storedManifest.content insertedDigest).1 = .ok insertedEntry := by
    decide +kernel
  have hread : UserContentLibrary.load insertedToml undisturbed insertedHome.userContentFile =
      .ok insertedLibrary := by
    decide +kernel
  have hperform : insertingHome.perform insertedToml insertedStore insertingAttempt
      (.insert storedManifest.content insertedDigest) =
      (.ok (.entry insertedEntry), insertedHome) := by
    rw [HostHome.perform, singleEntry, hinsert]
    rfl
  have hstep : LibraryStep insertedToml insertedStore ⟨insertingHome, []⟩
      (.called (.insert storedManifest.content insertedDigest) insertingAttempt
        (.ok (.entry insertedEntry))) ⟨insertedHome, [insertedEntry.id]⟩ :=
    .called (fun _ _ _ => List.not_mem_nil) hperform
  have hstart : (librarySystem insertedToml insertedStore).init ⟨insertingHome, []⟩ := ⟨rfl, rfl⟩
  obtain ⟨library, hlibrary, -, -, hlist⟩ := (user_content_library_invariant insertedToml
    insertedStore insertedToml_roundTrips).1 _ ((Lts.Reachable.of_init hstart).step hstep)
  rw [HostHome.Reads, hread] at hlibrary
  obtain rfl := Except.ok.inj hlibrary
  dsimp only [insertedLibrary] at hlist
  exact ⟨hinsert, hlist⟩

end Rintawa.Host
