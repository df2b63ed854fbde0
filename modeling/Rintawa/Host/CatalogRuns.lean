/-
# The catalog after interrupted calls

A world whose creation returned keeps its directory until its deletion is requested, wherever
other calls are cut off. Listing the worlds fails as long as a directory has a database
without its row of metadata; only a call that was cut off leaves one.
-/

import Mathlib.Data.Finset.Card
import Rintawa.Host.WorldCatalog
import Rintawa.Lib.Numerals
import Rintawa.Storage.System

namespace Rintawa.Host

open Rintawa.Lib Rintawa.Sdk Rintawa.Storage

/-! ## Directories -/

section Directories

variable {Digest : Type}

/-- The row of a world that was just created. -/
def newRow (worldId : WorldId) : WorldMetadataRow :=
  ⟨worldId, worldFormatVersion, 0⟩

/-- A database that is, or is migrated to, the one of a world that was just created. -/
structure IsNewWorld (worldId : WorldId) (database : Database Digest) : Prop where
  sound : database.Sound (newRow worldId)
  upgraded : database.upgrade = newWorld Digest worldId

/-- The directory has the database of its world. -/
def WorldDirectory.Holds (directory : WorldDirectory Digest) (worldId : WorldId) : Prop :=
  ∃ database, directory.database = some database ∧ IsNewWorld worldId database

/-- The directory has no database, or one without a row of metadata. -/
def WorldDirectory.Unborn (directory : WorldDirectory Digest) : Prop :=
  directory.database = none ∨ directory.database = some .v0 ∨
    directory.database = some (.v1 ⟨none, []⟩)

/-- What every directory has: a database that is not there yet or that of its world, and no
metadata or such that can be read. -/
structure WorldDirectory.Stored (toml : CatalogToml) (worldId : WorldId)
    (directory : WorldDirectory Digest) : Prop where
  database : directory.Unborn ∨ directory.Holds worldId
  catalog : ∀ source, directory.catalog = some source →
    ∃ metadata, WorldCatalogMetadata.load toml (some source) = .ok metadata

/-- The steps that are left of the initialization of a database. -/
def Initializing (worldId : WorldId) (steps : List DatabaseStep) (database : Database Digest) :
    Prop :=
  (database = .v0 ∧ steps = initializationSteps worldId) ∨
  (database = .v1 ⟨none, []⟩ ∧ steps = (initializationSteps worldId).tail) ∨
  (IsNewWorld worldId database ∧ migrationSteps database = .ok steps)

/-- What a stage of a creation leaves in the directory. -/
def CreationStage.Reached (stage : CreationStage) (worldId : WorldId)
    (directory : WorldDirectory Digest) : Prop :=
  match stage with
  | .directory => directory.database = none
  | .initializing steps =>
      ∃ database, directory.database = some database ∧ Initializing worldId steps database
  | .catalogWritten | .cataloged | .compositionWritten | .finished => directory.Holds worldId

theorem IsNewWorld.commit {worldId : WorldId} {database database' : Database Digest}
    (h : IsNewWorld worldId database) {step : DatabaseStep} {rest : List DatabaseStep}
    (hsteps : migrationSteps database = .ok (step :: rest))
    (hstep : step.apply database = .ok database') :
    IsNewWorld worldId database' ∧ migrationSteps database' = .ok rest := by
  obtain ⟨hsound, hsame, hrest⟩ := h.sound.commit hsteps hstep
  exact ⟨⟨hsound, hsame.trans h.upgraded⟩, hrest⟩

/-- Every step of an initialization leads to the next one. -/
theorem Initializing.commit {worldId : WorldId} {database database' : Database Digest}
    {step : DatabaseStep} {rest : List DatabaseStep}
    (h : Initializing worldId (step :: rest) database)
    (hstep : step.apply database = .ok database') : Initializing worldId rest database' := by
  rcases h with ⟨rfl, hsteps⟩ | ⟨rfl, hsteps⟩ | ⟨hworld, hsteps⟩
  · cases hsteps
    cases hstep
    exact .inr (.inl ⟨rfl, rfl⟩)
  · cases hsteps
    cases hstep
    exact .inr (.inr ⟨⟨⟨rfl, rfl, fun _ => rfl⟩, rfl⟩, rfl⟩)
  · exact .inr (.inr (hworld.commit hsteps hstep))

variable {directory : WorldDirectory Digest}

theorem Initializing.stored {worldId : WorldId} {steps : List DatabaseStep}
    {database : Database Digest} (hdatabase : directory.database = some database)
    (h : Initializing worldId steps database) : directory.Unborn ∨ directory.Holds worldId := by
  rcases h with ⟨rfl, -⟩ | ⟨rfl, -⟩ | ⟨hworld, -⟩
  · exact .inl (.inr (.inl hdatabase))
  · exact .inl (.inr (.inr hdatabase))
  · exact .inr ⟨database, hdatabase, hworld⟩

/-- An initialization that has no steps left is that of the world. -/
theorem Initializing.holds {worldId : WorldId} {database : Database Digest}
    (hdatabase : directory.database = some database) (h : Initializing worldId [] database) :
    directory.Holds worldId := by
  rcases h with ⟨-, hsteps⟩ | ⟨-, hsteps⟩ | ⟨hworld, -⟩
  · cases hsteps
  · cases hsteps
  · exact ⟨database, hdatabase, hworld⟩

/-- The database of a world is opened. -/
theorem WorldDirectory.Holds.openWorldDatabase {worldId : WorldId} (h : directory.Holds worldId) :
    openWorldDatabase directory worldId = .ok (newWorld Digest worldId, newRow worldId) := by
  obtain ⟨database, hdatabase, hworld⟩ := h
  unfold Host.openWorldDatabase
  rw [hdatabase, hworld.sound.openDatabase, hworld.upgraded]
  exact if_neg fun hdiffers => hdiffers rfl

/-- A database without its row of metadata is not opened. -/
theorem WorldDirectory.Unborn.openWorldDatabase (h : directory.Unborn) (worldId : WorldId) :
    ∃ error, openWorldDatabase directory worldId = .error (.database error) := by
  unfold Host.openWorldDatabase
  rcases h with hnone | hzero | hone
  · exact ⟨.notFound, by rw [hnone]; rfl⟩
  · exact ⟨.uninitialized, by rw [hzero]; rfl⟩
  · exact ⟨.sqlite "query returned no rows", by rw [hone]; rfl⟩

theorem WorldDirectory.Unborn.not_holds {worldId : WorldId} (h : directory.Unborn) :
    ¬ directory.Holds worldId := by
  intro hholds
  obtain ⟨error, herror⟩ := h.openWorldDatabase worldId
  rw [hholds.openWorldDatabase] at herror
  cases herror

/-- The database of a world has its row. -/
theorem WorldDirectory.Holds.metadata {worldId : WorldId} (h : directory.Holds worldId) :
    directory.database.bind Database.worldMetadata = some (newRow worldId) := by
  obtain ⟨database, hdatabase, hworld⟩ := h
  rw [hdatabase]
  exact hworld.sound.metadata

theorem WorldDirectory.Unborn.metadata (h : directory.Unborn) :
    directory.database.bind Database.worldMetadata = none := by
  rcases h with hnone | hzero | hone
  · rw [hnone]
    rfl
  · rw [hzero]
    rfl
  · rw [hone]
    rfl

end Directories

/-! ## Metadata of new worlds -/

section Metadata

variable {toml : CatalogToml} (htoml : toml.Faithful)
include htoml

/-- Metadata that was just made for a title is read back. -/
theorem load_new_save {title source : String} {metadata : WorldCatalogMetadata}
    (hnew : WorldCatalogMetadata.new title none = .ok metadata)
    (hagain : WorldCatalogMetadata.new metadata.title none = .ok metadata)
    (hsave : metadata.save toml = .ok source) :
    WorldCatalogMetadata.load toml (some source) = .ok metadata := by
  have hfields : metadata.schema = worldCatalogMetadataSchema ∧ metadata.description = none ∧
      metadata.cover = none := by
    unfold WorldCatalogMetadata.new at hnew
    split at hnew
    · cases hnew
    · cases hnew
      exact ⟨rfl, rfl, rfl⟩
  obtain ⟨hschema, hdescription, hcover⟩ := hfields
  have hread : toml.fromStr source = .ok metadata := by
    unfold WorldCatalogMetadata.save at hsave
    split at hsave
    · cases hsave
    · next written hwritten =>
        cases hsave
        exact htoml.reads metadata _ hwritten
  unfold WorldCatalogMetadata.load
  simp only [hread, hschema, ne_eq, not_true_eq_false, if_false, hcover, hagain, hdescription]
  unfold WorldCatalogMetadata.withDescription normalizeDescription
  cases metadata
  cases hdescription
  rfl

omit htoml in
theorem new_newWorld : WorldCatalogMetadata.new "New World" none =
    .ok ⟨worldCatalogMetadataSchema, "New World", none, none⟩ := by
  have htrim : trim "New World" = "New World" := by decide +kernel
  have hbound : ¬ ("New World" = "" ∨ maxWorldTitleBytes < "New World".utf8ByteSize) := by
    decide +kernel
  simp only [WorldCatalogMetadata.new, normalizeTitle, htrim, if_neg hbound]

end Metadata

/-! ## Calls -/

/-- The world that a call works on. -/
def CatalogCall.worldId : CatalogCall → Option WorldId
  | .choosing _ => none
  | .creating worldId _ | .deleting worldId _ | .removing worldId => some worldId

/-- The world was created, and its deletion was never requested. -/
def Kept (labels : List CatalogLabel) (worldId : WorldId) : Prop :=
  .created worldId ∈ labels ∧ .delete worldId ∉ labels

/-- No step failed, and the host did not crash. -/
def Uninterrupted (labels : List CatalogLabel) : Prop :=
  .failed ∉ labels ∧ .crash ∉ labels

variable {label : CatalogLabel}

theorem Kept.before {labels : List CatalogLabel} {worldId : WorldId}
    (h : Kept (labels ++ [label]) worldId) (hlabel : label ≠ .created worldId) :
    Kept labels worldId := by
  obtain ⟨hcreated, hdeleted⟩ := h
  refine ⟨?_, fun hmem => hdeleted (List.mem_append_left _ hmem)⟩
  cases List.mem_append.mp hcreated with
  | inl hbefore => exact hbefore
  | inr hlast => exact absurd (List.mem_singleton.mp hlast).symm hlabel

theorem Uninterrupted.before {labels : List CatalogLabel} (h : Uninterrupted (labels ++ [label])) :
    Uninterrupted labels :=
  ⟨fun hmem => h.1 (List.mem_append_left _ hmem), fun hmem => h.2 (List.mem_append_left _ hmem)⟩

/-- What a call has reached. A deletion works on a database with the steps that it still
needs. -/
def CatalogCall.Reached {Digest : Type} (call : CatalogCall) (labels : List CatalogLabel)
    (worlds : Worlds Digest) : Prop :=
  match call with
  | .creating worldId stage =>
      ∃ directory, worlds.lookup worldId = some directory ∧ stage.Reached worldId directory
  | .deleting worldId steps =>
      .delete worldId ∈ labels ∧ ∃ directory database, worlds.lookup worldId = some directory ∧
        directory.database = some database ∧ migrationSteps database = .ok steps
  | .choosing _ | .removing _ => True

/-- What holds of every home. A kept world has its database and no call works on it. A
directory without the database of its world is worked on, unless there was an interruption. -/
structure CatalogInvariant {Digest : Type} (toml : CatalogToml) (labels : List CatalogLabel)
    (state : CatalogState Digest) : Prop where
  stored : ∀ worldId directory, state.worlds.lookup worldId = some directory →
    directory.Stored toml worldId
  kept : ∀ worldId, Kept labels worldId →
    (∃ directory, state.worlds.lookup worldId = some directory ∧ directory.Holds worldId) ∧
      ∀ call, state.call = some call → call.worldId ≠ some worldId
  reached : ∀ call, state.call = some call → call.Reached labels state.worlds
  whole : Uninterrupted labels → ∀ worldId directory,
    state.worlds.lookup worldId = some directory →
    directory.Holds worldId ∨ ∃ call, state.call = some call ∧ call.worldId = some worldId

namespace CatalogInvariant

variable {Digest : Type} {toml : CatalogToml} {labels : List CatalogLabel}
  {worlds : Worlds Digest} {call call' : Option CatalogCall}

theorem initial : @CatalogInvariant Digest toml [] ⟨∅, none⟩ where
  stored worldId directory h := by cases h
  kept worldId h := by cases h.1
  reached call h := by cases h
  whole _ worldId directory h := by cases h

/-- A step that writes to one directory, by a call that works on it. -/
theorem write (h : CatalogInvariant toml labels ⟨worlds, call⟩) {worldId : WorldId}
    {directory : WorldDirectory Digest} (hlabel : ∀ other, label ≠ .created other)
    (hfree : ¬ Kept labels worldId) (hstored : directory.Stored toml worldId)
    (hbefore : ∀ current, call = some current →
      current.worldId = none ∨ current.worldId = some worldId) {next : CatalogCall}
    (hnext : next.worldId = some worldId)
    (hreached : next.Reached (labels ++ [label]) (worlds.insert worldId directory)) :
    CatalogInvariant toml (labels ++ [label]) ⟨worlds.insert worldId directory, some next⟩ where
  stored other found hfound := by
    rw [Dict.lookup_insert_ite] at hfound
    split at hfound
    · next hsame =>
        cases hfound
        exact hsame ▸ hstored
    · exact h.stored other found hfound
  kept other hkept := by
    have hkept := hkept.before (hlabel other)
    have hother : other ≠ worldId := by
      rintro rfl
      exact hfree hkept
    obtain ⟨⟨found, hfound, hholds⟩, -⟩ := h.kept other hkept
    refine ⟨⟨found, by rw [AList.lookup_insert_ne hother]; exact hfound, hholds⟩, ?_⟩
    intro current hcurrent
    cases hcurrent
    rw [hnext]
    exact fun hsame => hother (Option.some.inj hsame).symm
  reached current hcurrent := by
    cases hcurrent
    exact hreached
  whole huninterrupted other found hfound := by
    by_cases hother : other = worldId
    · exact .inr ⟨next, rfl, hother ▸ hnext⟩
    · rw [AList.lookup_insert_ne hother] at hfound
      rcases h.whole huninterrupted.before other found hfound with
        hholds | ⟨current, hcurrent, hworks⟩
      · exact .inl hholds
      · rcases hbefore current hcurrent with hnone | hsame
        · rw [hnone] at hworks
          cases hworks
        · rw [hsame] at hworks
          exact absurd (Option.some.inj hworks).symm hother

/-- A step that leaves the directories. -/
theorem leave (h : CatalogInvariant toml labels ⟨worlds, call⟩)
    (hcreated : ∀ worldId, label = .created worldId →
      (∃ directory, worlds.lookup worldId = some directory ∧ directory.Holds worldId) ∧
        call' = none) (hspared : ∀ worldId, Kept (labels ++ [label]) worldId → Kept labels worldId →
      ∀ current, call' = some current → current.worldId ≠ some worldId)
    (hreached : ∀ current, call' = some current → current.Reached (labels ++ [label]) worlds)
    (hwhole : Uninterrupted (labels ++ [label]) → ∀ worldId directory,
      worlds.lookup worldId = some directory →
      (∃ current, call = some current ∧ current.worldId = some worldId) →
      directory.Holds worldId ∨ ∃ current, call' = some current ∧
        current.worldId = some worldId) :
    CatalogInvariant toml (labels ++ [label]) ⟨worlds, call'⟩ where
  stored := h.stored
  kept worldId hkept := by
    by_cases hlabel : label = .created worldId
    · obtain ⟨hholds, hnone⟩ := hcreated worldId hlabel
      exact ⟨hholds, fun current hcurrent => by rw [hnone] at hcurrent; cases hcurrent⟩
    · have hbefore := hkept.before hlabel
      exact ⟨(h.kept worldId hbefore).1, hspared worldId hkept hbefore⟩
  reached := hreached
  whole huninterrupted worldId directory hfound := by
    rcases h.whole huninterrupted.before worldId directory hfound with hholds | hworks
    · exact .inl hholds
    · exact hwhole huninterrupted worldId directory hfound hworks

/-- A call works on no kept world. -/
theorem not_kept (h : CatalogInvariant toml labels ⟨worlds, call⟩) {current : CatalogCall}
    (hcall : call = some current) {worldId : WorldId} (hworks : current.worldId = some worldId) :
    ¬ Kept labels worldId :=
  fun hkept => (h.kept worldId hkept).2 current hcall hworks

/-- A call ends that works on no world, or that was interrupted. -/
theorem finish (h : CatalogInvariant toml labels ⟨worlds, call⟩) {label : CatalogLabel}
    (hlabel : ∀ worldId, label ≠ .created worldId)
    (hends : (∀ current, call = some current → current.worldId = none) ∨ label = .failed ∨
      label = .crash) :
    CatalogInvariant toml (labels ++ [label]) ⟨worlds, none⟩ := by
  refine h.leave (fun worldId hcreated => absurd hcreated (hlabel worldId))
    (fun _ _ _ _ hcurrent => by cases hcurrent) (fun _ hcurrent => by cases hcurrent) ?_
  intro huninterrupted worldId directory hfound hworks
  obtain ⟨current, hcurrent, hworks⟩ := hworks
  rcases hends with hnone | rfl | rfl
  · rw [hnone current hcurrent] at hworks
    cases hworks
  · exact absurd (List.mem_append_right _ List.mem_cons_self) huninterrupted.1
  · exact absurd (List.mem_append_right _ List.mem_cons_self) huninterrupted.2

end CatalogInvariant

/-! ## Steps -/

section Steps

variable {Digest : Type} {toml : CatalogToml} {worldId : WorldId}
  {directory directory' : WorldDirectory Digest}

/-- Only the database and the metadata matter. -/
theorem WorldDirectory.Stored.congr (h : directory.Stored toml worldId)
    (hdatabase : directory'.database = directory.database)
    (hcatalog : directory'.catalog = directory.catalog) : directory'.Stored toml worldId where
  database := by
    unfold WorldDirectory.Unborn WorldDirectory.Holds
    rw [hdatabase]
    exact h.database
  catalog := by
    rw [hcatalog]
    exact h.catalog

theorem RemovesFile.stored (h : RemovesFile directory directory')
    (hstored : directory.Stored toml worldId) : directory'.Stored toml worldId := by
  cases h with
  | database => exact ⟨.inl (.inl rfl), hstored.catalog⟩
  | catalog => exact ⟨hstored.database, fun source hsource => by cases hsource⟩
  | composition => exact hstored.congr rfl rfl
  | temporary temporaries => exact hstored.congr rfl rfl

theorem Abandons.stored {stage : CreationStage} (h : Abandons stage directory directory')
    (hstored : directory.Stored toml worldId) : directory'.Stored toml worldId := by
  cases h with
  | kept => exact hstored
  | temporary => exact hstored.congr rfl rfl
  | database => exact ⟨.inl (.inl rfl), hstored.catalog⟩

/-- Every step keeps the invariant. A database that has migrations is the one of its world. -/
theorem CatalogInvariant.step (htoml : toml.Faithful) {labels : List CatalogLabel}
    {state state' : CatalogState Digest} (h : CatalogInvariant toml labels state)
    (hstep : CatalogStep toml state label state') :
    CatalogInvariant toml (labels ++ [label]) state' := by
  have hsame : ∀ (call : CatalogCall) (worldId : WorldId), call.worldId = some worldId →
      ∀ current, some call = some current →
        current.worldId = none ∨ current.worldId = some worldId := by
    intro call worldId hworks current hcurrent
    cases hcurrent
    exact .inr hworks
  have hwrite : ∀ worldId, CatalogLabel.write ≠ .created worldId := by
    intro worldId hlabel
    cases hlabel
  have hchoose : ∀ other worldId, CatalogLabel.choose other ≠ .created worldId := by
    intro other worldId hlabel
    cases hlabel
  have hremove : ∀ worldId, CatalogLabel.remove ≠ .created worldId := by
    intro worldId hlabel
    cases hlabel
  have hfailed : ∀ worldId, CatalogLabel.failed ≠ .created worldId := by
    intro worldId hlabel
    cases hlabel
  cases hstep with
  | create worlds =>
      refine h.leave (fun _ hlabel => by cases hlabel) ?_ ?_ ?_
      · intro _ _ _ current hcurrent hworks
        cases hcurrent
        cases hworks
      · intro current hcurrent
        cases hcurrent
        trivial
      · rintro _ _ _ _ ⟨_, hnone, _⟩
        cases hnone
  | @choose worlds attempts worldId hfresh =>
      have hfree : ¬ Kept labels worldId := by
        intro hkept
        obtain ⟨⟨directory, hfound, -⟩, -⟩ := h.kept worldId hkept
        rw [hfresh] at hfound
        cases hfound
      refine h.write (hchoose worldId) hfree
        ⟨.inl (.inl rfl), fun source hsource => by cases hsource⟩ ?_ rfl
        ⟨_, AList.lookup_insert _, rfl⟩
      intro current hcurrent
      cases hcurrent
      exact .inl rfl
  | collide htaken =>
      refine h.leave (fun _ hlabel => by cases hlabel) ?_ ?_ ?_
      · intro _ _ _ current hcurrent hworks
        cases hcurrent
        cases hworks
      · intro current hcurrent
        cases hcurrent
        trivial
      · rintro _ _ _ _ ⟨current, hcurrent, hworks⟩
        cases hcurrent
        cases hworks
  | giveUp worlds attempts =>
      refine h.finish (fun _ hlabel => by cases hlabel) (.inl fun current hcurrent => ?_)
      cases hcurrent
      rfl
  | @createFile worlds worldId directory hfound hnone =>
      refine h.write hwrite (h.not_kept rfl rfl) ?_ (hsame _ _ rfl) rfl ?_
      · exact ⟨.inl (.inr (.inl rfl)), (h.stored _ _ hfound).catalog⟩
      · exact ⟨_, AList.lookup_insert _, _, rfl, .inl ⟨rfl, rfl⟩⟩
  | @commit worlds worldId directory database database' step rest hfound hdatabase happly =>
      obtain ⟨found, hlookup, current, hcurrent, hinitializing⟩ := h.reached _ rfl
      rw [hfound] at hlookup
      cases hlookup
      rw [hdatabase] at hcurrent
      cases hcurrent
      have hnext := hinitializing.commit happly
      refine h.write hwrite (h.not_kept rfl rfl) ?_ (hsame _ _ rfl) rfl ?_
      · exact ⟨hnext.stored rfl, (h.stored _ _ hfound).catalog⟩
      · exact ⟨_, AList.lookup_insert _, _, rfl, hnext⟩
  | @writeCatalog worlds worldId directory hfound =>
      obtain ⟨found, hlookup, database, hdatabase, hinitializing⟩ := h.reached _ rfl
      rw [hfound] at hlookup
      cases hlookup
      refine h.write hwrite (h.not_kept rfl rfl) ?_ (hsame _ _ rfl) rfl ?_
      · exact (h.stored _ _ hfound).congr rfl rfl
      · exact ⟨_, AList.lookup_insert _, hinitializing.holds hdatabase⟩
  | @persistCatalog worlds worldId directory metadata source hfound hnew hsave =>
      obtain ⟨found, hlookup, hholds⟩ := h.reached _ rfl
      rw [hfound] at hlookup
      cases hlookup
      have hagain : WorldCatalogMetadata.new metadata.title none = .ok metadata := by
        rw [new_newWorld] at hnew
        cases hnew
        exact new_newWorld
      refine h.write hwrite (h.not_kept rfl rfl) ?_ (hsame _ _ rfl) rfl ?_
      · refine ⟨.inr hholds, fun written hwritten => ?_⟩
        cases hwritten
        exact ⟨metadata, load_new_save htoml hnew hagain hsave⟩
      · exact ⟨_, AList.lookup_insert _, hholds⟩
  | @writeComposition worlds worldId directory opened hfound hopened =>
      obtain ⟨found, hlookup, hholds⟩ := h.reached _ rfl
      rw [hfound] at hlookup
      cases hlookup
      rw [hholds.openWorldDatabase] at hopened
      cases hopened
      have hopened : WorldDirectory.Holds { directory with
          database := some (newWorld Digest worldId)
          temporaries := directory.temporaries + 1 } worldId :=
        ⟨_, rfl, ⟨rfl, rfl, fun hversion => by cases hversion⟩, rfl⟩
      refine h.write hwrite (h.not_kept rfl rfl) ?_ (hsame _ _ rfl) rfl ?_
      · exact ⟨.inr hopened, (h.stored _ _ hfound).catalog⟩
      · exact ⟨_, AList.lookup_insert _, hopened⟩
  | @persistComposition worlds worldId directory source hfound =>
      obtain ⟨found, hlookup, hholds⟩ := h.reached _ rfl
      rw [hfound] at hlookup
      cases hlookup
      refine h.write hwrite (h.not_kept rfl rfl) ?_ (hsame _ _ rfl) rfl ?_
      · exact (h.stored _ _ hfound).congr rfl rfl
      · exact ⟨_, AList.lookup_insert _, hholds⟩
  | created worlds worldId =>
      obtain ⟨found, hlookup, hholds⟩ := h.reached _ rfl
      refine h.leave ?_ (fun _ _ _ _ hcurrent => by cases hcurrent)
        (fun _ hcurrent => by cases hcurrent) ?_
      · intro other hlabel
        cases hlabel
        exact ⟨⟨found, hlookup, hholds⟩, rfl⟩
      · rintro _ other directory hdirectory ⟨current, hcurrent, hworks⟩
        cases hcurrent
        cases hworks
        rw [hlookup] at hdirectory
        cases hdirectory
        exact .inl hholds
  | @creationFailed worlds worldId stage directory directory' hfound habandons =>
      refine h.write hfailed (h.not_kept rfl rfl) ?_ (hsame _ _ rfl) rfl trivial
      exact habandons.stored (h.stored _ _ hfound)
  | @delete worlds worldId directory database steps hfound hdatabase hsteps =>
      refine h.leave (fun _ hlabel => by cases hlabel) ?_ ?_ ?_
      · intro other hkept _ current hcurrent hworks
        cases hcurrent
        cases hworks
        exact hkept.2 (List.mem_append_right _ List.mem_cons_self)
      · intro current hcurrent
        cases hcurrent
        exact ⟨List.mem_append_right _ List.mem_cons_self, directory, database, hfound, hdatabase,
          hsteps⟩
      · rintro _ _ _ _ ⟨_, hnone, _⟩
        cases hnone
  | deleteRefused worlds worldId =>
      exact h.finish (fun _ hlabel => by cases hlabel) (.inl fun _ hcurrent => by cases hcurrent)
  | @migrate worlds worldId directory database database' step rest hfound hdatabase happly =>
      obtain ⟨hdeleted, found, current, hlookup, hcurrent, hsteps⟩ := h.reached _ rfl
      rw [hfound] at hlookup
      cases hlookup
      rw [hdatabase] at hcurrent
      cases hcurrent
      have hworld : IsNewWorld worldId database := by
        rcases (h.stored _ _ hfound).database with hunborn | ⟨stored, hstored, hworld⟩
        · rcases hunborn with hnone | hzero | hone
          · rw [hdatabase] at hnone
            cases hnone
          · rw [hdatabase] at hzero
            cases hzero
            cases hsteps
          · rw [hdatabase] at hone
            cases hone
            cases hsteps
        · rw [hdatabase] at hstored
          cases hstored
          exact hworld
      obtain ⟨hnext, hrest⟩ := hworld.commit hsteps happly
      refine h.write hwrite (h.not_kept rfl rfl) ?_ (hsame _ _ rfl) rfl ?_
      · exact ⟨.inr ⟨_, rfl, hnext⟩, (h.stored _ _ hfound).catalog⟩
      · exact ⟨List.mem_append_left _ hdeleted, _, _, AList.lookup_insert _, rfl, hrest⟩
  | @opened worlds worldId directory opened hfound hopened =>
      refine h.leave (fun _ hlabel => by cases hlabel) ?_ ?_ ?_
      · intro other _ hkept current hcurrent hworks
        cases hcurrent
        cases hworks
        exact h.not_kept rfl rfl hkept
      · intro current hcurrent
        cases hcurrent
        trivial
      · rintro _ other _ _ ⟨current, hcurrent, hworks⟩
        cases hcurrent
        exact .inr ⟨_, rfl, hworks⟩
  | deletionFailed worlds worldId steps =>
      exact h.finish (fun _ hlabel => by cases hlabel) (.inr (.inl rfl))
  | @removeFile worlds worldId directory directory' hfound hremoves =>
      refine h.write hremove (h.not_kept rfl rfl) ?_ (hsame _ _ rfl) rfl trivial
      exact hremoves.stored (h.stored _ _ hfound)
  | @removeDirectory worlds worldId hempty =>
      have hfree : ¬ Kept labels worldId := h.not_kept rfl rfl
      refine ⟨fun other directory hfound => ?_, fun other hkept => ?_,
        fun _ hcurrent => (by cases hcurrent), fun huninterrupted other directory hfound => ?_⟩
      · rw [Dict.lookup_erase_ite] at hfound
        split at hfound
        · cases hfound
        · exact h.stored other directory hfound
      · have hbefore : Kept labels other := hkept.before fun hlabel => by cases hlabel
        have hother : other ≠ worldId := by
          rintro rfl
          exact hfree hbefore
        obtain ⟨⟨directory, hfound, hholds⟩, -⟩ := h.kept other hbefore
        exact ⟨⟨directory, by rw [AList.lookup_erase_ne hother]; exact hfound, hholds⟩,
          fun _ hcurrent => by cases hcurrent⟩
      · rw [Dict.lookup_erase_ite] at hfound
        split at hfound
        · cases hfound
        · next hother =>
            rcases h.whole huninterrupted.before other directory hfound with
              hholds | ⟨current, hcurrent, hworks⟩
            · exact .inl hholds
            · cases hcurrent
              exact absurd (Option.some.inj hworks).symm hother
  | removalFailed worlds worldId =>
      exact h.finish (fun _ hlabel => by cases hlabel) (.inr (.inl rfl))
  | crash state =>
      exact h.finish (fun _ hlabel => by cases hlabel) (.inr (.inr rfl))

/-- The invariant holds along every run. -/
theorem catalogInvariant_run (htoml : toml.Faithful) {labels : List CatalogLabel}
    {state : CatalogState Digest}
    (hrun : (catalogSystem toml Digest).Run ⟨∅, none⟩ labels state) :
    CatalogInvariant toml labels state :=
  Lts.Run.history_induction (P := CatalogInvariant toml) .initial
    (fun _ _ _ _ _ h hstep => h.step htoml hstep) hrun

end Steps

/-! ## Titles by place -/

/-- A text that does not begin or end with white space is left by trimming. -/
theorem trim_of_ends {text : String} {first : Char} {rest : List Char}
    (htext : text.toList = first :: rest) (hfirst : isWhiteSpace first = false)
    (hlast : ∀ last, text.toList.getLast? = some last → isWhiteSpace last = false) :
    trim text = text := by
  have hleft : text.toList.dropWhile isWhiteSpace = text.toList := by
    rw [htext, List.dropWhile_cons, hfirst]
    rfl
  have hright : text.toList.reverse.dropWhile isWhiteSpace = text.toList.reverse := by
    cases hreversed : text.toList.reverse with
    | nil => rfl
    | cons last others =>
        have hspace : isWhiteSpace last = false := by
          apply hlast
          rw [← List.head?_reverse, hreversed]
          rfl
        rw [List.dropWhile_cons, hspace]
        rfl
  rw [trim, hleft, hright, List.reverse_reverse, String.ofList_toList]

/-- A digit takes one byte and is no white space. -/
theorem digit_facts {c : Char} (h : c.isDigit = true) :
    c.utf8Size = 1 ∧ isWhiteSpace c = false := by
  have hrange : 48 ≤ c.toNat ∧ c.toNat ≤ 57 := by
    simp only [Char.isDigit, Bool.and_eq_true, decide_eq_true_eq] at h
    exact ⟨h.1, h.2⟩
  constructor
  · rw [Char.utf8Size_eq_one_iff]
    exact UInt32.le_iff_toNat_le.mpr (hrange.2.trans (by decide))
  · simp only [isWhiteSpace, Bool.or_eq_false_iff, Bool.and_eq_false_iff, beq_eq_false_iff_ne,
      decide_eq_false_iff_not]
    omega

theorem utf8ByteSize_digits {chars : List Char} (h : ∀ c ∈ chars, c.isDigit = true) :
    (String.ofList chars).utf8ByteSize = chars.length := by
  induction chars with
  | nil => rfl
  | cons c rest ih =>
      obtain ⟨hc, hrest⟩ := List.forall_mem_cons.mp h
      have hsize := (digit_facts hc).1
      have hothers := ih hrest
      simp [hsize] at hothers ⊢
      omega

/-- A title by place has letters, a space and digits. -/
theorem isPlain_numbered (n : Nat) : WorldCatalogMetadata.isPlain
    ⟨worldCatalogMetadataSchema, "World " ++ toString n, none, none⟩ = true := by
  have hall : (Nat.toDigits 10 n).all (fun c => c.isAlphanum || c == ' ') = true := by
    rw [List.all_eq_true]
    intro c hc
    simp [Char.isAlphanum, isDigit_of_mem_toDigits hc]
  have hword : "World ".toList.all (fun c => c.isAlphanum || c == ' ') = true := by decide
  unfold WorldCatalogMetadata.isPlain
  rw [String.toList_append, toList_toString, List.all_append, hall, hword]
  rfl

/-- The title of a world by its place is accepted as it is. -/
theorem new_numbered {n : Nat} (hn : n ≤ 2 ^ 128) :
    WorldCatalogMetadata.new ("World " ++ toString n) none =
      .ok ⟨worldCatalogMetadataSchema, "World " ++ toString n, none, none⟩ := by
  have htext : ("World " ++ toString n).toList = 'W' :: ("orld ".toList ++ Nat.toDigits 10 n) := by
    rw [String.toList_append, toList_toString]
    rfl
  have htrim : trim ("World " ++ toString n) = "World " ++ toString n := by
    refine trim_of_ends htext (by decide) fun last hlast => ?_
    rw [String.toList_append, toList_toString,
      List.getLast?_append_of_ne_nil _ Nat.toDigits_ne_nil] at hlast
    exact (digit_facts (isDigit_of_mem_toDigits (List.mem_of_getLast? hlast))).2
  have hsize : ("World " ++ toString n).utf8ByteSize ≤ maxWorldTitleBytes := by
    have hnumber : (toString n).utf8ByteSize = (Nat.toDigits 10 n).length := by
      rw [← String.ofList_toList (s := toString n), toList_toString]
      exact utf8ByteSize_digits fun c hc => isDigit_of_mem_toDigits hc
    have hlength : (Nat.toDigits 10 n).length ≤ 39 :=
      (Nat.length_toDigits_le_iff (by decide) (by decide)).mpr (hn.trans_lt (by decide))
    have hword : "World ".utf8ByteSize = 6 := by decide
    rw [String.utf8ByteSize_append, hnumber, hword]
    unfold maxWorldTitleBytes
    omega
  have hvalid : ¬ ("World " ++ toString n = "" ∨
      maxWorldTitleBytes < ("World " ++ toString n).utf8ByteSize) := by
    rintro (hempty | hlong)
    · rw [hempty] at htext
      cases htext
    · exact absurd hlong (Nat.not_lt.mpr hsize)
  simp only [WorldCatalogMetadata.new, normalizeTitle, htrim, if_neg hvalid]

/-! ## Listing -/

section Listing

variable {Digest : Type} {toml : CatalogToml} {deps : Dependencies Digest} {index : Nat}
  {worldId : WorldId} {directory : WorldDirectory Digest}

/-- Metadata that can be read is listed, and a world without metadata gets some. -/
theorem catalogMetadata_ok (htoml : toml.Faithful) (hindex : index + 1 ≤ 2 ^ 128)
    {catalog : Option String} (hcatalog : ∀ source, catalog = some source →
      ∃ metadata, WorldCatalogMetadata.load toml (some source) = .ok metadata) :
    ∃ result, catalogMetadata toml index catalog = .ok result := by
  unfold catalogMetadata
  cases catalog with
  | some source =>
      obtain ⟨metadata, hload⟩ := hcatalog source rfl
      rw [hload]
      exact ⟨_, rfl⟩
  | none =>
      obtain ⟨source, hsource⟩ := htoml.writes _ (isPlain_numbered (index + 1))
      simp only [WorldCatalogMetadata.load, new_numbered hindex, WorldCatalogMetadata.save,
        hsource]
      exact ⟨_, rfl⟩

/-- A directory with the database of its world is listed. -/
theorem listWorld_ok (htoml : toml.Faithful) (hindex : index + 1 ≤ 2 ^ 128)
    (hstored : directory.Stored toml worldId) (hholds : directory.Holds worldId) :
    ∃ directory' summary, listWorld toml deps index worldId directory =
      (directory', .ok summary) ∧ summary.id = worldId := by
  obtain ⟨⟨metadata, catalog⟩, hmetadata⟩ := catalogMetadata_ok htoml hindex hstored.catalog
  have hschemas : loadSchemaRegistry deps (newWorld Digest worldId).worldSchemas = .ok .new := rfl
  unfold listWorld
  simp only [hholds.openWorldDatabase, hmetadata, hschemas]
  exact ⟨_, _, rfl, rfl⟩

/-- A directory without the database of its world is not. -/
theorem listWorld_error (hunborn : directory.Unborn) :
    ∃ error, listWorld toml deps index worldId directory = (directory, .error error) := by
  obtain ⟨error, hopen⟩ := hunborn.openWorldDatabase worldId
  unfold listWorld
  rw [hopen]
  exact ⟨_, rfl⟩

/-- A listing succeeds when all directories have their databases, and lists all of them. -/
theorem listEntries_ok (htoml : toml.Faithful)
    {entries : List (WorldId × WorldDirectory Digest)}
    (hstored : ∀ entry ∈ entries, entry.2.Stored toml entry.1)
    (hindex : index + entries.length ≤ 2 ^ 128) (worlds : Worlds Digest) :
    ((∃ summaries, (listEntries toml deps index worlds entries).2 = .ok summaries) ↔
      ∀ entry ∈ entries, entry.2.Holds entry.1) ∧
    ∀ summaries, (listEntries toml deps index worlds entries).2 = .ok summaries →
      summaries.map WorldSummary.id = entries.map Prod.fst := by
  induction entries generalizing index worlds with
  | nil =>
      refine ⟨⟨fun _ => List.forall_mem_nil _, fun _ => ⟨[], rfl⟩⟩, fun summaries hlisted => ?_⟩
      cases hlisted
      rfl
  | cons entry rest ih =>
      obtain ⟨worldId, directory⟩ := entry
      obtain ⟨hfirst, hothers⟩ := List.forall_mem_cons.mp hstored
      rw [List.length_cons] at hindex
      rcases hfirst.database with hunborn | hholds
      · obtain ⟨error, herror⟩ := @listWorld_error _ toml deps index worldId directory hunborn
        simp only [listEntries, herror]
        refine ⟨⟨?_, fun hall => ?_⟩, ?_⟩
        · rintro ⟨summaries, hlisted⟩
          cases hlisted
        · exact absurd (hall _ List.mem_cons_self) hunborn.not_holds
        · intro summaries hlisted
          cases hlisted
      · have hplace : index + 1 ≤ 2 ^ 128 := by omega
        obtain ⟨directory', summary, hlisted, hid⟩ :=
          @listWorld_ok _ _ deps _ _ _ htoml hplace hfirst hholds
        have hlater : index + 1 + rest.length ≤ 2 ^ 128 := by omega
        obtain ⟨hiff, hids⟩ := ih hothers hlater (worlds.insert worldId directory')
        simp only [listEntries, hlisted]
        cases hrest : (listEntries toml deps (index + 1) (worlds.insert worldId directory')
            rest).2 with
        | error error =>
            rw [hrest] at hiff
            refine ⟨⟨?_, fun hall => ?_⟩, ?_⟩
            · rintro ⟨summaries, hsummaries⟩
              cases hsummaries
            · obtain ⟨summaries, hsummaries⟩ := hiff.mpr (List.forall_mem_cons.mp hall).2
              cases hsummaries
            · intro summaries hsummaries
              cases hsummaries
        | ok listed =>
            rw [hrest] at hiff
            refine ⟨⟨fun _ => ?_, fun _ => ⟨_, rfl⟩⟩, fun summaries hsummaries => ?_⟩
            · exact List.forall_mem_cons.mpr ⟨hholds, hiff.mp ⟨_, rfl⟩⟩
            · cases hsummaries
              rw [List.map_cons, List.map_cons, hids listed hrest, hid]

/-- A home has fewer directories than there are identifiers. -/
theorem length_pairs_le (worlds : Worlds Digest) : worlds.pairs.length ≤ 2 ^ 128 := by
  have hnodup : (worlds.keys.map fun worldId => worldId.intoBytes.toNat).Nodup := by
    refine worlds.nodupKeys.map ?_
    rintro ⟨first⟩ ⟨second⟩ hsame
    exact congrArg _ (BitVec.eq_of_toNat_eq hsame)
  have hrange : (worlds.keys.map fun worldId => worldId.intoBytes.toNat).toFinset ⊆
      Finset.range (2 ^ 128) := by
    intro n hn
    obtain ⟨worldId, -, rfl⟩ := List.mem_map.mp (List.mem_toFinset.mp hn)
    exact Finset.mem_range.mpr worldId.intoBytes.isLt
  have hcard := Finset.card_le_card hrange
  rw [List.toFinset_card_of_nodup hnodup, Finset.card_range, List.length_map] at hcard
  have hlength : worlds.pairs.length = worlds.keys.length := by
    simp [Dict.pairs, AList.keys, List.keys]
  exact hlength ▸ hcard

/-- Listing the worlds of a home succeeds when every directory has the database of its world,
and then lists every directory. -/
theorem listWorlds_ok (htoml : toml.Faithful) {worlds : Worlds Digest}
    (hstored : ∀ worldId directory, worlds.lookup worldId = some directory →
      directory.Stored toml worldId) :
    ((∃ summaries, (listWorlds toml deps worlds).2 = .ok summaries) ↔
      ∀ worldId directory, worlds.lookup worldId = some directory →
        directory.Holds worldId) ∧
    ∀ summaries, (listWorlds toml deps worlds).2 = .ok summaries →
      ∀ worldId directory, worlds.lookup worldId = some directory →
        worldId ∈ summaries.map WorldSummary.id := by
  let entries := worlds.pairs.insertionSort fun left right =>
    uuidText left.1.intoBytes ≤ uuidText right.1.intoBytes
  have hmem : ∀ worldId directory, (worldId, directory) ∈ entries ↔
      worlds.lookup worldId = some directory := by
    intro worldId directory
    rw [List.mem_insertionSort, Dict.mem_pairs_iff]
  have hentries : ∀ entry ∈ entries, entry.2.Stored toml entry.1 :=
    fun entry hentry => hstored entry.1 entry.2 ((hmem _ _).mp hentry)
  have hlength : 0 + entries.length ≤ 2 ^ 128 := by
    rw [Nat.zero_add, List.length_insertionSort]
    exact length_pairs_le worlds
  obtain ⟨hiff, hids⟩ := @listEntries_ok _ _ deps _ htoml _ hentries hlength worlds
  have hsorted : (listWorlds toml deps worlds).2 =
      (listEntries toml deps 0 worlds entries).2.map fun summaries =>
        summaries.insertionSort fun left right =>
          left.id.intoBytes.toNat ≤ right.id.intoBytes.toNat := rfl
  rw [hsorted]
  have hall : (∀ entry ∈ entries, entry.2.Holds entry.1) ↔
      ∀ worldId directory, worlds.lookup worldId = some directory → directory.Holds worldId :=
    ⟨fun h worldId directory hfound => h (worldId, directory) ((hmem _ _).mpr hfound),
      fun h entry hentry => h entry.1 entry.2 ((hmem _ _).mp hentry)⟩
  rw [hall] at hiff
  cases hlisted : (listEntries toml deps 0 worlds entries).2 with
  | error error =>
      rw [hlisted] at hiff
      refine ⟨⟨?_, fun h => ?_⟩, ?_⟩
      · rintro ⟨summaries, hsummaries⟩
        cases hsummaries
      · obtain ⟨summaries, hsummaries⟩ := hiff.mpr h
        cases hsummaries
      · intro summaries hsummaries
        cases hsummaries
  | ok listed =>
      rw [hlisted] at hiff
      refine ⟨⟨fun _ => hiff.mp ⟨_, rfl⟩, fun _ => ⟨_, rfl⟩⟩, ?_⟩
      intro summaries hsummaries worldId directory hfound
      cases hsummaries
      have hkey : worldId ∈ listed.map WorldSummary.id := by
        rw [hids listed hlisted]
        exact List.mem_map.mpr ⟨(worldId, directory), (hmem _ _).mpr hfound, rfl⟩
      obtain ⟨summary, hsummary, hid⟩ := List.mem_map.mp hkey
      exact List.mem_map.mpr ⟨summary, (List.mem_insertionSort _).mpr hsummary, hid⟩

end Listing

/-! ## The guarantee -/

/-- What is left of the worlds of a home, wherever its calls were cut off. A kept world has its
database, and is listed whenever the listing succeeds; the listing succeeds when every
directory has a database with its row of metadata, and so without interruptions. -/
structure CatalogSurvives {Digest : Type} (toml : CatalogToml) (deps : Dependencies Digest)
    (labels : List CatalogLabel) (state : CatalogState Digest) : Prop where
  opens : ∀ worldId, Kept labels worldId → ∃ directory opened,
    state.worlds.lookup worldId = some directory ∧
      openWorldDatabase directory worldId = .ok opened
  lists : (∃ summaries, (listWorlds toml deps state.worlds).2 = .ok summaries) ↔
    ∀ worldId directory, state.worlds.lookup worldId = some directory →
      (directory.database.bind Database.worldMetadata).isSome = true
  contains : ∀ summaries, (listWorlds toml deps state.worlds).2 = .ok summaries →
    ∀ worldId, Kept labels worldId → worldId ∈ summaries.map WorldSummary.id
  uninterrupted : Uninterrupted labels → state.call = none →
    ∃ summaries, (listWorlds toml deps state.worlds).2 = .ok summaries

/-- Kept worlds survive every interruption of creating and deleting others. -/
theorem catalog_survives {Digest : Type} {toml : CatalogToml} (htoml : toml.Faithful)
    (deps : Dependencies Digest) {labels : List CatalogLabel} {state : CatalogState Digest}
    (hrun : (catalogSystem toml Digest).Run ⟨∅, none⟩ labels state) :
    CatalogSurvives toml deps labels state := by
  have hinvariant := catalogInvariant_run htoml hrun
  obtain ⟨hlists, hids⟩ := @listWorlds_ok _ _ deps htoml _ hinvariant.stored
  have hrow : ∀ worldId directory, state.worlds.lookup worldId = some directory →
      (directory.Holds worldId ↔
        (directory.database.bind Database.worldMetadata).isSome = true) := by
    intro worldId directory hfound
    rcases (hinvariant.stored worldId directory hfound).database with hunborn | hholds
    · rw [hunborn.metadata]
      exact ⟨fun hholds => absurd hholds hunborn.not_holds, fun hsome => by cases hsome⟩
    · rw [hholds.metadata]
      exact ⟨fun _ => rfl, fun _ => hholds⟩
  refine ⟨fun worldId hkept => ?_, ?_, fun summaries hsummaries worldId hkept => ?_,
    fun huninterrupted hidle => ?_⟩
  · obtain ⟨⟨directory, hfound, hholds⟩, -⟩ := hinvariant.kept worldId hkept
    exact ⟨directory, _, hfound, hholds.openWorldDatabase⟩
  · rw [hlists]
    exact forall₃_congr hrow
  · obtain ⟨⟨directory, hfound, -⟩, -⟩ := hinvariant.kept worldId hkept
    exact hids summaries hsummaries worldId directory hfound
  · refine hlists.mpr fun worldId directory hfound => ?_
    rcases hinvariant.whole huninterrupted worldId directory hfound with
      hholds | ⟨call, hcall, -⟩
    · exact hholds
    · rw [hidle] at hcall
      cases hcall

/-! ## A creation that is cut off -/

/-- The document of metadata that has only a title. -/
def titleDocument (title : String) : String :=
  "schema = 1\ntitle = \"" ++ title ++ "\"\n"

/-- Plain metadata is written as its document, and read back from it. -/
def plainToml : CatalogToml where
  toStringPretty metadata :=
    if metadata.isPlain then .ok (titleDocument metadata.title) else .error ⟨"unsupported value"⟩
  fromStr source :=
    let title := String.ofList (source.toList.drop 20).dropLast.dropLast
    if titleDocument title = source then .ok ⟨worldCatalogMetadataSchema, title, none, none⟩
    else .error ⟨"expected a title"⟩

theorem plainToml_faithful : plainToml.Faithful where
  reads metadata source h := by
    have htitle : ∀ title : String,
        ((titleDocument title).toList.drop 20).dropLast.dropLast = title.toList := by
      intro title
      have hchars : (titleDocument title).toList =
          "schema = 1\ntitle = \"".toList ++ (title.toList ++ "\"\n".toList) := by
        unfold titleDocument
        rw [String.toList_append, String.toList_append, List.append_assoc]
      have hlength : "schema = 1\ntitle = \"".toList.length = 20 := by decide
      rw [hchars, ← hlength, List.drop_left]
      have hends : "\"\n".toList = ['"', '\n'] := by decide
      rw [hends, List.dropLast_append_cons]
      exact List.dropLast_concat
    simp only [plainToml] at h
    split at h
    · next hplain =>
        cases h
        obtain ⟨schema, title, description, cover⟩ := metadata
        simp only [WorldCatalogMetadata.isPlain, Bool.and_eq_true, beq_iff_eq,
          Option.isNone_iff_eq_none] at hplain
        obtain ⟨⟨⟨rfl, rfl⟩, rfl⟩, -⟩ := hplain
        simp [plainToml, htitle, String.ofList_toList]
    · cases h
  writes metadata h := ⟨titleDocument metadata.title, if_pos h⟩

/-- The labels of a creation that returns. -/
def creationLabels (worldId : WorldId) : List CatalogLabel :=
  [.create, .choose worldId] ++ List.replicate 9 .write ++ [.created worldId]

/-- The labels of a first creation that returns, and of a second one that is cut off by a crash
before the database is there. -/
def cutOffLabels : List CatalogLabel :=
  creationLabels ⟨0⟩ ++ [.create, .choose ⟨1⟩, .crash]

theorem save_newWorld : WorldCatalogMetadata.save plainToml
    ⟨worldCatalogMetadataSchema, "New World", none, none⟩ = .ok (titleDocument "New World") := by
  have hplain : WorldCatalogMetadata.isPlain
      ⟨worldCatalogMetadataSchema, "New World", none, none⟩ = true := by
    decide +kernel
  simp only [WorldCatalogMetadata.save, plainToml, hplain, if_true]

/-- Such a run, after which the worlds of the home cannot be listed. -/
theorem cutOff_run : ∃ state : CatalogState String,
    (catalogSystem plainToml String).Run ⟨∅, none⟩ cutOffLabels state ∧
      (listWorlds plainToml (tableDependencies [] []) state.worlds).2 =
        .error (.database .notFound) :=
  ⟨_, .cons (.create ∅) <| .cons (.choose rfl) <| .cons (.createFile rfl rfl) <|
      .cons (.commit rfl rfl rfl) <| .cons (.commit rfl rfl rfl) <|
      .cons (.commit rfl rfl rfl) <| .cons (.commit rfl rfl rfl) <|
      .cons (.writeCatalog rfl) <| .cons (.persistCatalog rfl new_newWorld save_newWorld) <|
      .cons (.writeComposition rfl rfl) <| .cons (.persistComposition "" rfl) <|
      .cons (.created _ _) <| .cons (.create _) <| .cons (.choose rfl) <| .single (.crash _),
    rfl⟩

theorem kept_cutOff : Kept cutOffLabels ⟨0⟩ := by
  unfold Kept
  decide

/-- The first world is kept, though the listing fails. -/
theorem catalog_cut_off : plainToml.Faithful ∧ ∃ state : CatalogState String,
    (catalogSystem plainToml String).Run ⟨∅, none⟩ cutOffLabels state ∧
      Kept cutOffLabels ⟨0⟩ ∧
      (listWorlds plainToml (tableDependencies [] []) state.worlds).2 =
        .error (.database .notFound) := by
  obtain ⟨state, hrun, hlisted⟩ := cutOff_run
  exact ⟨plainToml_faithful, state, hrun, kept_cutOff, hlisted⟩

/-- The first world survives the creation that was cut off. -/
theorem catalog_survives_cutOff : ∃ state : CatalogState String,
    CatalogSurvives plainToml (tableDependencies [] []) cutOffLabels state := by
  obtain ⟨state, hrun, -⟩ := cutOff_run
  exact ⟨state, catalog_survives plainToml_faithful (tableDependencies [] []) hrun⟩

end Rintawa.Host
