/-
# The catalog of worlds

Every world of a home has a directory that is named by its identifier. Its files are the
database, the metadata for the catalog and the composition. Creating and deleting a world are
sequences of separate steps on these files, any of which can fail or be the last one before
a crash. Listing the worlds opens the database of every directory.
-/

import Rintawa.Artifacts.Error
import Rintawa.Lib.Dict
import Rintawa.Lib.Text
import Rintawa.Storage.CrashSafety

namespace Rintawa.Host

open Rintawa.Lib Rintawa.Sdk Rintawa.Storage Rintawa.Artifacts

def worldIdCreationAttempts : Nat := 8
def worldCatalogMetadataSchema : UInt32 := 1
def maxWorldTitleBytes : Nat := 256
def maxWorldDescriptionBytes : Nat := 4 * 1024

/-! ## Metadata -/

/-- A reference to the immutable cover of a world. -/
structure AssetRef where
  digest : String
  size : UInt64
  mediaType : String
  deriving DecidableEq

/-- What the sidecar of a world holds. -/
structure WorldCatalogMetadata where
  schema : UInt32
  title : String
  description : Option String
  cover : Option AssetRef
  deriving DecidableEq

/-- The errors of the host that concern the catalog. -/
inductive WorldCatalogError
  | invalidWorldTitle (actualBytes maximumBytes : Nat)
  | invalidWorldDescription (actualBytes maximumBytes : Nat)
  | worldCatalogMetadataMissing
  | worldCatalogMetadataDecode (error : TomlError)
  | worldCatalogMetadataEncode (error : TomlError)
  | unsupportedWorldCatalogMetadataSchema (schema : UInt32)
  | worldDirectoryIdMismatch (directoryId databaseId : WorldId)
  | database (error : DatabaseError)

/-- A text without the white space around it. -/
def trim (text : String) : String :=
  String.ofList ((text.toList.dropWhile isWhiteSpace).reverse.dropWhile isWhiteSpace).reverse

def normalizeTitle (title : String) : Except WorldCatalogError String :=
  let title := trim title
  if title = "" ∨ maxWorldTitleBytes < title.utf8ByteSize then
    .error (.invalidWorldTitle title.utf8ByteSize maxWorldTitleBytes)
  else .ok title

/-- A blank description is none. -/
def normalizeDescription (description : Option String) :
    Except WorldCatalogError (Option String) :=
  match description with
  | none => .ok none
  | some description =>
      let description := trim description
      if description = "" then .ok none
      else if maxWorldDescriptionBytes < description.utf8ByteSize then
        .error (.invalidWorldDescription description.utf8ByteSize maxWorldDescriptionBytes)
      else .ok (some description)

/-- The library that writes metadata as a document and reads it back. -/
structure CatalogToml where
  toStringPretty : WorldCatalogMetadata → Except TomlError String
  fromStr : String → Except TomlError WorldCatalogMetadata

/-- Metadata with nothing but a title of letters, digits and spaces. -/
def WorldCatalogMetadata.isPlain (metadata : WorldCatalogMetadata) : Bool :=
  metadata.schema == worldCatalogMetadataSchema && metadata.description.isNone &&
    metadata.cover.isNone && metadata.title.toList.all fun c => c.isAlphanum || c == ' '

/-- Metadata is read back from the document that was written for it. Plain metadata is
written. -/
structure CatalogToml.Faithful (toml : CatalogToml) : Prop where
  reads : ∀ metadata source, toml.toStringPretty metadata = .ok source →
    toml.fromStr source = .ok metadata
  writes : ∀ metadata, metadata.isPlain = true →
    ∃ source, toml.toStringPretty metadata = .ok source

namespace WorldCatalogMetadata

def new (title : String) (cover : Option AssetRef) :
    Except WorldCatalogError WorldCatalogMetadata :=
  match normalizeTitle title with
  | .error error => .error error
  | .ok title => .ok ⟨worldCatalogMetadataSchema, title, none, cover⟩

def withDescription (metadata : WorldCatalogMetadata) (description : Option String) :
    Except WorldCatalogError WorldCatalogMetadata :=
  match normalizeDescription description with
  | .error error => .error error
  | .ok description => .ok { metadata with description := description }

/-- Read the metadata of a document, which is checked again. -/
def load (toml : CatalogToml) (file : Option String) :
    Except WorldCatalogError WorldCatalogMetadata :=
  match file with
  | none => .error .worldCatalogMetadataMissing
  | some source =>
      match toml.fromStr source with
      | .error error => .error (.worldCatalogMetadataDecode error)
      | .ok decoded =>
          if decoded.schema ≠ worldCatalogMetadataSchema then
            .error (.unsupportedWorldCatalogMetadataSchema decoded.schema)
          else
            match new decoded.title decoded.cover with
            | .error error => .error error
            | .ok metadata => metadata.withDescription decoded.description

/-- The document that a save puts in the place of the old one. -/
def save (toml : CatalogToml) (metadata : WorldCatalogMetadata) :
    Except WorldCatalogError String :=
  match toml.toStringPretty metadata with
  | .error error => .error (.worldCatalogMetadataEncode error)
  | .ok source => .ok source

end WorldCatalogMetadata

/-! ## Directories -/

/-- The files in the directory of a world. A document is written to a temporary file that then
replaces the old one. The database has its journal. -/
structure WorldDirectory (Digest : Type) where
  database : Option (Database Digest)
  catalog : Option String
  composition : Option String
  temporaries : Nat

def WorldDirectory.empty (Digest : Type) : WorldDirectory Digest :=
  ⟨none, none, none, 0⟩

/-- The directories of a home, by the identifiers that name them. -/
abbrev Worlds (Digest : Type) := Dict WorldId (WorldDirectory Digest)

/-- A world in the catalog. -/
structure WorldSummary where
  id : WorldId
  title : String
  description : Option String
  cover : Option AssetRef
  commitPosition : Nat
  deriving DecidableEq

def worldSummary (row : WorldMetadataRow) (metadata : WorldCatalogMetadata) : WorldSummary :=
  ⟨row.worldId, metadata.title, metadata.description, metadata.cover, row.commitPosition⟩

section Listing

variable {Digest : Type}

/-- Open the database of a directory, which leaves it migrated. -/
def openWorldDatabase (directory : WorldDirectory Digest) (directoryId : WorldId) :
    Except WorldCatalogError (Database Digest × WorldMetadataRow) :=
  match openDatabase directory.database with
  | .error error => .error (.database error)
  | .ok (database, row) =>
      if row.worldId ≠ directoryId then
        .error (.worldDirectoryIdMismatch directoryId row.worldId)
      else .ok (database, row)

variable (toml : CatalogToml) (deps : Dependencies Digest)

/-- The metadata of a directory. A world without metadata gets a title by its place. -/
def catalogMetadata (index : Nat) (catalog : Option String) :
    Except WorldCatalogError (WorldCatalogMetadata × Option String) :=
  match WorldCatalogMetadata.load toml catalog with
  | .ok metadata => .ok (metadata, catalog)
  | .error .worldCatalogMetadataMissing =>
      match WorldCatalogMetadata.new ("World " ++ toString (index + 1)) none with
      | .error error => .error error
      | .ok metadata =>
          match metadata.save toml with
          | .error error => .error error
          | .ok source => .ok (metadata, some source)
  | .error error => .error error

/-- List one world, and leave its directory as the listing changes it. -/
def listWorld (index : Nat) (worldId : WorldId) (directory : WorldDirectory Digest) :
    WorldDirectory Digest × Except WorldCatalogError WorldSummary :=
  match openWorldDatabase directory worldId with
  | .error error => (directory, .error error)
  | .ok (database, row) =>
      let opened := { directory with database := some database }
      match catalogMetadata toml index directory.catalog with
      | .error error => (opened, .error error)
      | .ok (metadata, catalog) =>
          let listed := { opened with catalog := catalog }
          match loadSchemaRegistry deps database.worldSchemas with
          | .error error => (listed, .error (.database (.storage error)))
          | .ok _ => (listed, .ok (worldSummary row metadata))

/-- List directories in order. The first one that fails ends the listing. -/
def listEntries : Nat → Worlds Digest → List (WorldId × WorldDirectory Digest) →
    Worlds Digest × Except WorldCatalogError (List WorldSummary)
  | _, worlds, [] => (worlds, .ok [])
  | index, worlds, (worldId, directory) :: rest =>
      match listWorld toml deps index worldId directory with
      | (directory, .error error) => (worlds.insert worldId directory, .error error)
      | (directory, .ok summary) =>
          let listed := listEntries (index + 1) (worlds.insert worldId directory) rest
          (listed.1, listed.2.map fun summaries => summary :: summaries)

/-- List all worlds. The directories are visited in the order of their names. -/
def listWorlds (worlds : Worlds Digest) :
    Worlds Digest × Except WorldCatalogError (List WorldSummary) :=
  let entries := worlds.pairs.insertionSort fun left right =>
    uuidText left.1.intoBytes ≤ uuidText right.1.intoBytes
  let listed := listEntries toml deps 0 worlds entries
  (listed.1, listed.2.map fun summaries =>
    summaries.insertionSort fun left right =>
      left.id.intoBytes.toNat ≤ right.id.intoBytes.toNat)

end Listing

/-! ## Creating and deleting -/

/-- How far the creation of a world has come, after its directory was made. -/
inductive CreationStage
  | directory
  | initializing (steps : List DatabaseStep)
  | catalogWritten
  | cataloged
  | compositionWritten
  | finished

/-- What a call of the home is at. A removal ends a deletion or a creation that failed. -/
inductive CatalogCall
  | choosing (attempts : Nat)
  | creating (worldId : WorldId) (stage : CreationStage)
  | deleting (worldId : WorldId) (steps : List DatabaseStep)
  | removing (worldId : WorldId)

/-- The directories of a home, and the call that works on them. -/
structure CatalogState (Digest : Type) where
  worlds : Worlds Digest
  call : Option CatalogCall

/-- The calls of the catalog, one write at a time. -/
inductive CatalogLabel
  | create
  | choose (worldId : WorldId)
  | write
  | created (worldId : WorldId)
  | delete (worldId : WorldId)
  | remove
  | removed (worldId : WorldId)
  | refused
  | failed
  | crash
  deriving DecidableEq

/-- One file of a directory is removed. -/
inductive RemovesFile {Digest : Type} : WorldDirectory Digest → WorldDirectory Digest → Prop
  | database (directory : WorldDirectory Digest) :
      RemovesFile directory { directory with database := none }
  | catalog (directory : WorldDirectory Digest) :
      RemovesFile directory { directory with catalog := none }
  | composition (directory : WorldDirectory Digest) :
      RemovesFile directory { directory with composition := none }
  | temporary (directory : WorldDirectory Digest) (temporaries : Nat) :
      temporaries < directory.temporaries →
      RemovesFile directory { directory with temporaries := temporaries }

/-- The directory after a step of a creation that failed. A temporary file is removed when
that succeeds, and so is a database that could not be initialized. -/
inductive Abandons {Digest : Type} :
    CreationStage → WorldDirectory Digest → WorldDirectory Digest → Prop
  | kept (stage : CreationStage) (directory : WorldDirectory Digest) :
      Abandons stage directory directory
  | temporary (stage : CreationStage) (directory : WorldDirectory Digest) :
      Abandons stage directory { directory with temporaries := directory.temporaries - 1 }
  | database (step : DatabaseStep) (rest : List DatabaseStep)
      (directory : WorldDirectory Digest) :
      Abandons (.initializing (step :: rest)) directory { directory with database := none }

section Steps

variable {Digest : Type} (toml : CatalogToml)

/-- The steps of creating and deleting worlds. Every step can fail, and be the last one before
a crash. -/
inductive CatalogStep : CatalogState Digest → CatalogLabel → CatalogState Digest → Prop
  | create (worlds : Worlds Digest) :
      CatalogStep ⟨worlds, none⟩ .create ⟨worlds, some (.choosing worldIdCreationAttempts)⟩
  | choose {worlds : Worlds Digest} {attempts : Nat} {worldId : WorldId} :
      worlds.lookup worldId = none →
      CatalogStep ⟨worlds, some (.choosing (attempts + 1))⟩ (.choose worldId)
        ⟨worlds.insert worldId (.empty Digest), some (.creating worldId .directory)⟩
  | collide {worlds : Worlds Digest} {attempts : Nat} {worldId : WorldId} :
      (worlds.lookup worldId).isSome = true →
      CatalogStep ⟨worlds, some (.choosing (attempts + 1))⟩ (.choose worldId)
        ⟨worlds, some (.choosing attempts)⟩
  | giveUp (worlds : Worlds Digest) (attempts : Nat) :
      CatalogStep ⟨worlds, some (.choosing attempts)⟩ .refused ⟨worlds, none⟩
  | createFile {worlds : Worlds Digest} {worldId : WorldId} {directory : WorldDirectory Digest} :
      worlds.lookup worldId = some directory → directory.database = none →
      CatalogStep ⟨worlds, some (.creating worldId .directory)⟩ .write
        ⟨worlds.insert worldId { directory with database := some .v0 },
          some (.creating worldId (.initializing (initializationSteps worldId)))⟩
  | commit {worlds : Worlds Digest} {worldId : WorldId} {directory : WorldDirectory Digest}
      {database database' : Database Digest} {step : DatabaseStep} {rest : List DatabaseStep} :
      worlds.lookup worldId = some directory → directory.database = some database →
      step.apply database = .ok database' →
      CatalogStep ⟨worlds, some (.creating worldId (.initializing (step :: rest)))⟩ .write
        ⟨worlds.insert worldId { directory with database := some database' },
          some (.creating worldId (.initializing rest))⟩
  | writeCatalog {worlds : Worlds Digest} {worldId : WorldId}
      {directory : WorldDirectory Digest} :
      worlds.lookup worldId = some directory →
      CatalogStep ⟨worlds, some (.creating worldId (.initializing []))⟩ .write
        ⟨worlds.insert worldId { directory with temporaries := directory.temporaries + 1 },
          some (.creating worldId .catalogWritten)⟩
  | persistCatalog {worlds : Worlds Digest} {worldId : WorldId}
      {directory : WorldDirectory Digest} {metadata : WorldCatalogMetadata} {source : String} :
      worlds.lookup worldId = some directory →
      WorldCatalogMetadata.new "New World" none = .ok metadata →
      metadata.save toml = .ok source →
      CatalogStep ⟨worlds, some (.creating worldId .catalogWritten)⟩ .write
        ⟨worlds.insert worldId { directory with
            catalog := some source, temporaries := directory.temporaries - 1 },
          some (.creating worldId .cataloged)⟩
  | writeComposition {worlds : Worlds Digest} {worldId : WorldId}
      {directory : WorldDirectory Digest} {opened : Database Digest × WorldMetadataRow} :
      worlds.lookup worldId = some directory →
      openWorldDatabase directory worldId = .ok opened →
      CatalogStep ⟨worlds, some (.creating worldId .cataloged)⟩ .write
        ⟨worlds.insert worldId { directory with
            database := some opened.1, temporaries := directory.temporaries + 1 },
          some (.creating worldId .compositionWritten)⟩
  | persistComposition {worlds : Worlds Digest} {worldId : WorldId}
      {directory : WorldDirectory Digest} (source : String) :
      worlds.lookup worldId = some directory →
      CatalogStep ⟨worlds, some (.creating worldId .compositionWritten)⟩ .write
        ⟨worlds.insert worldId { directory with
            composition := some source, temporaries := directory.temporaries - 1 },
          some (.creating worldId .finished)⟩
  | created (worlds : Worlds Digest) (worldId : WorldId) :
      CatalogStep ⟨worlds, some (.creating worldId .finished)⟩ (.created worldId) ⟨worlds, none⟩
  | creationFailed {worlds : Worlds Digest} {worldId : WorldId} {stage : CreationStage}
      {directory directory' : WorldDirectory Digest} :
      worlds.lookup worldId = some directory → Abandons stage directory directory' →
      CatalogStep ⟨worlds, some (.creating worldId stage)⟩ .failed
        ⟨worlds.insert worldId directory', some (.removing worldId)⟩
  | delete {worlds : Worlds Digest} {worldId : WorldId} {directory : WorldDirectory Digest}
      {database : Database Digest} {steps : List DatabaseStep} :
      worlds.lookup worldId = some directory → directory.database = some database →
      migrationSteps database = .ok steps →
      CatalogStep ⟨worlds, none⟩ (.delete worldId) ⟨worlds, some (.deleting worldId steps)⟩
  | deleteRefused (worlds : Worlds Digest) (worldId : WorldId) :
      CatalogStep ⟨worlds, none⟩ (.delete worldId) ⟨worlds, none⟩
  | migrate {worlds : Worlds Digest} {worldId : WorldId} {directory : WorldDirectory Digest}
      {database database' : Database Digest} {step : DatabaseStep} {rest : List DatabaseStep} :
      worlds.lookup worldId = some directory → directory.database = some database →
      step.apply database = .ok database' →
      CatalogStep ⟨worlds, some (.deleting worldId (step :: rest))⟩ .write
        ⟨worlds.insert worldId { directory with database := some database' },
          some (.deleting worldId rest)⟩
  | opened {worlds : Worlds Digest} {worldId : WorldId} {directory : WorldDirectory Digest}
      {opened : Database Digest × WorldMetadataRow} :
      worlds.lookup worldId = some directory →
      openWorldDatabase directory worldId = .ok opened →
      CatalogStep ⟨worlds, some (.deleting worldId [])⟩ .remove ⟨worlds, some (.removing worldId)⟩
  | deletionFailed (worlds : Worlds Digest) (worldId : WorldId) (steps : List DatabaseStep) :
      CatalogStep ⟨worlds, some (.deleting worldId steps)⟩ .failed ⟨worlds, none⟩
  | removeFile {worlds : Worlds Digest} {worldId : WorldId}
      {directory directory' : WorldDirectory Digest} :
      worlds.lookup worldId = some directory → RemovesFile directory directory' →
      CatalogStep ⟨worlds, some (.removing worldId)⟩ .remove
        ⟨worlds.insert worldId directory', some (.removing worldId)⟩
  | removeDirectory {worlds : Worlds Digest} {worldId : WorldId} :
      worlds.lookup worldId = some (.empty Digest) →
      CatalogStep ⟨worlds, some (.removing worldId)⟩ (.removed worldId)
        ⟨worlds.erase worldId, none⟩
  | removalFailed (worlds : Worlds Digest) (worldId : WorldId) :
      CatalogStep ⟨worlds, some (.removing worldId)⟩ .failed ⟨worlds, none⟩
  | crash (state : CatalogState Digest) : CatalogStep state .crash ⟨state.worlds, none⟩

/-- The catalog of a home that starts without worlds. -/
def catalogSystem (Digest : Type) : Lts (CatalogState Digest) CatalogLabel where
  init state := state = ⟨∅, none⟩
  step := CatalogStep toml

end Steps

end Rintawa.Host
