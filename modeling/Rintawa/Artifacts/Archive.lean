/-
# Validated archives

An archive is a ZIP file. Its directory is read by a library and checked entry by entry
against the limits of the host before anything in it is used: the names, the kinds and
sizes of the entries, and that no file is where another needs a directory. Contents are
read up to a limit, whatever the directory declares.
-/

import Mathlib.Data.List.Sort
import Rintawa.Artifacts.Manifest
import Rintawa.Lib.Dict

namespace Rintawa.Artifacts

open Rintawa.Lib

/-! ## ZIP files -/

/-- The methods that entries may declare. -/
inductive CompressionMethod
  | stored
  | deflated
  | other (code : Nat)
  deriving DecidableEq

/-- The bytes that a reader yields, and the failure that follows them. -/
structure ReadStream where
  bytes : List UInt8
  failure : Option IoError
  deriving DecidableEq

/-- Read to the end, but no more than a number of bytes. What is read has to fit into one
vector. -/
def ReadStream.takeToEnd (stream : ReadStream) (limit : Nat) : Except IoError (List UInt8) :=
  if isizeMax < min limit stream.bytes.length then .error (.other "out of memory")
  else if limit ≤ stream.bytes.length then .ok (stream.bytes.take limit)
  else
    match stream.failure with
    | some error => .error error
    | none => .ok stream.bytes

/-- One entry of a directory, as the library reports it. -/
structure ZipFile where
  nameRaw : List UInt8
  name : String
  isDir : Bool
  isSymlink : Bool
  unixMode : Option Nat
  compression : CompressionMethod
  encrypted : Bool
  compressedSize : Nat
  size : Nat
  stream : ReadStream
  deriving DecidableEq

/-- The entries in the order of the directory, with those that the library cannot open. -/
abbrev ZipArchive := List (Except ZipError ZipFile)

/-- The entry at a place of the directory. -/
def ZipArchive.byIndex (archive : ZipArchive) (index : Nat) : RtwResult ZipFile :=
  match archive[index]? with
  | some file => orError .zip file
  | none => .error (.zip ⟨"specified file not found in archive"⟩)

/-! ## Limits and entries -/

/-- The limits of an archive. -/
structure RtwLimits where
  maxArchiveBytes : Nat
  maxEntries : Nat
  maxEntryBytes : Nat
  maxUncompressedBytes : Nat
  maxManifestBytes : Nat
  deriving DecidableEq

/-- A file of an archive that was opened. -/
structure ArtifactEntry where
  path : ArtifactPath
  compressedSize : Nat
  uncompressedSize : Nat
  deriving DecidableEq

/-- What is known of the entries that were already checked. -/
structure Scan where
  files : List String
  directories : List String
  entries : Dict ArtifactPath ArtifactEntry
  entryIndices : Dict ArtifactPath Nat
  totalUncompressed : Nat

/-- Nothing was scanned. -/
def Scan.start : Scan :=
  ⟨[], [], ∅, ∅, 0⟩

/-! ## Checks of one entry -/

/-- The bits of a mode that tell the type of a file. -/
def fileTypeMask : Nat := 0o170000

/-- Check that an entry is a plain file or directory. -/
def validateZipEntryType (file : ZipFile) (path : String) (isDirectory : Bool) :
    RtwResult Unit := do
  require (!file.isSymlink) (.unsupportedEntryType path)
  match file.unixMode with
  | none => .ok ()
  | some mode =>
      let fileType := mode &&& fileTypeMask
      let expected := if isDirectory then 0o040000 else 0o100000
      require (fileType == 0 || fileType == expected) (.unsupportedEntryType path)

/-- Check the method of an entry. -/
def validateCompression (file : ZipFile) (path : String) : RtwResult Unit :=
  match file.compression with
  | .stored | .deflated => .ok ()
  | .other _ => .error (.unsupportedCompression path)

/-- The name of an entry, whose bytes are the text that the library shows. -/
def canonicalName (file : ZipFile) : RtwResult String :=
  match fromUtf8 file.nameRaw with
  | none => .error (.invalidPath "<non-utf8>" "ZIP entry names must be UTF-8")
  | some rawName => do
      require (rawName == file.name)
        (.invalidPath file.name "ZIP entry name must use canonical UTF-8 encoding")
      .ok rawName

/-- Everything about an entry that is checked by itself. -/
def validateZipEntry (file : ZipFile) : RtwResult String := do
  let rawName ← canonicalName file
  let normalized ← validateArchiveName rawName file.isDir
  validateZipEntryType file normalized file.isDir
  validateCompression file normalized
  require (!file.encrypted) (.encryptedEntry normalized)
  .ok normalized

/-- Scan the entry of a directory. -/
def scanDirectory (scan : Scan) (normalized : String) : RtwResult Scan := do
  require (!scan.files.contains normalized) (.pathConflict normalized)
  require (!scan.directories.contains normalized) (.duplicateEntry normalized)
  .ok { scan with directories := normalized :: scan.directories }

/-- Scan the entry of a file. -/
def scanFile (limits : RtwLimits) (scan : Scan) (index : Nat) (file : ZipFile)
    (normalized : String) : RtwResult Scan := do
  require (decide (file.size ≤ limits.maxEntryBytes))
    (.entryTooLarge normalized file.size limits.maxEntryBytes)
  require (!scan.directories.contains normalized) (.pathConflict normalized)
  require (!scan.files.contains normalized) (.duplicateEntry normalized)
  let path ← ArtifactPath.parse normalized
  .ok { scan with
        files := normalized :: scan.files
        entryIndices := scan.entryIndices.insert path index
        entries := scan.entries.insert path ⟨path, file.compressedSize, file.size⟩ }

/-- Scan one entry. -/
def scanEntry (limits : RtwLimits) (scan : Scan) (index : Nat) (file : ZipFile) :
    RtwResult Scan := do
  let normalized ← validateZipEntry file
  let total := saturatingAdd scan.totalUncompressed file.size
  require (decide (total ≤ limits.maxUncompressedBytes))
    (.uncompressedArchiveTooLarge total limits.maxUncompressedBytes)
  if file.isDir then scanDirectory { scan with totalUncompressed := total } normalized
  else scanFile limits { scan with totalUncompressed := total } index file normalized

/-- Scan all entries, in order. -/
def scanEntries (limits : RtwLimits) (scan : Scan) (index : Nat) : ZipArchive → RtwResult Scan
  | [] => .ok scan
  | file :: rest => do
      let file ← orError .zip file
      let scan ← scanEntry limits scan index file
      scanEntries limits scan (index + 1) rest

/-! ## Checks of a directory -/

/-- The first file that a path needs as a directory. Which of several conflicts is reported
depends on the order of a hash set, for which the order of insertion stands here. -/
def conflict (files : List String) (path : String) : Option String :=
  (parentPaths path).find? fun parent => files.contains parent

/-- Check all entries, and then their paths together. -/
def validateEntries (archive : ZipArchive) (limits : RtwLimits) : RtwResult Scan := do
  require (decide (archive.length ≤ limits.maxEntries))
    (.tooManyEntries archive.length limits.maxEntries)
  let scan ← scanEntries limits .start 0 archive
  match (scan.files ++ scan.directories).findSome? (conflict scan.files) with
  | some parent => .error (.pathConflict parent)
  | none => do
      require (scan.files.contains rtwManifestPath) .missingManifest
      .ok scan

/-- Read an entry up to a limit. -/
def readZipEntry (archive : ZipArchive) (index : Nat) (path : String) (declaredSize maximum : Nat) :
    RtwResult (List UInt8) := do
  require (decide (declaredSize ≤ maximum)) (.entryTooLarge path declaredSize maximum)
  let file ← archive.byIndex index
  let output ← orError .io (file.stream.takeToEnd (saturatingAdd maximum 1))
  require (decide (sizeOfBytes output ≤ maximum))
    (.entryTooLarge path (sizeOfBytes output) maximum)
  .ok output

/-- Read and check the manifest. -/
def readManifest (toml : TomlCrate) (archive : ZipArchive)
    (entryIndices : Dict ArtifactPath Nat) (limits : RtwLimits) : RtwResult RtwManifest :=
  match entryIndices.lookup manifestPath with
  | none => .error .missingManifest
  | some index => do
      let file ← archive.byIndex index
      require (decide (file.size ≤ limits.maxManifestBytes))
        (.manifestTooLarge file.size limits.maxManifestBytes)
      let bytes ← readZipEntry archive index rtwManifestPath file.size limits.maxManifestBytes
      match fromUtf8 bytes with
      | none => .error .invalidManifestEncoding
      | some source => orError .manifestParse (toml.fromStr source)

/-! ## Archives -/

/-- One file that is written, with its options. -/
structure ZipSource where
  name : String
  compression : CompressionMethod
  unixPermissions : Nat
  contents : List UInt8
  deriving DecidableEq

/-- The library that writes ZIP files and reads their directories. -/
structure ZipCrate where
  encode : List ZipSource → Except ZipError (List UInt8)
  decode : List UInt8 → Except ZipError ZipArchive

/-- An entry is reported as the regular file that was written. -/
structure ReadBack (source : ZipSource) (file : ZipFile) : Prop where
  nameRaw : file.nameRaw = utf8 source.name
  name : file.name = source.name
  isDir : file.isDir = false
  isSymlink : file.isSymlink = false
  unixMode : file.unixMode = some (0o100000 ||| source.unixPermissions)
  compression : file.compression = source.compression
  encrypted : file.encrypted = false
  size : file.size = source.contents.length
  stream : file.stream = ⟨source.contents, none⟩

/-- Files under different canonical paths are read back from what was written for them, in
the same order. -/
def ZipCrate.RoundTrips (zip : ZipCrate) : Prop :=
  ∀ sources bytes, (∀ source ∈ sources, ∃ path : ArtifactPath, source.name = path.value) →
    (sources.map ZipSource.name).Nodup → zip.encode sources = .ok bytes →
    ∃ files, zip.decode bytes = .ok (files.map .ok) ∧ List.Forall₂ ReadBack sources files

/-- A validated archive. -/
structure RtwArchive where
  archive : ZipArchive
  manifest : RtwManifest
  entries : Dict ArtifactPath ArtifactEntry
  entryIndices : Dict ArtifactPath Nat
  limits : RtwLimits

/-- Open an archive and check all of it. -/
def validateReader (zip : ZipCrate) (toml : TomlCrate) (bytes : List UInt8)
    (limits : RtwLimits) : RtwResult RtwArchive := do
  require (decide (sizeOfBytes bytes ≤ limits.maxArchiveBytes))
    (.archiveTooLarge (sizeOfBytes bytes) limits.maxArchiveBytes)
  let archive ← orError .zip (zip.decode bytes)
  let scan ← validateEntries archive limits
  let manifest ← readManifest toml archive scan.entryIndices limits
  manifest.validate
  require (scan.entries.lookup manifest.entry).isSome
    (.missingContentEntry manifest.entry.value)
  .ok ⟨archive, manifest, scan.entries, scan.entryIndices, limits⟩

/-- Check an archive without keeping it. -/
def validateBytes (zip : ZipCrate) (toml : TomlCrate) (bytes : List UInt8) (limits : RtwLimits) :
    RtwResult Unit := do
  let _ ← validateReader zip toml bytes limits
  .ok ()

namespace RtwArchive

/-- Open the file with the given contents. -/
def fromFile (zip : ZipCrate) (toml : TomlCrate) (bytes : List UInt8) (limits : RtwLimits) :
    RtwResult RtwArchive :=
  validateReader zip toml bytes limits

/-- The entries of regular files, in the order of their paths. -/
def listed (archive : RtwArchive) : List ArtifactEntry :=
  archive.entries.values.insertionSort fun left right => left.path.le right.path

/-- Whether there is a file at a path. -/
def contains (archive : RtwArchive) (path : ArtifactPath) : Bool :=
  (archive.entries.lookup path).isSome

/-- Read a file up to a limit. -/
def readWithLimit (archive : RtwArchive) (path : ArtifactPath) (maximumBytes : Nat) :
    RtwResult (List UInt8) :=
  match archive.entryIndices.lookup path, archive.entries.lookup path with
  | some index, some entry =>
      readZipEntry archive.archive index path.value entry.uncompressedSize
        (min maximumBytes archive.limits.maxEntryBytes)
  | _, _ => .error (.entryNotFound path.value)

/-- Read a file up to the limit of entries. -/
def read (archive : RtwArchive) (path : ArtifactPath) : RtwResult (List UInt8) :=
  archive.readWithLimit path archive.limits.maxEntryBytes

end RtwArchive

end Rintawa.Artifacts
