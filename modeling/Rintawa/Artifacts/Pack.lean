/-
# Packing

An archive is packed from a manifest and files in memory, or from a directory that holds
both. In memory the files are checked before anything is written, and the bytes that were
written are validated once more as an archive. A directory is collected and checked by
code of its own, and written to a temporary file that is validated and then published.
-/

import Rintawa.Artifacts.Archive

namespace Rintawa.Artifacts

open Rintawa.Lib

/-! ## Writing -/

/-- Files are written with fixed permissions. -/
def unixPermissions : Nat := 0o644

/-- How the entries of an archive are compressed. -/
inductive RtwCompression
  | deflated
  | stored
  deriving DecidableEq

def RtwCompression.method : RtwCompression → CompressionMethod
  | .deflated => .deflated
  | .stored => .stored

/-- The files that were started, where what is written goes to the last. -/
structure ZipWriter where
  files : List ZipSource

namespace ZipWriter

/-- A writer with nothing written. -/
def new : ZipWriter := ⟨[]⟩

/-- Begin a file. -/
def startFile (writer : ZipWriter) (name : String) (compression : RtwCompression) : ZipWriter :=
  ⟨writer.files ++ [⟨name, compression.method, unixPermissions, []⟩]⟩

/-- Write to the file that was begun last. -/
def writeAll (writer : ZipWriter) (bytes : List UInt8) : ZipWriter :=
  match writer.files.getLast? with
  | none => writer
  | some file =>
      ⟨writer.files.dropLast ++ [{ file with contents := file.contents ++ bytes }]⟩

/-- The bytes of the archive. A library that cannot write a file reports it here. -/
def finish (zip : ZipCrate) (writer : ZipWriter) : RtwResult (List UInt8) :=
  orError .zip (zip.encode writer.files)

end ZipWriter

/-! ## Files in memory -/

/-- A file to pack. -/
structure RtwPackEntry where
  path : ArtifactPath
  bytes : ByteVec
  deriving DecidableEq

/-- Entries are sorted by their paths. -/
def pathLe (left right : RtwPackEntry) : Prop := left.path.le right.path

instance : DecidableRel pathLe := fun left right =>
  inferInstanceAs (Decidable (left.path.le right.path))

/-- Check the size of one entry. -/
def enforceEntrySize (path : String) (size maximum : Nat) : RtwResult Unit :=
  require (decide (size ≤ maximum)) (.entryTooLarge path size maximum)

/-- The paths and the total size behind one more entry. -/
def validateMemoryEntry (limits : RtwLimits) (checked : List String × Nat)
    (entry : RtwPackEntry) : RtwResult (List String × Nat) := do
  require (!checked.1.contains entry.path.value) (.duplicateEntry entry.path.value)
  let size := sizeOfBytes entry.bytes.bytes
  enforceEntrySize entry.path.value size limits.maxEntryBytes
  let total := saturatingAdd checked.2 size
  require (decide (total ≤ limits.maxUncompressedBytes))
    (.uncompressedArchiveTooLarge total limits.maxUncompressedBytes)
  .ok (entry.path.value :: checked.1, total)

/-- Check what is to be packed from memory: how much it is, that no path is there twice, that no
file is the parent of another one, which is looked for in the order of the paths, and that the entry
of the content is there. -/
def validateMemoryEntries (manifest : RtwManifest) (manifestBytes : ByteVec)
    (entries : List RtwPackEntry) (limits : RtwLimits) : RtwResult Unit := do
  let entryCount := entries.length + 1
  require (decide (entryCount ≤ limits.maxEntries)) (.tooManyEntries entryCount limits.maxEntries)
  let manifestSize := sizeOfBytes manifestBytes.bytes
  enforceEntrySize rtwManifestPath manifestSize limits.maxEntryBytes
  require (decide (manifestSize ≤ limits.maxManifestBytes))
    (.manifestTooLarge manifestSize limits.maxManifestBytes)
  require (decide (manifestSize ≤ limits.maxUncompressedBytes))
    (.uncompressedArchiveTooLarge manifestSize limits.maxUncompressedBytes)
  let (paths, _) ← entries.foldlM (validateMemoryEntry limits) ([rtwManifestPath], manifestSize)
  match (paths.insertionSort (· ≤ ·)).findSome? (conflict paths) with
  | some parent => .error (.pathConflict parent)
  | none =>
      require (paths.contains manifest.entry.value) (.missingContentEntry manifest.entry.value)

/-- What is written, once the manifest and the entries have been checked. -/
def prevalidate (toml : TomlCrate) (manifest : RtwManifest) (entries : List RtwPackEntry)
    (limits : RtwLimits) : RtwResult (ByteVec × List RtwPackEntry) := do
  manifest.validate
  let text ← orError .manifestEncode (toml.toString manifest)
  let manifestBytes := text.intoBytes
  let entries := entries.insertionSort pathLe
  validateMemoryEntries manifest manifestBytes entries limits
  .ok (manifestBytes, entries)

/-- The manifest comes first. -/
def writeEntries (manifestBytes : ByteVec) (entries : List RtwPackEntry)
    (compression : RtwCompression) : ZipWriter :=
  entries.foldl
    (fun writer entry =>
      (writer.startFile entry.path.value compression).writeAll entry.bytes.bytes)
    ((ZipWriter.new.startFile rtwManifestPath compression).writeAll manifestBytes.bytes)

/-- Pack files from memory and check the result by reading it. -/
def packEntriesWithCompression (zip : ZipCrate) (toml : TomlCrate) (manifest : RtwManifest)
    (entries : List RtwPackEntry) (limits : RtwLimits) (compression : RtwCompression) :
    RtwResult (List UInt8) := do
  let (manifestBytes, entries) ← prevalidate toml manifest entries limits
  let bytes ← (writeEntries manifestBytes entries compression).finish zip
  require (decide (sizeOfBytes bytes ≤ limits.maxArchiveBytes))
    (.archiveTooLarge (sizeOfBytes bytes) limits.maxArchiveBytes)
  validateBytes zip toml bytes limits
  .ok bytes

/-! ## Directories -/

/-- A name in a directory. -/
structure FileName where
  bytes : List UInt8
  deriving DecidableEq

/-- What a directory can hold. Listing a directory, reading metadata and reading a file may
fail, and a file has the size that its metadata tell. -/
inductive SourceNode
  | file (size : Nat) (contents : Except IoError (List UInt8))
  | unreadable (error : IoError)
  | symlink
  | special
  | directory (failure : Option IoError) (children : List (FileName × SourceNode))

/-- A file of a directory to pack. -/
structure SourceFile where
  artifactPath : ArtifactPath
  size : Nat
  contents : Except IoError (List UInt8)

/-- The segments of a path, joined by slashes. -/
def joinSlash (segments : List String) : String :=
  String.ofList (List.intercalate ['/'] (segments.map String.toList))

/-- A path as it is shown in errors. -/
def displayPath (path : List FileName) : String :=
  joinSlash (path.map fun name => (fromUtf8 name.bytes).getD "\uFFFD")

/-- The path in the archive of a path in the directory. -/
def sourcePathToArtifactPath (path : List FileName) : RtwResult ArtifactPath := do
  let segments ← path.mapM fun name =>
    match fromUtf8 name.bytes with
    | some segment => .ok segment
    | none => .error (.invalidPath (displayPath path) "artifact paths must be valid UTF-8")
  ArtifactPath.parse (joinSlash segments)

/-- Names are compared by their bytes. -/
def FileName.le (left right : FileName) : Prop :=
  left.bytes.map UInt8.toNat ≤ right.bytes.map UInt8.toNat

instance : DecidableRel FileName.le := fun left right =>
  inferInstanceAs (Decidable (left.bytes.map UInt8.toNat ≤ right.bytes.map UInt8.toNat))

mutual

/-- The files at and below a path. The children of a directory are visited in the order of
their names, and the first that fails decides. -/
def collectDirectory (path : List FileName) : SourceNode → RtwResult (List SourceFile)
  | .file size contents => do
      let artifactPath ← sourcePathToArtifactPath path
      .ok [⟨artifactPath, size, contents⟩]
  | .unreadable error => .error (.io error)
  | .symlink | .special => .error (.unsupportedSourceEntry (displayPath path))
  | .directory (some error) _ => .error (.io error)
  | .directory none children => do
      let found ← ((collectChildren path children).insertionSort fun left right =>
        left.1.le right.1).mapM Prod.snd
      .ok found.flatten

/-- The files of the children of a directory, by name. -/
def collectChildren (path : List FileName) :
    List (FileName × SourceNode) → List (FileName × RtwResult (List SourceFile))
  | [] => []
  | (name, node) :: rest =>
      (name, collectDirectory (path ++ [name]) node) :: collectChildren path rest

end

/-- The files of a directory in the order of their paths. -/
def collectSourceFiles (root : SourceNode) : RtwResult (List SourceFile) := do
  let files ← collectDirectory [] root
  .ok (files.insertionSort fun left right => left.artifactPath.le right.artifactPath)

/-- The total size behind one more file. -/
def enforceSourceLimit (limits : RtwLimits) (total : Nat) (file : SourceFile) :
    RtwResult Nat := do
  enforceEntrySize file.artifactPath.value file.size limits.maxEntryBytes
  require (file.artifactPath.value != rtwManifestPath ||
      decide (file.size ≤ limits.maxManifestBytes))
    (.manifestTooLarge file.size limits.maxManifestBytes)
  let total := saturatingAdd total file.size
  require (decide (total ≤ limits.maxUncompressedBytes))
    (.uncompressedArchiveTooLarge total limits.maxUncompressedBytes)
  .ok total

/-- Check the files of a directory before they are read. -/
def enforceSourceLimits (files : List SourceFile) (limits : RtwLimits) : RtwResult Unit := do
  require (decide (files.length ≤ limits.maxEntries))
    (.tooManyEntries files.length limits.maxEntries)
  let _ ← files.foldlM (enforceSourceLimit limits) 0
  .ok ()

/-- The file of the manifest. -/
def findManifest (files : List SourceFile) : Option SourceFile :=
  files.find? fun file => file.artifactPath.value == rtwManifestPath

/-- Read a file as text. -/
def readToString (file : SourceFile) : RtwResult String :=
  match file.contents with
  | .error .invalidData => .error .invalidManifestEncoding
  | .error error => .error (.io error)
  | .ok bytes =>
      match fromUtf8 bytes with
      | none => .error .invalidManifestEncoding
      | some source => .ok source

/-- The manifest lies below the source directory, where it was collected. -/
def validateSourceManifest (toml : TomlCrate) (files : List SourceFile) : RtwResult Unit :=
  match findManifest files with
  | none => .error .missingManifest
  | some file => do
      let source ← readToString file
      let manifest ← orError .manifestParse (toml.fromStr source)
      manifest.validate
      require (files.any fun file => file.artifactPath == manifest.entry)
        (.missingContentEntry manifest.entry.value)

/-- Write a file of the directory. -/
def writeSourceFile (writer : ZipWriter) (file : SourceFile) : RtwResult ZipWriter := do
  let bytes ← orError .io file.contents
  .ok ((writer.startFile file.artifactPath.value .deflated).writeAll bytes)

/-- What is asked of the packer, with what the file system answers. -/
structure PackTarget where
  source : String
  root : Except IoError SourceNode
  output : RtwResult String
  outputInsideSource : Bool
  outputExists : Bool
  temporary : Except IoError Unit
  sync : Except IoError Unit
  persist : Except IoError Unit

/-- Publish a temporary file where there is none yet. -/
def persistNoclobber (target : PackTarget) (output : String) : RtwResult Unit :=
  match target.persist with
  | .ok () => .ok ()
  | .error .alreadyExists => .error (.outputAlreadyExists output)
  | .error error => .error (.io error)

/-- The bytes of the published file. -/
def writeArchive (zip : ZipCrate) (toml : TomlCrate) (target : PackTarget) (output : String)
    (files : List SourceFile) (limits : RtwLimits) : RtwResult (List UInt8) := do
  orError .io target.temporary
  let writer ← (findManifest files).toList.foldlM writeSourceFile .new
  let writer ← (files.filter fun file => file.artifactPath.value != rtwManifestPath).foldlM
    writeSourceFile writer
  let bytes ← writer.finish zip
  orError .io target.sync
  let _ ← RtwArchive.fromFile zip toml bytes limits
  persistNoclobber target output
  .ok bytes

/-- Pack a directory into a new archive. -/
def packDirectory (zip : ZipCrate) (toml : TomlCrate) (target : PackTarget) (limits : RtwLimits) :
    RtwResult (List UInt8) := do
  let root ← orError .io target.root
  match root with
  | .directory _ _ => do
      let output ← target.output
      require (!target.outputInsideSource) (.outputInsideSource output)
      require (!target.outputExists) (.outputAlreadyExists output)
      let files ← collectSourceFiles root
      enforceSourceLimits files limits
      validateSourceManifest toml files
      writeArchive zip toml target output files limits
  | _ => .error (.sourceNotDirectory target.source)

end Rintawa.Artifacts
