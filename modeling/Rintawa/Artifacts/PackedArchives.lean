/-
# Packed archives are accepted

Files in memory fit the limits of a host when their number, sizes and paths do. Both
validators are compared with that: the one over files in memory accepts only files that
fit, and the one over the directory of an archive accepts every archive of such files.
-/

import Mathlib.Algebra.GroupWithZero.Nat
import Rintawa.Artifacts.Pack
import Rintawa.Lib.Order

namespace Rintawa.Artifacts

open Rintawa.Lib

/-! ## Files that fit -/

def RtwPackEntry.size (entry : RtwPackEntry) : Nat := entry.bytes.bytes.length

/-- The total size of files, as far as it can be counted. -/
def totalSize (files : List RtwPackEntry) : Nat :=
  min (files.map RtwPackEntry.size).sum u64Max

/-- Files whose sizes are within the limits, at different paths. -/
structure Sized (limits : RtwLimits) (files : List RtwPackEntry) : Prop where
  entries : ∀ file ∈ files, file.size ≤ limits.maxEntryBytes
  total : totalSize files ≤ limits.maxUncompressedBytes
  distinct : (files.map RtwPackEntry.path).Nodup

/-- Files that an archive may hold together. -/
structure Fits (limits : RtwLimits) (files : List RtwPackEntry) : Prop
    extends Sized limits files where
  count : files.length ≤ limits.maxEntries
  noConflict : ∀ file ∈ files, ∀ parent ∈ parentPaths file.path.value,
    ∀ other ∈ files, other.path.value ≠ parent

theorem sizeOfBytes_entry (entry : RtwPackEntry) : sizeOfBytes entry.bytes.bytes = entry.size :=
  entry.bytes.sizeOfBytes_eq

/-- The last file adds its size, up to the limit of the type. -/
theorem totalSize_snoc (files : List RtwPackEntry) (entry : RtwPackEntry) :
    totalSize (files ++ [entry]) = saturatingAdd (totalSize files) entry.size := by
  simp only [totalSize, saturatingAdd, List.map_append, List.sum_append, List.map_cons,
    List.map_nil, List.sum_cons, List.sum_nil]
  omega

/-- A file is put behind others. -/
theorem Sized.snoc {limits : RtwLimits} {files : List RtwPackEntry} {entry : RtwPackEntry}
    (h : Sized limits files) (hentry : entry.size ≤ limits.maxEntryBytes)
    (htotal : totalSize (files ++ [entry]) ≤ limits.maxUncompressedBytes)
    (hfresh : entry.path ∉ files.map RtwPackEntry.path) : Sized limits (files ++ [entry]) where
  entries file hfile := by
    rcases List.mem_append.mp hfile with hfile | hfile
    · exact h.entries file hfile
    · rw [List.mem_singleton.mp hfile]
      exact hentry
  total := htotal
  distinct := by
    rw [List.map_append, List.nodup_append]
    refine ⟨h.distinct, List.nodup_singleton _, fun path hpath other hother heq => ?_⟩
    rw [List.map_singleton, List.mem_singleton] at hother
    exact hfresh (hother ▸ heq ▸ hpath)

variable {files : List RtwPackEntry} {limits : RtwLimits} {entry : RtwPackEntry} {scan : Scan}
  {compression : RtwCompression} {archive : List ZipFile}

/-- The first of some files are within the limits that all of them keep. -/
theorem Sized.of_append {more : List RtwPackEntry} (h : Sized limits (files ++ more)) :
    Sized limits files where
  entries file hfile := h.entries file (List.mem_append_left _ hfile)
  total := by
    have htotal := h.total
    simp only [totalSize, List.map_append, List.sum_append] at htotal ⊢
    omega
  distinct := (List.map_append ▸ h.distinct).of_append_left

/-- The order of files does not matter. -/
theorem Fits.perm {others : List RtwPackEntry} (h : Fits limits files) (hperm : files.Perm others) :
    Fits limits others where
  entries file hfile := h.entries file (hperm.mem_iff.mpr hfile)
  total := by
    have htotal := h.total
    rwa [totalSize, (hperm.map _).sum_nat] at htotal
  distinct := (hperm.map _).nodup_iff.mp h.distinct
  count := hperm.length_eq ▸ h.count
  noConflict file hfile parent hparent other hother :=
    h.noConflict file (hperm.mem_iff.mpr hfile) parent hparent other (hperm.mem_iff.mpr hother)

/-- The names of files, the last file first. -/
def namesOf (files : List RtwPackEntry) : List String :=
  (files.map fun file => file.path.value).reverse

/-- The last file comes first among the names. -/
theorem namesOf_snoc (files : List RtwPackEntry) (entry : RtwPackEntry) :
    namesOf (files ++ [entry]) = entry.path.value :: namesOf files := by
  simp [namesOf]

/-- The names are the paths of the files. -/
theorem mem_namesOf {path : ArtifactPath} :
    path.value ∈ namesOf files ↔ path ∈ files.map RtwPackEntry.path := by
  simp only [namesOf, List.mem_reverse, List.mem_map]
  constructor
  · rintro ⟨file, hfile, hvalue⟩
    exact ⟨file, hfile, ArtifactPath.value_injective hvalue⟩
  · rintro ⟨file, hfile, rfl⟩
    exact ⟨file, hfile, rfl⟩

/-- A validator finds a conflict exactly where a file is below another. -/
theorem findSome?_conflict {paths : List String} (hpaths : paths.Perm (namesOf files))
    {names : List String} (hnames : ∀ name, name ∈ names ↔ name ∈ namesOf files) :
    paths.findSome? (conflict names) = none ↔
      ∀ file ∈ files, ∀ parent ∈ parentPaths file.path.value,
        ∀ other ∈ files, other.path.value ≠ parent := by
  simp only [List.findSome?_eq_none_iff, hpaths.mem_iff, conflict, List.find?_eq_none,
    List.contains_iff_mem, hnames]
  simp only [namesOf, List.mem_reverse, List.mem_map, forall_exists_index, and_imp,
    forall_apply_eq_imp_iff₂, not_exists, not_and]

/-! ## Files in memory -/

/-- What the loop over the files in memory has checked. -/
theorem foldlM_validateMemoryEntry {checked rest : List RtwPackEntry} {result : List String × Nat}
    (hsized : Sized limits checked)
    (h : rest.foldlM (validateMemoryEntry limits) (namesOf checked, totalSize checked) =
      .ok result) : Sized limits (checked ++ rest) ∧ result.1 = namesOf (checked ++ rest) := by
  induction rest generalizing checked with
  | nil =>
      cases h
      rw [List.append_nil]
      exact ⟨hsized, rfl⟩
  | cons entry rest ih =>
      rw [List.foldlM_cons, bind_eq_ok_iff] at h
      obtain ⟨next, hentry, hrest⟩ := h
      simp only [validateMemoryEntry, enforceEntrySize, bind_eq_ok_iff, require_eq_ok_iff,
        decide_eq_true_eq, Bool.not_eq_true', List.contains_eq_mem, decide_eq_false_iff_not,
        mem_namesOf, sizeOfBytes_entry, ← totalSize_snoc, ← namesOf_snoc] at hentry
      obtain ⟨-, hfresh, -, hsize, -, htotal, hnext⟩ := hentry
      cases hnext
      have hall := ih (hsized.snoc hsize htotal hfresh) hrest
      rwa [List.append_assoc, List.singleton_append] at hall

/-- The manifest as a file. -/
def manifestFile (manifestBytes : ByteVec) : RtwPackEntry := ⟨manifestPath, manifestBytes⟩

/-- Everything that packing checks before it writes. -/
structure Packable (limits : RtwLimits) (toml : TomlCrate) (manifest : RtwManifest)
    (manifestBytes : ByteVec) (entries : List RtwPackEntry) : Prop where
  format : manifest.validate = .ok ()
  encoded : ∃ text, toml.toString manifest = .ok text ∧ manifestBytes = text.intoBytes
  fits : Fits limits (manifestFile manifestBytes :: entries)
  manifestSize : manifestBytes.bytes.length ≤ limits.maxManifestBytes
  declared : manifest.entry ∈ (manifestFile manifestBytes :: entries).map RtwPackEntry.path

variable {entries : List RtwPackEntry} {manifest : RtwManifest}

/-- Entries that are validated fit into the limits, with the manifest in front. -/
theorem fits_of_validateMemoryEntries {manifestBytes : ByteVec}
    (h : validateMemoryEntries manifest manifestBytes entries limits = .ok ()) :
    Fits limits (manifestFile manifestBytes :: entries) ∧
      manifestBytes.bytes.length ≤ limits.maxManifestBytes ∧
      manifest.entry ∈ (manifestFile manifestBytes :: entries).map RtwPackEntry.path := by
  simp only [validateMemoryEntries, enforceEntrySize, bind_eq_ok_iff, require_eq_ok_iff,
    decide_eq_true_eq, ByteVec.sizeOfBytes_eq] at h
  obtain ⟨-, hcount, -, hsize, -, hmanifest, -, htotal, ⟨paths, total⟩, hentries, hlast⟩ := h
  have hfirst : Sized limits [manifestFile manifestBytes] := by
    refine ⟨fun file hfile => ?_, ?_, List.nodup_singleton _⟩
    · rw [List.mem_singleton.mp hfile]
      exact hsize
    · simp only [totalSize, RtwPackEntry.size, manifestFile, List.map_cons, List.map_nil,
        List.sum_cons, List.sum_nil]
      omega
  have hstart : ([rtwManifestPath], manifestBytes.bytes.length) =
      (namesOf [manifestFile manifestBytes], totalSize [manifestFile manifestBytes]) := by
    have hfits := manifestBytes.fits
    simp only [namesOf, totalSize, RtwPackEntry.size, manifestFile, List.map_cons, List.map_nil,
      List.sum_cons, List.sum_nil, List.reverse_cons, List.reverse_nil, List.nil_append,
      Prod.mk.injEq, isizeMax, u64Max] at hfits ⊢
    exact ⟨rfl, by omega⟩
  rw [hstart] at hentries
  obtain ⟨hsized, hpaths⟩ := foldlM_validateMemoryEntry hfirst hentries
  rw [List.singleton_append] at hsized hpaths
  dsimp only at hpaths hlast
  subst hpaths
  split at hlast
  · cases hlast
  · next hconflict =>
      rw [findSome?_conflict (List.perm_insertionSort _ _) fun _ => Iff.rfl] at hconflict
      rw [require_eq_ok_iff, List.contains_iff_mem, mem_namesOf] at hlast
      exact ⟨⟨hsized, hcount, hconflict⟩, hmanifest, hlast⟩

/-- What packing has checked of files in memory, and the order they are written in. -/
theorem packable_of_prevalidate {toml : TomlCrate} {prepared : ByteVec × List RtwPackEntry}
    (h : prevalidate toml manifest entries limits = .ok prepared) :
    Packable limits toml manifest prepared.1 prepared.2 ∧
      prepared.2 = entries.insertionSort pathLe := by
  simp only [prevalidate, bind_eq_ok_iff, orError_eq_ok_iff] at h
  obtain ⟨⟨⟩, hformat, text, hencoded, ⟨⟩, hentries, hprepared⟩ := h
  cases hprepared
  obtain ⟨hfits, hsize, hdeclared⟩ := fits_of_validateMemoryEntries hentries
  exact ⟨⟨hformat, ⟨text, hencoded, rfl⟩, hfits, hsize, hdeclared⟩, rfl⟩

/-! ## What is written -/

/-- A file as it is handed to the library. -/
def zipSource (compression : RtwCompression) (file : RtwPackEntry) : ZipSource :=
  ⟨file.path.value, compression.method, unixPermissions, file.bytes.bytes⟩

@[simp]
theorem files_writeAll_startFile (writer : ZipWriter) (name : String)
    (compression : RtwCompression) (bytes : List UInt8) :
    ((writer.startFile name compression).writeAll bytes).files =
      writer.files ++ [⟨name, compression.method, unixPermissions, bytes⟩] := by
  simp [ZipWriter.startFile, ZipWriter.writeAll]

theorem files_foldl_write (writer : ZipWriter) (entries : List RtwPackEntry)
    (compression : RtwCompression) :
    (entries.foldl (fun writer entry =>
      (writer.startFile entry.path.value compression).writeAll entry.bytes.bytes) writer).files =
      writer.files ++ entries.map (zipSource compression) := by
  induction entries generalizing writer with
  | nil => simp
  | cons entry rest ih => simp [ih, zipSource]

/-- The manifest is written first, and then the entries in order. -/
theorem files_writeEntries (manifestBytes : ByteVec) (entries : List RtwPackEntry)
    (compression : RtwCompression) :
    (writeEntries manifestBytes entries compression).files =
      (manifestFile manifestBytes :: entries).map (zipSource compression) := by
  rw [writeEntries, files_foldl_write]
  simp [ZipWriter.new, zipSource, manifestFile, manifestPath]

/-! ## The directory of an archive -/

/-- What the validator knows of an archive after some of its files. -/
structure Scanned (scan : Scan) (files : List RtwPackEntry) : Prop where
  names : scan.files = namesOf files
  directories : scan.directories = []
  total : scan.totalUncompressed = totalSize files
  paths : scan.entries.values.map ArtifactEntry.path =
    (files.map RtwPackEntry.path).reverse
  sized : ∀ file ∈ files, ∃ compressedSize,
    scan.entries.lookup file.path = some ⟨file.path, compressedSize, file.size⟩
  absent : ∀ path ∉ files.map RtwPackEntry.path, scan.entries.lookup path = none
  indexed : ∀ index file, files[index]? = some file →
    scan.entryIndices.lookup file.path = some index

theorem Scanned.start : Scanned .start [] where
  names := rfl
  directories := rfl
  total := rfl
  paths := rfl
  sized file hfile := by cases hfile
  absent path _ := rfl
  indexed index file hfile := by simp at hfile

/-- The scan behind one more regular file. -/
def Scan.push (scan : Scan) (entry : RtwPackEntry) (index compressedSize : Nat) : Scan where
  files := entry.path.value :: scan.files
  directories := scan.directories
  entries := scan.entries.insert entry.path ⟨entry.path, compressedSize, entry.size⟩
  entryIndices := scan.entryIndices.insert entry.path index
  totalUncompressed := saturatingAdd scan.totalUncompressed entry.size

/-- A new path is scanned after the others. -/
theorem Scanned.push (h : Scanned scan files) (hfresh : entry.path ∉ files.map RtwPackEntry.path)
    (compressedSize : Nat) :
    Scanned (scan.push entry files.length compressedSize) (files ++ [entry]) where
  names := by
    rw [namesOf_snoc, ← h.names]
    rfl
  directories := h.directories
  total := by
    rw [totalSize_snoc, ← h.total]
    rfl
  paths := by
    have hvalues := Dict.values_insert (h.absent entry.path hfresh)
      ⟨entry.path, compressedSize, entry.size⟩
    rw [Scan.push, hvalues, List.map_cons, h.paths]
    simp
  sized file hfile := by
    simp only [Scan.push, Dict.lookup_insert_ite]
    rcases List.mem_append.mp hfile with hbefore | hlast
    · have hne : file.path ≠ entry.path := fun heq =>
        hfresh (heq ▸ List.mem_map_of_mem hbefore)
      rw [if_neg hne]
      exact h.sized file hbefore
    · rw [List.mem_singleton.mp hlast, if_pos rfl]
      exact ⟨compressedSize, rfl⟩
  absent path habsent := by
    rw [List.map_append, List.mem_append, not_or] at habsent
    have hne : path ≠ entry.path := fun heq => habsent.2 (by simp [heq])
    simp only [Scan.push, Dict.lookup_insert_ite, if_neg hne]
    exact h.absent path habsent.1
  indexed index file hfile := by
    simp only [Scan.push, Dict.lookup_insert_ite]
    by_cases hbefore : index < files.length
    · rw [List.getElem?_append_left hbefore] at hfile
      have hne : file.path ≠ entry.path := fun heq =>
        hfresh (heq ▸ List.mem_map_of_mem (List.mem_of_getElem? hfile))
      rw [if_neg hne]
      exact h.indexed index file hfile
    · rw [List.getElem?_append_right (by omega), List.getElem?_singleton] at hfile
      split at hfile
      · next hindex =>
          cases hfile
          rw [if_pos rfl]
          congr
          omega
      · cases hfile

/-- A file that was written passes every check of its entry. -/
theorem validateZipEntry_written {file : ZipFile}
    (h : ReadBack (zipSource compression entry) file) :
    validateZipEntry file = .ok entry.path.value := by
  have hname : canonicalName file = .ok entry.path.value := by
    rw [canonicalName, h.nameRaw, fromUtf8_utf8]
    simp [h.name, zipSource, require, bind, Except.bind]
  have htype : validateZipEntryType file entry.path.value false = .ok () := by
    have hmode : (0o100000 ||| unixPermissions) &&& fileTypeMask = 0o100000 := by decide
    simp only [validateZipEntryType, h.isSymlink, h.unixMode, zipSource, hmode, bind_eq_ok_iff,
      require_eq_ok_iff]
    exact ⟨(), rfl, rfl⟩
  have hcompression : validateCompression file entry.path.value = .ok () := by
    rw [validateCompression, h.compression]
    cases compression with
    | deflated => rfl
    | stored => rfl
  simp [validateZipEntry, bind_eq_ok_iff, hname, h.isDir, validateArchiveName_path, htype,
    hcompression, h.encrypted]

/-- A file that keeps the limits together with those before it is scanned. -/
theorem scanEntry_written {file : ZipFile} (hscanned : Scanned scan files)
    (hsized : Sized limits (files ++ [entry])) (h : ReadBack (zipSource compression entry) file) :
    scanEntry limits scan files.length file =
      .ok (scan.push entry files.length file.compressedSize) := by
  have hsize : file.size = entry.size := h.size
  have hentry : entry.size ≤ limits.maxEntryBytes :=
    hsized.entries entry (List.mem_append_right _ List.mem_cons_self)
  have htotal : saturatingAdd scan.totalUncompressed entry.size ≤
      limits.maxUncompressedBytes := by
    rw [hscanned.total, ← totalSize_snoc]
    exact hsized.total
  have hfresh : entry.path.value ∉ scan.files := by
    have hdistinct := hsized.distinct
    rw [List.map_append, List.nodup_append] at hdistinct
    rw [hscanned.names, mem_namesOf]
    exact fun hmem => hdistinct.2.2 _ hmem _ List.mem_cons_self rfl
  simp [scanEntry, bind_eq_ok_iff, validateZipEntry_written h, hsize, htotal, h.isDir, scanFile,
    hentry, hscanned.directories, hfresh, Scan.push]

/-- The files of an archive are scanned one after another. -/
theorem scanEntries_written {checked rest : List RtwPackEntry} (hscanned : Scanned scan checked)
    (hsized : Sized limits (checked ++ rest))
    (h : List.Forall₂ ReadBack (rest.map (zipSource compression)) archive) :
    ∃ result, scanEntries limits scan checked.length (archive.map .ok) = .ok result ∧
      Scanned result (checked ++ rest) := by
  induction rest generalizing checked scan archive with
  | nil =>
      cases h
      refine ⟨scan, rfl, ?_⟩
      rw [List.append_nil]
      exact hscanned
  | cons entry rest ih =>
      rw [List.map_cons, List.forall₂_cons_left_iff] at h
      obtain ⟨file, others, hfile, hothers, rfl⟩ := h
      rw [List.append_cons] at hsized ⊢
      have hentry := scanEntry_written hscanned hsized.of_append hfile
      have hfresh : entry.path ∉ checked.map RtwPackEntry.path := by
        have hdistinct := hsized.of_append.distinct
        rw [List.map_append, List.nodup_append] at hdistinct
        exact fun hmem => hdistinct.2.2 _ hmem _ List.mem_cons_self rfl
      obtain ⟨result, hrest, hall⟩ :=
        ih (hscanned.push hfresh file.compressedSize) hsized hothers
      refine ⟨result, ?_, hall⟩
      rw [List.length_append, List.length_singleton] at hrest
      simp only [List.map_cons, scanEntries, bind_eq_ok_iff, orError_eq_ok_iff]
      exact ⟨file, rfl, _, hentry, hrest⟩

/-- The validator accepts the directory of an archive of files that fit. -/
theorem validateEntries_written (hfits : Fits limits files)
    (hmanifest : manifestPath ∈ files.map RtwPackEntry.path)
    (h : List.Forall₂ ReadBack (files.map (zipSource compression)) archive) :
    ∃ scan, validateEntries (archive.map .ok) limits = .ok scan ∧ Scanned scan files := by
  obtain ⟨scan, hscan, hscanned⟩ := scanEntries_written Scanned.start hfits.toSized h
  have hcount : archive.length ≤ limits.maxEntries := by
    rw [← h.length_eq, List.length_map]
    exact hfits.count
  have hconflict : (scan.files ++ scan.directories).findSome? (conflict scan.files) = none := by
    rw [hscanned.directories, List.append_nil, hscanned.names,
      findSome?_conflict (List.Perm.refl _) fun _ => Iff.rfl]
    exact hfits.noConflict
  have hfound : rtwManifestPath ∈ scan.files := by
    rw [hscanned.names]
    exact mem_namesOf.mpr hmanifest
  refine ⟨scan, ?_, hscanned⟩
  simp only [validateEntries, bind_eq_ok_iff, require_eq_ok_iff]
  refine ⟨(), by simpa using hcount, scan, hscan, ?_⟩
  rw [hconflict]
  simp [require, hfound, bind, Except.bind]

/-! ## Opening a packed archive -/

/-- A file is read back whole under every limit that its size keeps. -/
theorem readZipEntry_written {index maximum : Nat}
    (h : List.Forall₂ ReadBack (files.map (zipSource compression)) archive)
    (hentry : files[index]? = some entry) (hsize : entry.size ≤ maximum) (path : String) :
    readZipEntry (archive.map .ok) index path entry.size maximum = .ok entry.bytes.bytes := by
  obtain ⟨hindex, hget⟩ := List.getElem?_eq_some_iff.mp hentry
  have hlength := h.length_eq
  rw [List.length_map] at hlength
  have hread : ReadBack (zipSource compression entry) (archive[index]) := by
    have hboth := h.get (i := index) (by simpa using hindex) (by omega)
    simpa [hget] using hboth
  have hfile : ZipArchive.byIndex (archive.map .ok) index = .ok archive[index] := by
    simp [ZipArchive.byIndex, orError, hlength ▸ hindex]
  have hshort : entry.size ≤ isizeMax := entry.bytes.fits
  have hbytes : entry.bytes.bytes.length = entry.size := rfl
  have hlimit : ¬ saturatingAdd maximum 1 ≤ entry.size := by
    simp only [saturatingAdd, isizeMax, u64Max] at hshort ⊢
    omega
  have htake : (archive[index]).stream.takeToEnd (saturatingAdd maximum 1) =
      .ok entry.bytes.bytes := by
    rw [hread.stream]
    simp [ReadStream.takeToEnd, zipSource, hbytes, hlimit, hshort]
  simp only [readZipEntry, bind_eq_ok_iff, require_eq_ok_iff, decide_eq_true_eq,
    orError_eq_ok_iff]
  refine ⟨(), hsize, archive[index], hfile, entry.bytes.bytes, htake, (), ?_, rfl⟩
  rw [sizeOfBytes_entry]
  exact hsize

/-- An archive that was opened has a manifest and holds exactly some files. -/
structure RtwArchive.Holds (archive : RtwArchive) (manifest : RtwManifest)
    (files : List RtwPackEntry) : Prop where
  manifest : archive.manifest = manifest
  listed : archive.listed.map ArtifactEntry.path =
    (files.map RtwPackEntry.path).insertionSort ArtifactPath.le
  read : ∀ file ∈ files, archive.read file.path = .ok file.bytes.bytes
  absent : ∀ path ∉ files.map RtwPackEntry.path,
    archive.read path = .error (.entryNotFound path.value)

/-- The archive of files that were scanned holds them. -/
theorem Scanned.holds (hscanned : Scanned scan files) (hsized : Sized limits files)
    (h : List.Forall₂ ReadBack (files.map (zipSource compression)) archive) :
    RtwArchive.Holds ⟨archive.map .ok, manifest, scan.entries, scan.entryIndices, limits⟩
      manifest files where
  manifest := rfl
  listed := by
    have hsorted : (scan.entries.values.insertionSort fun left right =>
          left.path.le right.path).map ArtifactEntry.path =
        (scan.entries.values.map ArtifactEntry.path).insertionSort ArtifactPath.le :=
      List.map_insertionSort _ ArtifactPath.le ArtifactEntry.path _ fun _ _ _ _ => Iff.rfl
    rw [RtwArchive.listed, hsorted, hscanned.paths]
    exact insertionSort_perm ArtifactPath.le (List.reverse_perm _)
  read file hfile := by
    obtain ⟨index, hindex⟩ := List.getElem?_of_mem hfile
    obtain ⟨compressedSize, hlookup⟩ := hscanned.sized file hfile
    have hsize : file.size ≤ min limits.maxEntryBytes limits.maxEntryBytes := by
      rw [Nat.min_self]
      exact hsized.entries file hfile
    simp only [RtwArchive.read, RtwArchive.readWithLimit, hscanned.indexed index file hindex,
      hlookup]
    exact readZipEntry_written h hindex hsize file.path.value
  absent path hpath := by
    simp only [RtwArchive.read, RtwArchive.readWithLimit, hscanned.absent path hpath]
    split
    · next hsome => cases hsome
    · rfl

/-- The archive of files that were checked is opened, when it is not too large itself. -/
theorem validateReader_packed {zip : ZipCrate} {toml : TomlCrate} {manifestBytes : ByteVec}
    {bytes : List UInt8} (htoml : toml.RoundTrips)
    (hpackable : Packable limits toml manifest manifestBytes entries)
    (hdecode : zip.decode bytes = .ok (archive.map .ok)) (h : List.Forall₂ ReadBack
      ((manifestFile manifestBytes :: entries).map (zipSource compression)) archive)
    (hlarge : sizeOfBytes bytes ≤ limits.maxArchiveBytes) :
    ∃ opened, validateReader zip toml bytes limits = .ok opened ∧
      opened.Holds manifest (manifestFile manifestBytes :: entries) := by
  obtain ⟨scan, hscan, hscanned⟩ :=
    validateEntries_written hpackable.fits List.mem_cons_self h
  refine ⟨⟨archive.map .ok, manifest, scan.entries, scan.entryIndices, limits⟩, ?_,
    hscanned.holds hpackable.fits.toSized h⟩
  have hread : readManifest toml (archive.map .ok) scan.entryIndices limits = .ok manifest := by
    obtain ⟨text, hencoded, hbytes⟩ := hpackable.encoded
    have hindex : scan.entryIndices.lookup manifestPath = some 0 :=
      hscanned.indexed 0 (manifestFile manifestBytes) rfl
    have hfirst : (manifestFile manifestBytes :: entries)[0]? =
        some (manifestFile manifestBytes) := rfl
    have hcontents := readZipEntry_written h hfirst hpackable.manifestSize rtwManifestPath
    cases h with
    | cons hfirst _ =>
        have hsize : _ = manifestBytes.bytes.length := hfirst.size
        simp only [readManifest, hindex, bind_eq_ok_iff, require_eq_ok_iff, decide_eq_true_eq]
        refine ⟨_, rfl, (), hsize ▸ hpackable.manifestSize, manifestBytes.bytes, ?_, ?_⟩
        · rw [hsize]
          exact hcontents
        · rw [hbytes, Text.intoBytes, fromUtf8_utf8]
          exact orError_eq_ok_iff.mpr (htoml manifest text hencoded)
  have hdeclared : (scan.entries.lookup manifest.entry).isSome = true := by
    obtain ⟨file, hfile, hpath⟩ := List.mem_map.mp hpackable.declared
    obtain ⟨compressedSize, hlookup⟩ := hscanned.sized file hfile
    rw [← hpath, hlookup]
    rfl
  simp only [validateReader, bind_eq_ok_iff, require_eq_ok_iff, decide_eq_true_eq,
    orError_eq_ok_iff]
  exact ⟨(), hlarge, _, hdecode, scan, hscan, manifest, hread, (), hpackable.format, (),
    hdeclared, rfl⟩

end Rintawa.Artifacts
