/-
# Bounded reads of archives

A read trusts the declared size first and looks at the real stream afterwards, against the
same limit and one byte beyond it. So what a read returns is never cut off. In an archive
that was validated, the index and the declared size of a path belong to the one regular
file with that path.
-/

import Rintawa.Artifacts.EntryValidation

namespace Rintawa.Artifacts

open Rintawa.Lib

/-! ## One stream -/

/-- A stream that ends without a failure behind the given bytes. -/
def ZipFile.Yields (file : ZipFile) (output : List UInt8) : Prop :=
  file.stream = ⟨output, none⟩

variable {output : List UInt8}

/-- Less than the limit was read only if the stream ended. -/
theorem takeToEnd_eq_ok_iff {stream : ReadStream} {limit : Nat} (hshort : output.length < limit) :
    stream.takeToEnd limit = .ok output ↔
      stream = ⟨output, none⟩ ∧ output.length ≤ isizeMax := by
  obtain ⟨bytes, failure⟩ := stream
  unfold ReadStream.takeToEnd
  dsimp only
  constructor
  · intro h
    split at h
    · cases h
    · next hmemory =>
        split at h
        · next hlong =>
            cases h
            rw [List.length_take] at hshort
            omega
        · next hlong =>
            cases failure with
            | some error => cases h
            | none =>
                cases h
                exact ⟨rfl, by omega⟩
  · rintro ⟨hstream, hmemory⟩
    cases hstream
    rw [if_neg (by omega), if_neg (by omega)]

/-- An entry is read exactly when its declared size and its whole stream keep the limit. -/
theorem readZipEntry_eq_ok_iff {archive : ZipArchive} {index declaredSize maximum : Nat}
    {path : String} :
    readZipEntry archive index path declaredSize maximum = .ok output ↔
      declaredSize ≤ maximum ∧ (∃ file, archive.byIndex index = .ok file ∧ file.Yields output) ∧
        output.length ≤ maximum ∧ output.length ≤ isizeMax := by
  have hshort : output.length ≤ maximum → output.length ≤ isizeMax →
      output.length < saturatingAdd maximum 1 := by
    intro hmaximum hmemory
    simp only [saturatingAdd, isizeMax, u64Max] at *
    omega
  have hsize : output.length ≤ isizeMax → sizeOfBytes output = output.length := by
    intro hmemory
    simp only [sizeOfBytes, isizeMax, u64Max] at *
    omega
  constructor
  · intro h
    obtain ⟨⟨⟩, hdeclared, h⟩ := bind_eq_ok_iff.mp h
    obtain ⟨file, hfile, h⟩ := bind_eq_ok_iff.mp h
    obtain ⟨read, hread, h⟩ := bind_eq_ok_iff.mp h
    obtain ⟨⟨⟩, hmaximum, h⟩ := bind_eq_ok_iff.mp h
    cases h
    have htake := orError_eq_ok_iff.mp hread
    have hmemory : output.length ≤ isizeMax := by
      unfold ReadStream.takeToEnd at htake
      split at htake
      · cases htake
      · next hmemory =>
          split at htake
          · cases htake
            rw [List.length_take]
            omega
          · split at htake
            · cases htake
            · cases htake
              omega
    rw [require_eq_ok_iff, decide_eq_true_eq] at hdeclared
    rw [require_eq_ok_iff, decide_eq_true_eq, hsize hmemory] at hmaximum
    have hstream := (takeToEnd_eq_ok_iff (hshort hmaximum hmemory)).mp htake
    exact ⟨hdeclared, ⟨file, hfile, hstream.1⟩, hmaximum, hmemory⟩
  · rintro ⟨hdeclared, ⟨file, hfile, hstream⟩, hmaximum, hmemory⟩
    have htake := (takeToEnd_eq_ok_iff (hshort hmaximum hmemory)).mpr ⟨hstream, hmemory⟩
    simp only [readZipEntry, bind_eq_ok_iff, require_eq_ok_iff, decide_eq_true_eq,
      orError_eq_ok_iff]
    exact ⟨(), hdeclared, file, hfile, output, htake, (), by rwa [hsize hmemory], rfl⟩

/-! ## The entries that are indexed -/

/-- Every indexed path belongs to a regular file in the directory. -/
structure IndexHolds (scan : Scan) (checked : List ZipFile) : Prop where
  index : ∀ path index, scan.entryIndices.lookup path = some index →
    ∃ file, checked[index]? = some file ∧ file.isDir = false ∧ file.path = path.value
  size : ∀ path entry, scan.entries.lookup path = some entry →
    ∃ file ∈ checked, file.isDir = false ∧ file.path = path.value ∧
      entry.path = path ∧ entry.uncompressedSize = file.size
  domain : ∀ path, (scan.entries.lookup path).isSome = (scan.entryIndices.lookup path).isSome

/-- The index is empty before the first entry. -/
theorem IndexHolds.start : IndexHolds .start [] := by
  refine ⟨fun path index h => ?_, fun path entry h => ?_, fun path => rfl⟩
  · cases h
  · cases h

/-- The index is right after one more entry. -/
theorem IndexHolds.next {limits : RtwLimits} {scan next : Scan} {checked : List ZipFile}
    (h : IndexHolds scan checked) {file : ZipFile}
    (hnext : scanEntry limits scan checked.length file = .ok next) :
    IndexHolds next (checked ++ [file]) := by
  have hbefore : IndexHolds scan (checked ++ [file]) := by
    refine ⟨fun path index hlookup => ?_, fun path entry hlookup => ?_, h.domain⟩
    · obtain ⟨other, hother, hkind⟩ := h.index path index hlookup
      exact ⟨other, List.getElem?_append_left (List.getElem?_eq_some_iff.mp hother).1 ▸ hother,
        hkind⟩
    · obtain ⟨other, hother, hkind⟩ := h.size path entry hlookup
      exact ⟨other, List.mem_append_left _ hother, hkind⟩
  obtain ⟨normalized, hvalid, hnext⟩ := bind_eq_ok_iff.mp hnext
  obtain ⟨⟨⟩, -, hnext⟩ := bind_eq_ok_iff.mp hnext
  obtain ⟨-, -, -, rfl⟩ := validateZipEntry_eq_ok_iff.mp hvalid
  cases hdirectory : file.isDir with
  | true =>
      rw [hdirectory, if_pos rfl] at hnext
      simp only [scanDirectory, bind_eq_ok_iff, Except.ok.injEq] at hnext
      obtain ⟨-, -, -, -, rfl⟩ := hnext
      exact ⟨hbefore.index, hbefore.size, hbefore.domain⟩
  | false =>
      rw [hdirectory, if_neg (by decide)] at hnext
      simp only [scanFile, bind_eq_ok_iff, Except.ok.injEq] at hnext
      obtain ⟨-, -, -, -, -, -, path, hpath, rfl⟩ := hnext
      have hvalue : file.path = path.value := (ArtifactPath.value_of_parse hpath).symm
      refine ⟨?_, ?_, ?_⟩
      · intro other index hlookup
        simp only [Dict.lookup_insert_ite] at hlookup
        split at hlookup
        · next hsame =>
            cases hlookup
            exact ⟨file, by simp, hdirectory, hsame ▸ hvalue⟩
        · exact hbefore.index other index hlookup
      · intro other entry hlookup
        simp only [Dict.lookup_insert_ite] at hlookup
        split at hlookup
        · next hsame =>
            cases hlookup
            exact ⟨file, by simp, hdirectory, hsame ▸ hvalue, hsame.symm, rfl⟩
        · exact hbefore.size other entry hlookup
      · intro other
        simp only [Dict.lookup_insert_ite]
        split
        · rfl
        · exact hbefore.domain other

/-- The index is right after all entries of the directory. -/
theorem IndexHolds.scanEntries {limits : RtwLimits} {rest : List ZipFile} :
    ∀ {scan result : Scan} {checked : List ZipFile}, IndexHolds scan checked →
      scanEntries limits scan checked.length (rest.map .ok) = .ok result →
      IndexHolds result (checked ++ rest) := by
  induction rest with
  | nil =>
      rintro scan result checked h ⟨⟩
      rw [List.append_nil]
      exact h
  | cons file rest ih =>
      intro scan result checked h hresult
      obtain ⟨opened, hopened, hresult⟩ := bind_eq_ok_iff.mp hresult
      obtain ⟨next, hnext, hrest⟩ := bind_eq_ok_iff.mp hresult
      cases hopened
      rw [List.append_cons]
      refine ih (h.next hnext) ?_
      rw [List.length_append, List.length_singleton]
      exact hrest

/-! ## Opened archives -/

namespace RtwArchive

/-- The regular file of an archive with a path. -/
structure FileAt (archive : RtwArchive) (path : ArtifactPath) (file : ZipFile) : Prop where
  mem : .ok file ∈ archive.archive
  regular : file.isDir = false
  path_eq : file.path = path.value

/-- What is known of an archive that was validated. -/
structure Opened (archive : RtwArchive) (files : List ZipFile) : Prop where
  directory : archive.archive = files.map .ok
  allowed : EntriesAllowed ToleratedName archive.limits files
  index : ∀ path index, archive.entryIndices.lookup path = some index →
    ∃ file, files[index]? = some file ∧ file.isDir = false ∧ file.path = path.value
  size : ∀ path entry, archive.entries.lookup path = some entry →
    ∃ file ∈ files, file.isDir = false ∧ file.path = path.value ∧
      entry.path = path ∧ entry.uncompressedSize = file.size
  domain : ∀ path,
    (archive.entries.lookup path).isSome = (archive.entryIndices.lookup path).isSome
  declared : (archive.entries.lookup archive.manifest.entry).isSome = true

variable {archive : RtwArchive} {files : List ZipFile}

/-- Validation opens an archive and reads its manifest. -/
theorem opened_of_validateReader {zip : ZipCrate} {toml : TomlCrate} {bytes : List UInt8}
    {limits : RtwLimits} (h : validateReader zip toml bytes limits = .ok archive) :
    archive.limits = limits ∧ zip.decode bytes = .ok archive.archive ∧
      (∃ files, Opened archive files) ∧
      readManifest toml archive.archive archive.entryIndices limits = .ok archive.manifest := by
  obtain ⟨⟨⟩, -, h⟩ := bind_eq_ok_iff.mp h
  obtain ⟨directory, hdirectory, h⟩ := bind_eq_ok_iff.mp h
  obtain ⟨scan, hscan, h⟩ := bind_eq_ok_iff.mp h
  obtain ⟨manifest, hmanifest, h⟩ := bind_eq_ok_iff.mp h
  obtain ⟨⟨⟩, -, h⟩ := bind_eq_ok_iff.mp h
  obtain ⟨⟨⟩, hdeclared, h⟩ := bind_eq_ok_iff.mp h
  cases h
  obtain ⟨files, rfl, hallowed⟩ := acceptsEntries_iff.mp ⟨scan, hscan⟩
  obtain ⟨⟨⟩, -, hscan⟩ := bind_eq_ok_iff.mp hscan
  obtain ⟨result, hresult, hscan⟩ := bind_eq_ok_iff.mp hscan
  have hindex : IndexHolds result files := IndexHolds.scanEntries IndexHolds.start hresult
  split at hscan
  · cases hscan
  · obtain ⟨⟨⟩, -, hscan⟩ := bind_eq_ok_iff.mp hscan
    cases hscan
    exact ⟨rfl, orError_eq_ok_iff.mp hdirectory, ⟨files, rfl, hallowed, hindex.index,
      hindex.size, hindex.domain, by simpa using hdeclared⟩, hmanifest⟩

variable {path : ArtifactPath}

/-- There is one regular file with a path. -/
theorem Opened.unique (h : archive.Opened files) {file other : ZipFile} (hfile : file ∈ files)
    (hother : other ∈ files) (hpath : file.path = path.value) (hpath' : other.path = path.value) :
    file = other :=
  List.inj_on_of_nodup_map h.allowed.distinct hfile hother (hpath.trans hpath'.symm)

/-- The files of an archive are its entries that are no directories. -/
theorem Opened.fileAt_iff (h : archive.Opened files) {file : ZipFile} :
    archive.FileAt path file ↔ file ∈ files ∧ file.isDir = false ∧ file.path = path.value := by
  have hmem : (.ok file ∈ archive.archive) ↔ file ∈ files := by
    rw [h.directory]
    simp
  constructor
  · intro hfile
    exact ⟨hmem.mp hfile.mem, hfile.regular, hfile.path_eq⟩
  · rintro ⟨hfile, hregular, hpath⟩
    exact ⟨hmem.mpr hfile, hregular, hpath⟩

/-- An indexed path leads to its file. -/
theorem Opened.lookup (h : archive.Opened files) {path : ArtifactPath} {index : Nat}
    (hindex : archive.entryIndices.lookup path = some index) :
    ∃ file, archive.FileAt path file ∧ archive.archive.byIndex index = .ok file := by
  obtain ⟨file, hfile, hregular, hpath⟩ := h.index path index hindex
  refine ⟨file, h.fileAt_iff.mpr ⟨List.mem_of_getElem? hfile, hregular, hpath⟩, ?_⟩
  rw [h.directory, ZipArchive.byIndex, List.getElem?_map, hfile]
  rfl

/-- Reads return whole streams within their limit, and fail in all other cases. -/
theorem Opened.readWithLimit_eq_ok_iff (h : archive.Opened files) {maximum : Nat} :
    archive.readWithLimit path maximum = .ok output ↔
      ∃ file, archive.FileAt path file ∧ (archive.entries.lookup path).isSome = true ∧
        file.size ≤ min maximum archive.limits.maxEntryBytes ∧ file.Yields output ∧
        output.length ≤ min maximum archive.limits.maxEntryBytes ∧ output.length ≤ isizeMax := by
  have hdomain := h.domain path
  cases hentry : archive.entries.lookup path with
  | none =>
      cases hindex : archive.entryIndices.lookup path with
      | none => simp [readWithLimit, hentry, hindex]
      | some index =>
          rw [hentry, hindex] at hdomain
          cases hdomain
  | some entry =>
      obtain ⟨index, hindex⟩ : ∃ index, archive.entryIndices.lookup path = some index := by
        rw [hentry, Option.isSome_some] at hdomain
        exact Option.isSome_iff_exists.mp hdomain.symm
      obtain ⟨file, hfile, hopen⟩ := h.lookup hindex
      obtain ⟨other, hother, -, hpath, -, hsize⟩ := h.size path entry hentry
      have hmem := h.fileAt_iff.mp hfile
      have hsame : other = file := h.unique hother hmem.1 hpath hmem.2.2
      rw [hsame] at hsize
      rw [readWithLimit, hentry, hindex]
      dsimp only
      rw [readZipEntry_eq_ok_iff, hsize]
      constructor
      · rintro ⟨hdeclared, ⟨found, hfound, hyields⟩, hlength, hmemory⟩
        cases hopen.symm.trans hfound
        exact ⟨file, hfile, rfl, hdeclared, hyields, hlength, hmemory⟩
      · rintro ⟨found, hfound, -, hdeclared, hyields, hlength, hmemory⟩
        have hfoundMem := h.fileAt_iff.mp hfound
        have hfoundSame : found = file :=
          h.unique hfoundMem.1 hmem.1 hfoundMem.2.2 hmem.2.2
        rw [hfoundSame] at hdeclared hyields
        exact ⟨hdeclared, ⟨file, hopen, hyields⟩, hlength, hmemory⟩

end RtwArchive

end Rintawa.Artifacts
