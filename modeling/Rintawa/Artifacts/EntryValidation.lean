/-
# Archives are checked exactly, up to a second slash

The loop over a directory knows the files and the directories that it has passed, so each
entry is compared with those before it, and conflicts with ancestors are looked for at the
end. Both together accept an archive exactly when its entries keep the rule for the names
that are let pass, in whatever order they stand.
-/

import Rintawa.Artifacts.EntryRules

namespace Rintawa.Artifacts

open Rintawa.Lib

/-! ## One entry -/

theorem utf8_of_fromUtf8 {bytes : List UInt8} {text : String} (h : fromUtf8 bytes = some text) :
    bytes = utf8 text := by
  unfold fromUtf8 String.fromUTF8? at h
  split at h
  · cases h
    rfl
  · cases h

variable {file : ZipFile} {path : String} {scan : Scan} {files : List ZipFile} {limits : RtwLimits}
  {named : String → Bool → Prop} {archive : ZipArchive}

/-- A name is canonical if its raw bytes are its text. -/
theorem canonicalName_eq_ok_iff {name : String} :
    canonicalName file = .ok name ↔ file.nameRaw = utf8 file.name ∧ name = file.name := by
  constructor
  · intro h
    unfold canonicalName at h
    split at h
    · cases h
    · next rawName hraw =>
        simp only [bind_eq_ok_iff, require_eq_ok_iff, beq_iff_eq, Except.ok.injEq] at h
        obtain ⟨-, hname, rfl⟩ := h
        exact ⟨hname ▸ utf8_of_fromUtf8 hraw, hname⟩
  · rintro ⟨hraw, rfl⟩
    simp [canonicalName, hraw, bind_eq_ok_iff]

/-- An entry is no link and has the mode of a file or a directory, if any. -/
theorem validateZipEntryType_eq_ok_iff :
    validateZipEntryType file path file.isDir = .ok () ↔
      file.isSymlink = false ∧ ∀ mode, file.unixMode = some mode → mode &&& fileTypeMask = 0 ∨
        mode &&& fileTypeMask = if file.isDir then 0o040000 else 0o100000 := by
  cases hmode : file.unixMode with
  | none => simp [validateZipEntryType, hmode, bind_eq_ok_iff]
  | some mode => simp [validateZipEntryType, hmode, bind_eq_ok_iff]

/-- An entry is stored or deflated. -/
theorem validateCompression_eq_ok_iff :
    validateCompression file path = .ok () ↔
      file.compression = .stored ∨ file.compression = .deflated := by
  cases hcompression : file.compression <;> simp [validateCompression, hcompression]

/-- The checks of an entry by itself. -/
theorem validateZipEntry_eq_ok_iff :
    validateZipEntry file = .ok path ↔ file.nameRaw = utf8 file.name ∧
      ToleratedName file.name file.isDir ∧ file.AllowedKind ∧ path = file.path := by
  constructor
  · intro h
    obtain ⟨name, hname, h⟩ := bind_eq_ok_iff.mp h
    obtain ⟨normalized, hnormalized, h⟩ := bind_eq_ok_iff.mp h
    obtain ⟨⟨⟩, htype, h⟩ := bind_eq_ok_iff.mp h
    obtain ⟨⟨⟩, hcompression, h⟩ := bind_eq_ok_iff.mp h
    obtain ⟨⟨⟩, hplain, h⟩ := bind_eq_ok_iff.mp h
    cases h
    obtain ⟨hraw, rfl⟩ := canonicalName_eq_ok_iff.mp hname
    obtain ⟨htolerated, hpath⟩ := validateArchiveName_eq_ok_iff.mp hnormalized
    obtain ⟨hlink, htype⟩ := validateZipEntryType_eq_ok_iff.mp htype
    have hcompression := validateCompression_eq_ok_iff.mp hcompression
    exact ⟨hraw, htolerated, ⟨hlink, htype, hcompression, by simpa using hplain⟩, hpath⟩
  · rintro ⟨hraw, htolerated, hkind, rfl⟩
    have hname := canonicalName_eq_ok_iff.mpr ⟨hraw, rfl⟩
    have hnormalized := validateArchiveName_eq_ok_iff.mpr ⟨htolerated, rfl⟩
    have htype : validateZipEntryType file file.path file.isDir = .ok () :=
      validateZipEntryType_eq_ok_iff.mpr ⟨hkind.noLink, hkind.type⟩
    have hcompression : validateCompression file file.path = .ok () :=
      validateCompression_eq_ok_iff.mpr hkind.compression
    refine bind_eq_ok_iff.mpr ⟨_, hname, bind_eq_ok_iff.mpr ⟨_, hnormalized, ?_⟩⟩
    refine bind_eq_ok_iff.mpr ⟨_, htype, bind_eq_ok_iff.mpr ⟨_, hcompression, ?_⟩⟩
    exact bind_eq_ok_iff.mpr ⟨(), by simp [hkind.plain], rfl⟩

/-- The tolerated name of a file is the text of a path. -/
theorem ToleratedName.parse {name : String} (h : ToleratedName name false) :
    ∃ path : ArtifactPath, ArtifactPath.parse name = .ok path := by
  have hcanonical := h.canonical (by simp)
  have hvalid : validateFilePath name = .ok () := by
    refine bind_eq_ok_iff.mpr ⟨(), validateSegments_eq_ok_iff.mpr hcanonical.toPlainSegments, ?_⟩
    simp [hcanonical.trailing]
  exact ⟨⟨name, hvalid⟩, ArtifactPath.parse_value ⟨name, hvalid⟩⟩

/-! ## The loop -/

/-- What the loop knows behind some entries. -/
structure ScanHolds (scan : Scan) (checked : List ZipFile) : Prop where
  mem_files : ∀ path, path ∈ scan.files ↔
    ∃ file ∈ checked, file.isDir = false ∧ file.path = path
  mem_directories : ∀ path, path ∈ scan.directories ↔
    ∃ file ∈ checked, file.isDir = true ∧ file.path = path
  total : scan.totalUncompressed = declaredTotal checked

/-- The scan starts with nothing. -/
theorem ScanHolds.start : ScanHolds .start [] := by
  refine ⟨?_, ?_, rfl⟩ <;> simp [Scan.start]

/-- The paths that were scanned are the files and the directories. -/
theorem ScanHolds.mem_paths {checked : List ZipFile} (h : ScanHolds scan checked) :
    path ∈ checked.map ZipFile.path ↔
      path ∈ scan.files ∨ path ∈ scan.directories := by
  rw [h.mem_files, h.mem_directories, List.mem_map]
  constructor
  · rintro ⟨file, hfile, hpath⟩
    cases hkind : file.isDir with
    | false => exact Or.inl ⟨file, hfile, hkind, hpath⟩
    | true => exact Or.inr ⟨file, hfile, hkind, hpath⟩
  · rintro (⟨file, hfile, -, hpath⟩ | ⟨file, hfile, -, hpath⟩)
    · exact ⟨file, hfile, hpath⟩
    · exact ⟨file, hfile, hpath⟩

/-- The last file adds its declared size, up to the limit of the type. -/
theorem declaredTotal_snoc (files : List ZipFile) (file : ZipFile) :
    declaredTotal (files ++ [file]) = saturatingAdd (declaredTotal files) file.size := by
  simp only [declaredTotal, saturatingAdd, List.map_append, List.sum_append, List.map_cons,
    List.map_nil, List.sum_cons, List.sum_nil]
  omega

/-- What is checked of an entry behind others. -/
theorem entriesChecked_snoc_iff :
    EntriesChecked named limits (files ++ [file]) ↔ EntriesChecked named limits files ∧
      file.nameRaw = utf8 file.name ∧ named file.name file.isDir ∧ file.AllowedKind ∧
      (file.isDir = false → file.size ≤ limits.maxEntryBytes) ∧
      declaredTotal (files ++ [file]) ≤ limits.maxUncompressedBytes ∧
      file.path ∉ files.map ZipFile.path := by
  have hmem : ∀ other, other ∈ files ++ [file] ↔ other ∈ files ∨ other = file := by simp
  constructor
  · intro h
    have hlast : file ∈ files ++ [file] := by simp
    have hdistinct := h.distinct
    rw [List.map_append, List.map_singleton, List.nodup_append] at hdistinct
    refine ⟨⟨?_, ?_, ?_, ?_, ?_, hdistinct.1⟩, h.encoded file hlast, h.names file hlast,
      h.kinds file hlast, h.sizes file hlast, h.total, ?_⟩
    · exact fun other hother => h.encoded other ((hmem other).mpr (Or.inl hother))
    · exact fun other hother => h.names other ((hmem other).mpr (Or.inl hother))
    · exact fun other hother => h.kinds other ((hmem other).mpr (Or.inl hother))
    · exact fun other hother => h.sizes other ((hmem other).mpr (Or.inl hother))
    · have htotal := h.total
      rw [declaredTotal_snoc, saturatingAdd] at htotal
      have hbound : declaredTotal files ≤ u64Max := Nat.min_le_right _ _
      omega
    · exact fun hpath => hdistinct.2.2 _ hpath _ (by simp) rfl
  · rintro ⟨h, hencoded, hname, hkind, hsize, htotal, hfresh⟩
    refine ⟨?_, ?_, ?_, ?_, htotal, ?_⟩
    · rintro other hother
      rcases (hmem other).mp hother with hother | rfl
      · exact h.encoded other hother
      · exact hencoded
    · rintro other hother
      rcases (hmem other).mp hother with hother | rfl
      · exact h.names other hother
      · exact hname
    · rintro other hother
      rcases (hmem other).mp hother with hother | rfl
      · exact h.kinds other hother
      · exact hkind
    · rintro other hother
      rcases (hmem other).mp hother with hother | rfl
      · exact h.sizes other hother
      · exact hsize
    · exact nodup_map_snoc h.distinct hfresh

/-- An entry passes the loop exactly when it may stand behind the others. -/
theorem ScanHolds.scanEntry_iff {checked : List ZipFile} (h : ScanHolds scan checked)
    (hchecked : EntriesChecked ToleratedName limits checked) (index : Nat) (file : ZipFile) :
    (∃ next, scanEntry limits scan index file = .ok next) ↔
      EntriesChecked ToleratedName limits (checked ++ [file]) := by
  have htotal : saturatingAdd scan.totalUncompressed file.size =
      declaredTotal (checked ++ [file]) := by
    rw [declaredTotal_snoc, h.total]
  rw [entriesChecked_snoc_iff, h.mem_paths, not_or]
  constructor
  · rintro ⟨next, hnext⟩
    obtain ⟨normalized, hvalid, hnext⟩ := bind_eq_ok_iff.mp hnext
    obtain ⟨⟨⟩, hfits, hnext⟩ := bind_eq_ok_iff.mp hnext
    obtain ⟨hraw, hname, hkind, rfl⟩ := validateZipEntry_eq_ok_iff.mp hvalid
    rw [require_eq_ok_iff, decide_eq_true_eq, htotal] at hfits
    cases hdirectory : file.isDir with
    | true =>
        rw [hdirectory, if_pos rfl] at hnext
        simp only [scanDirectory, bind_eq_ok_iff, require_eq_ok_iff, Bool.not_eq_true',
          List.contains_eq_mem, decide_eq_false_iff_not] at hnext
        obtain ⟨-, hfile, -, hfresh, -⟩ := hnext
        exact ⟨hchecked, hraw, hdirectory ▸ hname, hkind, by simp, hfits, hfile, hfresh⟩
    | false =>
        rw [hdirectory, if_neg (by decide)] at hnext
        simp only [scanFile, bind_eq_ok_iff, require_eq_ok_iff, decide_eq_true_eq,
          Bool.not_eq_true', List.contains_eq_mem, decide_eq_false_iff_not] at hnext
        obtain ⟨-, hsize, -, hfree, -, hfresh, -⟩ := hnext
        exact ⟨hchecked, hraw, hdirectory ▸ hname, hkind, fun _ => hsize, hfits, hfresh, hfree⟩
  · rintro ⟨-, hraw, hname, hkind, hsize, hfits, hfile, hfree⟩
    have hvalid := validateZipEntry_eq_ok_iff.mpr ⟨hraw, hname, hkind, rfl⟩
    cases hdirectory : file.isDir with
    | true =>
        simp [scanEntry, bind_eq_ok_iff, hvalid, htotal, hfits, hdirectory, scanDirectory, hfile,
          hfree]
    | false =>
        rw [hdirectory] at hname
        obtain ⟨path, hpath⟩ := hname.parse
        have hparsed : ArtifactPath.parse file.path = .ok path := by
          rw [ZipFile.path, entryPath, hdirectory]
          exact hpath
        simp [scanEntry, bind_eq_ok_iff, hvalid, htotal, hfits, hdirectory, scanFile,
          hsize hdirectory, hfree, hfile, hparsed]

/-- The loop knows one more entry behind it. -/
theorem ScanHolds.next {limits : RtwLimits} {scan next : Scan} {checked : List ZipFile}
    (h : ScanHolds scan checked) {index : Nat} {file : ZipFile}
    (hnext : scanEntry limits scan index file = .ok next) : ScanHolds next (checked ++ [file]) := by
  obtain ⟨normalized, hvalid, hnext⟩ := bind_eq_ok_iff.mp hnext
  obtain ⟨⟨⟩, -, hnext⟩ := bind_eq_ok_iff.mp hnext
  obtain ⟨-, -, -, rfl⟩ := validateZipEntry_eq_ok_iff.mp hvalid
  have htotal : saturatingAdd scan.totalUncompressed file.size =
      declaredTotal (checked ++ [file]) := by
    rw [declaredTotal_snoc, h.total]
  have hsplit : ∀ P : ZipFile → Prop, (∃ other ∈ checked ++ [file], P other) ↔
      P file ∨ ∃ other ∈ checked, P other := by
    intro P
    simp [or_and_right, exists_or, or_comm]
  cases hdirectory : file.isDir with
  | true =>
      rw [hdirectory, if_pos rfl] at hnext
      simp only [scanDirectory, bind_eq_ok_iff, Except.ok.injEq] at hnext
      obtain ⟨-, -, -, -, rfl⟩ := hnext
      refine ⟨fun path => ?_, fun path => ?_, htotal⟩
      · rw [hsplit, ← h.mem_files]
        simp [hdirectory]
      · rw [hsplit, ← h.mem_directories, List.mem_cons]
        simp [hdirectory, eq_comm]
  | false =>
      rw [hdirectory, if_neg (by decide)] at hnext
      simp only [scanFile, bind_eq_ok_iff, Except.ok.injEq] at hnext
      obtain ⟨-, -, -, -, -, -, _, -, rfl⟩ := hnext
      refine ⟨fun path => ?_, fun path => ?_, htotal⟩
      · rw [hsplit, ← h.mem_files, List.mem_cons]
        simp [hdirectory, eq_comm]
      · rw [hsplit, ← h.mem_directories]
        simp [hdirectory]

/-- The first entries of a checked list are checked. -/
theorem EntriesChecked.of_append {more : List ZipFile}
    (h : EntriesChecked named limits (files ++ more)) :
    EntriesChecked named limits files where
  encoded file hfile := h.encoded file (List.mem_append_left _ hfile)
  names file hfile := h.names file (List.mem_append_left _ hfile)
  kinds file hfile := h.kinds file (List.mem_append_left _ hfile)
  sizes file hfile := h.sizes file (List.mem_append_left _ hfile)
  total := by
    have htotal := h.total
    simp only [declaredTotal, List.map_append, List.sum_append] at htotal ⊢
    omega
  distinct := (List.map_append ▸ h.distinct).of_append_left

/-- The loop passes exactly over lists of checked entries, and knows them behind it. -/
theorem ScanHolds.scanEntries_iff {rest : List ZipFile} :
    ∀ {scan : Scan} {checked : List ZipFile} (index : Nat), ScanHolds scan checked →
      EntriesChecked ToleratedName limits checked →
      ((∃ result, scanEntries limits scan index (rest.map .ok) = .ok result) ↔
        EntriesChecked ToleratedName limits (checked ++ rest)) ∧
      ∀ result, scanEntries limits scan index (rest.map .ok) = .ok result →
        ScanHolds result (checked ++ rest) := by
  induction rest with
  | nil =>
      intro scan checked index h hchecked
      rw [List.append_nil]
      refine ⟨⟨fun _ => hchecked, fun _ => ⟨scan, rfl⟩⟩, ?_⟩
      rintro result ⟨⟩
      exact h
  | cons file rest ih =>
      intro scan checked index h hchecked
      rw [List.append_cons]
      have hfirst := h.scanEntry_iff hchecked index file
      have hstep : ∀ result, scanEntries limits scan index ((file :: rest).map .ok) = .ok result ↔
          ∃ next, scanEntry limits scan index file = .ok next ∧
            scanEntries limits next (index + 1) (rest.map .ok) = .ok result := by
        intro result
        simp [scanEntries, bind_eq_ok_iff]
      constructor
      · constructor
        · rintro ⟨result, hresult⟩
          obtain ⟨next, hnext, hrest⟩ := (hstep result).mp hresult
          exact (ih (index + 1) (h.next hnext) (hfirst.mp ⟨next, hnext⟩)).1.mp ⟨result, hrest⟩
        · intro hall
          obtain ⟨next, hnext⟩ := hfirst.mpr hall.of_append
          obtain ⟨result, hrest⟩ := (ih (index + 1) (h.next hnext) hall.of_append).1.mpr hall
          exact ⟨result, (hstep result).mpr ⟨next, hnext, hrest⟩⟩
      · intro result hresult
        obtain ⟨next, hnext, hrest⟩ := (hstep result).mp hresult
        exact (ih (index + 1) (h.next hnext) (hfirst.mp ⟨next, hnext⟩)).2 result hrest

/-- The loop over a whole directory. -/
theorem scanEntries_start (limits : RtwLimits) (files : List ZipFile) :
    ((∃ result, scanEntries limits .start 0 (files.map .ok) = .ok result) ↔
      EntriesChecked ToleratedName limits files) ∧
    ∀ result, scanEntries limits .start 0 (files.map .ok) = .ok result →
      ScanHolds result files := by
  have hstart : EntriesChecked ToleratedName limits [] := by
    refine ⟨?_, ?_, ?_, ?_, Nat.zero_le _, List.nodup_nil⟩ <;> simp
  exact ScanHolds.scanEntries_iff 0 ScanHolds.start hstart

/-- The loop passes only over entries that the library opens. -/
theorem files_of_scanEntries {limits : RtwLimits} {result : Scan} :
    ∀ {archive : ZipArchive} {scan : Scan} {index : Nat},
      scanEntries limits scan index archive = .ok result →
      ∃ files : List ZipFile, archive = files.map .ok
  | [], scan, index, _ => ⟨[], rfl⟩
  | entry :: archive, scan, index, h => by
      obtain ⟨file, hfile, h⟩ := bind_eq_ok_iff.mp h
      obtain ⟨next, -, h⟩ := bind_eq_ok_iff.mp h
      obtain ⟨files, rfl⟩ := files_of_scanEntries h
      exact ⟨file :: files, by rw [orError_eq_ok_iff.mp hfile]; rfl⟩

/-! ## Archives -/

/-- The directory of an archive is accepted. -/
def AcceptsEntries (limits : RtwLimits) (archive : ZipArchive) : Prop :=
  ∃ scan, validateEntries archive limits = .ok scan

/-- An archive all of whose entries can be opened and are allowed together. -/
def ArchiveAllowed (named : String → Bool → Prop) (limits : RtwLimits)
    (archive : ZipArchive) : Prop :=
  ∃ files : List ZipFile, archive = files.map .ok ∧ EntriesAllowed named limits files

/-- No entry is below a file when the last pass finds no conflict. -/
theorem ScanHolds.findSome?_conflict (h : ScanHolds scan files) :
    (scan.files ++ scan.directories).findSome? (conflict scan.files) = none ↔
      ∀ file ∈ files, file.isDir = false → ∀ other ∈ files, ¬ IsAncestor file.path other.path := by
  have hpaths : ∀ path, path ∈ scan.files ++ scan.directories ↔
      ∃ other ∈ files, other.path = path := by
    intro path
    rw [List.mem_append, ← h.mem_paths, List.mem_map]
  simp only [List.findSome?_eq_none_iff, hpaths, conflict, List.find?_eq_none, mem_parentPaths,
    List.contains_iff_mem, h.mem_files]
  constructor
  · rintro hnone file hfile hkind other hother hancestor
    exact hnone other.path ⟨other, hother, rfl⟩ file.path hancestor ⟨file, hfile, hkind, rfl⟩
  · rintro hnone _ ⟨other, hother, rfl⟩ _ hancestor ⟨file, hfile, hkind, rfl⟩
    exact hnone file hfile hkind other hother hancestor

/-- The checks accept exactly the archives that are allowed under tolerated names. -/
theorem acceptsEntries_iff :
    AcceptsEntries limits archive ↔ ArchiveAllowed ToleratedName limits archive := by
  constructor
  · rintro ⟨scan, hscan⟩
    obtain ⟨⟨⟩, hcount, hrest⟩ := bind_eq_ok_iff.mp hscan
    obtain ⟨result, hresult, hlast⟩ := bind_eq_ok_iff.mp hrest
    obtain ⟨files, rfl⟩ := files_of_scanEntries hresult
    obtain ⟨hiff, hholds⟩ := scanEntries_start limits files
    have hscanned : ScanHolds result files := hholds result hresult
    split at hlast
    · cases hlast
    · next hconflict =>
        obtain ⟨⟨⟩, hmanifest, -⟩ := bind_eq_ok_iff.mp hlast
        rw [require_eq_ok_iff, List.contains_iff_mem, hscanned.mem_files] at hmanifest
        exact ⟨files, rfl, ⟨hiff.mp ⟨result, hresult⟩, by simpa using hcount,
          hscanned.findSome?_conflict.mp hconflict, hmanifest⟩⟩
  · rintro ⟨files, rfl, h⟩
    obtain ⟨hiff, hholds⟩ := scanEntries_start limits files
    obtain ⟨result, hresult⟩ := hiff.mpr h.toEntriesChecked
    have hscanned : ScanHolds result files := hholds result hresult
    have hconflict := hscanned.findSome?_conflict.mpr h.noConflict
    have hmanifest : rtwManifestPath ∈ result.files := (hscanned.mem_files _).mpr h.manifest
    refine ⟨result, ?_⟩
    simp only [validateEntries, bind_eq_ok_iff, require_eq_ok_iff]
    refine ⟨(), by simpa using h.count, result, hresult, ?_⟩
    rw [hconflict]
    simp [require, hmanifest, bind, Except.bind]

/-- The order of entries does not matter. -/
theorem EntriesAllowed.perm {others : List ZipFile} (h : EntriesAllowed named limits files)
    (hperm : files.Perm others) : EntriesAllowed named limits others where
  encoded file hfile := h.encoded file (hperm.mem_iff.mpr hfile)
  names file hfile := h.names file (hperm.mem_iff.mpr hfile)
  kinds file hfile := h.kinds file (hperm.mem_iff.mpr hfile)
  sizes file hfile := h.sizes file (hperm.mem_iff.mpr hfile)
  total := by
    have htotal := h.total
    rwa [declaredTotal, (hperm.map _).sum_nat] at htotal
  distinct := (hperm.map _).nodup_iff.mp h.distinct
  count := hperm.length_eq ▸ h.count
  noConflict file hfile hkind other hother :=
    h.noConflict file (hperm.mem_iff.mpr hfile) hkind other (hperm.mem_iff.mpr hother)
  manifest := by
    obtain ⟨file, hfile, hmanifest⟩ := h.manifest
    exact ⟨file, hperm.mem_iff.mp hfile, hmanifest⟩

/-- Entries that can all be opened are a list of files. -/
theorem eq_map_ok_of_opens : ∀ {archive : ZipArchive},
    (∀ entry ∈ archive, ∃ file, entry = .ok file) →
    archive = (archive.filterMap Except.toOption).map .ok
  | [], _ => rfl
  | entry :: archive, h => by
      obtain ⟨file, rfl⟩ := h entry (by simp)
      have hrest : archive = (archive.filterMap Except.toOption).map .ok :=
        eq_map_ok_of_opens fun other hother => h other (by simp [hother])
      exact congrArg (List.cons (.ok file)) hrest

/-- The order of entries does not matter to an archive. -/
theorem ArchiveAllowed.perm {others : ZipArchive} (h : ArchiveAllowed named limits archive)
    (hperm : archive.Perm others) : ArchiveAllowed named limits others := by
  obtain ⟨files, rfl, hallowed⟩ := h
  have hopens : ∀ entry ∈ others, ∃ file, entry = .ok file := by
    intro entry hentry
    obtain ⟨file, -, hfile⟩ := List.mem_map.mp (hperm.mem_iff.mpr hentry)
    exact ⟨file, hfile.symm⟩
  have hfiles : (files.map Except.ok : ZipArchive).filterMap Except.toOption = files := by
    rw [List.filterMap_map]
    exact List.filterMap_some
  refine ⟨others.filterMap Except.toOption, eq_map_ok_of_opens hopens, hallowed.perm ?_⟩
  exact hfiles ▸ hperm.filterMap Except.toOption

/-! ## The rule and the checks -/

/-- What is promised of the checks of an archive: they accept it exactly when its entries
are allowed under canonical names, in any order, and the files of an accepted archive stay
below every root. -/
structure EntryValidationExact (limits : RtwLimits) (archive : ZipArchive) : Prop where
  accepts_iff : AcceptsEntries limits archive ↔ ArchiveAllowed CanonicalName limits archive
  order : ∀ others : ZipArchive, archive.Perm others →
    (AcceptsEntries limits others ↔ AcceptsEntries limits archive)
  below : AcceptsEntries limits archive → ∀ file, .ok file ∈ archive → file.isDir = false →
    StaysBelow file.path

/-- No name of a directory ends with two slashes. -/
def SingleSlashes (archive : ZipArchive) : Prop :=
  ∀ file, .ok file ∈ archive → file.isDir = true → endsWithSlash (stripSlash file.name) = false

/-- Entries are allowed under any rule for names that they follow. -/
theorem EntriesAllowed.rename {renamed : String → Bool → Prop}
    (h : EntriesAllowed named limits files)
    (hnames : ∀ file ∈ files, renamed file.name file.isDir) :
    EntriesAllowed renamed limits files :=
  { h with names := hnames }

/-- Under the rule that lets a second slash pass, the canonical names are those without
one. -/
theorem archiveAllowed_canonical_iff :
    ArchiveAllowed CanonicalName limits archive ↔
      ArchiveAllowed ToleratedName limits archive ∧ SingleSlashes archive := by
  constructor
  · rintro ⟨files, rfl, h⟩
    refine ⟨⟨files, rfl, h.rename fun file hfile => Or.inl (h.names file hfile)⟩, ?_⟩
    intro file hfile hdirectory
    obtain ⟨other, hother, hsame⟩ := List.mem_map.mp hfile
    cases hsame
    exact (h.names file hother).single hdirectory
  · rintro ⟨⟨files, rfl, h⟩, hsingle⟩
    refine ⟨files, rfl, h.rename fun file hfile => (h.names file hfile).canonical ?_⟩
    exact hsingle file (List.mem_map_of_mem hfile)

/-- The checks are exact for an archive if and only if it breaks some other rule, or no
name of a directory in it ends with two slashes. -/
theorem entry_validation_exact_iff (limits : RtwLimits) (archive : ZipArchive) :
    EntryValidationExact limits archive ↔
      (ArchiveAllowed ToleratedName limits archive → SingleSlashes archive) := by
  have haccepts : AcceptsEntries limits archive ↔ ArchiveAllowed ToleratedName limits archive :=
    acceptsEntries_iff
  constructor
  · intro h hallowed
    exact (archiveAllowed_canonical_iff.mp (h.accepts_iff.mp (haccepts.mpr hallowed))).2
  · intro hsingle
    refine ⟨?_, fun others hperm => ?_, fun hallowed file hfile hkind => ?_⟩
    · rw [haccepts, archiveAllowed_canonical_iff]
      exact ⟨fun h => ⟨h, hsingle h⟩, fun h => h.1⟩
    · rw [haccepts, acceptsEntries_iff]
      exact ⟨fun h => h.perm hperm.symm, fun h => h.perm hperm⟩
    · obtain ⟨files, rfl, h⟩ := haccepts.mp hallowed
      obtain ⟨other, hother, hsame⟩ := List.mem_map.mp hfile
      cases hsame
      have hname := h.names file hother
      rw [hkind] at hname
      have hplain := (hname.canonical (by simp)).toPlainSegments
      rw [ZipFile.path, entryPath, hkind]
      exact hplain.staysBelow

/-! ## A second slash -/

/-- An entry without contents. -/
def emptyEntry (name : String) (isDir : Bool) : ZipFile :=
  ⟨utf8 name, name, isDir, false, none, .stored, false, 0, 0, ⟨[], none⟩⟩

def smallLimits : RtwLimits := ⟨100, 10, 10, 10, 10⟩

/-- An archive with a directory whose name ends with two slashes is accepted. -/
theorem accepts_second_slash :
    let archive : ZipArchive := [.ok (emptyEntry "rtw.toml" false), .ok (emptyEntry "a//" true)]
    AcceptsEntries smallLimits archive ∧ ¬ EntryValidationExact smallLimits archive := by
  intro archive
  have haccepted : AcceptsEntries smallLimits archive := by
    have hok : (validateEntries archive smallLimits).isOk = true := by decide +kernel
    cases hscan : validateEntries archive smallLimits with
    | error error =>
        rw [hscan] at hok
        cases hok
    | ok scan => exact ⟨scan, hscan⟩
  refine ⟨haccepted, fun hexact => ?_⟩
  obtain ⟨files, hfiles, hallowed⟩ := hexact.accepts_iff.mp haccepted
  have hmem : (.ok (emptyEntry "a//" true) : Except ZipError ZipFile) ∈ files.map .ok := by
    rw [← hfiles]
    simp [archive]
  obtain ⟨file, hfile, hsame⟩ := List.mem_map.mp hmem
  cases hsame
  exact ((hallowed.names _ hfile).segments "" (by decide +kernel)).1 rfl

end Rintawa.Artifacts
