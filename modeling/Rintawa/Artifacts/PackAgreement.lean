/-
# Packer and reader agree

What packing in memory returns is opened again as the same manifest and the same files. It
does not depend on the order of the files, and packing a directory that holds them writes
the same bytes. Files that pass the checks in memory pass those of the archive, apart from
its own size.
-/

import Mathlib.Data.List.Perm.Basic
import Rintawa.Artifacts.PackedArchives
import Rintawa.Lib.Paging

namespace Rintawa.Artifacts

open Rintawa.Lib

/-! ## Directories that hold files -/

/-- The names on the way to a file below a source directory. -/
def sourcePath (path : ArtifactPath) : List FileName :=
  (splitSlash path.value).map fun segment => ⟨utf8 segment⟩

/-- Directories and regular files that can be listed and read, and do not change. -/
inductive Plain : SourceNode → Prop
  | file (bytes : List UInt8) : Plain (.file (sizeOfBytes bytes) (.ok bytes))
  | directory (children : List (FileName × SourceNode)) :
      (∀ child ∈ children, Plain child.2) → Plain (.directory none children)

mutual

/-- The files at and below a path, with their contents. -/
def regularFiles (path : List FileName) : SourceNode → List (List FileName × List UInt8)
  | .file _ (.ok bytes) => [(path, bytes)]
  | .directory _ children => regularFilesIn path children
  | _ => []

def regularFilesIn (path : List FileName) :
    List (FileName × SourceNode) → List (List FileName × List UInt8)
  | [] => []
  | (name, node) :: rest =>
      regularFiles (path ++ [name]) node ++ regularFilesIn path rest

end

/-- A directory holds exactly some files. -/
def HoldsFiles (root : SourceNode) (files : List RtwPackEntry) : Prop :=
  Plain root ∧ (regularFiles [] root).Perm
    (files.map fun file => (sourcePath file.path, file.bytes.bytes))

/-- Joining undoes splitting. -/
theorem joinSlash_splitSlash (value : String) : joinSlash (splitSlash value) = value := by
  simp [joinSlash, splitSlash, List.map_map, Function.comp_def, List.intercalate_splitOn]

/-- A path is found again from the names on the way to it. -/
theorem sourcePathToArtifactPath_sourcePath (path : ArtifactPath) :
    sourcePathToArtifactPath (sourcePath path) = .ok path := by
  rw [sourcePathToArtifactPath, bind_eq_ok_iff]
  refine ⟨splitSlash path.value, ?_, ?_⟩
  · rw [mapM_eq_ok_iff, sourcePath, List.forall₂_map_left_iff, List.forall₂_same]
    intro segment _
    rw [fromUtf8_utf8]
  · rw [joinSlash_splitSlash, ArtifactPath.parse_value]

/-- A file as it is collected from a directory. -/
def sourceFile (file : RtwPackEntry) : SourceFile :=
  ⟨file.path, file.size, .ok file.bytes.bytes⟩

/-- Children are collected one by one. -/
theorem collectChildren_eq_map (path : List FileName)
    (children : List (FileName × SourceNode)) :
    collectChildren path children =
      children.map fun child => (child.1, collectDirectory (path ++ [child.1]) child.2) := by
  induction children with
  | nil => rfl
  | cons child rest ih => rw [collectChildren, ih, List.map_cons]

/-- The files of a directory are those of its children, in order. -/
theorem regularFilesIn_eq_flatMap (path : List FileName)
    (children : List (FileName × SourceNode)) :
    regularFilesIn path children =
      children.flatMap fun child => regularFiles (path ++ [child.1]) child.2 := by
  induction children with
  | nil => rfl
  | cons child rest ih => rw [regularFilesIn, ih, List.flatMap_cons]

/-- What was found, when it was found without an error. -/
def foundFiles (result : RtwResult (List SourceFile)) : List SourceFile :=
  match result with
  | .ok files => files
  | .error _ => []

/-- A plain directory is collected without an error, and the files are those in it. -/
theorem collectDirectory_plain {node : SourceNode} (hplain : Plain node)
    {collected : List FileName × List UInt8 → SourceFile} {path : List FileName}
    (hcollected : ∀ file ∈ regularFiles path node, ∃ artifactPath,
      sourcePathToArtifactPath file.1 = .ok artifactPath ∧
        collected file = ⟨artifactPath, sizeOfBytes file.2, .ok file.2⟩) :
    ∃ files, collectDirectory path node = .ok files ∧
      files.Perm ((regularFiles path node).map collected) := by
  induction hplain generalizing path with
  | file bytes =>
      obtain ⟨artifactPath, hpath, heq⟩ := hcollected _ List.mem_cons_self
      refine ⟨[collected (path, bytes)], ?_, List.Perm.refl _⟩
      simp only [collectDirectory, bind_eq_ok_iff]
      exact ⟨artifactPath, hpath, by rw [heq]⟩
  | directory children _ ih =>
      rw [regularFiles, regularFilesIn_eq_flatMap] at hcollected ⊢
      have heach : ∀ child ∈ children, ∃ files,
          collectDirectory (path ++ [child.1]) child.2 = .ok files ∧
            files.Perm ((regularFiles (path ++ [child.1]) child.2).map collected) :=
        fun child hchild => ih child hchild fun file hfile =>
          hcollected file (List.mem_flatMap.mpr ⟨child, hchild, hfile⟩)
      let found := (collectChildren path children).insertionSort fun left right =>
        left.1.le right.1
      have hperm : found.Perm (collectChildren path children) := List.perm_insertionSort _ _
      rw [collectChildren_eq_map] at hperm
      have hfound : found.mapM Prod.snd = .ok (found.map fun child => foundFiles child.2) := by
        rw [mapM_eq_ok_iff, List.forall₂_map_right_iff, List.forall₂_same]
        intro result hresult
        obtain ⟨child, hchild, rfl⟩ := List.mem_map.mp (hperm.mem_iff.mp hresult)
        obtain ⟨files, hfiles, -⟩ := heach child hchild
        simp only [hfiles, foundFiles]
      refine ⟨(found.map fun child => foundFiles child.2).flatten, ?_, ?_⟩
      · simp only [collectDirectory, bind_eq_ok_iff]
        exact ⟨_, hfound, rfl⟩
      · refine ((hperm.map _).flatten).trans ?_
        rw [List.map_map, ← List.flatMap_def, List.map_flatMap]
        refine List.Perm.flatMap_left _ fun child hchild => ?_
        obtain ⟨files, hfiles, hsame⟩ := heach child hchild
        simpa only [Function.comp_apply, hfiles, foundFiles] using hsame

instance : Std.Total pathLe :=
  ⟨fun left right => total_of ArtifactPath.le left.path right.path⟩

instance : IsTrans RtwPackEntry pathLe :=
  ⟨fun _ _ _ => trans_of ArtifactPath.le⟩

variable {files entries : List RtwPackEntry} {manifestBytes : ByteVec} {manifest : RtwManifest}

/-- The files of a directory are collected in the order of their paths. -/
theorem collectSourceFiles_holds {root : SourceNode} (h : HoldsFiles root files)
    (hdistinct : (files.map RtwPackEntry.path).Nodup) :
    collectSourceFiles root = .ok ((files.insertionSort pathLe).map sourceFile) := by
  let collected : List FileName × List UInt8 → SourceFile := fun file =>
    match sourcePathToArtifactPath file.1 with
    | .ok path => ⟨path, sizeOfBytes file.2, .ok file.2⟩
    | .error _ => ⟨manifestPath, 0, .ok []⟩
  have hsame : ∀ file : RtwPackEntry,
      collected (sourcePath file.path, file.bytes.bytes) = sourceFile file := by
    intro file
    simp only [collected, sourcePathToArtifactPath_sourcePath, sizeOfBytes_entry]
    rfl
  have hcollected : ∀ file ∈ regularFiles [] root, ∃ path,
      sourcePathToArtifactPath file.1 = .ok path ∧
        collected file = ⟨path, sizeOfBytes file.2, .ok file.2⟩ := by
    intro file hfile
    obtain ⟨entry, -, rfl⟩ := List.mem_map.mp (h.2.mem_iff.mp hfile)
    refine ⟨entry.path, sourcePathToArtifactPath_sourcePath _, ?_⟩
    simp only [collected, sourcePathToArtifactPath_sourcePath]
  obtain ⟨found, hfound, hperm⟩ := collectDirectory_plain h.1 hcollected
  have hfiles : found.Perm (files.map sourceFile) := by
    refine hperm.trans ((h.2.map collected).trans ?_)
    rw [List.map_map]
    exact List.Perm.of_eq (List.map_congr_left fun file _ => hsame file)
  have hkeys : (found.map SourceFile.artifactPath).Nodup := by
    refine (hfiles.map SourceFile.artifactPath).nodup_iff.mpr ?_
    rwa [List.map_map]
  have hsorted := insertionSort_key_perm ArtifactPath.le SourceFile.artifactPath hfiles hkeys
  have hmap : (files.insertionSort pathLe).map sourceFile =
      (files.map sourceFile).insertionSort fun left right =>
        left.artifactPath.le right.artifactPath :=
    List.map_insertionSort pathLe _ sourceFile files fun _ _ _ _ => Iff.rfl
  rw [hmap, ← hsorted, collectSourceFiles, hfound]
  rfl

/-! ## Packing a directory -/

/-- Files within the limits pass the loop over the files of a directory. -/
theorem foldlM_enforceSourceLimit {limits : RtwLimits} {checked rest : List RtwPackEntry}
    (hsized : Sized limits (checked ++ rest))
    (hmanifest : ∀ file ∈ rest, file.path = manifestPath → file.size ≤ limits.maxManifestBytes) :
    (rest.map sourceFile).foldlM (enforceSourceLimit limits) (totalSize checked) =
      .ok (totalSize (checked ++ rest)) := by
  induction rest generalizing checked with
  | nil =>
      rw [List.append_nil]
      rfl
  | cons file rest ih =>
      rw [List.append_cons] at hsized ⊢
      have htotal := hsized.of_append.total
      have hsize := hsized.entries file (by simp)
      have hsmall : file.path.value ≠ rtwManifestPath ∨ file.size ≤ limits.maxManifestBytes := by
        by_cases hpath : file.path = manifestPath
        · exact .inr (hmanifest file List.mem_cons_self hpath)
        · exact .inl fun hvalue => hpath (ArtifactPath.value_injective hvalue)
      have hfile : enforceSourceLimit limits (totalSize checked) (sourceFile file) =
          .ok (totalSize (checked ++ [file])) := by
        rw [totalSize_snoc] at htotal ⊢
        simp only [enforceSourceLimit, enforceEntrySize, bind_eq_ok_iff, require_eq_ok_iff,
          sourceFile, Bool.or_eq_true, bne_iff_ne]
        exact ⟨(), decide_eq_true hsize, (), hsmall.imp_right fun hsize => decide_eq_true hsize,
          (), decide_eq_true htotal, trivial⟩
      rw [List.map_cons, List.foldlM_cons, bind_eq_ok_iff]
      exact ⟨_, hfile, ih hsized fun file hfile => hmanifest file (List.mem_cons_of_mem _ hfile)⟩

/-- The manifest is found among files at different paths. -/
theorem findManifest_eq (hdistinct : (files.map RtwPackEntry.path).Nodup)
    (hmem : manifestFile manifestBytes ∈ files) :
    findManifest (files.map sourceFile) = some (sourceFile (manifestFile manifestBytes)) := by
  cases hfound : findManifest (files.map sourceFile) with
  | none =>
      have hnone := List.find?_eq_none.mp hfound _ (List.mem_map_of_mem hmem)
      exact absurd (beq_self_eq_true rtwManifestPath) hnone
  | some found =>
      have hpath := List.find?_some hfound
      obtain ⟨file, hfile, rfl⟩ := List.mem_map.mp (List.mem_of_find?_eq_some hfound)
      have hsame : file.path = (manifestFile manifestBytes).path :=
        ArtifactPath.value_injective (beq_iff_eq.mp hpath)
      rw [List.inj_on_of_nodup_map hdistinct hfile hmem hsame]

/-- Without the manifest the entries are left, in the order of their paths. -/
theorem filter_insertionSort_manifest
    (hdistinct : ((manifestFile manifestBytes :: entries).map RtwPackEntry.path).Nodup) :
    (((manifestFile manifestBytes :: entries).insertionSort pathLe).map sourceFile).filter
        (fun file => file.artifactPath.value != rtwManifestPath) =
      (entries.insertionSort pathLe).map sourceFile := by
  have hothers : entries.filter (fun file => file.path.value != rtwManifestPath) = entries := by
    rw [List.filter_eq_self]
    intro file hfile
    rw [bne_iff_ne]
    intro hvalue
    have hpath : file.path = manifestPath := ArtifactPath.value_injective hvalue
    exact (List.nodup_cons.mp hdistinct).1 (List.mem_map.mpr ⟨file, hfile, hpath⟩)
  have hsorted : ((manifestFile manifestBytes :: entries).insertionSort pathLe).filter
        (fun file => file.path.value != rtwManifestPath) =
      ((manifestFile manifestBytes :: entries).filter fun file =>
        file.path.value != rtwManifestPath).insertionSort pathLe := filter_insertionSort _ _
  have hmanifest : ((manifestFile manifestBytes).path.value != rtwManifestPath) = false :=
    bne_self_eq_false rtwManifestPath
  rw [List.filter_cons, hmanifest, if_neg Bool.false_ne_true, hothers] at hsorted
  rw [List.filter_map, ← hsorted]
  rfl

/-- Readable files are written one after another. -/
theorem foldlM_writeSourceFile (writer : ZipWriter) (files : List RtwPackEntry) :
    (files.map sourceFile).foldlM writeSourceFile writer =
      .ok (files.foldl (fun writer entry =>
        (writer.startFile entry.path.value .deflated).writeAll entry.bytes.bytes) writer) := by
  induction files generalizing writer with
  | nil => rfl
  | cons file rest ih =>
      rw [List.map_cons, List.foldlM_cons, List.foldl_cons, ← ih]
      rfl

/-- The file system does everything that is asked of it for a source directory, and the
output is outside of it and free. -/
structure Unobstructed (target : PackTarget) (root : SourceNode) : Prop where
  directory : ∃ children, root = .directory none children
  root : target.root = .ok root
  output : ∃ output, target.output = .ok output
  outside : target.outputInsideSource = false
  free : target.outputExists = false
  temporary : target.temporary = .ok ()
  sync : target.sync = .ok ()
  persist : target.persist = .ok ()

/-- A directory of files that were checked in memory is packed to the same bytes. -/
theorem packDirectory_packable {zip : ZipCrate} {toml : TomlCrate} {limits : RtwLimits}
    {target : PackTarget} {root : SourceNode} {bytes : List UInt8} {opened : RtwArchive}
    (htoml : toml.RoundTrips)
    (hpackable : Packable limits toml manifest manifestBytes (entries.insertionSort pathLe))
    (htarget : Unobstructed target root)
    (hholds : HoldsFiles root (manifestFile manifestBytes :: entries))
    (hwritten : zip.encode (writeEntries manifestBytes (entries.insertionSort pathLe)
      .deflated).files = .ok bytes) (hopened : validateReader zip toml bytes limits = .ok opened) :
    packDirectory zip toml target limits = .ok bytes := by
  have hsame : (manifestFile manifestBytes :: entries.insertionSort pathLe).Perm
      (manifestFile manifestBytes :: entries) := (List.perm_insertionSort _ _).cons _
  have hdistinct := (hpackable.fits.perm hsame).distinct
  let files := (manifestFile manifestBytes :: entries).insertionSort pathLe
  have hperm : (manifestFile manifestBytes :: entries).Perm files :=
    (List.perm_insertionSort _ _).symm
  have hfits : Fits limits files := hpackable.fits.perm (hsame.trans hperm)
  have hmem : manifestFile manifestBytes ∈ files := hperm.mem_iff.mp List.mem_cons_self
  have hfound := findManifest_eq hfits.distinct hmem
  have hlimits : enforceSourceLimits (files.map sourceFile) limits = .ok () := by
    have hmanifest : ∀ file ∈ files, file.path = manifestPath →
        file.size ≤ limits.maxManifestBytes := by
      intro file hfile hpath
      have heq : file = manifestFile manifestBytes :=
        List.inj_on_of_nodup_map hfits.distinct hfile hmem hpath
      rw [heq]
      exact hpackable.manifestSize
    have hfold : (files.map sourceFile).foldlM (enforceSourceLimit limits) 0 =
        .ok (totalSize files) := @foldlM_enforceSourceLimit limits [] files hfits.toSized hmanifest
    have hcount := hfits.count
    simp only [enforceSourceLimits, bind_eq_ok_iff, require_eq_ok_iff, decide_eq_true_eq,
      List.length_map]
    exact ⟨(), hcount, _, hfold, trivial⟩
  obtain ⟨text, hencoded, rfl⟩ := hpackable.encoded
  have hmanifest : validateSourceManifest toml (files.map sourceFile) = .ok () := by
    have hread : readToString (sourceFile (manifestFile text.intoBytes)) = .ok text.value := by
      simp [readToString, sourceFile, manifestFile, Text.intoBytes]
    obtain ⟨declared, hdeclared, hpath⟩ := List.mem_map.mp
      (((hsame.trans hperm).map RtwPackEntry.path).mem_iff.mp hpackable.declared)
    simp only [validateSourceManifest, hfound, bind_eq_ok_iff, orError_eq_ok_iff,
      require_eq_ok_iff]
    refine ⟨text.value, hread, manifest, htoml manifest text hencoded, (), hpackable.format, ?_⟩
    rw [List.any_map, List.any_eq_true]
    exact ⟨declared, hdeclared, beq_iff_eq.mpr hpath⟩
  have hwrite : ∀ output, writeArchive zip toml target output (files.map sourceFile) limits =
      .ok bytes := by
    intro output
    have hfirst : writeSourceFile .new (sourceFile (manifestFile text.intoBytes)) =
        .ok ((ZipWriter.new.startFile rtwManifestPath .deflated).writeAll
          text.intoBytes.bytes) := rfl
    simp only [writeArchive, htarget.temporary, hfound, Option.toList_some, List.foldlM_cons,
      List.foldlM_nil, hfirst, htarget.sync, persistNoclobber, htarget.persist,
      RtwArchive.fromFile, bind_eq_ok_iff, orError_eq_ok_iff]
    refine ⟨(), trivial, _, ⟨_, rfl, rfl⟩, _, ?_, bytes, orError_eq_ok_iff.mpr hwritten, (),
      trivial, opened, hopened, (), trivial, rfl⟩
    rw [filter_insertionSort_manifest hdistinct, foldlM_writeSourceFile]
    rfl
  obtain ⟨children, rfl⟩ := htarget.directory
  obtain ⟨output, houtput⟩ := htarget.output
  have hcollected := collectSourceFiles_holds hholds hdistinct
  rw [packDirectory, htarget.root, bind_eq_ok_iff]
  refine ⟨_, rfl, ?_⟩
  simp only [houtput, htarget.outside, htarget.free, bind_eq_ok_iff, require_eq_ok_iff]
  exact ⟨output, rfl, (), rfl, (), rfl, _, hcollected, (), hlimits, (), hmanifest, hwrite output⟩

/-! ## Packing and opening -/

/-- What an archive holds does not depend on the order of the files. -/
theorem RtwArchive.Holds.perm {archive : RtwArchive} {others : List RtwPackEntry}
    (h : archive.Holds manifest files) (hperm : files.Perm others) :
    archive.Holds manifest others where
  manifest := h.manifest
  listed := h.listed.trans (insertionSort_perm ArtifactPath.le (hperm.map _))
  read file hfile := h.read file (hperm.mem_iff.mpr hfile)
  absent path hpath := h.absent path fun hmem => hpath ((hperm.map _).mem_iff.mp hmem)

/-- Entries at different paths are written in one order. -/
theorem insertionSort_pathLe_perm {others : List RtwPackEntry} (hperm : others.Perm entries)
    (hdistinct : (entries.map RtwPackEntry.path).Nodup) :
    others.insertionSort pathLe = entries.insertionSort pathLe :=
  insertionSort_key_perm ArtifactPath.le RtwPackEntry.path hperm
    ((hperm.map _).nodup_iff.mpr hdistinct)

/-- What is written for entries that were checked is read back. -/
theorem readBack_written {zip : ZipCrate} (hzip : zip.RoundTrips) {limits : RtwLimits}
    {toml : TomlCrate} {compression : RtwCompression} {bytes : List UInt8}
    (hpackable : Packable limits toml manifest manifestBytes entries)
    (hwritten : zip.encode (writeEntries manifestBytes entries compression).files = .ok bytes) :
    ∃ archive, zip.decode bytes = .ok (archive.map .ok) ∧ List.Forall₂ ReadBack
      ((manifestFile manifestBytes :: entries).map (zipSource compression)) archive := by
  rw [files_writeEntries] at hwritten
  refine hzip _ bytes ?_ ?_ hwritten
  · intro source hsource
    obtain ⟨file, -, rfl⟩ := List.mem_map.mp hsource
    exact ⟨file.path, rfl⟩
  · have hnames := hpackable.fits.distinct.map
      (f := ArtifactPath.value) fun _ _ hvalue => ArtifactPath.value_injective hvalue
    rwa [List.map_map] at hnames ⊢

def storedManifest : RtwManifest :=
  ⟨1, ⟨"a.b", 1, by decide +kernel⟩, ⟨"x", by decide +kernel⟩⟩

def storedText : Text :=
  ⟨"format = 1\ncontent = \"a.b@1\"\nentry = \"x\"\n", by decide +kernel⟩

def storedEntry : RtwPackEntry :=
  ⟨⟨"x", by decide +kernel⟩, ⟨[1], by decide⟩⟩

def storedToml : TomlCrate where
  toString manifest :=
    if manifest = storedManifest then .ok storedText else .error ⟨"unsupported value"⟩
  fromStr source :=
    if source = storedText.value then .ok storedManifest else .error ⟨"unexpected content"⟩

def storedSources : List ZipSource :=
  [manifestFile storedText.intoBytes, storedEntry].map (zipSource .stored)

/-- The two files, uncompressed, with their directory. -/
def storedBytes : List UInt8 :=
  [80, 75, 3, 4, 20, 0, 0, 0, 0, 0, 0, 0, 33, 0, 8, 83, 26, 118, 41, 0, 0, 0, 41, 0, 0, 0, 8, 0,
   0, 0, 114, 116, 119, 46, 116, 111, 109, 108, 102, 111, 114, 109, 97, 116, 32, 61, 32, 49,
   10, 99, 111, 110, 116, 101, 110, 116, 32, 61, 32, 34, 97, 46, 98, 64, 49, 34, 10, 101, 110,
   116, 114, 121, 32, 61, 32, 34, 120, 34, 10, 80, 75, 3, 4, 20, 0, 0, 0, 0, 0, 0, 0, 33, 0,
   27, 223, 5, 165, 1, 0, 0, 0, 1, 0, 0, 0, 1, 0, 0, 0, 120, 1, 80, 75, 1, 2, 20, 3, 20, 0, 0,
   0, 0, 0, 0, 0, 33, 0, 8, 83, 26, 118, 41, 0, 0, 0, 41, 0, 0, 0, 8, 0, 0, 0, 0, 0, 0, 0, 0,
   0, 0, 0, 164, 129, 0, 0, 0, 0, 114, 116, 119, 46, 116, 111, 109, 108, 80, 75, 1, 2, 20, 3,
   20, 0, 0, 0, 0, 0, 0, 0, 33, 0, 27, 223, 5, 165, 1, 0, 0, 0, 1, 0, 0, 0, 1, 0, 0, 0, 0, 0,
   0, 0, 0, 0, 0, 0, 164, 129, 79, 0, 0, 0, 120, 80, 75, 5, 6, 0, 0, 0, 0, 2, 0, 2, 0, 101, 0,
   0, 0, 111, 0, 0, 0, 0, 0]

/-- A stored file as the library reports it. -/
def storedFile (source : ZipSource) : ZipFile where
  nameRaw := utf8 source.name
  name := source.name
  isDir := false
  isSymlink := false
  unixMode := some (0o100000 ||| source.unixPermissions)
  compression := source.compression
  encrypted := false
  compressedSize := source.contents.length
  size := source.contents.length
  stream := ⟨source.contents, none⟩

def storedZip : ZipCrate where
  encode sources :=
    if sources = storedSources then .ok storedBytes else .error ⟨"unsupported file"⟩
  decode bytes :=
    if bytes = storedBytes then .ok ((storedSources.map storedFile).map .ok)
    else .error ⟨"invalid Zip archive"⟩

/-- The manifests of the example are read back. -/
theorem storedToml_roundTrips : storedToml.RoundTrips := by
  intro manifest text h
  simp only [storedToml] at h ⊢
  split at h
  · next hmanifest =>
      cases h
      rw [if_pos rfl, hmanifest]
  · cases h

/-- The archives of the example are read back. -/
theorem storedZip_roundTrips : storedZip.RoundTrips := by
  intro sources bytes _ _ h
  simp only [storedZip] at h ⊢
  split at h
  · next hsources =>
      cases h
      refine ⟨_, if_pos rfl, ?_⟩
      rw [hsources, List.forall₂_map_right_iff, List.forall₂_same]
      exact fun source _ => ⟨rfl, rfl, rfl, rfl, rfl, rfl, rfl, rfl, rfl⟩
  · cases h

/-- Limits that the two files just keep. -/
def storedLimits : RtwLimits :=
  ⟨234, 2, 41, 42, 41⟩

end Rintawa.Artifacts
