/-
# Read limits of artifacts

Three readers look at the contents of an archive: the one for any file, the one for the
root manifest, and the one for the manifest of an extension. The last one compares its own
limit with the declared size only, and reads under the larger limit for any file. So its
limit holds exactly for streams that are as long as they declare to be, or longer within the
limit.
-/

import Rintawa.Artifacts.BoundedReads
import Rintawa.Artifacts.PackAgreement
import Rintawa.ExtensionEngine.Errors

namespace Rintawa.ExtensionEngine

open Rintawa.Lib Rintawa.Sdk

/-! ## The manifest of an extension -/

/-- Errors of reading the manifest of an extension from an artifact. -/
inductive ManifestReadError
  | artifact (error : Artifacts.RtwError)
  | unsupportedExtensionArtifactContent (content : String)
  | extensionManifestTooLarge (path : String) (actual maximum : Nat)
  | extensionManifestEncoding (path : String)
  | parse (error : EngineError)

namespace RtwExtensionLoader

def extensionContentId : String := "rintawa.extension"

def extensionContentMajor : UInt32 := 1

def maxExtensionManifestBytes : Nat := 1024 * 1024

/-- The displayed type of contents. -/
def displayContent (content : Artifacts.ContentType) : String :=
  content.id ++ "@" ++ toString content.major.toNat

/-- The type of contents that the loader knows. -/
def IsExtension (content : Artifacts.ContentType) : Prop :=
  content.id = extensionContentId ∧ content.major = extensionContentMajor

instance (content : Artifacts.ContentType) : Decidable (IsExtension content) :=
  inferInstanceAs (Decidable (_ ∧ _))

/-- The bytes of the manifest, under the limit of the archive for any file. -/
def readManifestBytes (archive : Artifacts.RtwArchive) :
    Except ManifestReadError (List UInt8) :=
  if ¬ IsExtension archive.manifest.content then
    .error (.unsupportedExtensionArtifactContent (displayContent archive.manifest.content))
  else
    match archive.listed.find? fun entry => decide (entry.path = archive.manifest.entry) with
    | none => .error (.artifact (.entryNotFound archive.manifest.entry.value))
    | some entry =>
        if maxExtensionManifestBytes < entry.uncompressedSize then
          .error (.extensionManifestTooLarge archive.manifest.entry.value
            entry.uncompressedSize maxExtensionManifestBytes)
        else
          match archive.read archive.manifest.entry with
          | .error error => .error (.artifact error)
          | .ok bytes => .ok bytes

/-- Read and parse the manifest of an extension. -/
def readManifest (parseManifest : String → EngineResult ExtensionManifest)
    (archive : Artifacts.RtwArchive) : Except ManifestReadError ExtensionManifest := do
  let bytes ← readManifestBytes archive
  match Artifacts.fromUtf8 bytes with
  | none => .error (.extensionManifestEncoding archive.manifest.entry.value)
  | some raw =>
      match parseManifest raw with
      | .error error => .error (.parse error)
      | .ok manifest => .ok manifest

variable {archive : Artifacts.RtwArchive} {files : List Artifacts.ZipFile}

/-- An entry is listed under its path exactly when the archive has it. -/
theorem find?_listed (h : archive.Opened files) (path : Artifacts.ArtifactPath) :
    archive.listed.find? (fun entry => decide (entry.path = path)) =
      archive.entries.lookup path := by
  have hmem : ∀ entry, entry ∈ archive.listed ↔
      ∃ key, archive.entries.lookup key = some entry := by
    intro entry
    rw [Artifacts.RtwArchive.listed, List.mem_insertionSort]
    exact Dict.mem_values_iff
  have hkey : ∀ key entry, archive.entries.lookup key = some entry → entry.path = key := by
    intro key entry hlookup
    obtain ⟨_, _, _, _, hpath, _⟩ := h.size key entry hlookup
    exact hpath
  cases hfound : archive.listed.find? fun entry => decide (entry.path = path) with
  | some entry =>
      obtain ⟨key, hlookup⟩ := (hmem entry).mp (List.mem_of_find?_eq_some hfound)
      have hpath : entry.path = path := by simpa using List.find?_some hfound
      rw [← hpath, hkey key entry hlookup, hlookup]
  | none =>
      cases hlookup : archive.entries.lookup path with
      | none => rfl
      | some entry =>
          have hnone := List.find?_eq_none.mp hfound entry ((hmem entry).mpr ⟨path, hlookup⟩)
          simp [hkey path entry hlookup] at hnone

/-- What the loader reads is the whole stream of an entry with a small declared size. -/
theorem readManifestBytes_eq_ok_iff (h : archive.Opened files) {output : List UInt8} :
    readManifestBytes archive = .ok output ↔ IsExtension archive.manifest.content ∧
      ∃ file, archive.FileAt archive.manifest.entry file ∧
        file.size ≤ maxExtensionManifestBytes ∧ file.Yields output ∧
        output.length ≤ archive.limits.maxEntryBytes ∧
        output.length ≤ Artifacts.isizeMax := by
  obtain ⟨entry, hentry⟩ := Option.isSome_iff_exists.mp h.declared
  obtain ⟨file, hfile, hregular, hpath, -, hsize⟩ := h.size _ entry hentry
  have hfileAt : archive.FileAt archive.manifest.entry file :=
    h.fileAt_iff.mpr ⟨hfile, hregular, hpath⟩
  have hunique : ∀ other, archive.FileAt archive.manifest.entry other → other = file := by
    intro other hother
    have hmem := h.fileAt_iff.mp hother
    exact h.unique hmem.1 hfile hmem.2.2 hpath
  have hdeclared : file.size ≤ archive.limits.maxEntryBytes :=
    h.allowed.sizes file hfile hregular
  have hread : archive.read archive.manifest.entry = .ok output ↔
      file.Yields output ∧ output.length ≤ archive.limits.maxEntryBytes ∧
        output.length ≤ Artifacts.isizeMax := by
    rw [Artifacts.RtwArchive.read, h.readWithLimit_eq_ok_iff, Nat.min_self]
    constructor
    · rintro ⟨other, hother, -, -, hyields, hlength, hmemory⟩
      rw [hunique other hother] at hyields
      exact ⟨hyields, hlength, hmemory⟩
    · rintro ⟨hyields, hlength, hmemory⟩
      exact ⟨file, hfileAt, h.declared, hdeclared, hyields, hlength, hmemory⟩
  have hbytes : readManifestBytes archive = .ok output ↔
      IsExtension archive.manifest.content ∧ file.size ≤ maxExtensionManifestBytes ∧
        archive.read archive.manifest.entry = .ok output := by
    rw [readManifestBytes, find?_listed h, hentry]
    dsimp only
    rw [hsize]
    by_cases hextension : IsExtension archive.manifest.content
    · by_cases hsmall : file.size ≤ maxExtensionManifestBytes
      · rw [if_neg (not_not_intro hextension), if_neg (Nat.not_lt.mpr hsmall)]
        cases archive.read archive.manifest.entry with
        | error error => simp
        | ok bytes => simp [hextension, hsmall]
      · rw [if_neg (not_not_intro hextension), if_pos (Nat.not_le.mp hsmall)]
        simp [hsmall]
    · rw [if_pos hextension]
      simp [hextension]
  rw [hbytes, hread]
  constructor
  · rintro ⟨hextension, hsmall, hyields, hlength, hmemory⟩
    exact ⟨hextension, file, hfileAt, hsmall, hyields, hlength, hmemory⟩
  · rintro ⟨hextension, other, hother, hsmall, hyields, hlength, hmemory⟩
    rw [hunique other hother] at hsmall hyields
    exact ⟨hextension, hsmall, hyields, hlength, hmemory⟩

end RtwExtensionLoader

/-! ## The limits of the readers -/

open RtwExtensionLoader

/-- Each reader fails or gets a whole stream that keeps the reader's own limit. -/
structure ReadLimitsHold (toml : Artifacts.TomlCrate) (archive : Artifacts.RtwArchive) :
    Prop where
  withLimit : ∀ path maximum output, archive.readWithLimit path maximum = .ok output →
    ∃ file, archive.FileAt path file ∧ file.Yields output ∧
      output.length ≤ min maximum archive.limits.maxEntryBytes
  read : ∀ path output, archive.read path = .ok output →
    ∃ file, archive.FileAt path file ∧ file.Yields output ∧
      output.length ≤ archive.limits.maxEntryBytes
  rootManifest : ∀ manifest,
    Artifacts.readManifest toml archive.archive archive.entryIndices archive.limits =
        .ok manifest →
      ∃ file output text, archive.FileAt Artifacts.manifestPath file ∧ file.Yields output ∧
        output.length ≤ archive.limits.maxManifestBytes ∧
        Artifacts.fromUtf8 output = some text ∧ toml.fromStr text = .ok manifest
  extensionManifest : ∀ output, readManifestBytes archive = .ok output →
    ∃ file, archive.FileAt archive.manifest.entry file ∧ file.Yields output ∧
      output.length ≤ maxExtensionManifestBytes

/-- The manifest of an extension is no longer than allowed, if it declares to be and can be
read at all. -/
def ManifestStreamBounded (archive : Artifacts.RtwArchive) : Prop :=
  IsExtension archive.manifest.content →
    ∀ file, archive.FileAt archive.manifest.entry file →
      file.size ≤ maxExtensionManifestBytes →
      ∀ output, file.Yields output → output.length ≤ archive.limits.maxEntryBytes →
        output.length ≤ Artifacts.isizeMax → output.length ≤ maxExtensionManifestBytes

/-- The root manifest is read whole, under its own limit. -/
theorem rootManifest_bounded {toml : Artifacts.TomlCrate} {archive : Artifacts.RtwArchive}
    {files : List Artifacts.ZipFile} (h : archive.Opened files)
    {manifest : Artifacts.RtwManifest}
    (hread : Artifacts.readManifest toml archive.archive archive.entryIndices archive.limits =
      .ok manifest) :
    ∃ file output text, archive.FileAt Artifacts.manifestPath file ∧ file.Yields output ∧
      output.length ≤ archive.limits.maxManifestBytes ∧
      Artifacts.fromUtf8 output = some text ∧ toml.fromStr text = .ok manifest := by
  unfold Artifacts.readManifest at hread
  cases hindex : archive.entryIndices.lookup Artifacts.manifestPath with
  | none =>
      rw [hindex] at hread
      cases hread
  | some index =>
      rw [hindex] at hread
      dsimp only at hread
      obtain ⟨declared, hdeclared, hread⟩ := bind_eq_ok_iff.mp hread
      obtain ⟨⟨⟩, -, hread⟩ := bind_eq_ok_iff.mp hread
      obtain ⟨output, houtput, hread⟩ := bind_eq_ok_iff.mp hread
      obtain ⟨-, ⟨file, hfile, hyields⟩, hlength, -⟩ :=
        Artifacts.readZipEntry_eq_ok_iff.mp houtput
      obtain ⟨other, hother, hopen⟩ := h.lookup hindex
      cases hopen.symm.trans hfile
      cases htext : Artifacts.fromUtf8 output with
      | none =>
          rw [htext] at hread
          cases hread
      | some text =>
          rw [htext] at hread
          exact ⟨file, output, text, hother, hyields, hlength, htext,
            Artifacts.orError_eq_ok_iff.mp hread⟩

/-- Of the readers, the one for the manifest of an extension alone depends on the stream. -/
theorem read_limits_hold_iff (zip : Artifacts.ZipCrate) (toml : Artifacts.TomlCrate)
    (bytes : List UInt8) (limits : Artifacts.RtwLimits) (archive : Artifacts.RtwArchive)
    (hopen : Artifacts.validateReader zip toml bytes limits = .ok archive) :
    ReadLimitsHold toml archive ↔ ManifestStreamBounded archive := by
  obtain ⟨-, -, ⟨files, hfiles⟩, -⟩ := Artifacts.RtwArchive.opened_of_validateReader hopen
  constructor
  · intro h hextension file hfile hsmall output hyields hentry hmemory
    have hread : readManifestBytes archive = .ok output :=
      (readManifestBytes_eq_ok_iff hfiles).mpr
        ⟨hextension, file, hfile, hsmall, hyields, hentry, hmemory⟩
    obtain ⟨-, -, -, hlength⟩ := h.extensionManifest output hread
    exact hlength
  · intro h
    have hlimited : ∀ path maximum output, archive.readWithLimit path maximum = .ok output →
        ∃ file, archive.FileAt path file ∧ file.Yields output ∧
          output.length ≤ min maximum archive.limits.maxEntryBytes := by
      intro path maximum output hread
      obtain ⟨file, hfile, -, -, hyields, hlength, -⟩ :=
        hfiles.readWithLimit_eq_ok_iff.mp hread
      exact ⟨file, hfile, hyields, hlength⟩
    constructor
    case withLimit => exact hlimited
    case read =>
      intro path output hread
      have hread' := hlimited path archive.limits.maxEntryBytes output hread
      rwa [Nat.min_self] at hread'
    case rootManifest => exact fun manifest hread => rootManifest_bounded hfiles hread
    case extensionManifest =>
      intro output hread
      obtain ⟨hextension, file, hfile, hsmall, hyields, hentry, hmemory⟩ :=
        (readManifestBytes_eq_ok_iff hfiles).mp hread
      exact ⟨file, hfile, hyields,
        h hextension file hfile hsmall output hyields hentry hmemory⟩

/-! ## A manifest that inflates -/

/-- The manifest of an artifact with an extension. -/
def inflatingManifest : Artifacts.RtwManifest :=
  ⟨1, ⟨extensionContentId, extensionContentMajor, by decide +kernel⟩,
    ⟨"extension.toml", by decide +kernel⟩⟩

/-- The manifest as it is written. -/
def inflatingText : Artifacts.Text :=
  ⟨"format = 1\ncontent = \"rintawa.extension@1\"\nentry = \"extension.toml\"\n",
    by decide +kernel⟩

/-- A library that reads this manifest. -/
def inflatingToml : Artifacts.TomlCrate where
  toString _ := .error ⟨"unsupported value"⟩
  fromStr source :=
    if source = inflatingText.value then .ok inflatingManifest
    else .error ⟨"unexpected content"⟩

/-- What the manifest of the extension decompresses to, one byte too long. -/
def inflatedBytes : List UInt8 :=
  List.replicate (maxExtensionManifestBytes + 1) 32

/-- The spaces, deflated. -/
def deflatedBytes : List UInt8 :=
  [237, 193, 49, 1, 0, 0, 0, 194, 160, 42, 235, 159, 210, 16, 190, 64, 1] ++
    List.replicate 1015 0 ++ [156, 6]

/-- An entry that declares a single byte. -/
def inflatingFile : Artifacts.ZipFile where
  nameRaw := Artifacts.utf8 "extension.toml"
  name := "extension.toml"
  isDir := false
  isSymlink := false
  unixMode := none
  compression := .deflated
  encrypted := false
  compressedSize := deflatedBytes.length
  size := 1
  stream := ⟨inflatedBytes, none⟩

/-- The manifest of the artifact, and that of the extension. -/
def inflatingFiles : List Artifacts.ZipFile :=
  [Artifacts.storedFile
      (Artifacts.zipSource .stored (Artifacts.manifestFile inflatingText.intoBytes)),
    inflatingFile]

/-- The two files, with their directory. -/
def inflatingBytes : List UInt8 :=
  [80, 75, 3, 4, 20, 0, 0, 0, 0, 0, 0, 0, 33, 0, 199, 185, 160, 235, 68, 0, 0, 0, 68, 0, 0, 0, 8,
   0, 0, 0, 114, 116, 119, 46, 116, 111, 109, 108, 102, 111, 114, 109, 97, 116, 32, 61, 32, 49,
   10, 99, 111, 110, 116, 101, 110, 116, 32, 61, 32, 34, 114, 105, 110, 116, 97, 119, 97, 46, 101,
   120, 116, 101, 110, 115, 105, 111, 110, 64, 49, 34, 10, 101, 110, 116, 114, 121, 32, 61, 32,
   34, 101, 120, 116, 101, 110, 115, 105, 111, 110, 46, 116, 111, 109, 108, 34, 10, 80, 75, 3, 4,
   20, 0, 0, 0, 8, 0, 0, 0, 33, 0, 12, 250, 47, 161, 10, 4, 0, 0, 1, 0, 0, 0, 14, 0, 0, 0, 101,
   120, 116, 101, 110, 115, 105, 111, 110, 46, 116, 111, 109, 108] ++
    deflatedBytes ++
    [80, 75, 1, 2, 20, 3, 20, 0, 0, 0, 0, 0, 0, 0, 33, 0, 199, 185, 160, 235, 68, 0, 0, 0, 68, 0,
     0, 0, 8, 0, 0, 0, 0, 0, 0, 0, 0, 0, 0, 0, 164, 129, 0, 0, 0, 0, 114, 116, 119, 46, 116, 111,
     109, 108, 80, 75, 1, 2, 20, 0, 20, 0, 0, 0, 8, 0, 0, 0, 33, 0, 12, 250, 47, 161, 10, 4, 0, 0,
     1, 0, 0, 0, 14, 0, 0, 0, 0, 0, 0, 0, 0, 0, 0, 0, 0, 0, 106, 0, 0, 0, 101, 120, 116, 101, 110,
     115, 105, 111, 110, 46, 116, 111, 109, 108, 80, 75, 5, 6, 0, 0, 0, 0, 2, 0, 2, 0, 114, 0, 0,
     0, 160, 4, 0, 0, 0, 0]

/-- A library that reads this archive. -/
def inflatingZip : Artifacts.ZipCrate where
  encode _ := .error ⟨"unsupported file"⟩
  decode bytes :=
    if bytes = inflatingBytes then .ok (inflatingFiles.map .ok)
    else .error ⟨"invalid Zip archive"⟩

/-- The limits of an archive, if no others are given. -/
def defaultLimits : Artifacts.RtwLimits :=
  ⟨1024 * 1024 * 1024, 100000, 256 * 1024 * 1024, 2 * 1024 * 1024 * 1024, 64 * 1024⟩

/-- The library reads the directory of the archive. -/
theorem decode_inflatingBytes :
    inflatingZip.decode inflatingBytes = .ok (inflatingFiles.map .ok) := by
  simp only [inflatingZip, if_true]

/-- The archive is accepted. -/
theorem inflating_opens :
    ∃ archive, Artifacts.validateReader inflatingZip inflatingToml inflatingBytes defaultLimits =
      .ok archive ∧ archive.manifest = inflatingManifest := by
  have hok : (Artifacts.validateReader inflatingZip inflatingToml inflatingBytes defaultLimits).map
      (fun archive => archive.manifest) = .ok inflatingManifest := by decide +kernel
  cases hopen :
      Artifacts.validateReader inflatingZip inflatingToml inflatingBytes defaultLimits with
  | error error =>
      rw [hopen] at hok
      cases hok
  | ok archive =>
      rw [hopen] at hok
      exact ⟨archive, rfl, Except.ok.inj hok⟩

theorem read_limits_hold_inflating :
    ∃ archive, Artifacts.validateReader inflatingZip inflatingToml inflatingBytes defaultLimits =
        .ok archive ∧
      (ReadLimitsHold inflatingToml archive ↔ ManifestStreamBounded archive) := by
  obtain ⟨archive, hopen, -⟩ := inflating_opens
  exact ⟨archive, hopen, read_limits_hold_iff _ _ _ _ archive hopen⟩

/-- The manifest of the extension is longer than allowed, and is read. -/
theorem accepts_inflating_manifest :
    ∃ archive, Artifacts.validateReader inflatingZip inflatingToml inflatingBytes defaultLimits =
        .ok archive ∧
      readManifestBytes archive = .ok inflatedBytes ∧
      maxExtensionManifestBytes < inflatedBytes.length ∧
      ¬ ReadLimitsHold inflatingToml archive := by
  obtain ⟨archive, hopen, hmanifest⟩ := inflating_opens
  obtain ⟨hlimits, hdecode, ⟨files, hfiles⟩, -⟩ :=
    Artifacts.RtwArchive.opened_of_validateReader hopen
  have hdirectory : inflatingFiles.map .ok = archive.archive :=
    Except.ok.inj (decode_inflatingBytes.symm.trans hdecode)
  have hlength : inflatedBytes.length = maxExtensionManifestBytes + 1 := List.length_replicate
  have hfile : archive.FileAt archive.manifest.entry inflatingFile := by
    rw [hmanifest]
    refine ⟨?_, rfl, by decide +kernel⟩
    rw [← hdirectory]
    exact List.mem_map_of_mem (List.mem_cons_of_mem _ List.mem_cons_self)
  have hread : readManifestBytes archive = .ok inflatedBytes := by
    refine (readManifestBytes_eq_ok_iff hfiles).mpr
      ⟨?_, inflatingFile, hfile, by decide, rfl, ?_, ?_⟩
    · rw [hmanifest]
      exact ⟨rfl, rfl⟩
    · rw [hlimits, hlength]
      decide
    · rw [hlength]
      decide
  have hlong : maxExtensionManifestBytes < inflatedBytes.length := by
    rw [hlength]
    exact Nat.lt_succ_self _
  refine ⟨archive, hopen, hread, hlong, fun h => ?_⟩
  obtain ⟨-, -, -, hshort⟩ := h.extensionManifest inflatedBytes hread
  exact absurd hshort (Nat.not_le.mpr hlong)

end Rintawa.ExtensionEngine
