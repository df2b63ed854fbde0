/-
# Stored artifacts

The digest of an artifact names the object of a store. An object is opened only after its
bytes were hashed again, and is validated from the same bytes. Objects that were published
stay as they are while others are added.
-/

import Rintawa.Artifacts.ContentAddresses
import Rintawa.Lib.Uuid

namespace Rintawa.Artifacts

open Rintawa.Lib

/-! ## Digests -/

/-- A digest of 256 bits. -/
structure ArtifactDigest where
  bytes : BitVec 256
  deriving DecidableEq

namespace ArtifactDigest

/-- The digits of a digest. -/
def hex (digest : ArtifactDigest) : String := String.ofList (fixedHex 64 digest.bytes.toNat)

/-- The text of a digest. -/
def toString (digest : ArtifactDigest) : String := "sha256:" ++ digest.hex

end ArtifactDigest

/-! ## Objects -/

/-- What is found under a digest: a file with its bytes, or something that is no file. -/
inductive StoredObject
  | regular (bytes : List UInt8)
  | other
  deriving DecidableEq

/-- What is stored under each digest. -/
abbrev StoredObjects := ArtifactDigest → Option StoredObject

/-- More objects are stored, and those that were there are the same. -/
def StoredObjects.Extends (before after : StoredObjects) : Prop :=
  ∀ digest object, before digest = some object → after digest = some object

/-- The objects in the files of a store. -/
def StoreFiles.objects (files : StoreFiles ArtifactDigest) : StoredObjects := fun digest =>
  (files.published digest).map fun entry =>
    if entry.regular then .regular (files.contents entry.file) else .other

/-- Any course of imports and openings on a root only adds objects. -/
theorem KeepsObjects.extends {before after : StoreFiles ArtifactDigest}
    (h : KeepsObjects before after) : before.objects.Extends after.objects := by
  intro digest object hobject
  simp only [StoreFiles.objects, Option.map_eq_some_iff] at hobject ⊢
  obtain ⟨entry, hentry, hobject⟩ := hobject
  refine ⟨entry, h.entries _ _ hentry, ?_⟩
  rw [h.contents _ _ hentry]
  exact hobject

/-! ## Opening an object -/

/-- What opening an artifact depends on beside the objects of the store. -/
structure ArtifactStore where
  zip : ZipCrate
  toml : TomlCrate
  sha256 : List UInt8 → ArtifactDigest
  limits : RtwLimits

/-- The place of an object below the root of its store. -/
def storePath (digest : ArtifactDigest) : String := "sha256/" ++ digest.hex ++ ".rtw"

/-- Open the object under a digest. The file system may fail meanwhile. -/
def ArtifactStore.openArtifact (store : ArtifactStore) (objects : StoredObjects)
    (fault : Option IoError) (digest : ArtifactDigest) : RtwResult RtwArchive :=
  match fault, objects digest with
  | some error, _ => .error (.io error)
  | none, none => .error (.storedArtifactNotFound digest.toString)
  | none, some .other =>
      .error (.invalidStoreEntry (storePath digest) "digest path must be a regular file")
  | none, some (.regular bytes) => do
      require (decide (sizeOfBytes bytes ≤ store.limits.maxArchiveBytes))
        (.archiveTooLarge (sizeOfBytes bytes) store.limits.maxArchiveBytes)
      require (store.sha256 bytes == digest) (.storeCorruption digest.toString)
      RtwArchive.fromFile store.zip store.toml bytes store.limits

/-- The artifact that a store has under a digest. -/
def ArtifactStore.Has (store : ArtifactStore) (objects : StoredObjects)
    (digest : ArtifactDigest) (archive : RtwArchive) : Prop :=
  ∃ bytes, objects digest = some (.regular bytes) ∧ store.sha256 bytes = digest ∧
    RtwArchive.fromFile store.zip store.toml bytes store.limits = .ok archive

variable {store : ArtifactStore} {objects : StoredObjects}

variable {archive : RtwArchive}

/-- An archive that is valid is no larger than its limit. -/
theorem size_of_fromFile {zip : ZipCrate} {toml : TomlCrate} {bytes : List UInt8}
    {limits : RtwLimits} (h : RtwArchive.fromFile zip toml bytes limits = .ok archive) :
    sizeOfBytes bytes ≤ limits.maxArchiveBytes := by
  simp only [RtwArchive.fromFile, validateReader, bind_eq_ok_iff, require_eq_ok_iff,
    decide_eq_true_eq] at h
  obtain ⟨-, hsize, -⟩ := h
  exact hsize

/-- What opens without a failure is what the store has. -/
theorem ArtifactStore.openArtifact_eq_ok_iff {fault : Option IoError} {digest : ArtifactDigest} :
    store.openArtifact objects fault digest = .ok archive ↔
      fault = none ∧ store.Has objects digest archive := by
  unfold openArtifact Has
  split
  · next hobject => simp
  · next hobject => simp [hobject]
  · next hobject => simp [hobject]
  · next bytes hobject =>
      simp only [bind_eq_ok_iff, require_eq_ok_iff, decide_eq_true_eq, beq_iff_eq, hobject,
        Option.some.injEq, StoredObject.regular.injEq, true_and, exists_eq_left', exists_const]
      constructor
      · rintro ⟨-, hdigest, harchive⟩
        exact ⟨hdigest, harchive⟩
      · rintro ⟨hdigest, harchive⟩
        exact ⟨size_of_fromFile harchive, hdigest, harchive⟩

/-- What a store has stays when objects are added. -/
theorem ArtifactStore.Has.extends {after : StoredObjects} {digest : ArtifactDigest}
    (h : store.Has objects digest archive) (hextends : objects.Extends after) :
    store.Has after digest archive := by
  obtain ⟨bytes, hobject, hvalid⟩ := h
  exact ⟨bytes, hextends _ _ hobject, hvalid⟩

end Rintawa.Artifacts
