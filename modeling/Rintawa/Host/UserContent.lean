/-
# The index of user content

A home has one index file. It names, for every item of user content, the type of its
content and the artifact with its present revision. Every operation reads the index, works
on a copy and writes the copy to a new file, which replaces the index at once. A revision
is opened and its type compared before the index refers to it.
-/

import Rintawa.Artifacts.Objects
import Rintawa.Host.DeferredOperations
import Rintawa.Lib.Order
import Rintawa.Lib.Table

namespace Rintawa.Host

open Rintawa.Lib Rintawa.Artifacts

/-! ## The index -/

def userContentLibrarySchema : UInt32 := 1

/-- An imported document in its current revision. -/
structure UserContentEntry where
  id : UserContentId
  content : ContentType
  revision : ArtifactDigest
  deriving DecidableEq

/-- The index of the imported documents. -/
structure UserContentLibrary where
  schema : UInt32
  entries : List UserContentEntry
  deriving DecidableEq

def UserContentLibrary.default : UserContentLibrary :=
  ⟨userContentLibrarySchema, []⟩

/-- The place of an identity in the order of their bytes. -/
def UserContentId.rank (id : UserContentId) : Nat := id.intoBytes.toNat

theorem UserContentId.rank_injective : Function.Injective UserContentId.rank := by
  intro first second h
  cases first
  cases second
  exact congrArg UserContentId.mk (BitVec.eq_of_toNat_eq h)

/-- Entries in the order of their identities. -/
def sortEntries (entries : List UserContentEntry) : List UserContentEntry :=
  entries.insertionSort fun left right => left.id.rank ≤ right.id.rank

/-! ## Errors -/

/-- The errors of the host that concern user content. -/
inductive HostError
  | io (error : IoError)
  | artifact (error : RtwError)
  | invalidUserContentLibraryFile
  | userContentLibraryDecode (error : TomlError)
  | userContentLibraryEncode (error : TomlError)
  | unsupportedUserContentLibrarySchema (schema : UInt32)
  | duplicateUserContentId (id : UserContentId)
  | userContentNotFound (id : UserContentId)
  | userContentTypeMismatch (id : UserContentId) (expected actual : String)
  deriving DecidableEq

abbrev HostResult (α : Type) := Except HostError α

/-! ## The file -/

/-- The library that writes an index as a document and reads it back. -/
structure LibraryToml where
  toStringPretty : UserContentLibrary → Except TomlError Text
  fromStr : String → Except TomlError UserContentLibrary

/-- An index is read back from the document that was written for it. -/
def LibraryToml.RoundTrips (toml : LibraryToml) : Prop :=
  ∀ library text, toml.toStringPretty library = .ok text →
    toml.fromStr text.value = .ok library

/-- What is at the path of the index. -/
inductive IndexFile
  | regular (bytes : List UInt8)
  | other
  deriving DecidableEq

/-- What the file system does to one operation, and the identity that is generated in it. The
metadata of a file that is there is never reported as not found. -/
structure Attempt where
  metadataFault : Option IoError
  metadataFault_ne : metadataFault ≠ some .notFound
  readFault : Option IoError
  openFault : ArtifactDigest → Option IoError
  directoryFault : Option IoError
  writeFault : Option IoError
  newId : UserContentId

def fault (error : Option IoError) : HostResult Unit :=
  match error with
  | some error => .error (.io error)
  | none => .ok ()

section Operations

variable (toml : LibraryToml) (store : ArtifactStore) (attempt : Attempt)

/-- Read the source of a document as an index. -/
def UserContentLibrary.parse (source : String) : HostResult UserContentLibrary :=
  match toml.fromStr source with
  | .error error => .error (.userContentLibraryDecode error)
  | .ok library =>
      if library.schema ≠ userContentLibrarySchema then
        .error (.unsupportedUserContentLibrarySchema library.schema)
      else
        let entries := sortEntries library.entries
        match firstRepeated [] (entries.map UserContentEntry.id) with
        | some id => .error (.duplicateUserContentId id)
        | none => .ok { library with entries := entries }

def UserContentLibrary.load (file : Option IndexFile) : HostResult UserContentLibrary :=
  match attempt.metadataFault, file with
  | some error, _ => .error (.io error)
  | none, none => .ok .default
  | none, some .other => .error .invalidUserContentLibraryFile
  | none, some (.regular bytes) => do
      fault attempt.readFault
      match fromUtf8 bytes with
      | none => .error (.io .invalidData)
      | some source => UserContentLibrary.parse toml source

/-- Write an index to a temporary file and move it into place. The file that is there
afterwards is part of the result. -/
def UserContentLibrary.save (library : UserContentLibrary) (file : Option IndexFile) :
    HostResult Unit × Option IndexFile :=
  match attempt.directoryFault with
  | some error => (.error (.io error), file)
  | none =>
      match toml.toStringPretty library with
      | .error error => (.error (.userContentLibraryEncode error), file)
      | .ok source =>
          match attempt.writeFault with
          | some error => (.error (.io error), file)
          | none => (.ok (), some (.regular source.intoBytes.bytes))

/-! ## Operations -/

/-- A home, as far as user content is concerned. -/
structure HostHome where
  userContentFile : Option IndexFile
  objects : StoredObjects

def contentText (content : ContentType) : String :=
  content.id ++ "@" ++ toString content.major.toNat

namespace HostHome

variable (home : HostHome)

def verifyUserContentRevision (id : UserContentId) (content : ContentType)
    (revision : ArtifactDigest) : HostResult Unit :=
  match store.openArtifact home.objects (attempt.openFault revision) revision with
  | .error error => .error (.artifact error)
  | .ok archive =>
      if archive.manifest.content ≠ content then
        .error (.userContentTypeMismatch id (contentText content)
          (contentText archive.manifest.content))
      else .ok ()

/-- Read the index, change it and write it back. -/
def rewriteUserContent
    (change : UserContentLibrary → HostResult (UserContentEntry × UserContentLibrary)) :
    HostResult UserContentEntry × HostHome :=
  match UserContentLibrary.load toml attempt home.userContentFile with
  | .error error => (.error error, home)
  | .ok library =>
      match change library with
      | .error error => (.error error, home)
      | .ok (entry, changed) =>
          let saved := changed.save toml attempt home.userContentFile
          (saved.1.map fun _ => entry, { home with userContentFile := saved.2 })

/-- The position of the entry with an identity. -/
def position (library : UserContentLibrary) (id : UserContentId) :
    HostResult (Fin library.entries.length) :=
  match library.entries.findFinIdx? fun entry => entry.id == id with
  | none => .error (.userContentNotFound id)
  | some index => .ok index

def removeUserContent (id : UserContentId) : HostResult UserContentEntry × HostHome :=
  home.rewriteUserContent toml attempt fun library => do
    let index ← position library id
    .ok (library.entries.get index,
      { library with entries := library.entries.eraseIdx index })

def insertUserContentRevision (content : ContentType) (revision : ArtifactDigest) :
    HostResult UserContentEntry × HostHome :=
  home.rewriteUserContent toml attempt fun library => do
    home.verifyUserContentRevision store attempt attempt.newId content revision
    let entry := ⟨attempt.newId, content, revision⟩
    .ok (entry, { library with entries := sortEntries (library.entries ++ [entry]) })

def replaceUserContentRevision (id : UserContentId) (content : ContentType)
    (revision : ArtifactDigest) : HostResult UserContentEntry × HostHome :=
  home.rewriteUserContent toml attempt fun library => do
    let index ← position library id
    let entry := library.entries.get index
    if entry.content ≠ content then
      .error (.userContentTypeMismatch id (contentText entry.content) (contentText content))
    else
      home.verifyUserContentRevision store attempt id content revision
      let updated := { entry with revision := revision }
      .ok (updated, { library with entries := library.entries.set index updated })

/-- The index, with every revision checked. -/
def loadUserContentLibrary : HostResult UserContentLibrary := do
  let library ← UserContentLibrary.load toml attempt home.userContentFile
  library.entries.forM fun entry =>
    home.verifyUserContentRevision store attempt entry.id entry.content entry.revision
  .ok library

def listUserContent : HostResult (List UserContentEntry) := do
  let library ← home.loadUserContentLibrary toml store attempt
  .ok library.entries

end HostHome

end Operations

end Rintawa.Host
