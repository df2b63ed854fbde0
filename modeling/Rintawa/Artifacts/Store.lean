/-
# Content-addressed stores

A store keeps files under the digests of their contents. An import copies its source to a
temporary file while it hashes it, checks the copy, and publishes it with a hard link, which
is created only where there is none. Where the link would cross devices, a second copy is
made next to the destination. An object that is there already is hashed and checked before
the import relies on it, as it is when it is opened.

The stores of artifacts and of assets share this course. Any number of tasks may work on one
root. A task stops between two of its steps when it crashes, and where a step fails.
-/

import Mathlib.Logic.Function.Basic
import Rintawa.Artifacts.Archive
import Rintawa.Lib.Transition

namespace Rintawa.Artifacts

open Rintawa.Lib

/-! ## Stores -/

/-- The errors of both stores. A validator has errors of its own. -/
inductive StoreError
  | io (error : IoError)
  | tooLarge (actual maximum : Nat)
  | unsupportedSource
  | notFound
  | corruption
  | sizeMismatch (expected actual : Nat)
  | invalidStoreEntry
  | invalid (error : RtwError)
  deriving DecidableEq

/-- What sets the two stores apart. A handle is an open store with the limits of its
owner. -/
structure StoreKind (Handle Opened : Type) where
  maximumBytes : Handle → Nat
  validate : Handle → List UInt8 → Except StoreError Opened
  crossDevice : Bool
  checksSize : Bool

/-- Artifacts are validated when they are imported and when they are opened. -/
def artifactStore (zip : ZipCrate) (toml : TomlCrate) : StoreKind RtwLimits RtwArchive where
  maximumBytes limits := limits.maxArchiveBytes
  validate limits bytes :=
    match RtwArchive.fromFile zip toml bytes limits with
    | .ok archive => .ok archive
    | .error error => .error (.invalid error)
  crossDevice := true
  checksSize := false

/-- Assets are bytes of any form, with a size that their reference tells. -/
def assetStore : StoreKind Nat Unit where
  maximumBytes maximum := maximum
  validate _ _ := .ok ()
  crossDevice := false
  checksSize := true

/-! ## Files -/

/-- Whether an import has added its object. -/
inductive ImportDisposition
  | imported
  | alreadyPresent
  deriving DecidableEq

/-- A directory entry under a digest, with the task that made it. An entry from before may
be anything. -/
structure StoreEntry where
  file : Nat
  regular : Bool
  publisher : Option Nat
  deriving DecidableEq

/-- Files with their contents, and the entries under digests. -/
structure StoreFiles (Digest : Type) where
  contents : Nat → List UInt8
  next : Nat
  published : Digest → Option StoreEntry

namespace StoreFiles

variable {Digest : Type} [DecidableEq Digest]

/-- A new file is empty. -/
def create (files : StoreFiles Digest) : StoreFiles Digest :=
  { files with
    contents := Function.update files.contents files.next []
    next := files.next + 1 }

/-- Append to a file. -/
def append (files : StoreFiles Digest) (file : Nat) (bytes : List UInt8) :
    StoreFiles Digest :=
  { files with
    contents := Function.update files.contents file (files.contents file ++ bytes) }

/-- Publish a file under a digest. -/
def publish (files : StoreFiles Digest) (digest : Digest) (file id : Nat) :
    StoreFiles Digest :=
  { files with
    published := Function.update files.published digest (some ⟨file, true, some id⟩) }

@[simp]
theorem published_publish_self (files : StoreFiles Digest) (digest : Digest) (file id : Nat) :
    (files.publish digest file id).published digest = some ⟨file, true, some id⟩ :=
  Function.update_self _ _ _

@[simp]
theorem published_publish_of_ne (files : StoreFiles Digest) {digest other : Digest}
    (h : other ≠ digest) (file id : Nat) :
    (files.publish digest file id).published other = files.published other :=
  Function.update_of_ne h _ _

end StoreFiles

/-! ## Tasks -/

/-- Why a stored object is opened. -/
inductive Purpose
  | verify
  | open
  deriving DecidableEq

/-- How a task of the store has ended. -/
inductive StoreOutcome (Digest Opened : Type)
  | imported (digest : Digest) (size : Nat) (disposition : ImportDisposition)
  | opened (digest : Digest) (expected : Option Nat) (file : Nat) (value : Opened)
  | failed (error : StoreError)
  | crashed

/-- What a task does next. -/
inductive StorePhase (Digest Opened : Type)
  | creating
  | copying (file total : Nat) (hashed : List UInt8)
  | syncing (file : Nat) (digest : Digest) (size : Nat)
  | validating (file : Nat) (digest : Digest) (size : Nat)
  | linking (file : Nat) (digest : Digest) (size : Nat)
  | recreating (file : Nat) (digest : Digest) (size : Nat)
  | recopying (file : Nat) (digest : Digest) (size publication total : Nat)
      (hashed : List UInt8)
  | resyncing (publication : Nat) (digest : Digest) (size : Nat)
  | relinking (publication : Nat) (digest : Digest) (size : Nat)
  | finding (purpose : Purpose) (digest : Digest) (expected : Option Nat)
  | hashing (purpose : Purpose) (digest : Digest) (expected : Option Nat) (file total : Nat)
      (hashed : List UInt8)
  | checking (purpose : Purpose) (digest : Digest) (expected : Option Nat) (file total : Nat)
  | publishing (digest : Digest) (size : Nat) (disposition : ImportDisposition)
  | listing (digest : Digest) (size : Nat) (disposition : ImportDisposition)
  | finished (outcome : StoreOutcome Digest Opened)

/-- A task that has not finished. -/
def StorePhase.running {Digest Opened : Type} : StorePhase Digest Opened → Prop
  | .finished _ => False
  | _ => True

/-- What the system answers to the next request of a task. -/
inductive StoreEvent
  | created
  | refused
  | read (bytes : List UInt8)
  | reread (count : Nat)
  | synced
  | validated
  | linked
  | crossed
  | found
  | fail (error : IoError)
  | crash
  deriving DecidableEq

def copyBufferBytes : Nat := 64 * 1024

section Steps

variable {Handle Opened Digest : Type} [DecidableEq Digest]
variable (kind : StoreKind Handle Opened) (sha256 : List UInt8 → Digest)
variable (files : StoreFiles Digest) (id : Nat) (handle : Handle)

/-- The size that an import checks of an object that is already there. -/
def expectedSize (size : Nat) : Option Nat :=
  if kind.checksSize then some size else none

/-- A hard link to a file, which fails where there is an entry. -/
def hardLink (file : Nat) (digest : Digest) (size : Nat) :
    StoreFiles Digest × StorePhase Digest Opened :=
  match files.published digest with
  | none => (files.publish digest file id, .publishing digest size .imported)
  | some _ => (files, .finding .verify digest (expectedSize kind size))

/-- A chunk was read from the source. The end of the source is an empty chunk. -/
def copyChunk (file total : Nat) (hashed bytes : List UInt8) :
    StoreFiles Digest × StorePhase Digest Opened :=
  if bytes = [] then (files, .syncing file (sha256 hashed) total)
  else if kind.maximumBytes handle < saturatingAdd total bytes.length then
    (files, .finished (.failed (.tooLarge (saturatingAdd total bytes.length)
      (kind.maximumBytes handle))))
  else (files.append file bytes,
    .copying file (saturatingAdd total bytes.length) (hashed ++ bytes))

/-- The copy is validated before anything is published. -/
def validateCopy (file : Nat) (digest : Digest) (size : Nat) : StorePhase Digest Opened :=
  match kind.validate handle (files.contents file) with
  | .error error => .finished (.failed error)
  | .ok _ => .linking file digest size

/-- The link would cross devices, which only one of the stores can do without. -/
def crossDevices (file : Nat) (digest : Digest) (size : Nat) : StorePhase Digest Opened :=
  if kind.crossDevice then .recreating file digest size
  else .finished (.failed (.io .crossesDevices))

/-- The bytes of a file that a read of some length returns behind those already read. At the
end of the file, and only there, it returns none. -/
def readAt (file : Nat) (done count : Nat) : Option (List UInt8) :=
  if count ≤ copyBufferBytes ∧ done + count ≤ (files.contents file).length ∧
      (count = 0 → done = (files.contents file).length) then
    some (((files.contents file).drop done).take count)
  else none

/-- A chunk was read from a copy that is copied once more. -/
def recopyChunk (file : Nat) (digest : Digest) (size publication total : Nat)
    (hashed bytes : List UInt8) : StoreFiles Digest × StorePhase Digest Opened :=
  if bytes = [] then
    if sha256 hashed = digest then (files, .resyncing publication digest size)
    else (files, .finished (.failed .corruption))
  else if kind.maximumBytes handle < saturatingAdd total bytes.length then
    (files, .finished (.failed (.tooLarge (saturatingAdd total bytes.length)
      (kind.maximumBytes handle))))
  else (files.append publication bytes,
    .recopying file digest size publication (saturatingAdd total bytes.length)
      (hashed ++ bytes))

/-- The entry under a digest is opened, when it is a regular file within the limit. -/
def openEntry (purpose : Purpose) (digest : Digest) (expected : Option Nat) :
    StorePhase Digest Opened :=
  match files.published digest with
  | none => .finished (.failed .notFound)
  | some entry =>
      if !entry.regular then .finished (.failed .invalidStoreEntry)
      else if kind.maximumBytes handle < sizeOfBytes (files.contents entry.file) then
        .finished (.failed (.tooLarge (sizeOfBytes (files.contents entry.file))
          (kind.maximumBytes handle)))
      else .hashing purpose digest expected entry.file 0 []

/-- A chunk was read from a stored object. -/
def hashChunk (purpose : Purpose) (digest : Digest) (expected : Option Nat) (file total : Nat)
    (hashed bytes : List UInt8) : StorePhase Digest Opened :=
  if bytes = [] then
    if sha256 hashed ≠ digest then .finished (.failed .corruption)
    else
      match expected with
      | none => .checking purpose digest none file total
      | some size =>
          if total ≠ size then .finished (.failed (.sizeMismatch size total))
          else .checking purpose digest (some size) file total
  else if kind.maximumBytes handle < saturatingAdd total bytes.length then
    .finished (.failed (.tooLarge (saturatingAdd total bytes.length)
      (kind.maximumBytes handle)))
  else .hashing purpose digest expected file (saturatingAdd total bytes.length)
    (hashed ++ bytes)

/-- The object has its digest and is validated from the same open file. -/
def checkObject (purpose : Purpose) (digest : Digest) (expected : Option Nat)
    (file total : Nat) : StorePhase Digest Opened :=
  match kind.validate handle (files.contents file) with
  | .error error => .finished (.failed error)
  | .ok value =>
      match purpose with
      | .verify => .publishing digest total .alreadyPresent
      | .open => .finished (.opened digest expected file value)

end Steps

/-- One step of a task, with what the system answered to it. Every step of a task that has
not finished can fail, and a crash stops the task where it is. -/
inductive Advance {Handle Opened Digest : Type} [DecidableEq Digest]
    (kind : StoreKind Handle Opened) (sha256 : List UInt8 → Digest) (id : Nat)
    (handle : Handle) (files : StoreFiles Digest) :
    StorePhase Digest Opened → StoreEvent →
      StoreFiles Digest × StorePhase Digest Opened → Prop
  | fail {phase : StorePhase Digest Opened} (error : IoError) :
      phase.running → Advance kind sha256 id handle files phase (.fail error)
        (files, .finished (.failed (.io error)))
  | crash {phase : StorePhase Digest Opened} :
      phase.running → Advance kind sha256 id handle files phase .crash
        (files, .finished .crashed)
  | refused : Advance kind sha256 id handle files .creating .refused
      (files, .finished (.failed .unsupportedSource))
  | created : Advance kind sha256 id handle files .creating .created
      (files.create, .copying files.next 0 [])
  | read {file total : Nat} {hashed bytes : List UInt8} :
      bytes.length ≤ copyBufferBytes →
      Advance kind sha256 id handle files (.copying file total hashed) (.read bytes)
        (copyChunk kind sha256 files handle file total hashed bytes)
  | synced {file size : Nat} {digest : Digest} :
      Advance kind sha256 id handle files (.syncing file digest size) .synced
        (files, .validating file digest size)
  | validated {file size : Nat} {digest : Digest} :
      Advance kind sha256 id handle files (.validating file digest size) .validated
        (files, validateCopy kind files handle file digest size)
  | linked {file size : Nat} {digest : Digest} :
      Advance kind sha256 id handle files (.linking file digest size) .linked
        (hardLink kind files id file digest size)
  | crossed {file size : Nat} {digest : Digest} :
      Advance kind sha256 id handle files (.linking file digest size) .crossed
        (files, crossDevices kind file digest size)
  | recreated {file size : Nat} {digest : Digest} :
      Advance kind sha256 id handle files (.recreating file digest size) .created
        (files.create, .recopying file digest size files.next 0 [])
  | reread {file size publication total count : Nat} {digest : Digest}
      {hashed bytes : List UInt8} :
      readAt files file hashed.length count = some bytes →
      Advance kind sha256 id handle files
        (.recopying file digest size publication total hashed) (.reread count)
        (recopyChunk kind sha256 files handle file digest size publication total hashed bytes)
  | resynced {publication size : Nat} {digest : Digest} :
      Advance kind sha256 id handle files (.resyncing publication digest size) .synced
        (files, .relinking publication digest size)
  | relinked {publication size : Nat} {digest : Digest} :
      Advance kind sha256 id handle files (.relinking publication digest size) .linked
        (hardLink kind files id publication digest size)
  | found {purpose : Purpose} {digest : Digest} {expected : Option Nat} :
      Advance kind sha256 id handle files (.finding purpose digest expected) .found
        (files, openEntry kind files handle purpose digest expected)
  | rehashed {purpose : Purpose} {digest : Digest} {expected : Option Nat}
      {file total count : Nat} {hashed bytes : List UInt8} :
      readAt files file hashed.length count = some bytes →
      Advance kind sha256 id handle files
        (.hashing purpose digest expected file total hashed) (.reread count)
        (files, hashChunk kind sha256 handle purpose digest expected file total hashed bytes)
  | checked {purpose : Purpose} {digest : Digest} {expected : Option Nat} {file total : Nat} :
      Advance kind sha256 id handle files (.checking purpose digest expected file total)
        .validated (files, checkObject kind files handle purpose digest expected file total)
  | published {digest : Digest} {size : Nat} {disposition : ImportDisposition} :
      Advance kind sha256 id handle files (.publishing digest size disposition) .synced
        (files, .listing digest size disposition)
  | listed {digest : Digest} {size : Nat} {disposition : ImportDisposition} :
      Advance kind sha256 id handle files (.listing digest size disposition) .synced
        (files, .finished (.imported digest size disposition))

/-! ## Many tasks on one root -/

/-- A task with its handle. -/
structure StoreTask (Handle Digest Opened : Type) where
  handle : Handle
  phase : StorePhase Digest Opened

/-- The files of a store and the tasks on it. -/
structure StoreState (Handle Digest Opened : Type) where
  files : StoreFiles Digest
  tasks : Nat → Option (StoreTask Handle Digest Opened)

/-- The state with a task in a phase. -/
def StoreState.put {Handle Digest Opened : Type} (state : StoreState Handle Digest Opened)
    (id : Nat) (handle : Handle) (phase : StorePhase Digest Opened) :
    StoreState Handle Digest Opened :=
  { state with tasks := Function.update state.tasks id (some ⟨handle, phase⟩) }

@[simp]
theorem StoreState.tasks_put_self {Handle Digest Opened : Type}
    (state : StoreState Handle Digest Opened) (id : Nat) (handle : Handle)
    (phase : StorePhase Digest Opened) :
    (state.put id handle phase).tasks id = some ⟨handle, phase⟩ :=
  Function.update_self _ _ _

@[simp]
theorem StoreState.tasks_put_of_ne {Handle Digest Opened : Type}
    (state : StoreState Handle Digest Opened) {id other : Nat} (h : other ≠ id)
    (handle : Handle) (phase : StorePhase Digest Opened) :
    (state.put id handle phase).tasks other = state.tasks other :=
  Function.update_of_ne h _ _

/-- A task is started, or takes its next step. -/
inductive StoreLabel (Handle Digest : Type)
  | import (id : Nat) (handle : Handle)
  | open (id : Nat) (handle : Handle) (digest : Digest) (expected : Option Nat)
  | run (id : Nat) (event : StoreEvent)

section System

variable {Handle Opened Digest : Type} [DecidableEq Digest]
variable (kind : StoreKind Handle Opened) (sha256 : List UInt8 → Digest)

/-- One task goes on, or a new one begins. -/
inductive StoreStep : StoreState Handle Digest Opened → StoreLabel Handle Digest →
    StoreState Handle Digest Opened → Prop
  | import {state : StoreState Handle Digest Opened} {id : Nat} {handle : Handle} :
      state.tasks id = none →
      StoreStep state (.import id handle) (state.put id handle .creating)
  | open {state : StoreState Handle Digest Opened} {id : Nat} {handle : Handle}
      {digest : Digest} {expected : Option Nat} :
      state.tasks id = none → expected.isSome = kind.checksSize →
      StoreStep state (.open id handle digest expected)
        (state.put id handle (.finding .open digest expected))
  | run {state : StoreState Handle Digest Opened} {id : Nat} {handle : Handle}
      {phase phase' : StorePhase Digest Opened} {event : StoreEvent}
      {files' : StoreFiles Digest} :
      state.tasks id = some ⟨handle, phase⟩ →
      Advance kind sha256 id handle state.files phase event (files', phase') →
      StoreStep state (.run id event) (StoreState.put ⟨files', state.tasks⟩ id handle phase')

/-- A root without tasks, where entries may be left from before. -/
def StoreState.Fresh (state : StoreState Handle Digest Opened) : Prop :=
  (∀ id, state.tasks id = none) ∧ ∀ digest entry, state.files.published digest = some entry →
    entry.file < state.files.next ∧ entry.publisher = none

/-- All tasks of a store, in any order. -/
def storeSystem : Lts (StoreState Handle Digest Opened) (StoreLabel Handle Digest) where
  init := StoreState.Fresh
  step := StoreStep kind sha256

end System

end Rintawa.Artifacts
