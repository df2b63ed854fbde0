/-
# Content addresses

Whatever tasks work on a root, and wherever they stop: what is published under a digest has
that digest and was accepted by the task that published it, and stays as it is. A file is
written by one task only, and only before it is published.
-/

import Rintawa.Artifacts.PackAgreement
import Rintawa.Artifacts.Store

namespace Rintawa.Artifacts

open Rintawa.Lib

section Contents

variable {Handle Opened Digest : Type} [DecidableEq Digest]
variable (kind : StoreKind Handle Opened) (sha256 : List UInt8 → Digest)

/-! ## What a task knows -/

/-- Contents with a digest and a size, within the limit of a handle. -/
structure Hashed (handle : Handle) (digest : Digest) (size : Nat) (bytes : List UInt8) :
    Prop where
  digest : sha256 bytes = digest
  sized : sizeOfBytes bytes = size
  bounded : size ≤ kind.maximumBytes handle

/-- Contents that a handle has validated as well. -/
structure Accepted (handle : Handle) (digest : Digest) (size : Nat) (bytes : List UInt8) : Prop
    extends Hashed kind sha256 handle digest size bytes where
  valid : ∃ value, kind.validate handle bytes = .ok value

/-- The bytes that were read so far, counted. -/
structure ReadSoFar (handle : Handle) (total : Nat) (hashed : List UInt8) : Prop where
  counted : total = sizeOfBytes hashed
  bounded : total ≤ kind.maximumBytes handle

/-- An import that has published or verified an object. -/
def HoldsObject (files : StoreFiles Digest) (id : Nat) (handle : Handle) (digest : Digest)
    (size : Nat) (disposition : ImportDisposition) : Prop :=
  ∃ entry, files.published digest = some entry ∧
    Accepted kind sha256 handle digest size (files.contents entry.file) ∧
    (disposition = .imported → entry.publisher = some id)

/-- A file that is the object under a digest. -/
def IsObject (files : StoreFiles Digest) (digest : Digest) (file : Nat) : Prop :=
  ∃ entry, files.published digest = some entry ∧ entry.file = file

/-- What a task knows in a phase. -/
def Knows (files : StoreFiles Digest) (id : Nat) (handle : Handle) :
    StorePhase Digest Opened → Prop
  | .copying file total hashed =>
      files.contents file = hashed ∧ ReadSoFar kind handle total hashed
  | .syncing file digest size | .validating file digest size =>
      Hashed kind sha256 handle digest size (files.contents file)
  | .linking file digest size | .recreating file digest size =>
      Accepted kind sha256 handle digest size (files.contents file)
  | .recopying file digest size publication total hashed =>
      file ≠ publication ∧ Accepted kind sha256 handle digest size (files.contents file) ∧
        files.contents publication = hashed ∧ hashed <+: files.contents file ∧
        ReadSoFar kind handle total hashed
  | .resyncing publication digest size | .relinking publication digest size =>
      Accepted kind sha256 handle digest size (files.contents publication)
  | .hashing _ digest _ file total hashed =>
      IsObject files digest file ∧ hashed <+: files.contents file ∧
        ReadSoFar kind handle total hashed
  | .checking _ digest expected file total =>
      IsObject files digest file ∧
        Hashed kind sha256 handle digest total (files.contents file) ∧
        ∀ size ∈ expected, total = size
  | .publishing digest size disposition | .listing digest size disposition
  | .finished (.imported digest size disposition) =>
      HoldsObject kind sha256 files id handle digest size disposition
  | .finished (.opened digest expected file value) =>
      IsObject files digest file ∧
        (∃ size, Hashed kind sha256 handle digest size (files.contents file)) ∧
        kind.validate handle (files.contents file) = .ok value ∧
        ∀ size ∈ expected, sizeOfBytes (files.contents file) = size
  | .creating | .finding _ _ _ | .finished (.failed _) | .finished .crashed => True

end Contents

section Owners

variable {Digest Opened : Type}

/-- The temporary files that a task still needs. -/
def StorePhase.owned : StorePhase Digest Opened → List Nat
  | .copying file _ _ | .syncing file _ _ | .validating file _ _ | .linking file _ _
  | .recreating file _ _ | .resyncing file _ _ | .relinking file _ _ => [file]
  | .recopying file _ _ publication _ _ => [file, publication]
  | .creating | .finding _ _ _ | .hashing _ _ _ _ _ _ | .checking _ _ _ _ _
  | .publishing _ _ _ | .listing _ _ _ | .finished _ => []

/-- The phases of a task that has published an object itself. It can still fail, but only
with an error of the file system. -/
inductive StorePhase.PublishedAs (digest : Digest) : StorePhase Digest Opened → Prop
  | publishing (size : Nat) : PublishedAs digest (.publishing digest size .imported)
  | listing (size : Nat) : PublishedAs digest (.listing digest size .imported)
  | imported (size : Nat) : PublishedAs digest (.finished (.imported digest size .imported))
  | failed (error : IoError) : PublishedAs digest (.finished (.failed (.io error)))
  | crashed : PublishedAs digest (.finished .crashed)

end Owners

section Steps

variable {Handle Opened Digest : Type} [DecidableEq Digest]
variable {kind : StoreKind Handle Opened} {sha256 : List UInt8 → Digest}
variable {files files' : StoreFiles Digest} {id : Nat} {handle : Handle}
variable {phase phase' : StorePhase Digest Opened} {event : StoreEvent}

/-! ## What one step changes -/

/-- A step writes only files of its task, and publishes at most one of them, where nothing
was published. -/
structure Confined (files files' : StoreFiles Digest) (id : Nat)
    (phase phase' : StorePhase Digest Opened) : Prop where
  next : files.next ≤ files'.next
  contents : ∀ file < files.next, file ∉ phase.owned → files'.contents file = files.contents file
  owned : ∀ file ∈ phase'.owned, file ∈ phase.owned ∨ files.next ≤ file ∧ file < files'.next
  published : files'.published = files.published ∨ ∃ digest size, ∃ file ∈ phase.owned,
    files.published digest = none ∧ files' = files.publish digest file id ∧
      phase' = .publishing digest size .imported

/-- A step that leaves the files keeps to its own. -/
theorem Confined.of_same_files (howned : ∀ file ∈ phase'.owned, file ∈ phase.owned) :
    Confined files files id phase phase' where
  next := le_refl _
  contents _ _ _ := rfl
  owned file hfile := .inl (howned file hfile)
  published := .inl rfl

variable {bytes : List UInt8} {file size total count : Nat}

/-- A task appends to its own file only. -/
theorem confined_append (hfile : file ∈ phase.owned)
    (howned : ∀ other ∈ phase'.owned, other ∈ phase.owned) :
    Confined files (files.append file bytes) id phase phase' where
  next := le_refl _
  contents other _ hother :=
    Function.update_of_ne (fun heq : other = file => hother (heq ▸ hfile)) _ _
  owned other hmem := .inl (howned other hmem)
  published := .inl rfl

/-- A file that a task makes belongs to no other task. -/
theorem confined_create
    (howned : ∀ file ∈ phase'.owned, file ∈ phase.owned ∨ file = files.next) :
    Confined files files.create id phase phase' where
  next := Nat.le_succ _
  contents other hlt _ := Function.update_of_ne (Nat.ne_of_lt hlt) _ _
  owned file hfile := by
    rcases howned file hfile with hfile | rfl
    · exact .inl hfile
    · exact .inr ⟨le_refl _, Nat.lt_succ_self _⟩
  published := .inl rfl

/-- A task publishes its own file, under a digest that nothing was published under. -/
theorem confined_hardLink {digest : Digest} (hfile : file ∈ phase.owned) :
    Confined files (hardLink kind files id file digest size).1 id phase
      (hardLink kind files id file digest size).2 := by
  unfold hardLink
  split
  · next hnone =>
      refine ⟨le_refl _, fun _ _ _ => rfl, fun _ hmem => (by cases hmem), .inr ?_⟩
      exact ⟨digest, size, file, hfile, hnone, rfl, rfl⟩
  · exact .of_same_files fun _ hmem => by cases hmem

/-- A chunk is copied to the own file. -/
theorem confined_copyChunk {hashed : List UInt8} :
    Confined files (copyChunk kind sha256 files handle file total hashed bytes).1 id
      (.copying file total hashed : StorePhase Digest Opened)
      (copyChunk kind sha256 files handle file total hashed bytes).2 := by
  unfold copyChunk
  split
  · exact .of_same_files fun _ hmem => hmem
  · split
    · exact .of_same_files fun _ hmem => by cases hmem
    · exact confined_append List.mem_cons_self fun _ hmem => hmem

/-- A chunk is copied once more to the own file. -/
theorem confined_recopyChunk {publication : Nat} {digest : Digest} {hashed : List UInt8} :
    Confined files
      (recopyChunk kind sha256 files handle file digest size publication total hashed bytes).1 id
      (.recopying file digest size publication total hashed : StorePhase Digest Opened)
      (recopyChunk kind sha256 files handle file digest size publication total hashed
        bytes).2 := by
  have hpublication : publication ∈ [file, publication] := List.mem_cons_of_mem _ List.mem_cons_self
  unfold recopyChunk
  split
  · split
    · refine .of_same_files fun other hmem => ?_
      rw [List.mem_singleton.mp hmem]
      exact hpublication
    · exact .of_same_files fun _ hmem => by cases hmem
  · split
    · exact .of_same_files fun _ hmem => by cases hmem
    · exact confined_append hpublication fun _ hmem => hmem

omit [DecidableEq Digest] in
/-- Phases that open an object need no temporary files. -/
theorem owned_openEntry (purpose : Purpose) (digest : Digest) (expected : Option Nat) :
    (openEntry kind files handle purpose digest expected).owned = [] := by
  unfold openEntry
  split
  · rfl
  · split
    · rfl
    · split
      · rfl
      · rfl

/-- A task that hashes has no file of its own. -/
theorem owned_hashChunk (purpose : Purpose) (digest : Digest) (expected : Option Nat)
    (file total : Nat) (hashed bytes : List UInt8) :
    (hashChunk kind sha256 handle purpose digest expected file total hashed bytes).owned =
      [] := by
  unfold hashChunk
  split
  · split
    · rfl
    · cases expected with
      | none => rfl
      | some size =>
          dsimp only
          split
          · rfl
          · rfl
  · split
    · rfl
    · rfl

omit [DecidableEq Digest] in
/-- A task that checks an object has no file of its own. -/
theorem owned_checkObject (purpose : Purpose) (digest : Digest) (expected : Option Nat)
    (file total : Nat) :
    (checkObject kind files handle purpose digest expected file total).owned = [] := by
  unfold checkObject
  split
  · rfl
  · cases purpose with
    | verify => rfl
    | «open» => rfl

omit [DecidableEq Digest] in
/-- A copy that is validated stays with its task. -/
theorem owned_validateCopy {digest : Digest} :
    ∀ other ∈ (validateCopy kind files handle file digest size).owned, other ∈ [file] := by
  unfold validateCopy
  split
  · exact fun _ hmem => by cases hmem
  · exact fun _ hmem => hmem

omit [DecidableEq Digest] in
/-- A copy that cannot be linked stays with its task. -/
theorem owned_crossDevices {digest : Digest} :
    ∀ other ∈ (crossDevices kind file digest size).owned, other ∈ [file] := by
  unfold crossDevices
  split
  · exact fun _ hmem => hmem
  · exact fun _ hmem => by cases hmem

/-- A step writes only files of its task. -/
theorem Advance.confined (h : Advance kind sha256 id handle files phase event (files', phase')) :
    Confined files files' id phase phase' := by
  generalize hresult : (files', phase') = result at h
  cases h with
  | fail error _ | crash _ | refused | published | listed =>
      cases hresult
      exact .of_same_files fun _ hmem => by cases hmem
  | created =>
      cases hresult
      exact confined_create fun _ hmem => .inr (List.mem_singleton.mp hmem)
  | read _ =>
      obtain ⟨rfl, rfl⟩ := Prod.mk.inj hresult
      exact confined_copyChunk
  | synced | resynced =>
      cases hresult
      exact .of_same_files fun _ hmem => hmem
  | validated =>
      cases hresult
      exact .of_same_files owned_validateCopy
  | linked | relinked =>
      obtain ⟨rfl, rfl⟩ := Prod.mk.inj hresult
      exact confined_hardLink List.mem_cons_self
  | crossed =>
      cases hresult
      exact .of_same_files owned_crossDevices
  | recreated =>
      cases hresult
      refine confined_create fun file hmem => ?_
      rcases List.mem_cons.mp hmem with hfile | hmem
      · exact .inl (hfile ▸ List.mem_cons_self)
      · exact .inr (List.mem_singleton.mp hmem)
  | reread _ =>
      obtain ⟨rfl, rfl⟩ := Prod.mk.inj hresult
      exact confined_recopyChunk
  | found =>
      cases hresult
      exact .of_same_files fun _ hmem => by rw [owned_openEntry] at hmem; cases hmem
  | rehashed _ =>
      cases hresult
      exact .of_same_files fun _ hmem => by rw [owned_hashChunk] at hmem; cases hmem
  | checked =>
      cases hresult
      exact .of_same_files fun _ hmem => by rw [owned_checkObject] at hmem; cases hmem

/-! ## What a task knows after its step -/

theorem sizeOfBytes_append (left right : List UInt8) :
    sizeOfBytes (left ++ right) = saturatingAdd (sizeOfBytes left) right.length := by
  simp only [sizeOfBytes, saturatingAdd, List.length_append]
  omega

omit [DecidableEq Digest] in
/-- A read continues what was read so far, and ends only at the end of the file. -/
theorem readAt_spec {hashed : List UInt8} (hread : hashed <+: files.contents file)
    (h : readAt files file hashed.length count = some bytes) :
    hashed ++ bytes <+: files.contents file ∧ (bytes = [] → hashed = files.contents file) := by
  obtain ⟨rest, hrest⟩ := hread
  unfold readAt at h
  split at h
  · next hfits =>
      obtain ⟨-, -, hend⟩ := hfits
      cases h
      rw [← hrest, List.drop_left] at *
      refine ⟨(List.prefix_append_right_inj hashed).mpr (List.take_prefix count rest), ?_⟩
      intro hempty
      rcases List.take_eq_nil_iff.mp hempty with hcount | hrest
      · have hlength := hend hcount
        rw [List.length_append] at hlength
        rw [List.eq_nil_of_length_eq_zero (l := rest) (by omega), List.append_nil]
      · rw [hrest, List.append_nil]
  · cases h

/-- What is read next is counted, when it keeps the limit. -/
theorem ReadSoFar.append {hashed : List UInt8} (h : ReadSoFar kind handle total hashed)
    (hlimit : ¬ kind.maximumBytes handle < saturatingAdd total bytes.length) :
    ReadSoFar kind handle (saturatingAdd total bytes.length) (hashed ++ bytes) :=
  ⟨by rw [sizeOfBytes_append, ← h.counted], Nat.le_of_not_lt hlimit⟩

omit [DecidableEq Digest] in
/-- Bytes that were read so far have their own digest. -/
theorem ReadSoFar.hashed {hashed : List UInt8} (h : ReadSoFar kind handle total hashed) :
    Hashed kind sha256 handle (sha256 hashed) total hashed :=
  ⟨rfl, h.counted.symm, h.bounded⟩

theorem ReadSoFar.nil : ReadSoFar kind handle 0 [] :=
  ⟨by simp [sizeOfBytes], Nat.zero_le _⟩

omit [DecidableEq Digest] in
/-- A task knows what it has copied: the file has the bytes that were hashed. -/
theorem knows_copyChunk {hashed : List UInt8}
    (hknows : Knows kind sha256 files id handle (.copying file total hashed)) :
    Knows kind sha256 (copyChunk kind sha256 files handle file total hashed bytes).1 id handle
      (copyChunk kind sha256 files handle file total hashed bytes).2 := by
  obtain ⟨hcontents, hread⟩ := hknows
  unfold copyChunk
  split
  · dsimp only [Knows]
    rw [hcontents]
    exact hread.hashed
  · split
    · trivial
    · next hlimit =>
        refine ⟨?_, hread.append hlimit⟩
        simp only [StoreFiles.append, Function.update_self, hcontents]

/-- A task knows what it has copied once more. -/
theorem knows_recopyChunk {publication : Nat} {digest : Digest} {hashed : List UInt8}
    (hknows : Knows kind sha256 files id handle
      (.recopying file digest size publication total hashed))
    (hbytes : readAt files file hashed.length count = some bytes) :
    Knows kind sha256
      (recopyChunk kind sha256 files handle file digest size publication total hashed bytes).1
      id handle
      (recopyChunk kind sha256 files handle file digest size publication total hashed
        bytes).2 := by
  obtain ⟨hdistinct, haccepted, hcontents, hprefix, hread⟩ := hknows
  obtain ⟨hnext, hend⟩ := readAt_spec hprefix hbytes
  unfold recopyChunk
  split
  · next hempty =>
      split
      · dsimp only [Knows]
        rw [hcontents, hend hempty]
        exact haccepted
      · trivial
  · split
    · trivial
    · next hlimit =>
        dsimp only [Knows, StoreFiles.append]
        rw [Function.update_of_ne hdistinct, Function.update_self, hcontents]
        exact ⟨hdistinct, haccepted, rfl, hnext, hread.append hlimit⟩

/-- A task publishes only what it has accepted. -/
theorem knows_hardLink {digest : Digest}
    (haccepted : Accepted kind sha256 handle digest size (files.contents file)) :
    Knows kind sha256 (hardLink kind files id file digest size).1 id handle
      (hardLink kind files id file digest size).2 := by
  unfold hardLink
  split
  · exact ⟨⟨file, true, some id⟩, Function.update_self _ _ _, haccepted, fun _ => rfl⟩
  · trivial

omit [DecidableEq Digest] in
/-- A task that opens an object knows its file. -/
theorem knows_openEntry (purpose : Purpose) (digest : Digest) (expected : Option Nat) :
    Knows kind sha256 files id handle
      (openEntry kind files handle purpose digest expected) := by
  unfold openEntry
  split
  · trivial
  · next entry hentry =>
      split
      · trivial
      · split
        · trivial
        · exact ⟨⟨entry, hentry, rfl⟩, List.nil_prefix, ReadSoFar.nil⟩

/-- A task knows what it has hashed: the bytes of the file so far. -/
theorem knows_hashChunk {purpose : Purpose} {digest : Digest} {expected : Option Nat}
    {hashed : List UInt8} (hknows : Knows kind sha256 files id handle
      (.hashing purpose digest expected file total hashed))
    (hbytes : readAt files file hashed.length count = some bytes) :
    Knows kind sha256 files id handle
      (hashChunk kind sha256 handle purpose digest expected file total hashed bytes) := by
  obtain ⟨hobject, hprefix, hread⟩ := hknows
  obtain ⟨hnext, hend⟩ := readAt_spec hprefix hbytes
  unfold hashChunk
  split
  · next hempty =>
      have hhashed : Hashed kind sha256 handle (sha256 hashed) total (files.contents file) := by
        rw [← hend hempty]
        exact hread.hashed
      split
      · trivial
      · next hdigest =>
          rw [not_not] at hdigest
          rw [hdigest] at hhashed
          cases expected with
          | none => exact ⟨hobject, hhashed, fun _ hsize => by cases hsize⟩
          | some size =>
              dsimp only
              split
              · trivial
              · next hsize =>
                  rw [not_not] at hsize
                  exact ⟨hobject, hhashed, fun _ heq => hsize.trans (Option.some.inj heq)⟩
  · split
    · trivial
    · next hlimit => exact ⟨hobject, hnext, hread.append hlimit⟩

omit [DecidableEq Digest] in
/-- A task that has checked an object holds it, or has opened it. -/
theorem knows_checkObject {purpose : Purpose} {digest : Digest} {expected : Option Nat}
    (hknows : Knows kind sha256 files id handle (.checking purpose digest expected file total)) :
    Knows kind sha256 files id handle
      (checkObject kind files handle purpose digest expected file total) := by
  obtain ⟨hobject, hhashed, hsize⟩ := hknows
  unfold checkObject
  split
  · trivial
  · next value hvalid =>
      cases purpose with
      | verify =>
          obtain ⟨entry, hentry, rfl⟩ := hobject
          exact ⟨entry, hentry, ⟨hhashed, value, hvalid⟩, fun hsame => by cases hsame⟩
      | «open» =>
          exact ⟨hobject, ⟨total, hhashed⟩, hvalid, fun size hmem =>
            hhashed.sized.trans (hsize size hmem)⟩

/-- A task knows after its step what the next phase needs. -/
theorem Advance.knows (h : Advance kind sha256 id handle files phase event (files', phase'))
    (hknows : Knows kind sha256 files id handle phase)
    (hnext : ∀ file ∈ phase.owned, file < files.next) :
    Knows kind sha256 files' id handle phase' := by
  generalize hresult : (files', phase') = result at h
  cases h with
  | fail error _ | crash _ | refused =>
      cases hresult
      trivial
  | created =>
      cases hresult
      exact ⟨Function.update_self _ _ _, ReadSoFar.nil⟩
  | read _ =>
      obtain ⟨rfl, rfl⟩ := Prod.mk.inj hresult
      exact knows_copyChunk hknows
  | synced | resynced | published | listed =>
      cases hresult
      exact hknows
  | @validated file size digest =>
      cases hresult
      unfold validateCopy
      split
      · trivial
      · next value hvalid => exact ⟨hknows, value, hvalid⟩
  | linked | relinked =>
      obtain ⟨rfl, rfl⟩ := Prod.mk.inj hresult
      exact knows_hardLink hknows
  | crossed =>
      cases hresult
      unfold crossDevices
      split
      · exact hknows
      · trivial
  | @recreated file size digest =>
      cases hresult
      have hfile : file ≠ files.next := Nat.ne_of_lt (hnext file List.mem_cons_self)
      dsimp only [Knows, StoreFiles.create]
      rw [Function.update_of_ne hfile, Function.update_self]
      exact ⟨hfile, hknows, rfl, List.nil_prefix, ReadSoFar.nil⟩
  | reread hbytes =>
      obtain ⟨rfl, rfl⟩ := Prod.mk.inj hresult
      exact knows_recopyChunk hknows hbytes
  | found =>
      cases hresult
      exact knows_openEntry _ _ _
  | rehashed hbytes =>
      cases hresult
      exact knows_hashChunk hknows hbytes
  | checked =>
      cases hresult
      exact knows_checkObject hknows

/-- A task that has published an object goes on with it. -/
theorem Advance.publishedAs {digest : Digest}
    (h : Advance kind sha256 id handle files phase event (files', phase'))
    (hpublished : phase.PublishedAs digest) : phase'.PublishedAs digest := by
  cases hpublished with
  | publishing size =>
      cases h with
      | fail error _ => exact .failed error
      | crash _ => exact .crashed
      | published => exact .listing size
  | listing size =>
      cases h with
      | fail error _ => exact .failed error
      | crash _ => exact .crashed
      | listed => exact .imported size
  | imported | failed | crashed =>
      cases h with
      | fail error hrunning => exact hrunning.elim
      | crash hrunning => exact hrunning.elim

/-! ## What a step keeps -/

/-- Objects stay published, with their contents. -/
structure KeepsObjects (files files' : StoreFiles Digest) : Prop where
  entries : ∀ digest entry, files.published digest = some entry →
    files'.published digest = some entry
  contents : ∀ digest entry, files.published digest = some entry →
    files'.contents entry.file = files.contents entry.file

omit [DecidableEq Digest] in
theorem KeepsObjects.refl (files : StoreFiles Digest) : KeepsObjects files files :=
  ⟨fun _ _ h => h, fun _ _ _ => rfl⟩

omit [DecidableEq Digest] in
/-- What is kept twice is kept. -/
theorem KeepsObjects.trans {first second third : StoreFiles Digest}
    (hfirst : KeepsObjects first second) (hsecond : KeepsObjects second third) :
    KeepsObjects first third where
  entries _ _ hentry := hsecond.entries _ _ (hfirst.entries _ _ hentry)
  contents _ _ hentry :=
    (hsecond.contents _ _ (hfirst.entries _ _ hentry)).trans (hfirst.contents _ _ hentry)

omit [DecidableEq Digest] in
/-- A task holds its object while others are added. -/
theorem HoldsObject.keep {digest : Digest} {disposition : ImportDisposition}
    (h : HoldsObject kind sha256 files id handle digest size disposition)
    (hkeeps : KeepsObjects files files') :
    HoldsObject kind sha256 files' id handle digest size disposition := by
  obtain ⟨entry, hentry, haccepted, hpublisher⟩ := h
  refine ⟨entry, hkeeps.entries _ _ hentry, ?_, hpublisher⟩
  rw [hkeeps.contents _ _ hentry]
  exact haccepted

omit [DecidableEq Digest] in
/-- An object keeps its file and its bytes. -/
theorem IsObject.keep {digest : Digest} (h : IsObject files digest file)
    (hkeeps : KeepsObjects files files') :
    IsObject files' digest file ∧ files'.contents file = files.contents file := by
  obtain ⟨entry, hentry, rfl⟩ := h
  exact ⟨⟨entry, hkeeps.entries _ _ hentry, rfl⟩, hkeeps.contents _ _ hentry⟩

omit [DecidableEq Digest] in
/-- What a task knows depends on the files it owns and on objects alone. -/
theorem Knows.keep (h : Knows kind sha256 files id handle phase)
    (hkeeps : KeepsObjects files files')
    (howned : ∀ file ∈ phase.owned, files'.contents file = files.contents file) :
    Knows kind sha256 files' id handle phase := by
  cases phase with
  | creating | finding => trivial
  | copying file | syncing file | validating file | linking file | recreating file
  | resyncing file | relinking file =>
      dsimp only [Knows]
      rw [howned file List.mem_cons_self]
      exact h
  | recopying file digest size publication =>
      dsimp only [Knows]
      rw [howned file List.mem_cons_self,
        howned publication (List.mem_cons_of_mem _ List.mem_cons_self)]
      exact h
  | hashing =>
      obtain ⟨hobject, hknown⟩ := h
      obtain ⟨hobject', hcontents⟩ := hobject.keep hkeeps
      refine ⟨hobject', ?_⟩
      rw [hcontents]
      exact hknown
  | checking =>
      obtain ⟨hobject, hknown⟩ := h
      obtain ⟨hobject', hcontents⟩ := hobject.keep hkeeps
      refine ⟨hobject', ?_⟩
      rw [hcontents]
      exact hknown
  | publishing | listing => exact HoldsObject.keep h hkeeps
  | finished outcome =>
      cases outcome with
      | imported => exact HoldsObject.keep h hkeeps
      | opened =>
          obtain ⟨hobject, hknown⟩ := h
          obtain ⟨hobject', hcontents⟩ := hobject.keep hkeeps
          refine ⟨hobject', ?_⟩
          rw [hcontents]
          exact hknown
      | failed | crashed => trivial

end Steps

/-! ## The invariant -/

section Invariant

variable {Handle Opened Digest : Type} [DecidableEq Digest]
variable (kind : StoreKind Handle Opened) (sha256 : List UInt8 → Digest)

/-- Every task knows what its phase needs, owns files that nobody else uses, and every
object that was published by a task was accepted by it. -/
structure StoreInvariant (state : StoreState Handle Digest Opened) : Prop where
  knows : ∀ id task, state.tasks id = some task →
    Knows kind sha256 state.files id task.handle task.phase
  owned : ∀ id task, state.tasks id = some task → ∀ file ∈ task.phase.owned,
    file < state.files.next ∧
      ∀ digest entry, state.files.published digest = some entry → entry.file ≠ file
  separate : ∀ id task other task', state.tasks id = some task →
    state.tasks other = some task' → id ≠ other →
    ∀ file ∈ task.phase.owned, file ∉ task'.phase.owned
  entries : ∀ digest entry, state.files.published digest = some entry →
    entry.file < state.files.next
  published : ∀ digest entry id, state.files.published digest = some entry →
    entry.publisher = some id → ∃ task, state.tasks id = some task ∧
      task.phase.PublishedAs digest ∧ ∃ size,
        Accepted kind sha256 task.handle digest size (state.files.contents entry.file)

variable {kind sha256}

omit [DecidableEq Digest] in
/-- Without tasks there is nothing to know. -/
theorem StoreState.Fresh.invariant {state : StoreState Handle Digest Opened}
    (h : state.Fresh) : StoreInvariant kind sha256 state where
  knows id task htask := by rw [h.1 id] at htask; cases htask
  owned id task htask := by rw [h.1 id] at htask; cases htask
  separate id task _ _ htask := by rw [h.1 id] at htask; cases htask
  entries digest entry hentry := (h.2 digest entry hentry).1
  published digest entry id hentry hpublisher := by
    rw [(h.2 digest entry hentry).2] at hpublisher
    cases hpublisher

variable {id : Nat}

omit [DecidableEq Digest] in
/-- The task under an identity behind a change of one task. -/
theorem tasks_put {state : StoreState Handle Digest Opened} {other : Nat} {handle : Handle}
    {phase : StorePhase Digest Opened} {task : StoreTask Handle Digest Opened}
    (h : (state.put id handle phase).tasks other = some task) :
    (other = id ∧ task = ⟨handle, phase⟩) ∨ (other ≠ id ∧ state.tasks other = some task) := by
  by_cases hsame : other = id
  · subst hsame
    rw [StoreState.tasks_put_self] at h
    exact .inl ⟨rfl, (Option.some.inj h).symm⟩
  · rw [StoreState.tasks_put_of_ne state hsame] at h
    exact .inr ⟨hsame, h⟩

/-- A step of a task keeps all objects, as its files are not objects yet. -/
theorem Confined.keepsObjects {files files' : StoreFiles Digest}
    {phase phase' : StorePhase Digest Opened} (h : Confined files files' id phase phase')
    (hentries : ∀ digest entry, files.published digest = some entry →
      entry.file < files.next) (hfree : ∀ file ∈ phase.owned, ∀ digest entry,
      files.published digest = some entry → entry.file ≠ file) :
    KeepsObjects files files' where
  entries digest entry hentry := by
    rcases h.published with hsame | ⟨new, _, file, _, hnone, rfl, _⟩
    · rw [hsame]
      exact hentry
    · have hne : digest ≠ new := fun heq => by
        rw [heq, hnone] at hentry
        cases hentry
      rw [StoreFiles.published_publish_of_ne files hne]
      exact hentry
  contents digest entry hentry :=
    h.contents entry.file (hentries digest entry hentry) fun hmem =>
      hfree entry.file hmem digest entry hentry rfl

omit [DecidableEq Digest] in
/-- A task may start with nothing known and nothing owned. -/
theorem StoreInvariant.start {state : StoreState Handle Digest Opened}
    (h : StoreInvariant kind sha256 state) {id : Nat} {handle : Handle}
    {phase : StorePhase Digest Opened} (hnew : state.tasks id = none)
    (howned : phase.owned = [])
    (hknows : Knows kind sha256 state.files id handle phase) :
    StoreInvariant kind sha256 (state.put id handle phase) where
  knows other task htask := by
    rcases tasks_put htask with ⟨rfl, rfl⟩ | ⟨_, hold⟩
    · exact hknows
    · exact h.knows other task hold
  owned other task htask file hfile := by
    rcases tasks_put htask with ⟨rfl, rfl⟩ | ⟨_, hold⟩
    · rw [howned] at hfile
      cases hfile
    · exact h.owned other task hold file hfile
  separate first task second task' hfirst hsecond hne file hfile hfile' := by
    rcases tasks_put hfirst with ⟨rfl, rfl⟩ | ⟨_, hfirst⟩
    · rw [howned] at hfile
      cases hfile
    · rcases tasks_put hsecond with ⟨rfl, rfl⟩ | ⟨_, hsecond⟩
      · rw [howned] at hfile'
        cases hfile'
      · exact h.separate first task second task' hfirst hsecond hne file hfile hfile'
  entries := h.entries
  published digest entry other hentry hpublisher := by
    obtain ⟨task, htask, hphase⟩ := h.published digest entry other hentry hpublisher
    have hne : other ≠ id := fun heq => by
      rw [heq, hnew] at htask
      cases htask
    refine ⟨task, ?_, hphase⟩
    rw [StoreState.tasks_put_of_ne state hne]
    exact htask

/-- A step of a task keeps the invariant, and all objects. The files of the other tasks are neither
written nor published, and an entry is an old one or for a file that the task owned. -/
theorem StoreInvariant.advance {state : StoreState Handle Digest Opened}
    (h : StoreInvariant kind sha256 state) {handle : Handle}
    {phase phase' : StorePhase Digest Opened} {event : StoreEvent} {files' : StoreFiles Digest}
    (htask : state.tasks id = some ⟨handle, phase⟩)
    (hstep : Advance kind sha256 id handle state.files phase event (files', phase')) :
    KeepsObjects state.files files' ∧
      StoreInvariant kind sha256 (StoreState.put ⟨files', state.tasks⟩ id handle phase') := by
  have hconfined := hstep.confined
  have hmine := h.owned id _ htask
  have hkeeps : KeepsObjects state.files files' :=
    hconfined.keepsObjects h.entries fun file hfile => (hmine file hfile).2
  have hknows := hstep.knows (h.knows id _ htask) fun file hfile => (hmine file hfile).1
  have hother : ∀ other task, other ≠ id → state.tasks other = some task →
      ∀ file ∈ task.phase.owned, file < state.files.next ∧ file ∉ phase.owned :=
    fun other task hne hold file hfile => ⟨(h.owned other task hold file hfile).1,
      h.separate other task id _ hold htask hne file hfile⟩
  have hentry : ∀ digest entry, files'.published digest = some entry →
      state.files.published digest = some entry ∨
        entry.file ∈ phase.owned ∧ entry.publisher = some id ∧ ∃ size,
          phase' = .publishing digest size .imported := by
    intro digest entry hentry
    rcases hconfined.published with hsame | ⟨new, size, file, hfile, -, rfl, hphase⟩
    · exact .inl (hsame ▸ hentry)
    · by_cases heq : digest = new
      · subst heq
        rw [StoreFiles.published_publish_self] at hentry
        cases hentry
        exact .inr ⟨hfile, rfl, size, hphase⟩
      · rw [StoreFiles.published_publish_of_ne _ heq] at hentry
        exact .inl hentry
  refine ⟨hkeeps, ?_, ?_, ?_, ?_, ?_⟩
  · intro other task hnow
    rcases tasks_put hnow with ⟨rfl, rfl⟩ | ⟨hne, hold⟩
    · exact hknows
    · refine (h.knows other task hold).keep hkeeps fun file hfile => ?_
      obtain ⟨hlt, hnot⟩ := hother other task hne hold file hfile
      exact hconfined.contents file hlt hnot
  · intro other task hnow file hfile
    rcases tasks_put hnow with ⟨rfl, rfl⟩ | ⟨hne, hold⟩
    · rcases hconfined.owned file hfile with hbefore | ⟨hge, hlt⟩
      · refine ⟨Nat.lt_of_lt_of_le (hmine file hbefore).1 hconfined.next, ?_⟩
        intro digest entry hpublished
        rcases hentry digest entry hpublished with hold | ⟨-, -, size, rfl⟩
        · exact (hmine file hbefore).2 digest entry hold
        · cases hfile
      · refine ⟨hlt, fun digest entry hpublished => ?_⟩
        rcases hentry digest entry hpublished with hold | ⟨-, -, size, rfl⟩
        · exact Nat.ne_of_lt (Nat.lt_of_lt_of_le (h.entries digest entry hold) hge)
        · cases hfile
    · obtain ⟨hlt, hnot⟩ := hother other task hne hold file hfile
      refine ⟨Nat.lt_of_lt_of_le hlt hconfined.next, fun digest entry hpublished => ?_⟩
      rcases hentry digest entry hpublished with hbefore | ⟨hmem, -⟩
      · exact (h.owned other task hold file hfile).2 digest entry hbefore
      · exact fun heq => hnot (heq ▸ hmem)
  · have hapart : ∀ other task, other ≠ id → state.tasks other = some task →
        ∀ file ∈ phase'.owned, file ∉ task.phase.owned := by
      intro other task hne hold file hfile hfile'
      obtain ⟨hlt, hnot⟩ := hother other task hne hold file hfile'
      rcases hconfined.owned file hfile with hbefore | ⟨hge, -⟩
      · exact hnot hbefore
      · exact Nat.not_lt.mpr hge hlt
    intro first task second task' hfirst hsecond hne file hfile hfile'
    rcases tasks_put hfirst with ⟨rfl, rfl⟩ | ⟨hfirstNe, hfirst'⟩
    · rcases tasks_put hsecond with ⟨rfl, rfl⟩ | ⟨hsecondNe, hsecond'⟩
      · exact hne rfl
      · exact hapart second task' hsecondNe hsecond' file hfile hfile'
    · rcases tasks_put hsecond with ⟨rfl, rfl⟩ | ⟨_, hsecond'⟩
      · exact hapart first task hfirstNe hfirst' file hfile' hfile
      · exact h.separate first task second task' hfirst' hsecond' hne file hfile hfile'
  · intro digest entry hpublished
    rcases hentry digest entry hpublished with hold | ⟨hmem, -⟩
    · exact Nat.lt_of_lt_of_le (h.entries digest entry hold) hconfined.next
    · exact Nat.lt_of_lt_of_le (hmine entry.file hmem).1 hconfined.next
  · intro digest entry other hpublished hpublisher
    rcases hentry digest entry hpublished with hold | ⟨-, hsame, size, rfl⟩
    · obtain ⟨task, htask', hphase, size, haccepted⟩ :=
        h.published digest entry other hold hpublisher
      rw [← hkeeps.contents digest entry hold] at haccepted
      by_cases heq : other = id
      · subst heq
        rw [htask] at htask'
        cases htask'
        exact ⟨⟨handle, phase'⟩, StoreState.tasks_put_self _ _ _ _, hstep.publishedAs hphase, size,
          haccepted⟩
      · refine ⟨task, ?_, hphase, size, haccepted⟩
        rw [StoreState.tasks_put_of_ne _ heq]
        exact htask'
    · rw [hsame] at hpublisher
      cases hpublisher
      obtain ⟨entry', hentry', haccepted, -⟩ := hknows
      cases hentry'.symm.trans hpublished
      exact ⟨⟨handle, _⟩, StoreState.tasks_put_self _ _ _ _, .publishing size, size, haccepted⟩

/-- Every step keeps the invariant and all objects. -/
theorem StoreInvariant.step {state state' : StoreState Handle Digest Opened}
    {label : StoreLabel Handle Digest} (h : StoreInvariant kind sha256 state)
    (hstep : StoreStep kind sha256 state label state') :
    KeepsObjects state.files state'.files ∧ StoreInvariant kind sha256 state' := by
  cases hstep with
  | «import» hnew => exact ⟨.refl _, h.start hnew rfl trivial⟩
  | «open» hnew _ => exact ⟨.refl _, h.start hnew rfl trivial⟩
  | run htask hadvance => exact h.advance htask hadvance

/-- Every run from a fresh root keeps the invariant, and all objects of every state it
passes. -/
theorem StoreInvariant.run {state state' : StoreState Handle Digest Opened}
    {labels : List (StoreLabel Handle Digest)} (h : StoreInvariant kind sha256 state)
    (hrun : (storeSystem kind sha256).Run state labels state') :
    KeepsObjects state.files state'.files ∧ StoreInvariant kind sha256 state' := by
  induction hrun with
  | refl state => exact ⟨.refl _, h⟩
  | cons hstep _ ih =>
      obtain ⟨hkeeps, hnext⟩ := h.step hstep
      obtain ⟨hrest, hlast⟩ := ih hnext
      exact ⟨hkeeps.trans hrest, hlast⟩

/-! ## The guarantee -/

/-- What holds of a root that started fresh. An object is from before, or its contents have
its digest and were accepted by the task that published it. -/
structure ContentAddressed (kind : StoreKind Handle Opened) (sha256 : List UInt8 → Digest)
    (start state : StoreState Handle Digest Opened) : Prop where
  published : ∀ digest entry, state.files.published digest = some entry →
    start.files.published digest = some entry ∨
      ∃ id task size, entry.publisher = some id ∧ state.tasks id = some task ∧
        Accepted kind sha256 task.handle digest size (state.files.contents entry.file)
  /-- An import that returns has its object, with the contents that it accepted. -/
  imported : ∀ id handle digest size disposition,
    state.tasks id = some ⟨handle, .finished (.imported digest size disposition)⟩ →
    ∃ entry, state.files.published digest = some entry ∧
      Accepted kind sha256 handle digest size (state.files.contents entry.file)
  once : ∀ digest first second handle handle' size size',
    state.tasks first = some ⟨handle, .finished (.imported digest size .imported)⟩ →
    state.tasks second = some ⟨handle', .finished (.imported digest size' .imported)⟩ →
    first = second
  /-- Every error but one of the file system is a rejection. -/
  rejected : ∀ id handle error, state.tasks id = some ⟨handle, .finished (.failed error)⟩ →
    (∀ failure, error ≠ .io failure) →
    ∀ digest entry, state.files.published digest = some entry → entry.publisher ≠ some id
  opened : ∀ id handle digest expected file value,
    state.tasks id = some ⟨handle, .finished (.opened digest expected file value)⟩ →
    IsObject state.files digest file ∧ sha256 (state.files.contents file) = digest ∧
      sizeOfBytes (state.files.contents file) ≤ kind.maximumBytes handle ∧
      kind.validate handle (state.files.contents file) = .ok value ∧
      ∀ size ∈ expected, sizeOfBytes (state.files.contents file) = size

/-- Objects without a publisher are from before. -/
theorem publisher_of_run {start state : StoreState Handle Digest Opened}
    {labels : List (StoreLabel Handle Digest)}
    (hrun : (storeSystem kind sha256).Run start labels state)
    (hstart : StoreInvariant kind sha256 start) {digest : Digest} {entry : StoreEntry}
    (hentry : state.files.published digest = some entry) :
    start.files.published digest = some entry ∨ ∃ id, entry.publisher = some id := by
  induction hrun with
  | refl => exact .inl hentry
  | @cons first second third label labels hstep hrest ih =>
      obtain ⟨-, hnext⟩ := hstart.step hstep
      rcases ih hnext hentry with hbefore | hpublisher
      · cases hstep with
        | «import» => exact .inl hbefore
        | «open» => exact .inl hbefore
        | run htask hadvance =>
            rcases hadvance.confined.published with hsame | ⟨new, _, file, _, -, rfl, -⟩
            · exact .inl (hsame ▸ hbefore)
            · by_cases heq : digest = new
              · subst heq
                have hnew := (StoreFiles.published_publish_self _ _ _ _).symm.trans hbefore
                cases hnew
                exact .inr ⟨_, rfl⟩
              · rw [← StoreFiles.published_publish_of_ne _ heq]
                exact .inl hbefore
      · exact .inr hpublisher

/-- Every run from a fresh state keeps contents under their digests. -/
theorem contentAddressed_of_run {start state : StoreState Handle Digest Opened}
    {labels : List (StoreLabel Handle Digest)} (hfresh : start.Fresh)
    (hrun : (storeSystem kind sha256).Run start labels state) :
    ContentAddressed kind sha256 start state := by
  obtain ⟨-, hinvariant⟩ := hfresh.invariant.run hrun
  refine ⟨?_, ?_, ?_, ?_, ?_⟩
  · intro digest entry hentry
    rcases publisher_of_run hrun hfresh.invariant hentry with hbefore | ⟨id, hpublisher⟩
    · exact .inl hbefore
    · obtain ⟨task, htask, -, size, haccepted⟩ :=
        hinvariant.published digest entry id hentry hpublisher
      exact .inr ⟨id, task, size, hpublisher, htask, haccepted⟩
  · intro id handle digest size disposition htask
    obtain ⟨entry, hentry, haccepted, -⟩ := hinvariant.knows id _ htask
    exact ⟨entry, hentry, haccepted⟩
  · intro digest first second handle handle' size size' hfirst hsecond
    obtain ⟨entry, hentry, -, hpublisher⟩ := hinvariant.knows first _ hfirst
    obtain ⟨entry', hentry', -, hpublisher'⟩ := hinvariant.knows second _ hsecond
    cases hentry.symm.trans hentry'
    exact Option.some.inj ((hpublisher rfl).symm.trans (hpublisher' rfl))
  · intro id handle error htask herror digest entry hentry hpublisher
    obtain ⟨task, htask', hphase, -⟩ := hinvariant.published digest entry id hentry hpublisher
    cases htask.symm.trans htask'
    cases hphase with
    | failed failure => exact herror failure rfl
  · intro id handle digest expected file value htask
    obtain ⟨hobject, ⟨size, hhashed⟩, hvalid, hsize⟩ := hinvariant.knows id _ htask
    refine ⟨hobject, hhashed.digest, ?_, hvalid, hsize⟩
    rw [hhashed.sized]
    exact hhashed.bounded

end Invariant

/-- Both stores are immutable and verify themselves, whatever imports and openings work on one
root and wherever they fail or crash. No two contents need to have different digests for
that. -/
theorem stores_content_addressed {Digest : Type} [DecidableEq Digest] (zip : ZipCrate)
    (toml : TomlCrate) (sha256 : List UInt8 → Digest) :
    (∀ start labels state, start.Fresh →
      (storeSystem (artifactStore zip toml) sha256).Run start labels state →
      ContentAddressed (artifactStore zip toml) sha256 start state ∧
        ∀ labels' later, (storeSystem (artifactStore zip toml) sha256).Run state labels' later →
          KeepsObjects state.files later.files) ∧
    ∀ start labels state, start.Fresh →
      (storeSystem assetStore sha256).Run start labels state →
      ContentAddressed assetStore sha256 start state ∧
        ∀ labels' later, (storeSystem assetStore sha256).Run state labels' later →
          KeepsObjects state.files later.files := by
  refine ⟨fun start labels state hfresh hrun => ?_, fun start labels state hfresh hrun => ?_⟩
  · have hinvariant := (hfresh.invariant.run hrun).2
    exact ⟨contentAddressed_of_run hfresh hrun, fun _ _ hlater => (hinvariant.run hlater).1⟩
  · have hinvariant := (hfresh.invariant.run hrun).2
    exact ⟨contentAddressed_of_run hfresh hrun, fun _ _ hlater => (hinvariant.run hlater).1⟩

/-! ## Imports of the same contents -/

/-- A root without files. -/
def emptyRoot (Handle Digest Opened : Type) : StoreState Handle Digest Opened :=
  ⟨⟨fun _ => [], 0, fun _ => none⟩, fun _ => none⟩

/-- Nothing was published there, and nobody works on it. -/
theorem fresh_emptyRoot (Handle Digest Opened : Type) : (emptyRoot Handle Digest Opened).Fresh :=
  ⟨fun _ => rfl, nofun⟩

/-- The steps of a task, one after the other. -/
def taskSteps {Handle Digest : Type} (id : Nat) (events : List StoreEvent) :
    List (StoreLabel Handle Digest) :=
  events.map (.run id)

/-- Two tasks import the same two bytes. The first one publishes them, and the second one finds them
published when it has copied them. A third task crashes while it copies other bytes, and a fourth
one opens what is published. -/
def assetLabels : List (StoreLabel Nat (List UInt8)) :=
  [.import 0 16, .import 1 16, .import 2 16] ++ taskSteps 0 [.created, .read [1, 2]] ++
    taskSteps 1 [.created, .read [1, 2]] ++ taskSteps 2 [.created, .read [9], .crash] ++
    taskSteps 0 [.read [], .synced, .validated] ++ taskSteps 1 [.read [], .synced, .validated] ++
    taskSteps 0 [.linked, .synced] ++
    taskSteps 1 [.linked, .found, .reread 2, .reread 0, .validated] ++
    taskSteps 0 [.synced] ++ taskSteps 1 [.synced, .synced] ++
    [.open 3 16 [1, 2] (some 2)] ++ taskSteps 3 [.found, .reread 2, .reread 0, .validated]

/-- This history of assets is one of a run. -/
theorem run_assetLabels : ∃ state : StoreState Nat (List UInt8) Unit,
    (storeSystem assetStore id).Run (emptyRoot Nat (List UInt8) Unit) assetLabels state ∧
    state.tasks 0 = some ⟨16, .finished (.imported [1, 2] 2 .imported)⟩ ∧
    state.tasks 1 = some ⟨16, .finished (.imported [1, 2] 2 .alreadyPresent)⟩ ∧
    state.tasks 3 = some ⟨16, .finished (.opened [1, 2] (some 2) 0 ())⟩ := by
  refine ⟨_, .cons (.import rfl) <| .cons (.import rfl) <| .cons (.import rfl) <|
    .cons (.run rfl .created) <| .cons (.run rfl (.read (by decide))) <|
    .cons (.run rfl .created) <| .cons (.run rfl (.read (by decide))) <|
    .cons (.run rfl .created) <| .cons (.run rfl (.read (by decide))) <|
    .cons (.run rfl (.crash trivial)) <|
    .cons (.run rfl (.read (by decide))) <| .cons (.run rfl .synced) <|
    .cons (.run rfl .validated) <|
    .cons (.run rfl (.read (by decide))) <| .cons (.run rfl .synced) <|
    .cons (.run rfl .validated) <|
    .cons (.run rfl .linked) <| .cons (.run rfl .published) <|
    .cons (.run rfl .linked) <| .cons (.run rfl .found) <| .cons (.run rfl (.rehashed rfl)) <|
    .cons (.run rfl (.rehashed rfl)) <| .cons (.run rfl .checked) <|
    .cons (.run rfl .listed) <| .cons (.run rfl .published) <| .cons (.run rfl .listed) <|
    .cons (.open rfl rfl) <| .cons (.run rfl .found) <| .cons (.run rfl (.rehashed rfl)) <|
    .cons (.run rfl (.rehashed rfl)) <| .single (.run rfl .checked), rfl, rfl, rfl⟩

/-- A task imports an archive, and another one copies bytes that are none. -/
def artifactLabels : List (StoreLabel RtwLimits (List UInt8)) :=
  [.import 0 storedLimits, .import 1 storedLimits] ++
    taskSteps 0 [.created, .read storedBytes, .read [], .synced, .validated, .linked, .synced,
      .synced] ++
    taskSteps 1 [.created, .read [9], .read [], .synced, .validated]

set_option maxRecDepth 4000 in
/-- This history of artifacts is one of a run. -/
theorem run_artifactLabels : ∃ state : StoreState RtwLimits (List UInt8) RtwArchive,
    (storeSystem (artifactStore storedZip storedToml) id).Run
      (emptyRoot RtwLimits (List UInt8) RtwArchive) artifactLabels state ∧
    state.tasks 0 = some ⟨storedLimits,
      .finished (.imported storedBytes storedBytes.length .imported)⟩ ∧
    state.tasks 1 = some ⟨storedLimits,
      .finished (.failed (.invalid (.zip ⟨"invalid Zip archive"⟩)))⟩ := by
  refine ⟨_, .cons (.import rfl) <| .cons (.import rfl) <|
    .cons (.run rfl .created) <| .cons (.run rfl (.read (by decide +kernel))) <|
    .cons (.run rfl (.read (by decide))) <| .cons (.run rfl .synced) <|
    .cons (.run rfl .validated) <| .cons (.run rfl .linked) <| .cons (.run rfl .published) <|
    .cons (.run rfl .listed) <| .cons (.run rfl .created) <|
    .cons (.run rfl (.read (by decide))) <| .cons (.run rfl (.read (by decide))) <|
    .cons (.run rfl .synced) <| .single (.run rfl .validated), rfl, rfl⟩
/-- In these runs the objects are addressed by their contents: the assets were published once, for
both of their imports, and the bytes that are no archive were not published. -/
theorem stores_content_addressed_imports :
    (∃ state, ContentAddressed (artifactStore storedZip storedToml) id
        (emptyRoot RtwLimits (List UInt8) RtwArchive) state ∧
      (∃ entry, state.files.published storedBytes = some entry ∧
        Accepted (artifactStore storedZip storedToml) id storedLimits storedBytes
          storedBytes.length (state.files.contents entry.file)) ∧
      ∀ digest entry, state.files.published digest = some entry → entry.publisher ≠ some 1) ∧
    ∃ state, ContentAddressed assetStore id (emptyRoot Nat (List UInt8) Unit) state ∧
      (∃ entry, state.files.published [1, 2] = some entry ∧
        Accepted assetStore id 16 [1, 2] 2 (state.files.contents entry.file)) ∧
      IsObject state.files [1, 2] 0 ∧ state.files.contents 0 = [1, 2] := by
  have haddressed := stores_content_addressed storedZip storedToml (id : List UInt8 → List UInt8)
  constructor
  · obtain ⟨state, hrun, himported, hrejected⟩ := run_artifactLabels
    have hkept := (haddressed.1 _ _ _ (fresh_emptyRoot _ _ _) hrun).1
    exact ⟨state, hkept, hkept.imported _ _ _ _ _ himported, hkept.rejected _ _ _ hrejected nofun⟩
  · obtain ⟨state, hrun, -, hpresent, hopened⟩ := run_assetLabels
    have hkept := (haddressed.2 _ _ _ (fresh_emptyRoot _ _ _) hrun).1
    obtain ⟨hobject, hcontents, -⟩ := hkept.opened _ _ _ _ _ _ hopened
    exact ⟨state, hkept, hkept.imported _ _ _ _ _ hpresent, hobject, hcontents⟩

end Rintawa.Artifacts
