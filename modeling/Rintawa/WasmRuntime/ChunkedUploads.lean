/-
# Uploads in chunks

A guest that has much to hand over begins an upload, appends its bytes in chunks over
as many callbacks as it likes, and finishes it. What the host then imports is what was
appended under the handle since the upload was begun, in this order, and exactly as
much as was announced.
-/

import Rintawa.WasmRuntime.HandleOwners

namespace Rintawa.WasmRuntime

open Rintawa.Lib Rintawa.Sdk Rintawa.ExtensionEngine

/-! ## What a history says of uploads -/

/-- What an upload is announced as. -/
structure UploadDeclaration where
  expectedSize : Nat
  mediaType : String
  name : Option String
  deriving DecidableEq

/-- The upload that a call begins. -/
def CapabilityCall.declares : CapabilityCall → Option (HandleKind × UploadDeclaration)
  | .beginAssetUpload mediaType expectedSize =>
      some (.assetUpload, ⟨expectedSize, mediaType, none⟩)
  | .beginResourceUpload mediaType name expectedSize =>
      some (.userResourceUpload, ⟨expectedSize, mediaType, name⟩)
  | _ => none

/-- The chunk that a call appends, and to what. -/
def CapabilityCall.chunk : CapabilityCall → Option (HandleKind × Nat × List UInt8)
  | .appendAssetUpload handle bytes => some (.assetUpload, handle, bytes)
  | .appendResourceUpload handle bytes => some (.userResourceUpload, handle, bytes)
  | _ => none

/-- The upload that a call finishes. -/
def CapabilityCall.finishes : CapabilityCall → Option (HandleKind × Nat)
  | .finishAssetUpload handle => some (.assetUpload, handle)
  | .finishResourceUpload handle => some (.userResourceUpload, handle)
  | _ => none

/-- The import that a complete upload comes to. -/
def UploadDeclaration.imports (declaration : UploadDeclaration) :
    HandleKind → List UInt8 → CapabilityCall
  | .userResourceUpload, bytes =>
      .importResource bytes declaration.mediaType declaration.name
  | _, bytes => .importAsset bytes declaration.mediaType

/-- The upload that a step begins in a table. -/
def SessionLabel.begins (kind : HandleKind) : SessionLabel → Option (Nat × UploadDeclaration)
  | .call _ _ request (.ok (.handle handle)) =>
      match request.declares with
      | some (other, declaration) => if other = kind then some (handle, declaration) else none
      | none => none
  | _ => none

/-- The bytes that a step appends to an upload. -/
def SessionLabel.appends (kind : HandleKind) (handle : Nat) : SessionLabel → List UInt8
  | .call _ _ request (.ok _) =>
      match request.chunk with
      | some (other, number, bytes) => if other = kind ∧ number = handle then bytes else []
      | none => []
  | _ => []

/-- The uploads that a run has begun in a table, in order. -/
def begunUploads (kind : HandleKind) (labels : List SessionLabel) :
    List (Nat × UploadDeclaration) :=
  labels.filterMap (SessionLabel.begins kind)

/-- The bytes that a run has appended to an upload, in order. -/
def appendedBytes (kind : HandleKind) (handle : Nat) (labels : List SessionLabel) : List UInt8 :=
  labels.flatMap (SessionLabel.appends kind handle)

/-- The last step adds the upload that it begins. -/
theorem begunUploads_snoc (kind : HandleKind) (labels : List SessionLabel)
    (label : SessionLabel) :
    begunUploads kind (labels ++ [label]) =
      begunUploads kind labels ++ (label.begins kind).toList :=
  filterMap_snoc ..

/-- The last step adds the chunk that it appends. -/
theorem appendedBytes_snoc (kind : HandleKind) (handle : Nat) (labels : List SessionLabel)
    (label : SessionLabel) :
    appendedBytes kind handle (labels ++ [label]) =
      appendedBytes kind handle labels ++ label.appends kind handle := by
  simp [appendedBytes]

/-! ## What a call does to an upload -/

/-- What one step does to the upload under one handle, and what is recorded of it. -/
inductive UploadStep (kind : HandleKind) (handle : Nat)
    (before : Option (UploadDeclaration × List UInt8)) (label : SessionLabel)
    (after : Option (UploadDeclaration × List UInt8)) : Prop
  | kept (same : after = before) (begins : label.begins kind = none)
      (appends : label.appends kind handle = [])
  | removed (gone : after = none) (begins : label.begins kind = none)
      (appends : label.appends kind handle = [])
  | begun (declaration : UploadDeclaration) (number : Nat)
      (begins : label.begins kind = some (number, declaration))
      (creates : ∃ owner, label.creates kind = some (number, owner))
      (starts : after = if handle = number then some (declaration, []) else before)
      (appends : label.appends kind handle = [])
  | appended (declaration : UploadDeclaration) (bytes : List UInt8)
      (begins : label.begins kind = none) (found : before = some (declaration, bytes))
      (grows : after = some (declaration, bytes ++ label.appends kind handle))
      (fits : bytes.length + (label.appends kind handle).length ≤ declaration.expectedSize)

namespace WasmHostState

variable {host : WasmHostState} {env : HostEnvironment}

/-- The upload under a handle: what it was announced as, and the bytes that are there. -/
def upload (host : WasmHostState) : HandleKind → Nat → Option (UploadDeclaration × List UInt8)
  | .assetUpload, handle =>
      (host.assetUploads.lookup handle).map fun upload =>
        (⟨upload.expectedSize, upload.mediaType, none⟩, upload.bytes)
  | .userResourceUpload, handle =>
      (host.userResourceUploads.lookup handle).map fun upload =>
        (⟨upload.expectedSize, upload.mediaType, upload.name⟩, upload.bytes)
  | .task, _ => none
  | .network, _ => none

/-- The handle of an upload that is there is live. -/
theorem live_of_upload {kind : HandleKind} {handle : Nat}
    {found : UploadDeclaration × List UInt8} (h : host.upload kind handle = some found) :
    host.live kind handle = true := by
  cases kind with
  | task | network => cases h
  | assetUpload | userResourceUpload =>
      obtain ⟨upload, hlookup, -⟩ := Option.map_eq_some_iff.mp h
      exact Option.isSome_iff_exists.mpr ⟨upload, hlookup⟩

/-- What happens between calls leaves uploads as they are. -/
theorem upload_of_tablesWithin {host' : WasmHostState} (h : host.TablesWithin host')
    (kind : HandleKind) (handle : Nat) : host'.upload kind handle = host.upload kind handle := by
  unfold upload
  rw [h.assetUploads, h.userResourceUploads]

variable {kind : HandleKind} {handle : Nat}

/-- A step over an outcome. -/
def StepsUpload (host : WasmHostState) (env : HostEnvironment) (call : CapabilityCall)
    (outcome : CallOutcome) (kind : HandleKind) (handle : Nat) : Prop :=
  UploadStep kind handle (host.upload kind handle)
    (.call host.executionOwner env call outcome.result) (outcome.state.upload kind handle)

variable {call : CapabilityCall}

/-- A refusal leaves the upload as it is. -/
theorem stepsUpload_refuse (error : CapabilityError) :
    host.StepsUpload env call (host.refuse error) kind handle :=
  .kept rfl rfl rfl

/-- With access to the host a call goes on for the component that is executed. -/
theorem withHostAccess_cases (permission : RuntimePermission)
    (nextOf : ComponentRef → CallOutcome) :
    (∃ error, host.withHostAccess env permission nextOf = host.refuse error) ∨
      ∃ owner, host.executionOwner = some owner ∧
        host.withHostAccess env permission nextOf = nextOf owner := by
  unfold WasmHostState.withHostAccess WasmHostState.whileOn asPermitted WasmHostState.asOwner
  split
  · split
    · exact .inl ⟨_, rfl⟩
    next owner howner =>
      dsimp only
      split
      · exact .inl ⟨_, rfl⟩
      · exact .inl ⟨_, rfl⟩
      · exact .inr ⟨owner, howner, rfl⟩
  · exact .inl ⟨_, rfl⟩

/-- Host access is refused, or what comes next is a step. -/
theorem StepsUpload.withHostAccess {permission : RuntimePermission}
    {nextOf : ComponentRef → CallOutcome} (h : ∀ owner, host.executionOwner = some owner →
      host.StepsUpload env call (nextOf owner) kind handle) :
    host.StepsUpload env call (host.withHostAccess env permission nextOf) kind handle := by
  rcases withHostAccess_cases permission nextOf with ⟨error, hrefused⟩ | ⟨owner, howner, hgoes⟩
  · rw [hrefused]
    exact stepsUpload_refuse error
  · rw [hgoes]
    exact h owner howner

/-- An upload that is begun is empty, and what it was announced as. -/
theorem StepsUpload.of_begin {table : HandleKind} {declaration : UploadDeclaration} {number : Nat}
    {state : WasmHostState} {owner : ComponentRef} (howner : host.executionOwner = some owner)
    (hallocates : call.allocates = some table)
    (hdeclares : call.declares = some (table, declaration))
    (hstate : state.upload kind handle = if kind = table ∧ handle = number then
      some (declaration, []) else host.upload kind handle) :
    host.StepsUpload env call ⟨state, [], .ok (.handle number)⟩ kind handle := by
  have hchunk : call.chunk = none := by
    cases call with
    | beginAssetUpload | beginResourceUpload => rfl
    | _ => cases hdeclares
  have happends : (SessionLabel.call host.executionOwner env call (.ok (.handle number))).appends
      kind handle = [] := by
    simp only [SessionLabel.appends, hchunk]
  by_cases hkind : kind = table
  · subst hkind
    refine .begun declaration number ?_ ⟨owner, ?_⟩ ?_ happends
    · simp only [SessionLabel.begins, hdeclares, if_pos]
    · rw [howner]
      exact creates_call_of_allocates hallocates
    · simpa using hstate
  · refine .kept ?_ ?_ happends
    · simpa [hkind] using hstate
    · simp only [SessionLabel.begins, hdeclares]
      exact if_neg fun heq => hkind heq.symm

/-- A chunk that fits is appended to its upload. -/
theorem StepsUpload.of_append {table : HandleKind} {declaration : UploadDeclaration} {number : Nat}
    {held bytes : List UInt8} {state : WasmHostState}
    (hchunk : call.chunk = some (table, number, bytes))
    (hfound : host.upload table number = some (declaration, held))
    (hfits : held.length + bytes.length ≤ declaration.expectedSize)
    (hstate : state.upload kind handle = if kind = table ∧ handle = number then
      some (declaration, held ++ bytes) else host.upload kind handle) :
    host.StepsUpload env call ⟨state, [], .ok .done⟩ kind handle := by
  by_cases hsame : kind = table ∧ handle = number
  · obtain ⟨rfl, rfl⟩ := hsame
    have happends : (SessionLabel.call host.executionOwner env call (.ok .done)).appends kind
        handle = bytes := by
      simp [SessionLabel.appends, hchunk]
    exact .appended declaration held rfl hfound (by simpa [happends] using hstate)
      (by rwa [happends])
  · refine .kept (by simpa [hsame] using hstate) rfl ?_
    simp only [SessionLabel.appends, hchunk]
    exact if_neg fun heq => hsame ⟨heq.1.symm, heq.2.symm⟩

/-- A new asset upload gets the next number of its table, which is no number of another. -/
theorem stepsUpload_beginAsset (mediaType : String) (expectedSize : Nat) :
    host.StepsUpload env (.beginAssetUpload mediaType expectedSize)
      (host.beginAssetUpload env mediaType expectedSize) kind handle := by
  refine .withHostAccess fun owner howner => ?_
  split
  · exact stepsUpload_refuse _
  · split
    · exact stepsUpload_refuse _
    · split
      · exact stepsUpload_refuse _
      next uploads hallocated =>
        refine .of_begin howner rfl rfl ?_
        cases kind <;> simp [upload, HandleTable.lookup_allocate hallocated]
        split <;> rfl

/-- A new resource upload gets the next number of its table. -/
theorem stepsUpload_beginResource (mediaType : String) (name : Option String)
    (expectedSize : Nat) :
    host.StepsUpload env (.beginResourceUpload mediaType name expectedSize)
      (host.beginResourceUpload env mediaType name expectedSize) kind handle := by
  refine .withHostAccess fun owner howner => ?_
  split
  · exact stepsUpload_refuse _
  · split
    · exact stepsUpload_refuse _
    · split
      · exact stepsUpload_refuse _
      next uploads hallocated =>
        refine .of_begin howner rfl rfl ?_
        cases kind <;> simp [upload, HandleTable.lookup_allocate hallocated]
        split <;> rfl

/-- A chunk goes to the end of its own upload, and to no other. -/
theorem stepsUpload_appendAsset (number : Nat) (bytes : List UInt8) :
    host.StepsUpload env (.appendAssetUpload number bytes)
      (host.appendAssetUpload env number bytes) kind handle := by
  refine .withHostAccess fun owner howner => ?_
  split
  · exact stepsUpload_refuse _
  · split
    · exact stepsUpload_refuse _
    next found hfound =>
      split
      · exact stepsUpload_refuse _
      next hfits =>
        have hheld : host.upload .assetUpload number =
            some (⟨found.expectedSize, found.mediaType, none⟩, found.bytes) :=
          congrArg (Option.map _) hfound
        refine .of_append rfl hheld (Nat.le_of_not_lt hfits) ?_
        cases kind <;> simp [upload, HandleTable.lookup_modify]
        split <;> simp_all

/-- A chunk goes to the end of its own upload, and to no other. -/
theorem stepsUpload_appendResource (number : Nat) (bytes : List UInt8) :
    host.StepsUpload env (.appendResourceUpload number bytes)
      (host.appendResourceUpload env number bytes) kind handle := by
  refine .withHostAccess fun owner howner => ?_
  split
  · exact stepsUpload_refuse _
  · split
    · exact stepsUpload_refuse _
    next found hfound =>
      split
      · exact stepsUpload_refuse _
      next hfits =>
        have hheld : host.upload .userResourceUpload number =
            some (⟨found.expectedSize, found.mediaType, found.name⟩, found.bytes) :=
          congrArg (Option.map _) hfound
        refine .of_append rfl hheld (Nat.le_of_not_lt hfits) ?_
        cases kind <;> simp [upload, HandleTable.lookup_modify]
        split <;> simp_all

/-- Every other call leaves an upload as it is, or takes it away. -/
theorem Performs.stepsUpload {outcome : CallOutcome} (h : host.Performs call outcome)
    (hdeclares : call.declares = none) (hchunk : call.chunk = none) :
    host.StepsUpload env call outcome kind handle := by
  have hbegins : ∀ {result : Except CapabilityError CapabilityValue},
      (SessionLabel.call host.executionOwner env call result).begins kind = none := by
    intro result
    unfold SessionLabel.begins
    split
    next hlabel =>
      cases hlabel
      rw [hdeclares]
    · rfl
  have happends : ∀ {result : Except CapabilityError CapabilityValue},
      (SessionLabel.call host.executionOwner env call result).appends kind handle = [] := by
    intro result
    unfold SessionLabel.appends
    split
    next hlabel =>
      cases hlabel
      rw [hchunk]
    · rfl
  have hother : call.allocates ≠ some .assetUpload ∧ call.allocates ≠ some .userResourceUpload := by
    cases call with
    | beginAssetUpload | beginResourceUpload => cases hdeclares
    | _ => exact ⟨nofun, nofun⟩
  cases h with
  | assetUploadBegun _ _ allocates => exact absurd allocates hother.1
  | userResourceUploadBegun _ _ allocates => exact absurd allocates hother.2
  | assetUploadAppended | userResourceUploadAppended => cases hchunk
  | assetUploadRemoved number =>
      cases kind with
      | assetUpload =>
          by_cases hsame : handle = number
          · exact .removed (by simp [upload, HandleTable.lookup_remove, hsame]) hbegins happends
          · exact .kept (by simp [upload, HandleTable.lookup_remove, hsame]) hbegins happends
      | task | network | userResourceUpload => exact .kept rfl hbegins happends
  | userResourceUploadRemoved number =>
      cases kind with
      | userResourceUpload =>
          by_cases hsame : handle = number
          · exact .removed (by simp [upload, HandleTable.lookup_remove, hsame]) hbegins happends
          · exact .kept (by simp [upload, HandleTable.lookup_remove, hsame]) hbegins happends
      | task | network | assetUpload => exact .kept rfl hbegins happends
  | _ => exact .kept (by cases kind <;> rfl) hbegins happends

/-- Every call steps every upload. -/
theorem stepsUpload (host : WasmHostState) (env : HostEnvironment) (call : CapabilityCall)
    (kind : HandleKind) (handle : Nat) :
    host.StepsUpload env call (host.perform env call) kind handle := by
  cases hdeclares : call.declares with
  | some declared =>
      cases call with
      | beginAssetUpload mediaType expectedSize => exact stepsUpload_beginAsset _ _
      | beginResourceUpload mediaType name expectedSize => exact stepsUpload_beginResource _ _ _
      | _ => cases hdeclares
  | none =>
      cases hchunk : call.chunk with
      | some chunk =>
          cases call with
          | appendAssetUpload number bytes => exact stepsUpload_appendAsset _ _
          | appendResourceUpload number bytes => exact stepsUpload_appendResource _ _
          | _ => cases hchunk
      | none => exact (performs host env call).stepsUpload hdeclares hchunk

/-- What comes of an upload that is finished: the call is refused, or the bytes that are there
are handed on. They are as many as were announced, and the upload is gone. -/
def FinishesUpload (host : WasmHostState) (kind : HandleKind) (handle : Nat)
    (outcome : CallOutcome) : Prop :=
  (∃ error, outcome = host.refuse error) ∨ ∃ declaration bytes,
    host.upload kind handle = some (declaration, bytes) ∧
      bytes.length = declaration.expectedSize ∧
      outcome.requests = [⟨declaration.imports kind bytes, none, none⟩] ∧
      outcome.state.upload kind handle = none

/-- An asset is imported only with as many bytes as were announced. -/
theorem finishesUpload_asset (number : Nat) :
    host.FinishesUpload .assetUpload number (host.finishAssetUpload env number) := by
  unfold finishAssetUpload requireAssetImportAccess
  rcases @withHostAccess_cases host env .assetImport _ with hrefused | ⟨owner, -, hgoes⟩
  · exact .inl hrefused
  · rw [hgoes]
    split
    · exact .inl ⟨_, rfl⟩
    next found hfound =>
      split
      next hcomplete =>
        refine .inr ⟨⟨found.expectedSize, found.mediaType, none⟩, found.bytes,
          congrArg (Option.map _) hfound, hcomplete, rfl, ?_⟩
        apply Option.map_eq_none_iff.mpr
        exact (HandleTable.lookup_remove _ _).trans (if_pos rfl)
      · exact .inl ⟨_, rfl⟩

/-- A resource is imported only with as many bytes as were announced. -/
theorem finishesUpload_resource (number : Nat) :
    host.FinishesUpload .userResourceUpload number (host.finishResourceUpload env number) := by
  unfold finishResourceUpload requireUserResourceImportAccess
  rcases @withHostAccess_cases host env .userResourceImport _ with hrefused | ⟨owner, -, hgoes⟩
  · exact .inl hrefused
  · rw [hgoes]
    split
    · exact .inl ⟨_, rfl⟩
    next found hfound =>
      split
      next hcomplete =>
        refine .inr ⟨⟨found.expectedSize, found.mediaType, found.name⟩, found.bytes,
          congrArg (Option.map _) hfound, hcomplete, rfl, ?_⟩
        apply Option.map_eq_none_iff.mpr
        exact (HandleTable.lookup_remove _ _).trans (if_pos rfl)
      · exact .inl ⟨_, rfl⟩

/-- Both calls that finish an upload do it in the same way. -/
theorem finishesUpload (h : call.finishes = some (kind, handle)) :
    host.FinishesUpload kind handle (host.perform env call) := by
  cases call with
  | finishAssetUpload number =>
      cases h
      exact finishesUpload_asset handle
  | finishResourceUpload number =>
      cases h
      exact finishesUpload_resource handle
  | _ => cases h

/-- A store that has given nothing out has no uploads. -/
theorem upload_of_unissued (h : ∀ kind, host.issued kind = 0) : host.upload kind handle = none := by
  apply Option.eq_none_iff_forall_ne_some.mpr
  intro found hfound
  obtain ⟨index, hindex, -⟩ := numbered_of_live (live_of_upload hfound)
  rw [h kind] at hindex
  cases hindex

end WasmHostState

/-! ## Runs -/

/-- The upload under a handle, while there is a store. -/
def WasmSession.upload (session : WasmSession) (kind : HandleKind) (handle : Nat) :
    Option (UploadDeclaration × List UInt8) :=
  session.hostState.bind fun host => host.upload kind handle

/-- The uploads of a session are those of its store. -/
theorem WasmSession.upload_of_store {session : WasmSession} {host : WasmHostState}
    (hstore : session.hostState = some host) (kind : HandleKind) (handle : Nat) :
    session.upload kind handle = host.upload kind handle := by
  rw [upload, hstore]
  rfl

section

variable {start session session' : WasmSession} {labels : List SessionLabel}
  {label : SessionLabel} {kind : HandleKind} {handle : Nat}

/-- Every step of a session steps every upload. -/
theorem uploadStep_of_step (hguarded : session.Guarded)
    (h : wasmSystem.step session label session') (kind : HandleKind) (handle : Nat) :
    UploadStep kind handle (session.upload kind handle) label (session'.upload kind handle) := by
  cases h with
  | call env request running store scopes =>
      rw [WasmSession.upload_of_store store]
      exact WasmHostState.stepsUpload _ env request kind handle
  | engine registry targets services free => exact .kept rfl rfl rfl
  | busy callback held concurrent apart passes =>
      refine .kept ?_ rfl rfl
      unfold WasmSession.upload
      rw [session.refuseBusy_hostState callback]
  | begin callback idle passes =>
      cases hstore' : (session.begin callback).hostState with
      | none => exact .removed (by rw [WasmSession.upload, hstore']; rfl) rfl rfl
      | some host' =>
          rw [WasmSession.upload_of_store hstore']
          rcases (WasmSession.opens_begin session callback).tables host' hstore' with
            ⟨host, hstore, hwithin⟩ | ⟨-, -, hzero⟩
          · rw [WasmSession.upload_of_store hstore]
            exact .kept (WasmHostState.upload_of_tablesWithin hwithin kind handle) rfl rfl
          · exact .removed (WasmHostState.upload_of_unissued hzero) rfl rfl
  | @finish callback host exit now running store mayLeave =>
      cases hstore' : (session.finish host exit now callback).hostState with
      | none => exact .removed (by rw [WasmSession.upload, hstore']; rfl) rfl rfl
      | some host' =>
          obtain ⟨other, hother, hserves⟩ := hguarded.running _ running
          cases store.symm.trans hother
          have hwithin := (WasmSession.store_of_finish hserves exit now hstore').2
          rw [WasmSession.upload_of_store store, WasmSession.upload_of_store hstore']
          exact .kept (WasmHostState.upload_of_tablesWithin hwithin kind handle) rfl rfl

/-- What a history says of the uploads agrees with the uploads that are there. -/
structure UploadsRecorded (labels : List SessionLabel) (session : WasmSession) : Prop where
  nodup : ∀ kind, ((begunUploads kind labels).map Prod.fst).Nodup
  declared : ∀ kind handle declaration, (handle, declaration) ∈ begunUploads kind labels →
    ∃ owner, Created kind handle owner labels
  touched : ∀ kind handle, appendedBytes kind handle labels ≠ [] →
    ∃ owner, Created kind handle owner labels
  content : ∀ kind handle declaration bytes,
    session.upload kind handle = some (declaration, bytes) →
      (handle, declaration) ∈ begunUploads kind labels ∧
        bytes = appendedBytes kind handle labels ∧ bytes.length ≤ declaration.expectedSize

/-- A step is recorded as it steps the uploads. A chunk for a new number would have been sent before
the number was given out. -/
theorem UploadsRecorded.step (h : UploadsRecorded labels session)
    (hcreated : Recorded (labels ++ [label]) session') (hsteps : ∀ kind handle,
      UploadStep kind handle (session.upload kind handle) label (session'.upload kind handle)) :
    UploadsRecorded (labels ++ [label]) session' := by
  have hbegins : ∀ kind, label.begins kind = none ∨ ∃ number declaration owner,
      label.begins kind = some (number, declaration) ∧
        label.creates kind = some (number, owner) := by
    intro kind
    cases hsteps kind 0 with
    | kept _ begins | removed _ begins | appended _ _ begins => exact .inl begins
    | begun declaration number begins creates =>
        exact .inr ⟨number, declaration, creates.choose, begins, creates.choose_spec⟩
  refine ⟨fun kind => ?_, fun kind handle declaration hmem => ?_, fun kind handle htouched => ?_,
    fun kind handle declaration bytes hupload => ?_⟩
  · rw [begunUploads_snoc, List.map_append]
    rcases hbegins kind with hnone | ⟨number, declaration, owner, hbegun, hcreates⟩
    · rw [hnone]
      exact (List.append_nil _).symm ▸ h.nodup kind
    · rw [hbegun]
      apply List.nodup_append.mpr
      refine ⟨h.nodup kind, List.nodup_singleton _, fun other hother last hlast heq => ?_⟩
      obtain rfl : last = number := List.mem_singleton.mp hlast
      obtain ⟨⟨first, earlier⟩, hearlier, hfirst⟩ := List.mem_map.mp hother
      obtain rfl : first = last := hfirst.trans heq
      obtain ⟨creator, hcreator⟩ := h.declared kind first earlier hearlier
      exact fresh_of_recorded hcreated hcreates creator hcreator
  · rw [begunUploads_snoc, List.mem_append] at hmem
    rcases hmem with hmem | hmem
    · exact (h.declared kind handle declaration hmem).imp fun _ hcreated => hcreated.mono _
    · rcases hbegins kind with hnone | ⟨number, begun, owner, hbegun, hcreates⟩
      · rw [hnone] at hmem
        cases hmem
      · rw [hbegun] at hmem
        cases List.mem_singleton.mp hmem
        exact ⟨owner, List.mem_filterMap.mpr
          ⟨_, List.mem_append_right _ (List.mem_singleton_self _), hcreates⟩⟩
  · rw [appendedBytes_snoc] at htouched
    have hearlier : ∃ owner, Created kind handle owner labels := by
      cases hsteps kind handle with
      | kept _ _ appends | removed _ _ appends | begun _ _ _ _ _ appends =>
          rw [appends, List.append_nil] at htouched
          exact h.touched kind handle htouched
      | appended declaration bytes _ found =>
          obtain ⟨hbegun, -⟩ := h.content kind handle declaration bytes found
          exact h.declared kind handle declaration hbegun
    exact hearlier.imp fun _ hcreated => hcreated.mono _
  · rw [begunUploads_snoc, appendedBytes_snoc]
    cases hsteps kind handle with
    | kept same begins appends =>
        rw [begins, appends, List.append_nil]
        obtain ⟨hmem, hbytes, hfits⟩ :=
          h.content kind handle declaration bytes (same.symm.trans hupload)
        exact ⟨List.mem_append_left _ hmem, hbytes, hfits⟩
    | removed gone => cases gone.symm.trans hupload
    | begun begun number begins creates starts appends =>
        rw [begins, appends, List.append_nil]
        rw [starts] at hupload
        split at hupload
        next hsame =>
          subst hsame
          cases hupload
          obtain ⟨owner, hcreates⟩ := creates
          refine ⟨List.mem_append_right _ (List.mem_singleton_self _), ?_, Nat.zero_le _⟩
          by_contra hsent
          obtain ⟨creator, hcreator⟩ := h.touched kind handle fun hnone => hsent hnone.symm
          exact fresh_of_recorded hcreated hcreates creator hcreator
        next hother =>
          obtain ⟨hmem, hbytes, hfits⟩ := h.content kind handle declaration bytes hupload
          exact ⟨List.mem_append_left _ hmem, hbytes, hfits⟩
    | appended announced held begins found grows fits =>
        obtain ⟨hmem, hbytes, -⟩ := h.content kind handle announced held found
        cases grows.symm.trans hupload
        refine ⟨List.mem_append_left _ hmem, congrArg (· ++ _) hbytes, ?_⟩
        rw [List.length_append]
        exact fits

/-- Every run keeps the record of its uploads. -/
theorem UploadsRecorded.of_run (hinit : wasmSystem.init start)
    (hrun : wasmSystem.Run start labels session) : UploadsRecorded labels session := by
  refine Lts.Run.history_induction (P := UploadsRecorded) ?_ ?_ hrun
  · refine ⟨fun _ => List.nodup_nil, fun _ _ _ hmem => (by cases hmem),
      fun _ _ htouched => absurd rfl htouched, fun _ _ _ _ hupload => ?_⟩
    obtain ⟨_, _, _, _, _, _, _, rfl⟩ := hinit
    cases hupload
  · intro labels session label session' hbefore hrecords hstep
    have hguarded := WasmSession.guarded_of_reachable ⟨start, labels, hinit, hbefore⟩
    exact hrecords.step (.of_run hinit (hbefore.snoc hstep)) (uploadStep_of_step hguarded hstep)

/-- An upload that was created and is gone does not come back. -/
theorem upload_gone_for_good (hinit : wasmSystem.init start)
    (hrun : wasmSystem.Run start labels session) {owner : ComponentRef}
    (hcreated : Created kind handle owner labels) (hgone : session.upload kind handle = none)
    {labels' : List SessionLabel} (hrun' : wasmSystem.Run session labels' session') :
    session'.upload kind handle = none := by
  have hboth : Created kind handle owner (labels ++ labels') ∧
      session'.upload kind handle = none := by
    refine Lts.Run.history_induction (P := fun later session =>
      Created kind handle owner (labels ++ later) ∧ session.upload kind handle = none)
      ⟨by rwa [List.append_nil], hgone⟩ ?_ hrun'
    rintro later middle label next hlater ⟨hcreated, hgone⟩ hstep
    have hmiddle := hrun.append hlater
    have hguarded := WasmSession.guarded_of_reachable ⟨start, _, hinit, hmiddle⟩
    rw [← List.append_assoc]
    refine ⟨hcreated.mono _, ?_⟩
    cases uploadStep_of_step hguarded hstep kind handle with
    | kept same => exact same.trans hgone
    | removed gone => exact gone
    | appended _ _ _ found => cases hgone.symm.trans found
    | begun declaration number _ creates starts =>
        rw [starts]
        split
        next hsame =>
          obtain ⟨creator, hcreates⟩ := creates
          have hnew := Recorded.of_run hinit (hmiddle.snoc hstep)
          exact absurd hcreated (hsame ▸ fresh_of_recorded hnew hcreates owner)
        · exact hgone
  exact hboth.2

/-- In every run an upload is begun under a number of its own, and what is there is what was
appended under this number, in order and no more than was announced. A call that finishes it
is refused, or hands on exactly these bytes, all that were announced, and the upload is gone.
An upload that is gone does not come back, so that nothing is handed on twice. -/
theorem uploads_are_the_chunks_sent (hinit : wasmSystem.init start)
    (hrun : wasmSystem.Run start labels session) :
    (∀ kind, ((begunUploads kind labels).map Prod.fst).Nodup) ∧
      (∀ kind handle declaration bytes,
        session.upload kind handle = some (declaration, bytes) →
          (handle, declaration) ∈ begunUploads kind labels ∧
            bytes = appendedBytes kind handle labels ∧
            bytes.length ≤ declaration.expectedSize) ∧
      (∀ host env call kind handle, session.hostState = some host →
        call.finishes = some (kind, handle) →
          (∃ error, host.perform env call = host.refuse error) ∨
            ∃ declaration, (handle, declaration) ∈ begunUploads kind labels ∧
              (appendedBytes kind handle labels).length = declaration.expectedSize ∧
              (host.perform env call).requests =
                [⟨declaration.imports kind (appendedBytes kind handle labels), none, none⟩] ∧
              (host.perform env call).state.upload kind handle = none) ∧
      ∀ kind handle declaration, (handle, declaration) ∈ begunUploads kind labels →
        session.upload kind handle = none →
          ∀ labels' session', wasmSystem.Run session labels' session' →
            session'.upload kind handle = none := by
  have hrecords := UploadsRecorded.of_run hinit hrun
  refine ⟨hrecords.nodup, hrecords.content, fun host env call kind handle hstore hfinishes => ?_,
    fun kind handle declaration hbegun hgone labels' session' hrun' => ?_⟩
  · refine (WasmHostState.finishesUpload hfinishes).imp_right ?_
    rintro ⟨declaration, bytes, hupload, hcomplete, hrequests, hremoved⟩
    have hthere := (WasmSession.upload_of_store hstore kind handle).trans hupload
    obtain ⟨hbegun, rfl, -⟩ := hrecords.content kind handle declaration bytes hthere
    exact ⟨declaration, hbegun, hcomplete, hrequests, hremoved⟩
  · obtain ⟨owner, hcreated⟩ := hrecords.declared kind handle declaration hbegun
    exact upload_gone_for_good hinit hrun hcreated hgone hrun'

/-- A script sends three bytes in two chunks, in two callbacks. They are what it has sent, and
what is imported. -/
theorem uploads_are_the_chunks_sent_script : ∃ start labels session host,
    wasmSystem.init start ∧ wasmSystem.Run start labels session ∧
      session.hostState = some host ∧ appendedBytes .assetUpload 1 labels = [1, 2, 3] ∧
      (host.perform (answeringEnvironment hostingServices) (.finishAssetUpload 1)).requests =
        [⟨.importAsset [1, 2, 3] "image/png", none, none⟩] := by
  obtain ⟨start, labels, hinit, hregistered⟩ := reachable_providerSession
  have hpasses : providerSession.Passes (.targetEvent scriptContext) := by
    refine ⟨fun context hother => ?_, fun _ _ hother => (by cases hother)⟩
    cases hother
    decide +kernel
  have hevent := hregistered.snoc (.begin (.targetEvent scriptContext) rfl hpasses)
  have hbegun := hevent.snoc (.call (answeringEnvironment hostingServices)
    (.beginAssetUpload "image/png" 3) rfl rfl rfl)
  have hfirst := hbegun.snoc (.call (answeringEnvironment hostingServices)
    (.appendAssetUpload 1 [1, 2]) rfl rfl rfl)
  have hreturned := hfirst.snoc (.finish .returned 0 rfl rfl fun h => by cases h)
  have hagain := hreturned.snoc (.begin (.targetEvent scriptContext) rfl
    ⟨fun context hother => hpasses.scope context hother, fun _ _ h => (by cases h)⟩)
  have hsecond := hagain.snoc (.call (answeringEnvironment hostingServices)
    (.appendAssetUpload 1 [3]) rfl rfl rfl)
  obtain ⟨-, hbytes, -⟩ := (uploads_are_the_chunks_sent hinit hsecond).2.1
    .assetUpload 1 ⟨3, "image/png", none⟩ [1, 2, 3] rfl
  exact ⟨start, _, _, _, hinit, hsecond, rfl, hbytes.symm, rfl⟩

end

end Rintawa.WasmRuntime
