/-
# Resources that a user selects

A layer passes the bytes of a selected file to the host, which keeps them for as long
as it runs and hands them out to whoever shows their exact reference. The number of
resources and their bytes are bounded.
-/

import Rintawa.Host.DeferredOperations
import Rintawa.Sdk.UiNodes

namespace Rintawa.Host

open Rintawa.Lib Rintawa.Sdk

def maxUserResources : Nat := 32
def maxUserResourceBytes : Nat := 8 * 1024 * 1024
def maxUserResourceTotalBytes : Nat := 32 * 1024 * 1024
def maxUserResourceMediaTypeBytes : Nat := 128
def maxUserResourceNameBytes : Nat := 512

/-- The reference under which a resource is read. -/
structure UserResourceRef where
  id : String
  size : Nat
  mediaType : String
  name : Option String
  deriving DecidableEq

/-- A resource with its bytes. -/
structure StoredUserResource where
  reference : UserResourceRef
  bytes : List UInt8

/-- The stored resources, with their total size. -/
structure UserResourceRuntimeState where
  resources : Dict String StoredUserResource
  totalBytes : Nat

/-- The resources of a new host. -/
def UserResourceRuntimeState.empty : UserResourceRuntimeState :=
  ⟨∅, 0⟩

/-- Media types are short, in lowercase, and have two parts. -/
def acceptsMediaType (mediaType : String) : Bool :=
  mediaType ≠ "" && decide (mediaType.utf8ByteSize ≤ maxUserResourceMediaTypeBytes) &&
    mediaType == toAsciiLowercase mediaType && mediaType.toList.contains '/'

/-- File names are short and not blank, and no paths. -/
def acceptsResourceName (name : String) : Bool :=
  !isBlank name && decide (name.utf8ByteSize ≤ maxUserResourceNameBytes) &&
    !name.toList.any fun c => c == '/' || c == '\\'

namespace UserResourceRuntimeState

variable (state : UserResourceRuntimeState)

/-- Keep the bytes of a selected file under a new identifier. -/
def importResource (bytes : List UInt8) (mediaType : String) (name : Option String) (id : String) :
    UserResourceRuntimeState × Except HostAccessError UserResourceRef :=
  if bytes = [] ∨ maxUserResourceBytes < bytes.length then (state, .error .rejected)
  else if acceptsMediaType mediaType = false then (state, .error .rejected)
  else if name.any (fun name => !acceptsResourceName name) then (state, .error .rejected)
  else
    let nextTotal := saturatingSizeAdd state.totalBytes bytes.length
    if maxUserResources ≤ state.resources.entries.length ∨
        maxUserResourceTotalBytes < nextTotal then
      (state, .error .queueFull)
    else if (state.resources.lookup id).isSome then (state, .error .rejected)
    else
      let reference : UserResourceRef := ⟨id, bytes.length, mediaType, name⟩
      (⟨state.resources.insert id ⟨reference, bytes⟩, nextTotal⟩, .ok reference)

/-- The bytes of a resource, which the caller bounds. -/
def read (reference : UserResourceRef) (maximumBytes : Nat) :
    Except HostAccessError (List UInt8) :=
  match state.resources.lookup reference.id with
  | none => .error .notFound
  | some resource =>
      if resource.reference ≠ reference then .error .rejected
      else if maximumBytes < resource.bytes.length then .error .rejected
      else .ok resource.bytes

/-- Forget a resource. -/
def release (reference : UserResourceRef) :
    UserResourceRuntimeState × Except HostAccessError Unit :=
  match state.resources.lookup reference.id with
  | none => (state, .error .notFound)
  | some resource =>
      if resource.reference ≠ reference then (state, .error .rejected)
      else
        (⟨state.resources.erase reference.id, state.totalBytes - resource.bytes.length⟩, .ok ())

end UserResourceRuntimeState

/-- What is visible of one use of the resources. -/
inductive ResourceLabel
  | importResource (bytes : List UInt8) (mediaType : String) (name : Option String)
      (result : Except HostAccessError UserResourceRef)
  | read (reference : UserResourceRef) (maximumBytes : Nat)
      (result : Except HostAccessError (List UInt8))
  | release (reference : UserResourceRef) (result : Except HostAccessError Unit)

/-- One use of the resources. -/
inductive ResourceStep :
    UserResourceRuntimeState → ResourceLabel → UserResourceRuntimeState → Prop
  | importResource {state : UserResourceRuntimeState} {bytes : List UInt8} {mediaType : String}
      {name : Option String} {id : String} :
      ResourceStep state
        (.importResource bytes mediaType name
          (state.importResource bytes mediaType name id).2)
        (state.importResource bytes mediaType name id).1
  | read {state : UserResourceRuntimeState} {reference : UserResourceRef}
      {maximumBytes : Nat} :
      ResourceStep state (.read reference maximumBytes (state.read reference maximumBytes)) state
  | release {state : UserResourceRuntimeState} {reference : UserResourceRef} :
      ResourceStep state (.release reference (state.release reference).2)
        (state.release reference).1

/-- The uses of the resources of a host. -/
def resourceSystem : Lts UserResourceRuntimeState ResourceLabel where
  init state := state = .empty
  step := ResourceStep

/-- The accounts of the resources: their bytes are counted exactly, and the limits hold.
Each resource stands under the identifier of its reference, which has its size. -/
structure ResourcesAccounted (state : UserResourceRuntimeState) : Prop where
  total : state.totalBytes =
    (state.resources.values.map fun resource => resource.bytes.length).sum
  totalBounded : state.totalBytes ≤ maxUserResourceTotalBytes
  bounded : state.resources.entries.length ≤ maxUserResources
  referenced : ∀ id resource, state.resources.lookup id = some resource →
    resource.reference.id = id ∧ resource.reference.size = resource.bytes.length

namespace ResourcesAccounted

variable {state : UserResourceRuntimeState}

/-- A new host has no resources. -/
theorem empty : ResourcesAccounted .empty where
  total := rfl
  totalBounded := Nat.zero_le _
  bounded := Nat.zero_le _
  referenced id resource hlookup := by cases hlookup

/-- Imports keep the accounts, and a refused one changes nothing. -/
theorem importResource (h : ResourcesAccounted state) (bytes : List UInt8) (mediaType : String)
    (name : Option String) (id : String) :
    ResourcesAccounted (state.importResource bytes mediaType name id).1 ∧
      ∀ error, (state.importResource bytes mediaType name id).2 = .error error →
        (state.importResource bytes mediaType name id).1 = state := by
  unfold UserResourceRuntimeState.importResource
  dsimp only
  split
  · exact ⟨h, fun _ _ => rfl⟩
  split
  · exact ⟨h, fun _ _ => rfl⟩
  split
  · exact ⟨h, fun _ _ => rfl⟩
  split
  · exact ⟨h, fun _ _ => rfl⟩
  next hopen =>
  split
  · exact ⟨h, fun _ _ => rfl⟩
  next hfresh =>
  have hfresh := Option.not_isSome_iff_eq_none.mp hfresh
  obtain ⟨hcount, hbytes⟩ := not_or.mp hopen
  have hbytes := Nat.le_of_not_lt hbytes
  refine ⟨⟨?_, hbytes, ?_, ?_⟩, fun _ herror => by cases herror⟩
  · change saturatingSizeAdd _ _ = _
    rw [saturatingSizeAdd_eq (by decide) hbytes, h.total, Dict.values_insert hfresh,
      List.map_cons, List.sum_cons, Nat.add_comm]
  · rw [Dict.length_insert, hfresh]
    exact Nat.lt_of_not_le hcount
  · intro other resource hlookup
    rw [Dict.lookup_insert_ite] at hlookup
    split at hlookup
    · next hsame =>
        cases hlookup
        exact ⟨hsame.symm, rfl⟩
    · exact h.referenced other resource hlookup

/-- Releases keep the accounts, and a refused one changes nothing. -/
theorem release (h : ResourcesAccounted state) (reference : UserResourceRef) :
    ResourcesAccounted (state.release reference).1 ∧
      ∀ error, (state.release reference).2 = .error error →
        (state.release reference).1 = state := by
  unfold UserResourceRuntimeState.release
  split
  · exact ⟨h, fun _ _ => rfl⟩
  next resource hlookup =>
  split
  · exact ⟨h, fun _ _ => rfl⟩
  have hsum := ((Dict.values_erase hlookup).map fun resource => resource.bytes.length).sum_nat
  rw [List.map_cons, List.sum_cons] at hsum
  refine ⟨⟨?_, ?_, ?_, ?_⟩, fun _ herror => by cases herror⟩
  · change state.totalBytes - resource.bytes.length = _
    rw [h.total, hsum, Nat.add_sub_cancel_left]
  · exact (Nat.sub_le _ _).trans h.totalBounded
  · exact (List.kerase_sublist reference.id state.resources.entries).length_le.trans h.bounded
  · intro other resource hother
    rw [Dict.lookup_erase_ite] at hother
    split at hother
    · cases hother
    · exact h.referenced other resource hother

end ResourcesAccounted

/-- What every use of the resources keeps: the accounts hold after it, and a refused one
changes nothing. -/
structure KeepsResources (_ : List ResourceLabel) (state : UserResourceRuntimeState)
    (label : ResourceLabel) (state' : UserResourceRuntimeState) : Prop where
  accounted : ResourcesAccounted state'
  refused : ∀ bytes mediaType name error,
    label = .importResource bytes mediaType name (.error error) → state' = state

/-- One use of resources whose accounts are in order. -/
theorem ResourceStep.keeps {state state' : UserResourceRuntimeState} {label : ResourceLabel}
    (hstep : ResourceStep state label state') (h : ResourcesAccounted state)
    (history : List ResourceLabel) : KeepsResources history state label state' := by
  cases hstep with
  | @importResource bytes mediaType name id =>
      obtain ⟨haccounted, hrefused⟩ := h.importResource bytes mediaType name id
      refine ⟨haccounted, fun _ _ _ error hlabel => ?_⟩
      injection hlabel with _ _ _ hresult
      exact hrefused error hresult
  | read => exact ⟨h, fun _ _ _ _ _ => rfl⟩
  | release => exact ⟨(h.release _).1, fun _ _ _ _ hlabel => by cases hlabel⟩

/-- In every run the accounts of the resources are in order. -/
theorem resourcesAccounted_run {labels : List ResourceLabel} {state : UserResourceRuntimeState}
    (hrun : resourceSystem.Run .empty labels state) : ResourcesAccounted state := by
  refine Lts.Run.preserves (P := ResourcesAccounted) ?_ hrun .empty
  intro state label state' haccounted hstep
  exact (ResourceStep.keeps hstep haccounted []).accounted

/-! ## Bounded stores -/

/-- Every use of the three stores of deferred work keeps their accounts: what is counted
is what is stored, within the limits; operations without an outcome are pending for their
requesters, and outcomes go in the order in which they came. -/
theorem deferred_stores_bounded :
    (∀ labels use,
      (deferredSystem UserContentSummary userContentWriteRuntimeControl).Run .start labels use →
      (deferredSystem UserContentSummary userContentWriteRuntimeControl).RunWith
        (KeepsAccounts userContentWriteRuntimeControl) .start labels use) ∧
    (∀ labels use,
      (deferredSystem WorldProjectionReadView worldProjectionRuntimeControl).Run
        .start labels use →
      (deferredSystem WorldProjectionReadView worldProjectionRuntimeControl).RunWith
        (KeepsAccounts worldProjectionRuntimeControl) .start labels use) ∧
    ∀ labels state, resourceSystem.Run .empty labels state →
      resourceSystem.RunWith KeepsResources .empty labels state := by
  refine ⟨fun labels use hrun => ?_, fun labels use hrun => ?_, fun labels state hrun => ?_⟩
  · refine hrun.runWith fun history use label use' hbefore hstep => ?_
    exact DeferredStep.keeps (by decide) hstep (accounted_run (by decide) hbefore)
  · refine hrun.runWith fun history use label use' hbefore hstep => ?_
    exact DeferredStep.keeps (by decide) hstep (accounted_run (by decide) hbefore)
  · refine hrun.runWith fun history state label state' hbefore hstep => ?_
    exact ResourceStep.keeps hstep (resourcesAccounted_run hbefore) history

/-- A component that writes user content. -/
def editor : ComponentRef := ⟨⟨"editor"⟩, ⟨"main"⟩⟩

/-- Another component, which has work of its own. -/
def viewer : ComponentRef := ⟨⟨"viewer"⟩, ⟨"main"⟩⟩

/-- Two components write, and a third write has an identifier that is taken. The host drains the
queue and records the second outcome first, and each component asks for it. -/
def writeLabels :
    List (DeferredLabel DeferredUserContentWrite UserContentSummary HostAccessError) :=
  [.request editor ⟨.import, [1, 2]⟩ "w1" (.ok "w1"),
    .request viewer ⟨.import, [3]⟩ "w2" (.ok "w2"),
    .request viewer ⟨.import, [4]⟩ "w1" (.error .rejected),
    .drain [⟨"w1", ⟨.import, [1, 2]⟩⟩, ⟨"w2", ⟨.import, [3]⟩⟩],
    .record "w2" (.failed "invalid archive") (.ok ()),
    .status viewer "w2" (.ok (.failed "invalid archive")), .status editor "w2" (.error .notFound),
    .status editor "w1" (.ok .pending)]

/-- This history is one of a run. -/
theorem run_writeLabels : ∃ use,
    (deferredSystem UserContentSummary userContentWriteRuntimeControl).Run .start writeLabels
      use :=
  ⟨_, .cons .request <| .cons .request <| .cons .request <| .cons .drain <|
    .cons (@DeferredStep.record _ _ _ userContentWriteRuntimeControl _
      [⟨"w1", ⟨.import, [1, 2]⟩⟩] [] ⟨"w2", ⟨.import, [3]⟩⟩ (.failed "invalid archive") rfl
      fun hpending => by cases hpending) <|
    .cons .status <| .cons .status <| .single .status⟩

/-- A read of a projection without input. -/
def emptyRead : DeferredWorldProjectionRead :=
  ⟨⟨⟨0, Nat.two_pow_pos 128⟩⟩,
    ⟨⟨"demo.view"⟩, ⟨1, Nat.one_pos, Nat.one_lt_two_pow (Nat.succ_ne_zero 31)⟩⟩,
    ⟨⟨0, Nat.two_pow_pos 128⟩⟩, .null⟩

/-- What the host answers to it. -/
def emptyView : WorldProjectionReadView :=
  ⟨"0", 3, "demo.view@1", [110]⟩

/-- A component reads a projection, and the host answers it. -/
def readLabels : List
    (DeferredLabel DeferredWorldProjectionRead WorldProjectionReadView
      WorldProjectionAccessError) :=
  [.request viewer emptyRead "r1" (.ok "r1"), .drain [⟨"r1", emptyRead⟩],
    .record "r1" (.succeeded emptyView) (.ok ()),
    .status viewer "r1" (.ok (.succeeded emptyView))]

/-- This history is one of a run. -/
theorem run_readLabels : ∃ use,
    (deferredSystem WorldProjectionReadView worldProjectionRuntimeControl).Run .start readLabels
      use :=
  ⟨_, .cons .request <| .cons .drain <|
    .cons (@DeferredStep.record _ _ _ worldProjectionRuntimeControl _ [] [] ⟨"r1", emptyRead⟩
      (.succeeded emptyView) rfl fun hpending => by cases hpending) <|
    .single .status⟩

/-- A user selects an image. An empty one is refused, and the image is read and released. -/
def imageLabels : List ResourceLabel :=
  let image : UserResourceRef := ⟨"i1", 2, "image/png", some "face.png"⟩
  [.importResource [137, 80] "image/png" (some "face.png") (.ok image),
    .importResource [] "image/png" none (.error .rejected),
    .read image 16 (.ok [137, 80]), .read image 1 (.error .rejected), .release image (.ok ())]

/-- This history is one of a run. -/
theorem run_imageLabels : ∃ state, resourceSystem.Run .empty imageLabels state :=
  ⟨_, .cons (@ResourceStep.importResource _ _ _ _ "i1") <|
    .cons (@ResourceStep.importResource _ _ _ _ "i2") <| .cons .read <| .cons .read <|
    .single .release⟩

/-- In these runs every use keeps the accounts. -/
theorem deferred_stores_bounded_demo :
    (∃ use, (deferredSystem UserContentSummary userContentWriteRuntimeControl).RunWith
      (KeepsAccounts userContentWriteRuntimeControl) .start writeLabels use) ∧
    (∃ use, (deferredSystem WorldProjectionReadView worldProjectionRuntimeControl).RunWith
      (KeepsAccounts worldProjectionRuntimeControl) .start readLabels use) ∧
    ∃ state, resourceSystem.RunWith KeepsResources .empty imageLabels state := by
  obtain ⟨use, hwrites⟩ := run_writeLabels
  obtain ⟨view, hreads⟩ := run_readLabels
  obtain ⟨state, himages⟩ := run_imageLabels
  obtain ⟨hkeepsWrites, hkeepsReads, hkeepsImages⟩ := deferred_stores_bounded
  exact ⟨⟨use, hkeepsWrites _ _ hwrites⟩, ⟨view, hkeepsReads _ _ hreads⟩,
    ⟨state, hkeepsImages _ _ himages⟩⟩

end Rintawa.Host
