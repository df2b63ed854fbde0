/-
# Deferred operations

Components hand operations to the host, which carries them out once their callback
has returned. The control behind this keeps the operations in a queue with a bounded
number of bytes, and a status for each of them that only its requester may read. The
outcomes of operations are kept until their room is needed, the oldest going first.

User-content writes and projection reads have each their own control, and these
differ only in their limits, in what they queue, and in whether they count bytes.
-/

import Mathlib.Algebra.GroupWithZero.Nat
import Mathlib.Data.List.Perm.Basic
import Rintawa.Host.WorldSessions
import Rintawa.Sdk.Contracts

namespace Rintawa.Host

open Rintawa.Lib Rintawa.Sdk

/-- The largest size on a platform of 64 bits. -/
def usizeMax : Nat := 18446744073709551615

/-- Addition of sizes that stops at the largest one. -/
def saturatingSizeAdd (a b : Nat) : Nat :=
  min (a + b) usizeMax

variable {limit : Nat}

/-- Sizes do not reach the largest number. -/
theorem saturatingSizeAdd_eq {a b : Nat} (hlimit : limit < usizeMax)
    (h : saturatingSizeAdd a b ≤ limit) : saturatingSizeAdd a b = a + b := by
  unfold saturatingSizeAdd at h ⊢
  omega

/-! ## The control -/

/-- The state of one operation. -/
inductive DeferredStatus (View : Type)
  | pending
  | succeeded (view : View)
  | failed (diagnostic : String)
  deriving DecidableEq

/-- A status with the component that may read it. -/
structure OwnedStatus (View : Type) where
  owner : ComponentRef
  status : DeferredStatus View
  deriving DecidableEq

/-- An operation in the queue. -/
structure DeferredOperation (Work : Type) where
  operationId : String
  work : Work
  deriving DecidableEq

/-- What a control keeps. -/
structure DeferredState (Work View : Type) where
  queue : List (DeferredOperation Work)
  pendingBytes : Nat
  statuses : Dict String (OwnedStatus View)
  completed : List String

/-- The control of a new host. -/
def DeferredState.empty {Work View : Type} : DeferredState Work View :=
  ⟨[], 0, ∅, []⟩

/-- Failures of a control that stop a pump of the host. -/
inductive ControlError
  | userContentWriteControlUnavailable
  | worldProjectionControlUnavailable
  deriving DecidableEq, Repr

/-- What distinguishes the controls from each other. -/
structure DeferredKind (Work Error : Type) where
  maxPending : Nat
  size : Work → Nat
  maxPendingBytes : Nat
  maxRetainedStatuses : Nat
  queueFull : Error
  rejected : Error
  notFound : Error
  controlUnavailable : ControlError

/-- The statuses and outcomes that are left when room has been made, and whether it
could be made. -/
structure Evicted (View : Type) where
  statuses : Dict String (OwnedStatus View)
  completed : List String
  roomy : Bool

/-- Drop the oldest outcomes until fewer statuses than a limit are left. -/
def evict {View : Type} (limit : Nat) (statuses : Dict String (OwnedStatus View)) :
    List String → Evicted View
  | [] => ⟨statuses, [], decide (statuses.entries.length < limit)⟩
  | expired :: rest =>
      if limit ≤ statuses.entries.length then evict limit (statuses.erase expired) rest
      else ⟨statuses, expired :: rest, true⟩

namespace DeferredState

variable {Work View Error : Type} (kind : DeferredKind Work Error)
  (control : DeferredState Work View)

/-- Accept an operation under a new identifier. Outcomes that were dropped for it stay
dropped when it is refused in the end. -/
def request (owner : ComponentRef) (work : Work) (operationId : String) :
    DeferredState Work View × Except Error String :=
  let pendingBytes := saturatingSizeAdd control.pendingBytes (kind.size work)
  if kind.maxPending ≤ control.queue.length ∨ kind.maxPendingBytes < pendingBytes then
    (control, .error kind.queueFull)
  else
    let room := evict kind.maxRetainedStatuses control.statuses control.completed
    let control' := { control with statuses := room.statuses, completed := room.completed }
    if room.roomy = false then (control', .error kind.queueFull)
    else if (room.statuses.lookup operationId).isSome then (control', .error kind.rejected)
    else
      ({ queue := control.queue ++ [⟨operationId, work⟩]
         pendingBytes := pendingBytes
         statuses := room.statuses.insert operationId ⟨owner, .pending⟩
         completed := room.completed }, .ok operationId)

/-- The status of an operation, for its requester alone. -/
def status (owner : ComponentRef) (operationId : String) :
    Except Error (DeferredStatus View) :=
  match control.statuses.lookup operationId with
  | none => .error kind.notFound
  | some operation =>
      if operation.owner = owner then .ok operation.status else .error kind.notFound

/-- Take the queue. -/
def drainPending : DeferredState Work View × List (DeferredOperation Work) :=
  ({ control with queue := [], pendingBytes := 0 }, control.queue)

/-- Record the outcome of an operation. -/
def recordOutcome (operationId : String) (status : DeferredStatus View) :
    DeferredState Work View × Except ControlError Unit :=
  match control.statuses.lookup operationId with
  | none => (control, .error kind.controlUnavailable)
  | some operation =>
      let statuses := control.statuses.insert operationId { operation with status := status }
      let room := evict (kind.maxRetainedStatuses + 1) statuses
        (control.completed ++ [operationId])
      ({ control with statuses := room.statuses, completed := room.completed },
        if room.roomy then .ok () else .error kind.controlUnavailable)

end DeferredState

/-! ## User-content writes -/

/-- The identity of an entry of the library. -/
structure UserContentId where
  intoBytes : Uuid
  deriving DecidableEq

/-- What a write does with its archive. -/
inductive DeferredUserContentWriteKind
  | import
  | replace (id : UserContentId)
  deriving DecidableEq

/-- A write of user content. -/
structure DeferredUserContentWrite where
  kind : DeferredUserContentWriteKind
  rtw : List UInt8
  deriving DecidableEq

/-- An entry of the library of user content. -/
structure UserContentSummary where
  id : String
  content : String
  revision : String
  deriving DecidableEq

/-- At most 32 writes with 64 MiB wait, and 256 statuses are kept. -/
def userContentWriteRuntimeControl : DeferredKind DeferredUserContentWrite HostAccessError where
  maxPending := 32
  size write := write.rtw.length
  maxPendingBytes := 64 * 1024 * 1024
  maxRetainedStatuses := 256
  queueFull := .queueFull
  rejected := .rejected
  notFound := .notFound
  controlUnavailable := .userContentWriteControlUnavailable

/-! ## Projection reads -/

/-- Why a projection read is refused. -/
inductive WorldProjectionAccessError
  | invalidWorldId
  | invalidSchema
  | invalidInput
  | notFound
  | worldNotActive
  | queueFull
  | rejected
  | unavailable
  deriving DecidableEq, Repr

/-- A read of a projection. -/
structure DeferredWorldProjectionRead where
  worldId : WorldId
  projectionSchema : SchemaKey
  principal : PrincipalId
  input : Json

/-- A view that a projection returned. -/
structure WorldProjectionReadView where
  worldId : String
  snapshotPosition : Nat
  schema : String
  valueJson : List UInt8
  deriving DecidableEq

/-- At most 64 reads wait, and 256 statuses are kept. The inputs are not counted. -/
def worldProjectionRuntimeControl :
    DeferredKind DeferredWorldProjectionRead WorldProjectionAccessError where
  maxPending := 64
  size _ := 0
  maxPendingBytes := 0
  maxRetainedStatuses := 256
  queueFull := .queueFull
  rejected := .rejected
  notFound := .notFound
  controlUnavailable := .worldProjectionControlUnavailable

/-! ## Uses of a control -/

/-- A control with the operations that were drained and have no outcome yet. -/
structure DeferredUse (Work View : Type) where
  control : DeferredState Work View
  outstanding : List (DeferredOperation Work)

/-- A new control. -/
def DeferredUse.start {Work View : Type} : DeferredUse Work View :=
  ⟨.empty, []⟩

/-- The identifiers of the operations without an outcome. -/
def DeferredUse.live {Work View : Type} (use : DeferredUse Work View) : List String :=
  (use.control.queue ++ use.outstanding).map fun operation => operation.operationId

/-- What is visible of one use. -/
inductive DeferredLabel (Work View Error : Type)
  | request (owner : ComponentRef) (work : Work) (operationId : String)
      (result : Except Error String)
  | status (owner : ComponentRef) (operationId : String)
      (result : Except Error (DeferredStatus View))
  | drain (operations : List (DeferredOperation Work))
  | record (operationId : String) (status : DeferredStatus View)
      (result : Except ControlError Unit)

section

variable {Work View Error : Type}

/-- One use. Outcomes are recorded once for each drained operation, in any order. -/
inductive DeferredStep (kind : DeferredKind Work Error) :
    DeferredUse Work View → DeferredLabel Work View Error → DeferredUse Work View → Prop
  | request {use : DeferredUse Work View} {owner : ComponentRef} {work : Work}
      {operationId : String} :
      DeferredStep kind use
        (.request owner work operationId (use.control.request kind owner work operationId).2)
        { use with control := (use.control.request kind owner work operationId).1 }
  | status {use : DeferredUse Work View} {owner : ComponentRef} {operationId : String} :
      DeferredStep kind use
        (.status owner operationId (use.control.status kind owner operationId)) use
  | drain {use : DeferredUse Work View} :
      DeferredStep kind use (.drain use.control.drainPending.2)
        ⟨use.control.drainPending.1, use.outstanding ++ use.control.drainPending.2⟩
  | record {use : DeferredUse Work View} {before after : List (DeferredOperation Work)}
      {operation : DeferredOperation Work} {status : DeferredStatus View}
      (drained : use.outstanding = before ++ operation :: after)
      (done : status ≠ .pending) :
      DeferredStep kind use
        (.record operation.operationId status
          (use.control.recordOutcome kind operation.operationId status).2)
        ⟨(use.control.recordOutcome kind operation.operationId status).1, before ++ after⟩

/-- The uses of one control. -/
def deferredSystem (View : Type) (kind : DeferredKind Work Error) :
    Lts (DeferredUse Work View) (DeferredLabel Work View Error) where
  init use := use = .start
  step := DeferredStep kind

/-! ## What the history says -/

/-- The component that requested an operation. -/
def requesterOf (history : List (DeferredLabel Work View Error)) (operationId : String) :
    Option ComponentRef :=
  history.foldl (fun requester label =>
    match label with
    | .request owner _ other (.ok _) => if other = operationId then some owner else requester
    | _ => requester) none

/-- The outcomes in the order in which they were recorded. -/
def recordedOutcomes (history : List (DeferredLabel Work View Error)) :
    List (String × DeferredStatus View) :=
  history.filterMap fun label =>
    match label with
    | .record operationId status (.ok ()) => some (operationId, status)
    | _ => none

/-- The statuses follow a history: each belongs to the requester of its operation, the
pending ones are those of the operations without an outcome, and the others are the
latest of the recorded outcomes. -/
structure Tracks (statuses : Dict String (OwnedStatus View)) (completed live : List String)
    (requester : String → Option ComponentRef)
    (recorded : List (String × DeferredStatus View)) : Prop where
  owned : ∀ operationId operation, statuses.lookup operationId = some operation →
    requester operationId = some operation.owner
  pending : ∀ operationId, operationId ∈ live ↔
    ∃ owner, statuses.lookup operationId = some ⟨owner, .pending⟩
  latest : ∃ evicted kept, recorded = evicted ++ kept ∧ kept.map Prod.fst = completed ∧
    ∀ operationId status, (operationId, status) ∈ kept ↔
      status ≠ .pending ∧ ∃ owner, statuses.lookup operationId = some ⟨owner, status⟩
  distinct : live.Nodup
  once : completed.Nodup

/-- The accounts of a control: its bytes are those of the queue, its limits hold, and its
statuses follow the history. -/
structure Accounted (kind : DeferredKind Work Error)
    (history : List (DeferredLabel Work View Error)) (use : DeferredUse Work View) : Prop where
  bytes : use.control.pendingBytes =
    (use.control.queue.map fun operation => kind.size operation.work).sum
  bytesBounded : use.control.pendingBytes ≤ kind.maxPendingBytes
  queueBounded : use.control.queue.length ≤ kind.maxPending
  statusesBounded : use.control.statuses.entries.length ≤ kind.maxRetainedStatuses
  tracks : Tracks use.control.statuses use.control.completed use.live (requesterOf history)
    (recordedOutcomes history)

/-- What every use keeps: the accounts hold after it, a refused request changes neither
the queue nor its bytes, a status is only told to the requester of its operation, and the
outcome of a drained operation is taken. -/
structure KeepsAccounts (kind : DeferredKind Work Error)
    (history : List (DeferredLabel Work View Error)) (use : DeferredUse Work View)
    (label : DeferredLabel Work View Error) (use' : DeferredUse Work View) : Prop where
  accounted : Accounted kind (history ++ [label]) use'
  refused : ∀ owner work operationId error,
    label = .request owner work operationId (.error error) →
    use'.control.queue = use.control.queue ∧
      use'.control.pendingBytes = use.control.pendingBytes
  told : ∀ owner operationId result, label = .status owner operationId result →
    requesterOf history operationId ≠ some owner → result = .error kind.notFound
  taken : ∀ operationId status result, label = .record operationId status result →
    result = .ok ()

/-! ## Making room -/

/-- What survives the dropping of one outcome also survives the making of room. -/
theorem evict_induction {P : Dict String (OwnedStatus View) → List String → Prop}
    (hexpire : ∀ statuses expired rest, P statuses (expired :: rest) →
      P (statuses.erase expired) rest) {statuses : Dict String (OwnedStatus View)}
    {completed : List String} (h : P statuses completed) :
    P (evict limit statuses completed).statuses (evict limit statuses completed).completed := by
  induction completed generalizing statuses with
  | nil => exact h
  | cons expired rest ih =>
      unfold evict
      split
      · exact ih (hexpire _ _ _ h)
      · exact h

/-- Room has been made when fewer statuses than the limit are left. -/
theorem evict_roomy {statuses : Dict String (OwnedStatus View)} {completed : List String} :
    (evict limit statuses completed).roomy = true ↔
      (evict limit statuses completed).statuses.entries.length < limit := by
  induction completed generalizing statuses with
  | nil => exact decide_eq_true_iff
  | cons expired rest ih =>
      unfold evict
      split
      · exact ih
      · next hroomy => exact ⟨fun _ => Nat.lt_of_not_le hroomy, fun _ => rfl⟩

/-- Making room adds no statuses. -/
theorem evict_length_le {bound : Nat} {statuses : Dict String (OwnedStatus View)}
    {completed : List String} (h : statuses.entries.length ≤ bound) :
    (evict limit statuses completed).statuses.entries.length ≤ bound := by
  refine evict_induction (P := fun statuses _ => statuses.entries.length ≤ bound) ?_ h
  intro statuses expired rest hbound
  exact (List.kerase_sublist expired statuses.entries).length_le.trans hbound

/-- Nothing is dropped while there is room. -/
theorem evict_of_lt {statuses : Dict String (OwnedStatus View)} {completed : List String}
    (h : statuses.entries.length < limit) :
    evict limit statuses completed = ⟨statuses, completed, true⟩ := by
  cases completed with
  | nil =>
      unfold evict
      rw [decide_eq_true h]
  | cons expired rest =>
      unfold evict
      rw [if_neg (Nat.not_le_of_lt h)]

/-! ## The statuses follow the history -/

namespace Tracks

variable {statuses : Dict String (OwnedStatus View)} {completed live : List String}
  {requester : String → Option ComponentRef} {recorded : List (String × DeferredStatus View)}

/-- The order of the operations without an outcome does not matter. -/
theorem perm (h : Tracks statuses completed live requester recorded) {live' : List String}
    (hperm : live.Perm live') : Tracks statuses completed live' requester recorded where
  owned := h.owned
  pending operationId := hperm.mem_iff.symm.trans (h.pending operationId)
  latest := h.latest
  distinct := hperm.nodup_iff.mp h.distinct
  once := h.once

/-- Dropping the oldest outcome. -/
theorem expire {expired : String} {rest : List String}
    (h : Tracks statuses (expired :: rest) live requester recorded) :
    Tracks (statuses.erase expired) rest live requester recorded := by
  obtain ⟨evicted, kept, hrecorded, hkept, hlatest⟩ := h.latest
  obtain ⟨⟨operationId, outcome⟩, kept, rfl, hfirst, hrest⟩ := List.map_eq_cons_iff.mp hkept
  have hfirst : operationId = expired := hfirst
  subst hfirst
  obtain ⟨hdone, owner, hlookup⟩ := (hlatest operationId outcome).mp List.mem_cons_self
  have hfresh : operationId ∉ rest := (List.nodup_cons.mp h.once).1
  refine ⟨?_, ?_, ?_, h.distinct, (List.nodup_cons.mp h.once).2⟩
  · intro other operation hother
    rw [Dict.lookup_erase_ite] at hother
    split at hother
    · cases hother
    · exact h.owned other operation hother
  · intro other
    rw [h.pending other]
    refine exists_congr fun requester => ?_
    rw [Dict.lookup_erase_ite]
    split
    · next hsame =>
        subst hsame
        rw [hlookup]
        refine iff_of_false (fun heq => ?_) fun heq => by cases heq
        cases heq
        exact hdone rfl
    · rfl
  · refine ⟨evicted ++ [(operationId, outcome)], kept, ?_, hrest, ?_⟩
    · rw [hrecorded, List.append_assoc]
      rfl
    · intro other status
      rw [Dict.lookup_erase_ite]
      split
      · next hsame =>
          subst hsame
          refine iff_of_false (fun hmem => hfresh ?_) fun hsome => ?_
          · rw [← hrest]
            exact List.mem_map_of_mem hmem
          · obtain ⟨-, _, hnone⟩ := hsome
            cases hnone
      · next hother =>
          rw [← hlatest other status, List.mem_cons]
          refine ⟨.inr, fun hmem => hmem.resolve_left fun heq => hother ?_⟩
          exact congrArg Prod.fst heq

/-- Making room. -/
theorem evict (h : Tracks statuses completed live requester recorded) (limit : Nat) :
    Tracks (Host.evict limit statuses completed).statuses
      (Host.evict limit statuses completed).completed live requester recorded :=
  evict_induction (P := fun statuses completed =>
    Tracks statuses completed live requester recorded) (fun _ _ _ => expire) h

/-- A new operation. -/
theorem accept (h : Tracks statuses completed live requester recorded) {operationId : String}
    {owner : ComponentRef} (hfresh : statuses.lookup operationId = none)
    {requester' : String → Option ComponentRef}
    (hrequester : ∀ other, requester' other =
      if operationId = other then some owner else requester other) :
    Tracks (statuses.insert operationId ⟨owner, .pending⟩) completed (operationId :: live)
      requester' recorded := by
  have hnew : operationId ∉ live := by
    intro hmem
    obtain ⟨other, hlookup⟩ := (h.pending operationId).mp hmem
    rw [hfresh] at hlookup
    cases hlookup
  obtain ⟨evicted, kept, hrecorded, hkept, hlatest⟩ := h.latest
  refine ⟨?_, ?_, ⟨evicted, kept, hrecorded, hkept, ?_⟩, List.nodup_cons.mpr ⟨hnew, h.distinct⟩,
    h.once⟩
  · intro other operation hlookup
    rw [Dict.lookup_insert_ite] at hlookup
    rw [hrequester]
    split at hlookup
    · next hsame =>
        cases hlookup
        rw [if_pos hsame.symm]
    · next hother =>
        rw [if_neg (Ne.symm hother)]
        exact h.owned other operation hlookup
  · intro other
    rw [Dict.lookup_insert_ite, List.mem_cons]
    split
    · next hsame => exact iff_of_true (.inl hsame) ⟨owner, rfl⟩
    · next hother => rw [or_iff_right hother, h.pending other]
  · intro other status
    rw [hlatest other status, Dict.lookup_insert_ite]
    split
    · next hsame =>
        subst hsame
        rw [hfresh]
        refine iff_of_false (fun hsome => ?_) fun hsome => ?_
        · obtain ⟨-, _, hlookup⟩ := hsome
          cases hlookup
        · obtain ⟨hdone, _, hlookup⟩ := hsome
          cases hlookup
          exact hdone rfl
    · rfl

/-- The outcome of an operation. -/
theorem record {operationId : String} {operation : OwnedStatus View}
    {status : DeferredStatus View}
    (h : Tracks statuses completed (operationId :: live) requester recorded)
    (hlookup : statuses.lookup operationId = some operation) (hdone : status ≠ .pending) :
    Tracks (statuses.insert operationId { operation with status := status })
      (completed ++ [operationId]) live requester (recorded ++ [(operationId, status)]) := by
  obtain ⟨hnew, hdistinct⟩ := List.nodup_cons.mp h.distinct
  obtain ⟨evicted, kept, hrecorded, hkept, hlatest⟩ := h.latest
  obtain ⟨owner, hpending⟩ := (h.pending operationId).mp List.mem_cons_self
  have hopen : ∀ outcome, (operationId, outcome) ∉ kept := by
    intro outcome hmem
    obtain ⟨houtcome, _, hlookup'⟩ := (hlatest operationId outcome).mp hmem
    rw [hpending] at hlookup'
    cases hlookup'
    exact houtcome rfl
  have hfresh : operationId ∉ completed := by
    rw [← hkept]
    intro hmem
    obtain ⟨⟨_, outcome⟩, hentry, rfl⟩ := List.mem_map.mp hmem
    exact hopen outcome hentry
  refine ⟨?_, ?_, ⟨evicted, kept ++ [(operationId, status)], ?_, ?_, ?_⟩, hdistinct, ?_⟩
  · intro other stored hstored
    rw [Dict.lookup_insert_ite] at hstored
    split at hstored
    · next hsame =>
        subst hsame
        cases hstored
        exact h.owned other operation hlookup
    · exact h.owned other stored hstored
  · intro other
    have hother := h.pending other
    rw [List.mem_cons] at hother
    rw [Dict.lookup_insert_ite]
    split
    · next hsame =>
        subst hsame
        refine iff_of_false hnew fun hsome => ?_
        obtain ⟨_, heq⟩ := hsome
        cases heq
        exact hdone rfl
    · next hdiffers => rw [← hother, or_iff_right hdiffers]
  · rw [hrecorded, List.append_assoc]
  · rw [List.map_append, hkept]
    rfl
  · intro other outcome
    rw [List.mem_append, List.mem_singleton, Dict.lookup_insert_ite]
    split
    · next hsame =>
        subst hsame
        rw [or_iff_right (hopen outcome)]
        constructor
        · intro heq
          cases heq
          exact ⟨hdone, _, rfl⟩
        · rintro ⟨-, _, heq⟩
          cases heq
          rfl
    · next hdiffers =>
        rw [← hlatest other outcome]
        refine or_iff_left fun heq => hdiffers ?_
        exact congrArg Prod.fst heq
  · exact List.nodup_append.mpr ⟨h.once, List.nodup_singleton _, fun a ha b hb heq => by
      subst heq
      exact hfresh (List.mem_singleton.mp hb ▸ ha)⟩

end Tracks

/-! ## Every use keeps the accounts -/

theorem requesterOf_snoc (history : List (DeferredLabel Work View Error))
    (label : DeferredLabel Work View Error) (operationId : String) :
    requesterOf (history ++ [label]) operationId =
      match label with
      | .request owner _ other (.ok _) =>
          if other = operationId then some owner else requesterOf history operationId
      | _ => requesterOf history operationId := by
  rw [requesterOf, List.foldl_append]
  rfl

theorem recordedOutcomes_snoc (history : List (DeferredLabel Work View Error))
    (label : DeferredLabel Work View Error) :
    recordedOutcomes (history ++ [label]) = recordedOutcomes history ++
      (match label with
      | .record operationId status (.ok ()) => [(operationId, status)]
      | _ => []) := by
  rw [recordedOutcomes, List.filterMap_append]
  congr 1
  cases label with
  | record operationId status result =>
      cases result with
      | ok value => rfl
      | error error => rfl
  | _ => rfl

/-- Labels that neither accept an operation nor record an outcome change nothing. -/
theorem Tracks.silent {statuses : Dict String (OwnedStatus View)} {completed live : List String}
    {history : List (DeferredLabel Work View Error)}
    (h : Tracks statuses completed live (requesterOf history) (recordedOutcomes history))
    {label : DeferredLabel Work View Error}
    (hrequester : ∀ operationId,
      requesterOf (history ++ [label]) operationId = requesterOf history operationId)
    (hrecorded : recordedOutcomes (history ++ [label]) = recordedOutcomes history ++ []) :
    Tracks statuses completed live (requesterOf (history ++ [label]))
      (recordedOutcomes (history ++ [label])) := by
  rw [hrecorded, List.append_nil, funext hrequester]
  exact h

namespace Accounted

variable {kind : DeferredKind Work Error} {history : List (DeferredLabel Work View Error)}
  {use : DeferredUse Work View}

/-- A new control has its accounts in order. -/
theorem start : Accounted kind ([] : List (DeferredLabel Work View Error)) .start where
  bytes := rfl
  bytesBounded := Nat.zero_le _
  queueBounded := Nat.zero_le _
  statusesBounded := Nat.zero_le _
  tracks := {
    owned := fun operationId operation hlookup => by cases hlookup
    pending := fun operationId =>
      iff_of_false List.not_mem_nil fun hsome => by
        obtain ⟨_, hlookup⟩ := hsome
        cases hlookup
    latest := ⟨[], [], rfl, rfl, fun operationId status =>
      iff_of_false List.not_mem_nil fun hsome => by
        obtain ⟨-, _, hlookup⟩ := hsome
        cases hlookup⟩
    distinct := List.nodup_nil
    once := List.nodup_nil }

/-- Requests keep the accounts, and a refused one leaves the queue as it is. -/
theorem request (h : Accounted kind history use) (hlimit : kind.maxPendingBytes < usizeMax)
    (owner : ComponentRef) (work : Work) (operationId : String) :
    Accounted kind
        (history ++ [.request owner work operationId
          (use.control.request kind owner work operationId).2])
        { use with control := (use.control.request kind owner work operationId).1 } ∧
      ∀ error, (use.control.request kind owner work operationId).2 = .error error →
        (use.control.request kind owner work operationId).1.queue = use.control.queue ∧
          (use.control.request kind owner work operationId).1.pendingBytes =
            use.control.pendingBytes := by
  have hroom := h.tracks.evict kind.maxRetainedStatuses
  have hlength : (Host.evict kind.maxRetainedStatuses use.control.statuses
      use.control.completed).statuses.entries.length ≤ kind.maxRetainedStatuses :=
    evict_length_le h.statusesBounded
  unfold DeferredState.request
  dsimp only
  split
  · -- The queue is full.
    exact ⟨⟨h.bytes, h.bytesBounded, h.queueBounded, h.statusesBounded,
      h.tracks.silent (requesterOf_snoc history _) (recordedOutcomes_snoc history _)⟩,
      fun _ _ => ⟨rfl, rfl⟩⟩
  · next hopen =>
      split
      · -- No outcome is left to drop.
        exact ⟨⟨h.bytes, h.bytesBounded, h.queueBounded, hlength,
          hroom.silent (requesterOf_snoc history _) (recordedOutcomes_snoc history _)⟩,
          fun _ _ => ⟨rfl, rfl⟩⟩
      · next hmade =>
          split
          · -- The identifier is in use.
            exact ⟨⟨h.bytes, h.bytesBounded, h.queueBounded, hlength,
              hroom.silent (requesterOf_snoc history _) (recordedOutcomes_snoc history _)⟩,
              fun _ _ => ⟨rfl, rfl⟩⟩
          · next hfresh =>
              have hfresh := Option.not_isSome_iff_eq_none.mp hfresh
              have hroomy := evict_roomy.mp (Bool.not_eq_false _ ▸ hmade)
              obtain ⟨hqueue, hbytes⟩ := not_or.mp hopen
              have hbytes := Nat.le_of_not_lt hbytes
              refine ⟨⟨?_, hbytes, ?_, ?_, ?_⟩, fun _ herror => by cases herror⟩
              · change saturatingSizeAdd _ _ = _
                rw [saturatingSizeAdd_eq hlimit hbytes, h.bytes]
                simp
              · change (use.control.queue ++ [_]).length ≤ _
                rw [List.length_append, List.length_singleton]
                omega
              · change (AList.insert _ _ _).entries.length ≤ _
                rw [Dict.length_insert, hfresh]
                exact hroomy
              · have haccepted := hroom.accept hfresh fun other =>
                  requesterOf_snoc history (.request owner work operationId (.ok operationId)) other
                rw [recordedOutcomes_snoc, List.append_nil]
                refine haccepted.perm ?_
                unfold DeferredUse.live
                simp only [List.append_assoc, List.map_append, List.singleton_append,
                  List.map_cons]
                exact List.perm_middle.symm

/-- Draining keeps the accounts. -/
theorem drain (h : Accounted kind history use) :
    Accounted kind (history ++ [.drain use.control.drainPending.2])
      ⟨use.control.drainPending.1, use.outstanding ++ use.control.drainPending.2⟩ := by
  refine ⟨rfl, Nat.zero_le _, Nat.zero_le _, h.statusesBounded, ?_⟩
  have hperm : use.live.Perm (([] ++ (use.outstanding ++ use.control.queue)).map
      DeferredOperation.operationId) := List.perm_append_comm.map _
  exact (h.tracks.perm hperm).silent (requesterOf_snoc history _)
    (recordedOutcomes_snoc history _)

/-- Recording an outcome keeps the accounts, and the outcome is taken. -/
theorem record (h : Accounted kind history use)
    {before after : List (DeferredOperation Work)} {operation : DeferredOperation Work}
    {status : DeferredStatus View}
    (hdrained : use.outstanding = before ++ operation :: after) (hdone : status ≠ .pending) :
    Accounted kind
        (history ++ [.record operation.operationId status
          (use.control.recordOutcome kind operation.operationId status).2])
        ⟨(use.control.recordOutcome kind operation.operationId status).1, before ++ after⟩ ∧
      (use.control.recordOutcome kind operation.operationId status).2 = .ok () := by
  have hperm : use.live.Perm (operation.operationId ::
      (use.control.queue ++ (before ++ after)).map fun operation => operation.operationId) := by
    unfold DeferredUse.live
    rw [hdrained, ← List.append_assoc, ← List.append_assoc]
    exact List.perm_middle.map DeferredOperation.operationId
  have htracks := h.tracks.perm hperm
  obtain ⟨owner, hlookup⟩ := (htracks.pending operation.operationId).mp List.mem_cons_self
  have hlength : (use.control.statuses.insert operation.operationId
      (⟨owner, status⟩ : OwnedStatus View)).entries.length < kind.maxRetainedStatuses + 1 := by
    rw [Dict.length_insert, hlookup]
    exact Nat.lt_succ_of_le h.statusesBounded
  have hresult : use.control.recordOutcome kind operation.operationId status =
      ({ use.control with
          statuses := use.control.statuses.insert operation.operationId ⟨owner, status⟩
          completed := use.control.completed ++ [operation.operationId] }, .ok ()) := by
    unfold DeferredState.recordOutcome
    rw [hlookup]
    dsimp only
    rw [evict_of_lt hlength]
    rfl
  rw [hresult]
  refine ⟨⟨h.bytes, h.bytesBounded, h.queueBounded, Nat.le_of_lt_succ hlength, ?_⟩, rfl⟩
  rw [recordedOutcomes_snoc, funext (requesterOf_snoc history _)]
  exact htracks.record hlookup hdone

end Accounted

/-- Only the requester of an operation is told its status. -/
theorem Tracks.told {kind : DeferredKind Work Error} {control : DeferredState Work View}
    {live : List String} {requester : String → Option ComponentRef}
    {recorded : List (String × DeferredStatus View)}
    (h : Tracks control.statuses control.completed live requester recorded)
    {owner : ComponentRef} {operationId : String} (hforeign : requester operationId ≠ some owner) :
    control.status kind owner operationId = .error kind.notFound := by
  unfold DeferredState.status
  cases hlookup : control.statuses.lookup operationId with
  | none => rfl
  | some operation =>
      have howner := h.owned operationId operation hlookup
      refine if_neg fun hsame => hforeign ?_
      rw [howner, hsame]

/-- One use of a control whose accounts are in order. -/
theorem DeferredStep.keeps {kind : DeferredKind Work Error}
    (hlimit : kind.maxPendingBytes < usizeMax) {use use' : DeferredUse Work View}
    {label : DeferredLabel Work View Error} (hstep : DeferredStep kind use label use')
    {history : List (DeferredLabel Work View Error)} (h : Accounted kind history use) :
    KeepsAccounts kind history use label use' := by
  cases hstep with
  | @request owner work operationId =>
      obtain ⟨haccounted, hrefused⟩ := h.request hlimit owner work operationId
      refine ⟨haccounted, ?_, (fun _ _ _ hlabel => by cases hlabel),
        fun _ _ _ hlabel => by cases hlabel⟩
      intro _ _ _ error hlabel
      injection hlabel with _ _ _ hresult
      exact hrefused error hresult
  | @status owner operationId =>
      refine ⟨⟨h.bytes, h.bytesBounded, h.queueBounded, h.statusesBounded,
        h.tracks.silent (requesterOf_snoc history _) (recordedOutcomes_snoc history _)⟩,
        (fun _ _ _ _ hlabel => by cases hlabel), ?_, fun _ _ _ hlabel => by cases hlabel⟩
      intro _ _ _ hlabel hforeign
      cases hlabel
      exact h.tracks.told hforeign
  | drain =>
      exact ⟨h.drain, (fun _ _ _ _ hlabel => by cases hlabel),
        (fun _ _ _ hlabel => by cases hlabel),
        fun _ _ _ hlabel => by cases hlabel⟩
  | @record before after operation status drained done =>
      obtain ⟨haccounted, htaken⟩ := h.record drained done
      refine ⟨haccounted, (fun _ _ _ _ hlabel => by cases hlabel),
        (fun _ _ _ hlabel => by cases hlabel), ?_⟩
      intro _ _ _ hlabel
      injection hlabel with _ _ hresult
      rw [← hresult, htaken]

/-- In every run the accounts are in order. -/
theorem accounted_run {kind : DeferredKind Work Error}
    (hlimit : kind.maxPendingBytes < usizeMax) {labels : List (DeferredLabel Work View Error)}
    {use : DeferredUse Work View} (hrun : (deferredSystem View kind).Run .start labels use) :
    Accounted kind labels use := by
  refine Lts.Run.history_induction (P := Accounted kind) .start ?_ hrun
  intro history use label use' _ haccounted hstep
  exact (DeferredStep.keeps hlimit hstep haccounted).accounted

end

end Rintawa.Host
