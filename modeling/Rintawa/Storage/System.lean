/-
# One world database under any sequence of requests

Every operation of every store handle is one serialized transaction, so a world
database is a transition system whose labels are requests with their replies. A
request may also fail for reasons outside the model; then nothing has changed.
The main result lists the four ways in which a step can change the database.
-/

import Rintawa.Lib.Transition
import Rintawa.Storage.CommitSpec
import Rintawa.Storage.Outbox
import Rintawa.Storage.Registration

namespace Rintawa.Storage

open Rintawa.Lib Rintawa.Sdk Rintawa.World

/-- An operation that may write to the database. -/
inductive Request
  | registerSchema (seen : List SchemaRow) (definition : SchemaDefinition)
  | registerSchemas (definitions : List SchemaDefinition)
  | commit (command : WorldCommand) (transaction : WorldTransaction)
      (evaluatedPosition : Nat) (clock : Int)
  | claimNextEffect (now leaseExpiresAt : UnixTimeMillis)
  | completeEffect (jobId : EffectJobId) (attempt : Nat)
  | retryEffect (jobId : EffectJobId) (attempt : Nat) (availableAt : UnixTimeMillis)
      (diagnostic : String)
  | cancelClaimedEffect (jobId : EffectJobId) (attempt : Nat) (diagnostic : String)
  | cancelEffect (jobId : EffectJobId)

/-- Only a commit can write to the state tables. -/
def Request.isCommit : Request → Bool
  | .commit _ _ _ _ => true
  | _ => false

/-- What the caller of an operation gets back. -/
inductive Reply
  | schemaRegistered (registration : SchemaRegistration)
  | schemasRegistered (registrations : List SchemaRegistration)
  | receipt (receipt : CommitReceipt)
  | claimed (claim : Option ClaimedEffectJob)
  | updated
  | cancelled (changed : Bool)
  | failed (error : StorageError)

variable {Digest : Type} [DecidableEq Digest]

/-- Run one request. -/
def perform (deps : Dependencies Digest) (store : WorldStore Digest) :
    Request → Except StorageError (WorldStore Digest × Reply)
  | .registerSchema seen definition =>
      (registerSchema deps seen store definition).map
        fun result => (result.1, .schemaRegistered result.2)
  | .registerSchemas definitions =>
      (registerSchemas deps store definitions).map
        fun result => (result.1, .schemasRegistered result.2)
  | .commit command transaction evaluatedPosition clock =>
      (commit deps store command transaction evaluatedPosition clock).map
        fun result => (result.1, .receipt result.2)
  | .claimNextEffect now leaseExpiresAt =>
      (claimNext deps store now leaseExpiresAt).map
        fun result => (result.1, .claimed result.2)
  | .completeEffect jobId attempt =>
      (complete store jobId attempt).map fun result => (result, .updated)
  | .retryEffect jobId attempt availableAt diagnostic =>
      (retry store jobId attempt availableAt diagnostic).map fun result => (result, .updated)
  | .cancelClaimedEffect jobId attempt diagnostic =>
      (cancelClaimed store jobId attempt diagnostic).map fun result => (result, .updated)
  | .cancelEffect jobId =>
      (cancel store jobId).map fun result => (result.1, .cancelled result.2)

/-- One served request. A refused request is rolled back. -/
inductive Serves (deps : Dependencies Digest) :
    WorldStore Digest → Request × Reply → WorldStore Digest → Prop
  | done {store store' : WorldStore Digest} {request : Request} {reply : Reply} :
      perform deps store request = .ok (store', reply) →
      Serves deps store (request, reply) store'
  | rejected {store : WorldStore Digest} {request : Request} {error : StorageError} :
      perform deps store request = .error error →
      Serves deps store (request, .failed error) store
  | unavailable {store : WorldStore Digest} {request : Request} :
      Serves deps store (request, .failed (.sqlite .unavailable)) store

/-- The transition system of one world database. -/
def storageSystem (deps : Dependencies Digest) :
    Lts (WorldStore Digest) (Request × Reply) where
  init store := ∃ worldId, store = WorldStore.create Digest worldId
  step := Serves deps

/-- Serve one request without outside failures. -/
def serve (deps : Dependencies Digest) (store : WorldStore Digest) (request : Request) :
    WorldStore Digest × Reply :=
  match perform deps store request with
  | .ok result => result
  | .error error => (store, .failed error)

/-- Serve requests one after another, which yields the history and the database. -/
def serveAll (deps : Dependencies Digest) (store : WorldStore Digest) :
    List Request → List (Request × Reply) × WorldStore Digest
  | [] => ([], store)
  | request :: requests =>
      let served := serve deps store request
      let rest := serveAll deps served.1 requests
      ((request, served.2) :: rest.1, rest.2)

/-- What a store does with a request is what it serves. -/
theorem serves_serve (deps : Dependencies Digest) (store : WorldStore Digest)
    (request : Request) :
    Serves deps store (request, (serve deps store request).2) (serve deps store request).1 := by
  unfold serve
  cases h : perform deps store request with
  | ok result => exact .done h
  | error error => exact .rejected h

/-- Serving requests one after another is a run. -/
theorem run_serveAll (deps : Dependencies Digest) (store : WorldStore Digest)
    (requests : List Request) :
    (storageSystem deps).Run store (serveAll deps store requests).1
      (serveAll deps store requests).2 := by
  induction requests generalizing store with
  | nil => exact .refl store
  | cons request requests ih => exact .cons (serves_serve deps store request) (ih _)

/-! ## The history of commits -/

/-- A command that committed as new, with its transaction and its clock. -/
structure CommitEntry where
  command : WorldCommand
  transaction : WorldTransaction
  clock : Int

/-- The entry that a served request adds to the history of commits. -/
def committedEntry : Request × Reply → Option CommitEntry
  | (.commit command transaction _ clock, .receipt receipt) =>
      match receipt.disposition with
      | .committed => some ⟨command, transaction, clock⟩
      | .alreadyCommitted => none
  | _ => none

/-- The commits of a run, in order. -/
def committedEntries (history : List (Request × Reply)) : List CommitEntry :=
  history.filterMap committedEntry

/-! ## The changes a step can make -/

/-- The columns of a job that no transition changes. -/
def EffectJobRow.identity (row : EffectJobRow) :
    EffectJobId × Nat × Nat × SchemaColumns × String :=
  (row.jobId, row.commitPosition, row.jobIndex, row.schema, row.payloadJson)

/-- The claim that fences a request of a worker. -/
def workerFence : Request → Option (EffectJobId × Nat)
  | .completeEffect jobId attempt => some (jobId, attempt)
  | .retryEffect jobId attempt _ _ => some (jobId, attempt)
  | .cancelClaimedEffect jobId attempt _ => some (jobId, attempt)
  | _ => none

/-- What a request of a worker writes to its job. -/
def workerChange : Request → EffectJobRow → EffectJobRow
  | .completeEffect _ _ => completeChange
  | .retryEffect _ _ availableAt diagnostic => retryChange availableAt diagnostic
  | .cancelClaimedEffect _ _ diagnostic => cancelClaimedChange diagnostic
  | _ => id

/-- The guarded update that a served request makes on the outbox. -/
inductive JobStep (deps : Dependencies Digest) (store store' : WorldStore Digest) :
    Request × Reply → (EffectJobRow → Bool) → (EffectJobRow → EffectJobRow) → Prop
  | claim {now leaseExpiresAt : UnixTimeMillis} {candidate : EffectJobRow}
      {claimed : ClaimedEffectJob} (mem : candidate ∈ store.effectJobs)
      (claimable : claimable now candidate = true)
      (job : effectJobById deps store' candidate.jobId = .ok (some claimed.job)) :
      JobStep deps store store' (.claimNextEffect now leaseExpiresAt, .claimed (some claimed))
        (claimGuard now candidate) (claimChange leaseExpiresAt (candidate.attemptCount + 1))
  | worker {request : Request} {jobId : EffectJobId} {attempt : Nat}
      (fence : workerFence request = some (jobId, attempt)) :
      JobStep deps store store' (request, .updated) (holdsClaim jobId attempt)
        (workerChange request)
  | cancel {jobId : EffectJobId} :
      JobStep deps store store' (.cancelEffect jobId, .cancelled true) (cancellable jobId)
        cancelChange

/-- A reply that reports no change to the commits or to a job. -/
def idle : Reply → Bool
  | .receipt receipt => decide (receipt.disposition = .alreadyCommitted)
  | .claimed (some _) => false
  | .updated => false
  | .cancelled changed => !changed
  | _ => true

theorem committedEntry_of_idle {request : Request} {reply : Reply} (h : idle reply = true) :
    committedEntry (request, reply) = none := by
  cases reply with
  | receipt receipt =>
      simp only [idle, decide_eq_true_eq] at h
      cases request <;> simp [committedEntry, h]
  | _ => cases request <;> rfl

/-- How one served request changes the database. -/
inductive StoreChange (deps : Dependencies Digest) :
    WorldStore Digest → Request × Reply → WorldStore Digest → Prop
  | unchanged {store : WorldStore Digest} {request : Request} {reply : Reply}
      (quiet : idle reply = true) : StoreChange deps store (request, reply) store
  | schemas {store : WorldStore Digest} {request : Request} {reply : Reply}
      {rows : List SchemaRow} (quiet : idle reply = true)
      (grow : SchemasGrow store.worldSchemas rows) :
      StoreChange deps store (request, reply) { store with worldSchemas := rows }
  | commits {store store' : WorldStore Digest} {command : WorldCommand}
      {transaction : WorldTransaction} {evaluatedPosition : Nat} {clock : Int}
      {receipt : CommitReceipt}
      (new : NewCommit deps store command transaction evaluatedPosition clock store' receipt) :
      StoreChange deps store
        (.commit command transaction evaluatedPosition clock, .receipt receipt) store'
  | jobs {store store' : WorldStore Digest} {label : Request × Reply}
      {guard : EffectJobRow → Bool} {change : EffectJobRow → EffectJobRow}
      (step : JobStep deps store store' label guard change)
      (update : Updated guard change store store') : StoreChange deps store label store'

variable {deps : Dependencies Digest}

variable {label : Request × Reply}

omit [DecidableEq Digest] in
/-- A guarded update never changes the identity of a job. -/
theorem JobStep.identity {store store' : WorldStore Digest} {guard : EffectJobRow → Bool}
    {change : EffectJobRow → EffectJobRow} (h : JobStep deps store store' label guard change)
    (row : EffectJobRow) : (change row).identity = row.identity := by
  cases h with
  | claim => rfl
  | @worker request _ _ fence => cases request <;> rfl
  | cancel => rfl

omit [DecidableEq Digest] in
/-- Outbox requests add nothing to the history of commits. -/
theorem JobStep.quiet {store store' : WorldStore Digest} {guard : EffectJobRow → Bool}
    {change : EffectJobRow → EffectJobRow} (h : JobStep deps store store' label guard change) :
    committedEntry label = none := by
  cases h with
  | claim => rfl
  | @worker request _ _ fence => cases request <;> rfl
  | cancel => rfl

/-- A receipt from the lookup is marked as a replay. -/
theorem committedReceipt_disposition {store : WorldStore Digest} {command : WorldCommand}
    {receipt : CommitReceipt} (h : committedReceipt deps store command = .ok (some receipt)) :
    receipt.disposition = .alreadyCommitted := by
  unfold committedReceipt loadExistingReceipt at h
  split at h
  · cases h
  · obtain ⟨⟨⟩, _, h⟩ := bind_eq_ok_iff.mp h
    obtain ⟨eventIds, _, h⟩ := bind_eq_ok_iff.mp h
    obtain ⟨effectJobIds, _, h⟩ := bind_eq_ok_iff.mp h
    cases h
    rfl

/-- Every step changes the database in one of four ways. -/
theorem Serves.storeChange {store store' : WorldStore Digest} (h : Serves deps store label store') :
    StoreChange deps store label store' := by
  cases h with
  | rejected _ => exact .unchanged rfl
  | unavailable => exact .unchanged rfl
  | @done _ request _ h =>
      cases request with
      | registerSchema seen definition =>
          obtain ⟨⟨next, registration⟩, hregister, h⟩ := map_eq_ok_iff.mp h
          cases h
          obtain ⟨rows, rfl, hgrow⟩ := registerSchema_eq_ok hregister
          exact .schemas rfl hgrow
      | registerSchemas definitions =>
          obtain ⟨⟨next, registrations⟩, hregister, h⟩ := map_eq_ok_iff.mp h
          cases h
          obtain ⟨rows, rfl, hgrow⟩ := registerSchemas_eq_ok hregister
          exact .schemas rfl hgrow
      | commit command transaction evaluatedPosition clock =>
          obtain ⟨⟨next, receipt⟩, hcommit, h⟩ := map_eq_ok_iff.mp h
          cases h
          rcases commit_eq_ok hcommit with ⟨rfl, hreceipt⟩ | hnew
          · refine .unchanged ?_
            simp only [idle, committedReceipt_disposition hreceipt, decide_true]
          · exact .commits hnew
      | claimNextEffect now leaseExpiresAt =>
          obtain ⟨⟨next, claim⟩, hclaim, h⟩ := map_eq_ok_iff.mp h
          cases h
          rcases claimNext_eq_ok hclaim with
            ⟨rfl, rfl⟩ | ⟨candidate, hmem, claimed, rfl, hdue, _, hupdate, _, hjob⟩
          · exact .unchanged rfl
          · exact .jobs (.claim hmem hdue hjob) hupdate
      | completeEffect jobId attempt =>
          obtain ⟨next, hcomplete, h⟩ := map_eq_ok_iff.mp h
          cases h
          exact .jobs (.worker rfl) (transitionClaim_eq_ok hcomplete)
      | retryEffect jobId attempt availableAt diagnostic =>
          obtain ⟨next, hretry, h⟩ := map_eq_ok_iff.mp h
          cases h
          obtain ⟨⟨⟩, _, hretry⟩ := bind_eq_ok_iff.mp hretry
          exact .jobs (.worker rfl) (transitionClaim_eq_ok hretry)
      | cancelClaimedEffect jobId attempt diagnostic =>
          obtain ⟨next, hcancel, h⟩ := map_eq_ok_iff.mp h
          cases h
          obtain ⟨⟨⟩, _, hcancel⟩ := bind_eq_ok_iff.mp hcancel
          exact .jobs (.worker rfl) (transitionClaim_eq_ok hcancel)
      | cancelEffect jobId =>
          obtain ⟨⟨next, changed⟩, hcancel, h⟩ := map_eq_ok_iff.mp h
          cases h
          rcases cancel_eq_ok hcancel with ⟨rfl, rfl⟩ | ⟨rfl, hupdate⟩
          · exact .unchanged rfl
          · exact .jobs .cancel hupdate

/-- A served commit changes nothing and does not report a new commit, or is new. -/
theorem Serves.commit_cases {store store' : WorldStore Digest} {command : WorldCommand}
    {transaction : WorldTransaction} {evaluatedPosition : Nat} {clock : Int} {reply : Reply}
    (h : Serves deps store (.commit command transaction evaluatedPosition clock, reply)
      store') :
    (store' = store ∧
        ∀ receipt, reply = .receipt receipt → receipt.disposition = .alreadyCommitted) ∨
      ∃ receipt, reply = .receipt receipt ∧
        NewCommit deps store command transaction evaluatedPosition clock store' receipt := by
  cases h with
  | rejected _ => exact Or.inl ⟨rfl, by simp⟩
  | unavailable => exact Or.inl ⟨rfl, by simp⟩
  | done h =>
      obtain ⟨⟨next, receipt⟩, hcommit, h⟩ := map_eq_ok_iff.mp h
      cases h
      rcases commit_eq_ok hcommit with ⟨rfl, hreceipt⟩ | hnew
      · refine Or.inl ⟨rfl, ?_⟩
        rintro _ ⟨⟩
        exact committedReceipt_disposition hreceipt
      · exact Or.inr ⟨receipt, rfl, hnew⟩

/-! ## A small world

Concrete values on which the system can be evaluated. Texts are looked up among
known documents and mutations, and every schema accepts everything. -/

/-- Outside functions that know finitely many texts. -/
def tableDependencies (documents : List JsonValue) (mutations : List WorldMutation) :
    Dependencies String where
  sha256 := id
  fromStr text :=
    match documents.find? fun document => decide (document.json.toText = text) with
    | some document => .ok document
    | none => .error ⟨"unknown document"⟩
  mutationFromStr text :=
    match mutations.find? fun mutation => decide (mutation.toJson.toText = text) with
    | some mutation => .ok mutation
    | none => .error ⟨"unknown mutation"⟩
  validatorFor _ := .ok fun _ => .ok ()

/-- The JSON Schema that accepts everything. -/
def acceptAll : JsonValue := ⟨.bool true, rfl⟩

def demoKey (name : String) : SchemaKey := ⟨⟨name⟩, ⟨1, by decide, by decide⟩⟩

/-- One schema of every kind that a commit uses. -/
def demoSchemas : List SchemaDefinition :=
  [⟨demoKey "demo.move", .command, ⟨"demo"⟩, acceptAll⟩,
    ⟨demoKey "demo.body", .entity, ⟨"demo"⟩, acceptAll⟩,
    ⟨demoKey "demo.link", .relation, ⟨"demo"⟩, acceptAll⟩,
    ⟨demoKey "demo.note", .facet, ⟨"demo"⟩, acceptAll⟩,
    ⟨demoKey "demo.moved", .event, ⟨"demo"⟩, acceptAll⟩,
    ⟨demoKey "demo.mail", .effect, ⟨"demo"⟩, acceptAll⟩]

/-- A command of a principal acting for itself. -/
def demoCommand (n : Nat) : WorldCommand where
  id := ⟨BitVec.ofNat 128 n⟩
  schema := demoKey "demo.move"
  principal := ⟨7⟩
  actor := .principal ⟨7⟩
  expectedPosition := none
  causation := none
  correlationId := ⟨1⟩
  effectiveAt := none
  payload := acceptAll

/-- The request that commits a demo command at a position. -/
def demoCommit (n position : Nat) (transaction : WorldTransaction) : Request :=
  .commit (demoCommand n) transaction position 0

/-- The history and the database after registering the demo schemas and serving
requests. -/
def demoRun (deps : Dependencies String) (requests : List Request) :
    List (Request × Reply) × WorldStore String :=
  serveAll deps (WorldStore.create String ⟨0⟩) (.registerSchemas demoSchemas :: requests)

theorem run_demoRun (deps : Dependencies String) (requests : List Request) :
    (storageSystem deps).Run (WorldStore.create String ⟨0⟩) (demoRun deps requests).1
      (demoRun deps requests).2 :=
  run_serveAll deps _ _

theorem reachable_demoRun (deps : Dependencies String) (requests : List Request) :
    (storageSystem deps).Reachable (demoRun deps requests).2 :=
  ⟨_, _, ⟨⟨0⟩, rfl⟩, run_demoRun deps requests⟩

end Rintawa.Storage
