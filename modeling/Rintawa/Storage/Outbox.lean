/-
# State transitions of durable effect jobs

A job is pending, running under a lease, completed or cancelled. A claim hands
out the next attempt number, which fences every later update of a worker: an
update takes effect only while the job is running with that attempt. Administrative
cancellation is not fenced.
-/

import Rintawa.Storage.Query

namespace Rintawa.Storage

open Rintawa.Lib Rintawa.Sdk Rintawa.World

def statusPending : Nat := 0
def statusRunning : Nat := 1
def statusCompleted : Nat := 2
def statusCancelled : Nat := 3

def maxLastErrorBytes : Nat := 8 * 1024

/-- A job handed to a worker, with the end of its lease. -/
structure ClaimedEffectJob where
  job : StoredEffectJob
  leaseExpiresAt : UnixTimeMillis

/-- The attempt number that fences the claim. -/
def ClaimedEffectJob.attempt (claim : ClaimedEffectJob) : Nat :=
  claim.job.attemptCount

/-- The row constraint: a known status, and a lease exactly while running. -/
def checkJob (row : EffectJobRow) : Bool :=
  decide (row.status ≤ 3) && (decide (row.status = statusRunning) == row.leaseExpiresAtMs.isSome)

/-- Update the rows under a guard, which also counts them. -/
def updateJobs (guard : EffectJobRow → Bool) (change : EffectJobRow → EffectJobRow)
    (jobs : List EffectJobRow) : Except StorageError (List EffectJobRow × Nat) := do
  ensure ((jobs.filter guard).all fun row => checkJob (change row)) (.sqlite .check)
  return (jobs.map fun row => if guard row then change row else row, jobs.countP guard)

section Transitions

variable {Digest : Type} (deps : Dependencies Digest) (store : WorldStore Digest)

/-- Whether a job can be claimed: pending and due, or running with an expired lease. -/
def claimable (now : UnixTimeMillis) (row : EffectJobRow) : Bool :=
  (decide (row.status = statusPending) && decide (row.availableAtMs ≤ now.get)) ||
    (decide (row.status = statusRunning) &&
      match row.leaseExpiresAtMs with
      | none => false
      | some expires => decide (expires ≤ now.get))

/-- The oldest claimable job. -/
def claimCandidate (now : UnixTimeMillis) : Option EffectJobRow :=
  ((store.effectJobs.filter (claimable now)).insertionSort
    (rowLe EffectJobRow.commitPosition EffectJobRow.jobIndex)).head?

/-- The attempt number after the stored one. -/
def nextAttempt (jobId : EffectJobId) (attemptCount : Nat) : Except StorageError Nat := do
  ensure (decide (attemptCount < indexLimit)) (.indexOutOfRange "attempt_count")
  ensure (decide (attemptCount + 1 < indexLimit)) (.effectAttemptOverflow jobId)
  return attemptCount + 1

/-- The rows that a claim of a candidate updates. -/
def claimGuard (now : UnixTimeMillis) (candidate row : EffectJobRow) : Bool :=
  decide (row.jobId = candidate.jobId) && decide (row.attemptCount = candidate.attemptCount) &&
    claimable now row

/-- The row that a claim writes. -/
def claimChange (leaseExpiresAt : UnixTimeMillis) (attempt : Nat) (row : EffectJobRow) :
    EffectJobRow :=
  { row with
    status := statusRunning
    attemptCount := attempt
    leaseExpiresAtMs := some leaseExpiresAt.get }

/-- Lease the oldest claimable job to a worker. -/
def claimNext (now leaseExpiresAt : UnixTimeMillis) :
    Except StorageError (WorldStore Digest × Option ClaimedEffectJob) := do
  ensure (decide (now.get < leaseExpiresAt.get)) .invalidEffectLease
  match claimCandidate store now with
  | none => return (store, none)
  | some candidate => do
      let attempt ← nextAttempt candidate.jobId candidate.attemptCount
      let updated ← updateJobs (claimGuard now candidate) (claimChange leaseExpiresAt attempt)
        store.effectJobs
      ensure (decide (updated.2 = 1)) (.effectJobClaimLost candidate.jobId)
      let next := { store with effectJobs := updated.1 }
      match ← effectJobById deps next candidate.jobId with
      | none => .error (.effectJobNotFound candidate.jobId)
      | some job => return (next, some ⟨job, leaseExpiresAt⟩)

/-- Whether a job is running with the given attempt. -/
def holdsClaim (jobId : EffectJobId) (attempt : Nat) (row : EffectJobRow) : Bool :=
  decide (row.jobId = jobId) && decide (row.status = statusRunning) &&
    decide (row.attemptCount = attempt)

/-- Update a job under the fence of one claim. A guard matches at most one row,
so an update that is refused has changed nothing. -/
def transitionClaim (jobId : EffectJobId) (attempt : Nat)
    (change : EffectJobRow → EffectJobRow) : Except StorageError (WorldStore Digest) := do
  let updated ← updateJobs (holdsClaim jobId attempt) change store.effectJobs
  if updated.2 = 1 then .ok { store with effectJobs := updated.1 }
  else if (store.effectJobs.map EffectJobRow.jobId).contains jobId then
    .error (.effectJobClaimLost jobId)
  else .error (.effectJobNotFound jobId)

/-- Diagnostics are bounded. -/
def ensureDiagnostic (diagnostic : String) : Except StorageError Unit :=
  ensure (decide (diagnostic.utf8ByteSize ≤ maxLastErrorBytes))
    (.effectErrorTooLarge diagnostic.utf8ByteSize maxLastErrorBytes)

/-- What completion does to a row. -/
def completeChange (row : EffectJobRow) : EffectJobRow :=
  { row with status := statusCompleted, leaseExpiresAtMs := none, lastError := none }

/-- What a retry does to a row. -/
def retryChange (availableAt : UnixTimeMillis) (diagnostic : String) (row : EffectJobRow) :
    EffectJobRow :=
  { row with
    status := statusPending
    availableAtMs := availableAt.get
    leaseExpiresAtMs := none
    lastError := some diagnostic }

/-- What the cancellation of a claim does to a row. -/
def cancelClaimedChange (diagnostic : String) (row : EffectJobRow) : EffectJobRow :=
  { row with
    status := statusCancelled
    leaseExpiresAtMs := none
    lastError := some diagnostic }

/-- What a cancellation does to a row. -/
def cancelChange (row : EffectJobRow) : EffectJobRow :=
  { row with status := statusCancelled, leaseExpiresAtMs := none }

/-- Complete a claimed job. -/
def complete (jobId : EffectJobId) (attempt : Nat) : Except StorageError (WorldStore Digest) :=
  transitionClaim store jobId attempt completeChange

/-- Give a claimed job back for later. -/
def retry (jobId : EffectJobId) (attempt : Nat) (availableAt : UnixTimeMillis)
    (diagnostic : String) : Except StorageError (WorldStore Digest) := do
  ensureDiagnostic diagnostic
  transitionClaim store jobId attempt (retryChange availableAt diagnostic)

/-- Cancel a claimed job. -/
def cancelClaimed (jobId : EffectJobId) (attempt : Nat) (diagnostic : String) :
    Except StorageError (WorldStore Digest) := do
  ensureDiagnostic diagnostic
  transitionClaim store jobId attempt (cancelClaimedChange diagnostic)

/-- Whether a job is pending or running. -/
def cancellable (jobId : EffectJobId) (row : EffectJobRow) : Bool :=
  decide (row.jobId = jobId) &&
    (decide (row.status = statusPending) || decide (row.status = statusRunning))

/-- Cancel a job whoever holds it; the reply tells whether this call cancelled it. -/
def cancel (jobId : EffectJobId) : Except StorageError (WorldStore Digest × Bool) := do
  let updated ← updateJobs (cancellable jobId) cancelChange store.effectJobs
  if updated.2 = 1 then .ok ({ store with effectJobs := updated.1 }, true)
  else
    match lookupRow EffectJobRow.jobId store.effectJobs jobId with
    | none => .error (.effectJobNotFound jobId)
    | some row =>
        if row.status = statusCancelled then .ok (store, false)
        else if row.status = statusCompleted then .error (.effectJobTerminal jobId)
        else .error (.corruptData "effect job has unsupported status")

end Transitions

/-! ## What each transition does -/

section Specification

variable {Digest : Type} {deps : Dependencies Digest} {store store' : WorldStore Digest}

/-- Exactly one job passed a guard, and the database differs in that row only. -/
structure Updated (guard : EffectJobRow → Bool) (change : EffectJobRow → EffectJobRow)
    (store store' : WorldStore Digest) : Prop where
  checked : ∀ row ∈ store.effectJobs, guard row = true → checkJob (change row) = true
  single : store.effectJobs.countP guard = 1
  result : store' = { store with
    effectJobs := store.effectJobs.map fun row => if guard row then change row else row }

theorem updateJobs_eq_ok {guard : EffectJobRow → Bool}
    {change : EffectJobRow → EffectJobRow} {jobs : List EffectJobRow}
    {updated : List EffectJobRow × Nat} (h : updateJobs guard change jobs = .ok updated) :
    (∀ row ∈ jobs, guard row = true → checkJob (change row) = true) ∧
      updated = (jobs.map fun row => if guard row then change row else row,
        jobs.countP guard) := by
  obtain ⟨⟨⟩, hcheck, h⟩ := bind_eq_ok_iff.mp h
  cases h
  simp only [ensure_eq_ok_iff, List.all_eq_true, List.mem_filter, and_imp] at hcheck
  exact ⟨hcheck, rfl⟩

variable {jobId : EffectJobId}

/-- A fenced update succeeds only for the job that holds the claim. -/
theorem transitionClaim_eq_ok {attempt : Nat} {change : EffectJobRow → EffectJobRow}
    (h : transitionClaim store jobId attempt change = .ok store') :
    Updated (holdsClaim jobId attempt) change store store' := by
  obtain ⟨updated, hupdate, h⟩ := bind_eq_ok_iff.mp h
  obtain ⟨hchecked, rfl⟩ := updateJobs_eq_ok hupdate
  split at h
  · next hsingle =>
      cases h
      exact ⟨hchecked, hsingle, rfl⟩
  · split at h <;> cases h

/-- Administrative cancellation changes nothing or one pending or running job. -/
theorem cancel_eq_ok {cancelled : Bool} (h : cancel store jobId = .ok (store', cancelled)) :
    (cancelled = false ∧ store' = store) ∨
      (cancelled = true ∧ Updated (cancellable jobId) cancelChange store store') := by
  obtain ⟨updated, hupdate, h⟩ := bind_eq_ok_iff.mp h
  obtain ⟨hchecked, rfl⟩ := updateJobs_eq_ok hupdate
  split at h
  · next hsingle =>
      cases h
      exact Or.inr ⟨rfl, hchecked, hsingle, rfl⟩
  · split at h
    · cases h
    · split at h
      · cases h
        exact Or.inl ⟨rfl, rfl⟩
      · split at h <;> cases h

theorem effectJobById_eq_some {job : StoredEffectJob}
    (h : effectJobById deps store jobId = .ok (some job)) :
    ∃ row, lookupRow EffectJobRow.jobId store.effectJobs jobId = some row ∧
      job.id = row.jobId ∧ job.attemptCount = row.attemptCount := by
  unfold effectJobById at h
  cases hrow : lookupRow EffectJobRow.jobId store.effectJobs jobId with
  | none => simp [hrow] at h
  | some row =>
      cases hcommit : commitAt store row.commitPosition with
      | none => simp [hrow, hcommit] at h
      | some commit =>
          simp only [hrow, hcommit] at h
          obtain ⟨jobIndex, _, h⟩ := bind_eq_ok_iff.mp h
          obtain ⟨provenance, _, h⟩ := bind_eq_ok_iff.mp h
          obtain ⟨schema, _, h⟩ := bind_eq_ok_iff.mp h
          obtain ⟨payload, _, h⟩ := bind_eq_ok_iff.mp h
          obtain ⟨attemptCount, hattempt, h⟩ := bind_eq_ok_iff.mp h
          obtain ⟨⟨⟩, -, hattempt⟩ := bind_eq_ok_iff.mp hattempt
          simp only [Except.ok.injEq] at hattempt
          cases h
          exact ⟨row, rfl, rfl, hattempt.symm⟩

/-- A claim changes nothing, or leases the candidate under the next attempt. -/
theorem claimNext_eq_ok {now leaseExpiresAt : UnixTimeMillis} {claim : Option ClaimedEffectJob}
    (h : claimNext deps store now leaseExpiresAt = .ok (store', claim)) :
    (claim = none ∧ store' = store) ∨
      ∃ candidate ∈ store.effectJobs, ∃ claimed, claim = some claimed ∧
        claimable now candidate = true ∧ now.get < leaseExpiresAt.get ∧
        Updated (claimGuard now candidate)
          (claimChange leaseExpiresAt (candidate.attemptCount + 1)) store store' ∧
        claimed.leaseExpiresAt = leaseExpiresAt ∧
        effectJobById deps store' candidate.jobId = .ok (some claimed.job) := by
  obtain ⟨⟨⟩, hlease, h⟩ := bind_eq_ok_iff.mp h
  cases hcandidate : claimCandidate store now with
  | none =>
      simp only [hcandidate] at h
      cases h
      exact Or.inl ⟨rfl, rfl⟩
  | some candidate =>
      simp only [hcandidate] at h
      obtain ⟨attempt, hattempt, h⟩ := bind_eq_ok_iff.mp h
      obtain ⟨updated, hupdate, h⟩ := bind_eq_ok_iff.mp h
      obtain ⟨⟨⟩, hsingle, h⟩ := bind_eq_ok_iff.mp h
      obtain ⟨job, hjob, h⟩ := bind_eq_ok_iff.mp h
      obtain ⟨hchecked, rfl⟩ := updateJobs_eq_ok hupdate
      obtain ⟨⟨⟩, _, hattempt⟩ := bind_eq_ok_iff.mp hattempt
      obtain ⟨⟨⟩, _, hattempt⟩ := bind_eq_ok_iff.mp hattempt
      simp only [pure, Except.pure, Except.ok.injEq] at hattempt
      subst hattempt
      have hmem := List.mem_of_mem_head? (Option.mem_def.mpr hcandidate)
      rw [List.mem_insertionSort, List.mem_filter] at hmem
      cases job with
      | none => cases h
      | some job =>
          cases h
          exact Or.inr ⟨candidate, hmem.1, ⟨job, leaseExpiresAt⟩, rfl, hmem.2,
            by simpa using hlease, ⟨hchecked, by simpa using hsingle, rfl⟩, rfl, hjob⟩

end Specification

end Rintawa.Storage
