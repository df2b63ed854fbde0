/-
# Attempt numbers fence the outbox

Every job moves forward only: its attempt number never falls, a job that stopped
running under an attempt never runs under it again, and a finished job stays as
it is. The history of a run is related to the rows through this one order, which
gives at most one effect for each claim and at most one completion for each job.
-/

import Rintawa.Storage.Idempotence

namespace Rintawa.Storage

open Rintawa.Lib Rintawa.Sdk Rintawa.World

variable {Digest : Type} {deps : Dependencies Digest}

/-! ## The order in which a job moves -/

/-- A job that no transition changes any more. -/
def Terminal (row : EffectJobRow) : Prop :=
  row.status = statusCompleted ∨ row.status = statusCancelled

/-- A later row of the same job. -/
structure Advances (row row' : EffectJobRow) : Prop where
  jobId : row'.jobId = row.jobId
  attempt : row.attemptCount ≤ row'.attemptCount
  released : row'.attemptCount = row.attemptCount → row.status ≠ statusRunning →
    row'.status ≠ statusRunning
  terminal : Terminal row → row' = row

theorem Advances.refl (row : EffectJobRow) : Advances row row :=
  ⟨rfl, le_refl _, fun _ => id, fun _ => rfl⟩

/-- The row that a guarded update makes of a row. -/
def updatedRow (guard : EffectJobRow → Bool) (change : EffectJobRow → EffectJobRow)
    (row : EffectJobRow) : EffectJobRow :=
  if guard row then change row else row

variable {row : EffectJobRow} {request : Request} {change : EffectJobRow → EffectJobRow}
  {label : Request × Reply} {reply : Reply} {history : List (Request × Reply)}

theorem running_ne_terminal (h : row.status = statusRunning) : ¬ Terminal row := by
  rintro (hdone | hdone) <;> simp [h, statusRunning, statusCompleted, statusCancelled] at hdone

variable {attempt : Nat} {jobId : EffectJobId}

theorem holdsClaim_iff :
    holdsClaim jobId attempt row = true ↔
      row.jobId = jobId ∧ row.status = statusRunning ∧ row.attemptCount = attempt := by
  simp [holdsClaim, and_assoc]

/-- A worker update stops the job and keeps its attempt number. -/
theorem workerChange_spec (hfence : workerFence request = some (jobId, attempt))
    (row : EffectJobRow) :
    (workerChange request row).jobId = row.jobId ∧
      (workerChange request row).attemptCount = row.attemptCount ∧
      (workerChange request row).status ≠ statusRunning := by
  cases request <;> simp [workerFence] at hfence <;>
    simp [workerChange, completeChange, retryChange, cancelClaimedChange, statusRunning,
      statusCompleted, statusPending, statusCancelled]

theorem claimable_not_terminal {now : UnixTimeMillis} (h : claimable now row = true) :
    ¬ Terminal row := by
  rintro (hdone | hdone) <;>
    simp [claimable, hdone, statusRunning, statusCompleted, statusCancelled, statusPending] at h

theorem cancellable_not_terminal (h : cancellable jobId row = true) : ¬ Terminal row := by
  rintro (hdone | hdone) <;>
    simp [cancellable, hdone, statusRunning, statusCompleted, statusCancelled,
      statusPending] at h

/-- Every guarded update moves every job forward. -/
theorem JobStep.advances {store store' : WorldStore Digest} {guard : EffectJobRow → Bool}
    (h : JobStep deps store store' label guard change) (row : EffectJobRow) :
    Advances row (updatedRow guard change row) := by
  unfold updatedRow
  split
  · next hguard =>
      cases h with
      | @claim now leaseExpiresAt candidate claimed hmem hdue hjob =>
          simp only [claimGuard, Bool.and_eq_true, decide_eq_true_eq] at hguard
          obtain ⟨⟨-, hcount⟩, hclaimable⟩ := hguard
          refine ⟨rfl, ?_, ?_, fun hterminal =>
            absurd hterminal (claimable_not_terminal hclaimable)⟩
          · simp only [claimChange]
            omega
          · intro hsame
            simp only [claimChange] at hsame
            omega
      | @worker request jobId attempt hfence =>
          obtain ⟨hid, hcount, hstopped⟩ := workerChange_spec hfence row
          have hrunning := (holdsClaim_iff.mp hguard).2.1
          exact ⟨hid, le_of_eq hcount.symm, fun _ _ => hstopped,
            fun hterminal => absurd hterminal (running_ne_terminal hrunning)⟩
      | cancel =>
          refine ⟨rfl, le_refl _, ?_, fun hterminal =>
            absurd hterminal (cancellable_not_terminal hguard)⟩
          intro _ _
          simp [cancelChange, statusCancelled, statusRunning]
  · exact Advances.refl row

variable [DecidableEq Digest]

/-- Every job is still there after a step, and has moved forward. -/
theorem Serves.advances {store store' : WorldStore Digest} (h : Serves deps store label store')
    (hrow : row ∈ store.effectJobs) : ∃ row' ∈ store'.effectJobs, Advances row row' := by
  cases h.storeChange with
  | unchanged => exact ⟨row, hrow, .refl row⟩
  | schemas => exact ⟨row, hrow, .refl row⟩
  | commits hnew =>
      rw [hnew.effectJobs]
      exact ⟨row, List.mem_append_left _ hrow, .refl row⟩
  | @jobs _ _ guard change hjob hupdate =>
      rw [hupdate.result]
      exact ⟨updatedRow guard change row, List.mem_map_of_mem hrow, hjob.advances row⟩

/-- Finished jobs stay as they are for ever. -/
theorem terminal_of_run {store store' : WorldStore Digest} {labels : List (Request × Reply)}
    (hrun : (storageSystem deps).Run store labels store') (hrow : row ∈ store.effectJobs)
    (hterminal : Terminal row) : row ∈ store'.effectJobs := by
  refine Lts.Run.preserves (P := fun store => row ∈ store.effectJobs) ?_ hrun hrow
  intro s label t hmem hstep
  obtain ⟨row', hmem', hadvances⟩ := Serves.advances hstep hmem
  rwa [hadvances.terminal hterminal] at hmem'

/-! ## Rows of reachable databases -/

theorem checkJob_effectRow (position index : Nat) (effect : EffectJobDraft) :
    checkJob (effectRow position index effect) = true := by
  simp [checkJob, effectRow, statusRunning]

/-- The row constraint holds of every job. -/
theorem checkJob_of_reachable {store : WorldStore Digest}
    (h : (storageSystem deps).Reachable store) :
    ∀ row ∈ store.effectJobs, checkJob row = true := by
  refine Lts.Reachable.induction (P := fun store => ∀ row ∈ store.effectJobs,
    checkJob row = true) ?_ ?_ h
  · rintro _ ⟨worldId, rfl⟩ row hrow
    simp [WorldStore.create] at hrow
  · intro s label t _ hchecked hstep row hrow
    cases hstep.storeChange with
    | unchanged => exact hchecked row hrow
    | schemas => exact hchecked row hrow
    | commits hnew =>
        rw [hnew.effectJobs, List.mem_append] at hrow
        rcases hrow with hold | hadded
        · exact hchecked row hold
        · obtain ⟨i, _, rfl⟩ := List.mem_mapIdx.mp hadded
          exact checkJob_effectRow _ _ _
    | jobs hjob hupdate =>
        rw [hupdate.result] at hrow
        obtain ⟨source, hsource, rfl⟩ := List.mem_map.mp hrow
        split
        · next hguard => exact hupdate.checked source hsource hguard
        · exact hchecked source hsource

theorem effectIds_of_reachable {store : WorldStore Digest}
    (h : (storageSystem deps).Reachable store) :
    (store.effectJobs.map EffectJobRow.jobId).Nodup := by
  obtain ⟨entries, hjournal⟩ := journal_of_reachable h
  exact hjournal.effectIds

/-! ## The history of claims and updates -/

/-- The attempt that a claim hands out for a job. -/
def handedOutBy (jobId : EffectJobId) : Request × Reply → Option Nat
  | (.claimNextEffect _ _, .claimed (some claimed)) =>
      if claimed.job.id = jobId then some claimed.attempt else none
  | _ => none

/-- The attempts handed out for a job, in order. -/
def handedOut (jobId : EffectJobId) (history : List (Request × Reply)) : List Nat :=
  history.filterMap (handedOutBy jobId)

/-- A worker update under a claim that took effect. -/
def workerSucceeded (jobId : EffectJobId) (attempt : Nat) : Request × Reply → Bool
  | (request, .updated) => decide (workerFence request = some (jobId, attempt))
  | _ => false

/-- A completion of a job that took effect. -/
def completes (jobId : EffectJobId) : Request × Reply → Bool
  | (.completeEffect id _, .updated) => decide (id = jobId)
  | _ => false

/-- A job that is past an attempt: it does not run under it and never will. -/
def PastAttempt (jobId : EffectJobId) (attempt : Nat) (row : EffectJobRow) : Prop :=
  row.jobId = jobId ∧ attempt ≤ row.attemptCount ∧
    (row.attemptCount = attempt → row.status ≠ statusRunning)

theorem PastAttempt.advances {row' : EffectJobRow} (h : PastAttempt jobId attempt row)
    (hadvances : Advances row row') : PastAttempt jobId attempt row' := by
  obtain ⟨hid, hle, hstopped⟩ := h
  have hcount := hadvances.attempt
  refine ⟨hadvances.jobId.trans hid, hle.trans hcount, fun hsame => ?_⟩
  exact hadvances.released (by omega) (hstopped (by omega))

/-- What the history of a run says about the jobs. -/
structure Fenced (history : List (Request × Reply)) (store : WorldStore Digest) : Prop where
  increasing : ∀ jobId, (handedOut jobId history).Pairwise (· < ·)
  bounded : ∀ jobId, ∀ attempt ∈ handedOut jobId history,
    ∃ row ∈ store.effectJobs, row.jobId = jobId ∧ attempt ≤ row.attemptCount
  spent : ∀ jobId attempt, 0 < history.countP (workerSucceeded jobId attempt) →
    ∃ row ∈ store.effectJobs, PastAttempt jobId attempt row
  single : ∀ jobId attempt, history.countP (workerSucceeded jobId attempt) ≤ 1
  completed : ∀ jobId, 0 < history.countP (completes jobId) →
    ∃ row ∈ store.effectJobs, row.jobId = jobId ∧ row.status = statusCompleted
  completedOnce : ∀ jobId, history.countP (completes jobId) ≤ 1

theorem handedOutBy_of_idle (h : idle reply = true) (jobId : EffectJobId) :
    handedOutBy jobId (request, reply) = none := by
  cases reply with
  | claimed claim =>
      cases claim with
      | none => cases request <;> rfl
      | some claimed => cases h
  | _ => cases request <;> rfl

theorem workerSucceeded_iff :
    workerSucceeded jobId attempt label = true ↔
      ∃ request, label = (request, .updated) ∧ workerFence request = some (jobId, attempt) := by
  obtain ⟨request, reply⟩ := label
  cases reply <;> simp [workerSucceeded]

/-- A completion is the success of a worker. -/
theorem workerSucceeded_of_completes (h : completes jobId label = true) :
    ∃ attempt, label = (.completeEffect jobId attempt, .updated) := by
  obtain ⟨request, reply⟩ := label
  cases request with
  | completeEffect id attempt =>
      cases reply with
      | updated =>
          simp only [completes, decide_eq_true_eq] at h
          exact ⟨attempt, by rw [h]⟩
      | _ => cases h
  | _ => cases h

omit [DecidableEq Digest] in
/-- A guarded update contains the updated row of every job. -/
theorem Updated.mem_updatedRow {store store' : WorldStore Digest} {guard : EffectJobRow → Bool}
    (h : Updated guard change store store') (hrow : row ∈ store.effectJobs) :
    updatedRow guard change row ∈ store'.effectJobs := by
  rw [h.result]
  exact List.mem_map_of_mem hrow

/-- A claim hands out the attempt after the stored one. -/
theorem Serves.handedOut {store store' : WorldStore Digest}
    (hids : (store'.effectJobs.map EffectJobRow.jobId).Nodup) (h : Serves deps store label store')
    (hlabel : handedOutBy jobId label = some attempt) :
    ∃ row ∈ store.effectJobs, row.jobId = jobId ∧ attempt = row.attemptCount + 1 ∧
      ∃ row' ∈ store'.effectJobs, row'.jobId = jobId ∧ row'.attemptCount = attempt := by
  cases h.storeChange with
  | unchanged hquiet => simp [handedOutBy_of_idle hquiet] at hlabel
  | schemas hquiet => simp [handedOutBy_of_idle hquiet] at hlabel
  | commits hnew => simp [handedOutBy] at hlabel
  | jobs hjob hupdate =>
      cases hjob with
      | @worker request _ _ hfence => cases request <;> cases hlabel
      | cancel => cases hlabel
      | @claim now leaseExpiresAt candidate claimed hmem hdue hjob =>
          obtain ⟨found, hfound, hid, hcount⟩ := effectJobById_eq_some hjob
          obtain ⟨hfoundMem, hfoundId⟩ := mem_of_lookupRow hfound
          have hguard : claimGuard now candidate candidate = true := by
            simp [claimGuard, hdue]
          have hupdated := hupdate.mem_updatedRow hmem
          rw [updatedRow, if_pos hguard] at hupdated
          have hsame : found = claimChange leaseExpiresAt (candidate.attemptCount + 1) candidate :=
            List.inj_on_of_nodup_map hids hfoundMem hupdated hfoundId
          simp only [handedOutBy, ClaimedEffectJob.attempt] at hlabel
          split at hlabel
          · next hjobId =>
              cases hlabel
              rw [hid, hfoundId] at hjobId
              refine ⟨candidate, hmem, hjobId, ?_, found, hfoundMem, hfoundId.trans hjobId,
                hcount.symm⟩
              rw [hcount, hsame]
              rfl
          · cases hlabel

/-- A worker update takes effect only for the running attempt, and ends it. -/
theorem Serves.workerSucceeded {store store' : WorldStore Digest}
    (h : Serves deps store (request, .updated) store')
    (hfence : workerFence request = some (jobId, attempt)) :
    ∃ row ∈ store.effectJobs, row.jobId = jobId ∧ row.status = statusRunning ∧
      row.attemptCount = attempt ∧ workerChange request row ∈ store'.effectJobs ∧
      Updated (holdsClaim jobId attempt) (workerChange request) store store' := by
  cases h.storeChange with
  | unchanged hquiet => cases hquiet
  | schemas hquiet => cases hquiet
  | jobs hjob hupdate =>
      cases hjob with
      | worker hfence' =>
          cases hfence.symm.trans hfence'
          have hpositive : 0 < store.effectJobs.countP (holdsClaim jobId attempt) := by
            rw [hupdate.single]
            exact Nat.one_pos
          obtain ⟨row, hmem, hholds⟩ := List.countP_pos_iff.mp hpositive
          have hupdated := hupdate.mem_updatedRow hmem
          rw [updatedRow, if_pos hholds] at hupdated
          obtain ⟨hid, hrunning, hcount⟩ := holdsClaim_iff.mp hholds
          exact ⟨row, hmem, hid, hrunning, hcount, hupdated, hupdate⟩

/-- A job that no worker runs stays as it is, unless it is handed out or cancelled. -/
theorem Serves.released {store store' : WorldStore Digest} (h : Serves deps store label store')
    (hrow : row ∈ store.effectJobs) (hstopped : row.status ≠ statusRunning)
    (hkept : handedOutBy row.jobId label = none) :
    row ∈ store'.effectJobs ∨ cancelChange row ∈ store'.effectJobs := by
  cases h.storeChange with
  | unchanged => exact Or.inl hrow
  | schemas => exact Or.inl hrow
  | commits hnew =>
      rw [hnew.effectJobs]
      exact Or.inl (List.mem_append_left _ hrow)
  | @jobs _ _ guard change hjob hupdate =>
      have hafter := hupdate.mem_updatedRow hrow
      unfold updatedRow at hafter
      split at hafter
      · next hguard =>
          cases hjob with
          | @claim now leaseExpiresAt candidate claimed hmem hdue hjob =>
              obtain ⟨found, hfound, hid, -⟩ := effectJobById_eq_some hjob
              simp only [claimGuard, Bool.and_eq_true, decide_eq_true_eq] at hguard
              have hsame : claimed.job.id = row.jobId :=
                hid.trans ((mem_of_lookupRow hfound).2.trans hguard.1.1.symm)
              simp [handedOutBy, hsame] at hkept
          | worker => exact absurd (holdsClaim_iff.mp hguard).2.1 hstopped
          | cancel => exact Or.inr hafter
      · exact Or.inl hafter

/-! ## One step of the history -/

theorem countP_snoc {α : Type} (p : α → Bool) (items : List α) (item : α) :
    (items ++ [item]).countP p = items.countP p + if p item then 1 else 0 := by
  rw [List.countP_append, List.countP_singleton]

/-- Two rows of one job are one row. -/
theorem row_unique {jobs : List EffectJobRow} (hids : (jobs.map EffectJobRow.jobId).Nodup)
    {row' : EffectJobRow} (hrow : row ∈ jobs) (hrow' : row' ∈ jobs) (hid : row.jobId = row'.jobId) :
    row = row' :=
  List.inj_on_of_nodup_map hids hrow hrow' hid

/-- A claim that was used up is not used again. -/
theorem Fenced.fresh {history : List (Request × Reply)} {store store' : WorldStore Digest}
    {request : Request} {jobId : EffectJobId} {attempt : Nat} (h : Fenced history store)
    (hids : (store.effectJobs.map EffectJobRow.jobId).Nodup)
    (hstep : Serves deps store (request, .updated) store')
    (hfence : workerFence request = some (jobId, attempt)) :
    history.countP (workerSucceeded jobId attempt) = 0 := by
  by_contra hused
  obtain ⟨row, hrow, hid, hrunning, hcount, -⟩ := Serves.workerSucceeded hstep hfence
  obtain ⟨past, hpast, hpastId, -, hstopped⟩ := h.spent jobId attempt (Nat.pos_of_ne_zero hused)
  have hsame := row_unique hids hpast hrow (hpastId.trans hid.symm)
  subst hsame
  exact hstopped hcount hrunning

/-- A completed job is not completed again. -/
theorem Fenced.notCompleted {store store' : WorldStore Digest} (h : Fenced history store)
    (hids : (store.effectJobs.map EffectJobRow.jobId).Nodup)
    (hstep : Serves deps store (.completeEffect jobId attempt, .updated) store') :
    history.countP (completes jobId) = 0 := by
  by_contra hused
  obtain ⟨row, hrow, hid, hrunning, -⟩ := Serves.workerSucceeded hstep rfl
  obtain ⟨done, hdone, hdoneId, hcompleted⟩ := h.completed jobId (Nat.pos_of_ne_zero hused)
  have hsame := row_unique hids hdone hrow (hdoneId.trans hid.symm)
  subst hsame
  exact running_ne_terminal hrunning (Or.inl hcompleted)

/-- One step keeps the history and the jobs related. -/
theorem Fenced.step {store store' : WorldStore Digest} (h : Fenced history store)
    (hids : (store.effectJobs.map EffectJobRow.jobId).Nodup)
    (hids' : (store'.effectJobs.map EffectJobRow.jobId).Nodup)
    (hstep : Serves deps store label store') : Fenced (history ++ [label]) store' where
  increasing jobId := by
    rw [Storage.handedOut, List.filterMap_append, List.pairwise_append]
    refine ⟨h.increasing jobId, ?_, ?_⟩
    · cases hlabel : handedOutBy jobId label <;> simp [hlabel]
    · intro earlier hearlier attempt hattempt
      have hlabel : handedOutBy jobId label = some attempt := by simpa using hattempt
      obtain ⟨row, hrow, hid, hnext, -⟩ := hstep.handedOut hids' hlabel
      obtain ⟨bound, hbound, hboundId, hle⟩ := h.bounded jobId earlier hearlier
      have hsame := row_unique hids hbound hrow (hboundId.trans hid.symm)
      subst hsame
      omega
  bounded jobId attempt hmem := by
    rw [Storage.handedOut, List.filterMap_append, List.mem_append] at hmem
    rcases hmem with hold | hnew
    · obtain ⟨row, hrow, hid, hle⟩ := h.bounded jobId attempt hold
      obtain ⟨row', hrow', hadvances⟩ := hstep.advances hrow
      exact ⟨row', hrow', hadvances.jobId.trans hid, hle.trans hadvances.attempt⟩
    · have hlabel : handedOutBy jobId label = some attempt := by simpa using hnew
      obtain ⟨_, _, _, _, row', hrow', hid', hcount⟩ := hstep.handedOut hids' hlabel
      exact ⟨row', hrow', hid', le_of_eq hcount.symm⟩
  spent jobId attempt hpositive := by
    rw [countP_snoc] at hpositive
    by_cases hlabel : workerSucceeded jobId attempt label = true
    · obtain ⟨request, rfl, hfence⟩ := workerSucceeded_iff.mp hlabel
      obtain ⟨row, _, hid, _, hcount, hrow', -⟩ := Serves.workerSucceeded hstep hfence
      obtain ⟨hid', hcount', hstopped⟩ := workerChange_spec hfence row
      exact ⟨_, hrow', hid'.trans hid, by omega, fun _ => hstopped⟩
    · rw [if_neg hlabel] at hpositive
      obtain ⟨row, hrow, hpast⟩ := h.spent jobId attempt hpositive
      obtain ⟨row', hrow', hadvances⟩ := hstep.advances hrow
      exact ⟨row', hrow', hpast.advances hadvances⟩
  single jobId attempt := by
    rw [countP_snoc]
    split
    · next hlabel =>
        obtain ⟨request, rfl, hfence⟩ := workerSucceeded_iff.mp hlabel
        rw [h.fresh hids hstep hfence]
    · exact h.single jobId attempt
  completed jobId hpositive := by
    rw [countP_snoc] at hpositive
    by_cases hlabel : completes jobId label = true
    · obtain ⟨attempt, rfl⟩ := workerSucceeded_of_completes hlabel
      obtain ⟨row, _, hid, _, _, hrow', -⟩ := Serves.workerSucceeded hstep rfl
      exact ⟨_, hrow', hid, rfl⟩
    · rw [if_neg hlabel] at hpositive
      obtain ⟨row, hrow, hid, hdone⟩ := h.completed jobId hpositive
      obtain ⟨row', hrow', hadvances⟩ := hstep.advances hrow
      rw [hadvances.terminal (Or.inl hdone)] at hrow'
      exact ⟨row, hrow', hid, hdone⟩
  completedOnce jobId := by
    rw [countP_snoc]
    split
    · next hlabel =>
        obtain ⟨attempt, rfl⟩ := workerSucceeded_of_completes hlabel
        rw [h.notCompleted hids hstep]
    · exact h.completedOnce jobId

/-- Every run relates its history to the jobs. -/
theorem fenced_of_run {worldId : WorldId} {store : WorldStore Digest}
    (hrun : (storageSystem deps).Run (WorldStore.create Digest worldId) history store) :
    Fenced history store := by
  refine Lts.Run.history_induction (P := Fenced) ?_ ?_ hrun
  · constructor <;> simp [Storage.handedOut]
  · intro history s label t hbefore hfenced hstep
    have hreachable : (storageSystem deps).Reachable s := ⟨_, _, ⟨worldId, rfl⟩, hbefore⟩
    exact hfenced.step (effectIds_of_reachable hreachable)
      (effectIds_of_reachable (hreachable.step hstep)) hstep

/-! ## The fencing theorem -/

omit [DecidableEq Digest] in
/-- An update under the fence of a claim changes the one job of the claim. -/
theorem Updated.only_job {store store' : WorldStore Digest}
    (hids : (store.effectJobs.map EffectJobRow.jobId).Nodup)
    (h : Updated (holdsClaim jobId attempt) change store store') :
    store' = { store with
      effectJobs := store.effectJobs.map fun row =>
        if row.jobId = jobId then change row else row } := by
  have hpositive : 0 < store.effectJobs.countP (holdsClaim jobId attempt) := by
    rw [h.single]
    exact Nat.one_pos
  obtain ⟨held, hheld, hholds⟩ := List.countP_pos_iff.mp hpositive
  have hjobs : (store.effectJobs.map fun row =>
      if holdsClaim jobId attempt row then change row else row) =
      store.effectJobs.map fun row => if row.jobId = jobId then change row else row := by
    apply List.map_congr_left
    intro row hrow
    by_cases hid : row.jobId = jobId
    · have hsame := row_unique hids hheld hrow ((holdsClaim_iff.mp hholds).1.trans hid.symm)
      subst hsame
      rw [if_pos hholds, if_pos hid]
    · have hnot : ¬ holdsClaim jobId attempt row = true := fun h => hid (holdsClaim_iff.mp h).1
      rw [if_neg hnot, if_neg hid]
  rw [h.result, hjobs]

omit [DecidableEq Digest] in
/-- An update is performed when the job runs under its attempt. -/
theorem transitionClaim_of_holdsClaim {store : WorldStore Digest}
    (hids : (store.effectJobs.map EffectJobRow.jobId).Nodup) (hrow : row ∈ store.effectJobs)
    (hheld : holdsClaim jobId attempt row = true) (hchecked : ∀ row, checkJob (change row) = true) :
    ∃ store', transitionClaim store jobId attempt change = .ok store' := by
  have hsingle : store.effectJobs.countP (holdsClaim jobId attempt) = 1 := by
    have hpositive : 0 < store.effectJobs.countP (holdsClaim jobId attempt) :=
      List.countP_pos_iff.mpr ⟨row, hrow, hheld⟩
    have hbound : store.effectJobs.countP (holdsClaim jobId attempt) ≤
        (store.effectJobs.map EffectJobRow.jobId).count jobId := by
      rw [List.count, List.countP_map]
      refine List.countP_mono_left fun other _ hother => ?_
      simpa using (holdsClaim_iff.mp hother).1
    have hcount := List.nodup_iff_count_le_one.mp hids jobId
    omega
  have hupdate : updateJobs (holdsClaim jobId attempt) change store.effectJobs =
      .ok (store.effectJobs.map fun row =>
        if holdsClaim jobId attempt row then change row else row, 1) := by
    have hall : ((store.effectJobs.filter (holdsClaim jobId attempt)).all
        fun row => checkJob (change row)) = true :=
      List.all_eq_true.mpr fun row _ => hchecked row
    rw [updateJobs, hall, hsingle]
    rfl
  rw [transitionClaim, hupdate]
  exact ⟨_, rfl⟩

/-- A request of a worker that is performed replies that it updated its job. -/
theorem perform_worker {store store' : WorldStore Digest}
    (hfence : workerFence request = some (jobId, attempt))
    (h : perform deps store request = .ok (store', reply)) : reply = .updated := by
  cases request with
  | completeEffect id number =>
      obtain ⟨_, _, hresult⟩ := map_eq_ok_iff.mp h
      exact (congrArg Prod.snd hresult).symm
  | retryEffect id number availableAt diagnostic =>
      obtain ⟨_, _, hresult⟩ := map_eq_ok_iff.mp h
      exact (congrArg Prod.snd hresult).symm
  | cancelClaimedEffect id number diagnostic =>
      obtain ⟨_, _, hresult⟩ := map_eq_ok_iff.mp h
      exact (congrArg Prod.snd hresult).symm
  | _ => cases hfence

/-- A request of a worker is refused without a change, or updates the job that
runs under its attempt. -/
theorem worker_request_fenced {store store' : WorldStore Digest}
    (hids : (store.effectJobs.map EffectJobRow.jobId).Nodup)
    (hfence : workerFence request = some (jobId, attempt))
    (hstep : Serves deps store (request, reply) store') :
    (store' = store ∧ ∃ error, reply = .failed error) ∨
      (reply = .updated ∧
        ∃ row ∈ store.effectJobs, row.jobId = jobId ∧ row.status = statusRunning ∧
          row.attemptCount = attempt ∧
          store' = { store with
            effectJobs := store.effectJobs.map fun row =>
              if row.jobId = jobId then workerChange request row else row }) := by
  cases hstep with
  | rejected _ => exact Or.inl ⟨rfl, _, rfl⟩
  | unavailable => exact Or.inl ⟨rfl, _, rfl⟩
  | done h =>
      have hreply := perform_worker hfence h
      subst hreply
      obtain ⟨row, hrow, hid, hrunning, hcount, -, hupdate⟩ :=
        Serves.workerSucceeded (.done h) hfence
      exact Or.inr ⟨rfl, row, hrow, hid, hrunning, hcount, hupdate.only_job hids⟩

/-- In every run attempts of a job increase strictly, a worker update takes
effect only for the running attempt and at most once for each claim, finished
jobs stay as they are, jobs complete at most once, and exactly the running jobs
carry a lease. -/
theorem outbox_fencing {worldId : WorldId} {store : WorldStore Digest}
    (hrun : (storageSystem deps).Run (WorldStore.create Digest worldId) history store) :
    (∀ jobId, (handedOut jobId history).Pairwise (· < ·)) ∧
    (∀ request jobId attempt, workerFence request = some (jobId, attempt) →
      ∀ reply store', Serves deps store (request, reply) store' →
        (store' = store ∧ ∃ error, reply = .failed error) ∨
          (reply = .updated ∧
            ∃ row ∈ store.effectJobs, row.jobId = jobId ∧ row.status = statusRunning ∧
              row.attemptCount = attempt ∧
              store' = { store with
                effectJobs := store.effectJobs.map fun row =>
                  if row.jobId = jobId then workerChange request row else row })) ∧
    (∀ jobId attempt, history.countP (workerSucceeded jobId attempt) ≤ 1) ∧
    (∀ row ∈ store.effectJobs, Terminal row →
      ∀ later store', (storageSystem deps).Run store later store' → row ∈ store'.effectJobs) ∧
    (∀ jobId, history.countP (completes jobId) ≤ 1) ∧
    (∀ row ∈ store.effectJobs,
      row.leaseExpiresAtMs.isSome = true ↔ row.status = statusRunning) := by
  have hreachable : (storageSystem deps).Reachable store := ⟨_, _, ⟨worldId, rfl⟩, hrun⟩
  have hids := effectIds_of_reachable hreachable
  have hfenced := fenced_of_run hrun
  refine ⟨hfenced.increasing, ?_, hfenced.single, ?_, hfenced.completedOnce, ?_⟩
  · intro request jobId attempt hfence reply store' hstep
    exact worker_request_fenced hids hfence hstep
  · intro row hrow hterminal later store' hlater
    exact terminal_of_run hlater hrow hterminal
  · intro row hrow
    have hchecked := checkJob_of_reachable hreachable row hrow
    simp only [checkJob, Bool.and_eq_true, beq_iff_eq] at hchecked
    rw [← hchecked.2, decide_eq_true_iff]

/-- A job claimed, lost by an expired lease, claimed again and completed by the
second worker after the first one came too late. -/
def leaseRequests : List Request :=
  [demoCommit 1 0 demoTransaction, .claimNextEffect ⟨0⟩ ⟨10⟩, .claimNextEffect ⟨10⟩ ⟨20⟩,
    .completeEffect ⟨1⟩ 1, .completeEffect ⟨1⟩ 2]

/-- The attempts of a job claimed twice, and its one completion. -/
theorem outbox_fencing_lease :
    let run := demoRun (tableDependencies [acceptAll] []) leaseRequests
    handedOut ⟨1⟩ run.1 = [1, 2] ∧ (handedOut ⟨1⟩ run.1).Pairwise (· < ·) ∧
      run.1.countP (completes ⟨1⟩) = 1 ∧ run.1.countP (workerSucceeded ⟨1⟩ 1) = 0 := by
  intro run
  have hfencing := outbox_fencing
    (run_demoRun (tableDependencies [acceptAll] []) leaseRequests)
  exact ⟨by decide +kernel, hfencing.1 ⟨1⟩, by decide +kernel, by decide +kernel⟩

end Rintawa.Storage
