/-
# The wake-up time of the outbox

A worker sleeps until the earliest time at which a job is available or a lease expires. At
that time there is a job to claim, and not before. The oldest of the jobs that are due is
claimed, unless its payload cannot be read: then every claim fails while that job is due.
-/

import Rintawa.Storage.Readable

namespace Rintawa.Storage

open Rintawa.Lib Rintawa.Sdk Rintawa.World

/-! ## The query -/

/-- The time from which a job is due, as long as it is pending or running. -/
def wakeupTime (row : EffectJobRow) : Option Int :=
  if row.status = statusPending then some row.availableAtMs
  else if row.status = statusRunning then row.leaseExpiresAtMs
  else none

/-- The earliest time of a pending or running job. A job without a time does not count. -/
def nextWakeup {Digest : Type} (store : WorldStore Digest) : Option UnixTimeMillis :=
  ((store.effectJobs.filter fun row =>
      decide (row.status = statusPending) || decide (row.status = statusRunning)).filterMap
    wakeupTime).min?.map UnixTimeMillis.mk

/-! ## Due jobs -/

/-- A job is available, or the lease of its worker has run out. -/
def Due (now : UnixTimeMillis) (row : EffectJobRow) : Prop :=
  (row.status = statusPending ∧ row.availableAtMs ≤ now.get) ∨
    (row.status = statusRunning ∧ ∃ expires, row.leaseExpiresAtMs = some expires ∧
      expires ≤ now.get)

variable {row : EffectJobRow}

theorem claimable_iff {now : UnixTimeMillis} : claimable now row = true ↔ Due now row := by
  unfold claimable Due
  cases row.leaseExpiresAtMs with
  | none => simp
  | some expires => simp

/-- A job is due from its time on. -/
theorem due_iff_wakeupTime {now : UnixTimeMillis} :
    Due now row ↔ ∃ time, wakeupTime row = some time ∧ time ≤ now.get := by
  unfold Due wakeupTime
  by_cases hpending : row.status = statusPending
  · simp [hpending, statusPending, statusRunning]
  · by_cases hrunning : row.status = statusRunning
    · simp [hrunning, statusPending, statusRunning]
    · simp [hpending, hrunning]

section Wakeup

variable {Digest : Type} {store : WorldStore Digest} {now : UnixTimeMillis}

theorem mem_wakeupTimes {time : Int} :
    time ∈ (store.effectJobs.filter fun row =>
        decide (row.status = statusPending) || decide (row.status = statusRunning)).filterMap
        wakeupTime ↔
      ∃ row ∈ store.effectJobs, wakeupTime row = some time := by
  rw [List.mem_filterMap]
  constructor
  · rintro ⟨row, hrow, htime⟩
    exact ⟨row, List.mem_of_mem_filter hrow, htime⟩
  · rintro ⟨row, hrow, htime⟩
    refine ⟨row, List.mem_filter.mpr ⟨hrow, ?_⟩, htime⟩
    unfold wakeupTime at htime
    split at htime
    · next hpending => simp [hpending]
    · split at htime
      · next hrunning => simp [hrunning]
      · cases htime

/-- The wake-up time has come exactly when a job is due. -/
theorem nextWakeup_le_iff :
    (∃ time, nextWakeup store = some time ∧ time.get ≤ now.get) ↔
      ∃ row ∈ store.effectJobs, Due now row := by
  constructor
  · rintro ⟨time, htime, hle⟩
    obtain ⟨least, hleast, rfl⟩ := Option.map_eq_some_iff.mp htime
    obtain ⟨row, hrow, hwakeup⟩ := mem_wakeupTimes.mp (List.min?_eq_some_iff.mp hleast).1
    exact ⟨row, hrow, due_iff_wakeupTime.mpr ⟨least, hwakeup, hle⟩⟩
  · rintro ⟨row, hrow, hdue⟩
    obtain ⟨time, hwakeup, hle⟩ := due_iff_wakeupTime.mp hdue
    have hmem := mem_wakeupTimes.mpr ⟨row, hrow, hwakeup⟩
    obtain ⟨least, hleast⟩ := Option.isSome_iff_exists.mp (List.isSome_min?_of_mem hmem)
    have hbound := (List.min?_eq_some_iff.mp hleast).2 time hmem
    refine ⟨⟨least⟩, ?_, hbound.trans hle⟩
    rw [nextWakeup, hleast]
    rfl

/-! ## The first due job -/

/-- A due job that was committed before all others that are due. -/
structure FirstDue (store : WorldStore Digest) (now : UnixTimeMillis) (row : EffectJobRow) :
    Prop where
  mem : row ∈ store.effectJobs
  due : Due now row
  first : ∀ other ∈ store.effectJobs, Due now other →
    rowLe EffectJobRow.commitPosition EffectJobRow.jobIndex row other

theorem firstDue_of_claimCandidate (h : claimCandidate store now = some row) :
    FirstDue store now row := by
  unfold claimCandidate at h
  have hsorted := List.pairwise_insertionSort
    (rowLe EffectJobRow.commitPosition EffectJobRow.jobIndex)
    (store.effectJobs.filter (claimable now))
  have hmem : ∀ other, other ∈ (store.effectJobs.filter (claimable now)).insertionSort
      (rowLe EffectJobRow.commitPosition EffectJobRow.jobIndex) ↔
      other ∈ store.effectJobs ∧ Due now other := by
    intro other
    rw [List.mem_insertionSort, List.mem_filter, claimable_iff]
  obtain ⟨rest, hlist⟩ := List.head?_eq_some_iff.mp h
  rw [hlist] at hsorted hmem
  obtain ⟨hrow, hdue⟩ := (hmem row).mp List.mem_cons_self
  refine ⟨hrow, hdue, fun other hother hother' => ?_⟩
  rcases List.mem_cons.mp ((hmem other).mpr ⟨hother, hother'⟩) with rfl | hrest
  · exact Or.inr ⟨rfl, Nat.le_refl _⟩
  · exact List.rel_of_pairwise_cons hsorted hrest

theorem claimCandidate_eq_none_iff :
    claimCandidate store now = none ↔ ∀ row ∈ store.effectJobs, ¬ Due now row := by
  unfold claimCandidate
  rw [List.head?_eq_none_iff, ← List.length_eq_zero_iff, List.length_insertionSort,
    List.length_eq_zero_iff, List.filter_eq_nil_iff]
  simp only [claimable_iff]

end Wakeup

/-! ## Claims -/

section Claims

variable {Digest : Type} {deps : Dependencies Digest} {store : WorldStore Digest}
  {now leaseExpiresAt : UnixTimeMillis} {entries : List CommitEntry}

/-- The database after a job was claimed. No other job has changed. -/
def claimedStore (store : WorldStore Digest) (leaseExpiresAt : UnixTimeMillis)
    (row : EffectJobRow) : WorldStore Digest :=
  { store with
    effectJobs := store.effectJobs.map fun other =>
      if other.jobId = row.jobId then claimChange leaseExpiresAt (row.attemptCount + 1) other
      else other }

/-- The guard of a claim lets exactly its candidate pass. -/
theorem claimGuard_iff (hids : (store.effectJobs.map EffectJobRow.jobId).Nodup)
    {other : EffectJobRow} (hrow : row ∈ store.effectJobs) (hdue : Due now row)
    (hother : other ∈ store.effectJobs) :
    claimGuard now row other = true ↔ other.jobId = row.jobId := by
  constructor
  · intro hguard
    simp only [claimGuard, Bool.and_eq_true, decide_eq_true_eq] at hguard
    exact hguard.1.1
  · intro hid
    obtain rfl := row_unique hids hother hrow hid
    simp [claimGuard, claimable_iff.mpr hdue]

theorem claimChange_identity (leaseExpiresAt : UnixTimeMillis) (attempt : Nat)
    (row : EffectJobRow) : (claimChange leaseExpiresAt attempt row).identity = row.identity :=
  rfl

theorem updated_claimedStore (hids : (store.effectJobs.map EffectJobRow.jobId).Nodup)
    (hrow : row ∈ store.effectJobs) (hdue : Due now row) :
    Updated (claimGuard now row) (claimChange leaseExpiresAt (row.attemptCount + 1)) store
      (claimedStore store leaseExpiresAt row) where
  checked _ _ _ := by simp [checkJob, claimChange, statusRunning]
  single := by
    have hcount : store.effectJobs.countP (claimGuard now row) =
        (store.effectJobs.map EffectJobRow.jobId).count row.jobId := by
      rw [List.count, List.countP_map]
      refine List.countP_congr fun other hother => ?_
      simp [claimGuard_iff hids hrow hdue hother]
    rw [hcount, List.count_eq_one_of_mem hids (List.mem_map_of_mem hrow)]
  result := by
    have hjobs : ∀ other ∈ store.effectJobs,
        (if other.jobId = row.jobId then claimChange leaseExpiresAt (row.attemptCount + 1) other
          else other) =
        if claimGuard now row other then claimChange leaseExpiresAt (row.attemptCount + 1) other
          else other := by
      intro other hother
      simp only [claimGuard_iff hids hrow hdue hother]
    rw [claimedStore, List.map_congr_left hjobs]

/-- The update of a claim is made as it was planned. -/
theorem updateJobs_of_updated {guard : EffectJobRow → Bool}
    {change : EffectJobRow → EffectJobRow} {store' : WorldStore Digest}
    (h : Updated guard change store store') :
    updateJobs guard change store.effectJobs = .ok (store'.effectJobs, 1) := by
  have hall : ((store.effectJobs.filter guard).all fun row => checkJob (change row)) = true := by
    rw [List.all_eq_true]
    intro row hrow
    obtain ⟨hmem, hguard⟩ := List.mem_filter.mp hrow
    exact h.checked row hmem hguard
  rw [updateJobs, hall, h.single, h.result]
  rfl

/-- A claim of the first due job succeeds exactly when its payload can be read. The claimed row is
read back with the commit that it belongs to. -/
theorem Journal.claimNext_of_candidate (h : Journal deps entries store)
    (haccepted : ∀ entry ∈ entries, AcceptedEntry entry)
    (hcandidate : claimCandidate store now = some row) (hlease : now.get < leaseExpiresAt.get)
    (hattempts : row.attemptCount + 1 < indexLimit) :
    ∃ job : StoredEffectJob, job.id = row.jobId ∧
      claimNext deps store now leaseExpiresAt =
        (liftJson (deps.fromStr row.payloadJson)).map fun payload =>
          (claimedStore store leaseExpiresAt row,
            some ⟨{ job with payload := payload }, leaseExpiresAt⟩) := by
  have hfirst := firstDue_of_claimCandidate hcandidate
  have hupdated : Updated (claimGuard now row)
      (claimChange leaseExpiresAt (row.attemptCount + 1)) store
      (claimedStore store leaseExpiresAt row) :=
    updated_claimedStore h.effectIds hfirst.mem hfirst.due
  have hnext : Journal deps entries (claimedStore store leaseExpiresAt row) :=
    h.jobs (claimChange_identity leaseExpiresAt (row.attemptCount + 1)) hupdated
  obtain ⟨n, entry, i, effect, hentry, heffect, hidentity⟩ := h.effect_of_job hfirst.mem
  have hclaimed : claimChange leaseExpiresAt (row.attemptCount + 1) row ∈
      (claimedStore store leaseExpiresAt row).effectJobs := by
    refine List.mem_map.mpr ⟨row, hfirst.mem, ?_⟩
    rw [if_pos rfl]
  have hlookup : lookupRow EffectJobRow.jobId (claimedStore store leaseExpiresAt row).effectJobs
      (claimChange leaseExpiresAt (row.attemptCount + 1) row).jobId =
        some (claimChange leaseExpiresAt (row.attemptCount + 1) row) :=
    (lookupRow_eq_some_iff hnext.effectIds).mpr ⟨hclaimed, rfl⟩
  have hentryMem := List.mem_of_getElem? hentry
  have hindex : i < indexLimit := by
    have hlt := (List.getElem?_eq_some_iff.mp heffect).1
    have hcount := (haccepted entry hentryMem).effectCount
    omega
  have hread : effectJobById deps (claimedStore store leaseExpiresAt row)
      (claimChange leaseExpiresAt (row.attemptCount + 1) row).jobId = _ :=
    effectJobById_effectRow (haccepted entry hentryMem) (List.mem_of_getElem? heffect) hindex
      hlookup hidentity hattempts (hnext.commitAt_entry hentry)
  have hpayload : row.payloadJson = effect.payload.json.toText :=
    congrArg (fun identity => identity.2.2.2.2) hidentity
  have hid : effect.id = row.jobId := (congrArg Prod.fst hidentity).symm
  refine ⟨storedEffect store.worldId (n + 1) i entry effect (row.attemptCount + 1)
    effect.payload, hid, ?_⟩
  have hsmall : row.attemptCount < indexLimit := by omega
  have hclaim : claimNext deps store now leaseExpiresAt =
      effectJobById deps (claimedStore store leaseExpiresAt row) row.jobId >>= fun job =>
        job.elim (.error (.effectJobNotFound row.jobId)) fun job =>
          .ok (claimedStore store leaseExpiresAt row, some ⟨job, leaseExpiresAt⟩) := by
    simp only [claimNext, hcandidate, nextAttempt, ensure, hlease, hsmall, hattempts, decide_true,
      if_true, bind, Except.bind, pure, Except.pure, updateJobs_of_updated hupdated]
    change effectJobById deps (claimedStore store leaseExpiresAt row) row.jobId >>= _ = _
    refine congrArg _ (funext fun job => ?_)
    cases job <;> rfl
  rw [hclaim, hpayload]
  change effectJobById deps (claimedStore store leaseExpiresAt row)
    (claimChange leaseExpiresAt (row.attemptCount + 1) row).jobId >>= _ = _
  rw [hread]
  cases deps.fromStr effect.payload.json.toText <;> rfl

/-- There is one first due job at most. -/
theorem Journal.firstDue_unique (h : Journal deps entries store) {other : EffectJobRow}
    (hrow : FirstDue store now row) (hother : FirstDue store now other) : row = other := by
  obtain ⟨n, entry, i, effect, hentry, heffect, hidentity⟩ := h.effect_of_job hrow.mem
  obtain ⟨n', entry', i', effect', hentry', heffect', hidentity'⟩ := h.effect_of_job hother.mem
  have hle := hrow.first other hother.mem hother.due
  have hge := hother.first row hrow.mem hrow.due
  simp only [EffectJobRow.identity, effectRow, Prod.mk.injEq] at hidentity hidentity'
  unfold rowLe at hle hge
  have hposition : n = n' := by omega
  have hindex : i = i' := by omega
  subst hposition hindex
  cases hentry.symm.trans hentry'
  cases heffect.symm.trans heffect'
  exact row_unique h.effectIds hrow.mem hother.mem (hidentity.1.trans hidentity'.1.symm)

/-- A claim returns a job exactly at the wake-up time and after it, and this is the first job
that is due. Every other job is as it was. -/
structure ClaimsInOrder (deps : Dependencies Digest) (store : WorldStore Digest)
    (now leaseExpiresAt : UnixTimeMillis) : Prop where
  wakeup : (∃ store' claimed, claimNext deps store now leaseExpiresAt =
      .ok (store', some claimed)) ↔
    ∃ time, nextWakeup store = some time ∧ time.get ≤ now.get
  first : ∀ store' claimed, claimNext deps store now leaseExpiresAt =
      .ok (store', some claimed) →
    ∃ row, FirstDue store now row ∧ claimed.job.id = row.jobId ∧
      claimed.leaseExpiresAt = leaseExpiresAt ∧
      store' = claimedStore store leaseExpiresAt row

theorem claimNext_none (hlease : now.get < leaseExpiresAt.get)
    (hnone : claimCandidate store now = none) :
    claimNext deps store now leaseExpiresAt = .ok (store, none) := by
  simp only [claimNext, hnone, ensure, hlease, decide_true, if_true, bind, Except.bind, pure,
    Except.pure]

/-- With the commits of a history, claims are in order exactly when the first due job can be
read. -/
theorem Journal.claimsInOrder_iff (h : Journal deps entries store)
    (haccepted : ∀ entry ∈ entries, AcceptedEntry entry)
    (hlease : now.get < leaseExpiresAt.get)
    (hattempts : ∀ row ∈ store.effectJobs, Due now row → row.attemptCount + 1 < indexLimit) :
    ClaimsInOrder deps store now leaseExpiresAt ↔
      ∀ row, FirstDue store now row → ∃ payload, deps.fromStr row.payloadJson = .ok payload := by
  cases hcandidate : claimCandidate store now with
  | none =>
      have hquiet := claimCandidate_eq_none_iff.mp hcandidate
      have hclaim : claimNext deps store now leaseExpiresAt = .ok (store, none) :=
        claimNext_none hlease hcandidate
      have hwakeup : ¬ ∃ time, nextWakeup store = some time ∧ time.get ≤ now.get := by
        rw [nextWakeup_le_iff]
        exact fun ⟨row, hrow, hdue⟩ => hquiet row hrow hdue
      have hnone : ∀ store' claimed, claimNext deps store now leaseExpiresAt ≠
          .ok (store', some claimed) := by
        intro store' claimed hsome
        cases hclaim.symm.trans hsome
      refine ⟨fun _ row hrow => absurd hrow.due (hquiet row hrow.mem), fun _ => ⟨?_, ?_⟩⟩
      · exact ⟨fun ⟨store', claimed, hsome⟩ => absurd hsome (hnone store' claimed),
          fun htime => absurd htime hwakeup⟩
      · exact fun store' claimed hsome => absurd hsome (hnone store' claimed)
  | some row =>
      have hfirst := firstDue_of_claimCandidate hcandidate
      obtain ⟨job, hid, hclaim⟩ := h.claimNext_of_candidate haccepted hcandidate hlease
        (hattempts row hfirst.mem hfirst.due)
      have hwakeup : ∃ time, nextWakeup store = some time ∧ time.get ≤ now.get :=
        nextWakeup_le_iff.mpr ⟨row, hfirst.mem, hfirst.due⟩
      constructor
      · intro horder other hother
        obtain rfl := h.firstDue_unique hfirst hother
        obtain ⟨store', claimed, hsome⟩ := horder.wakeup.mpr hwakeup
        cases hread : deps.fromStr row.payloadJson with
        | ok payload => exact ⟨payload, rfl⟩
        | error error =>
            rw [hclaim, hread] at hsome
            cases hsome
      · intro hreadable
        obtain ⟨payload, hread⟩ := hreadable row hfirst
        rw [hread] at hclaim
        refine ⟨⟨fun _ => hwakeup, fun _ => ⟨_, _, hclaim⟩⟩, fun store' claimed hsome => ?_⟩
        cases hclaim.symm.trans hsome
        exact ⟨row, hfirst, hid, rfl, rfl⟩

end Claims

/-! ## Every reachable outbox -/

section Reachable

variable {Digest : Type} [DecidableEq Digest] {deps : Dependencies Digest}

/-- The largest number of attempts. -/
def u32Max : Nat := 2 ^ 32 - 1

/-- In every reachable outbox without a due job that has used up its attempts, the wake-up
time tells exactly when a claim returns a job, and claims are made in the order of commits,
if and only if the payload of the first due job can be read. -/
theorem claim_follows_wakeup_iff {store : WorldStore Digest}
    (hreachable : (storageSystem deps).Reachable store) {now leaseExpiresAt : UnixTimeMillis}
    (hlease : now.get < leaseExpiresAt.get)
    (hattempts : ∀ row ∈ store.effectJobs, Due now row → row.attemptCount ≠ u32Max) :
    ClaimsInOrder deps store now leaseExpiresAt ↔
      ∀ row, FirstDue store now row →
        ∃ payload, deps.fromStr row.payloadJson = .ok payload := by
  have hfits := attempts_of_reachable hreachable
  obtain ⟨start, history, ⟨worldId, rfl⟩, hrun⟩ := hreachable
  refine (journal_of_run hrun).claimsInOrder_iff (acceptedEntries_of_run hrun) hlease ?_
  intro row hrow hdue
  have hlimit := hfits row hrow
  have hunused := hattempts row hrow hdue
  simp only [indexLimit, u32Max] at *
  omega

/-- One effect that is due, of the demo transaction. -/
def dueRequests : List Request :=
  [demoCommit 1 0 demoTransaction]

/-- A job that is available is claimed. -/
theorem claim_follows_wakeup_due :
    ClaimsInOrder (tableDependencies [acceptAll] [])
      (demoRun (tableDependencies [acceptAll] []) dueRequests).2 ⟨0⟩ ⟨10⟩ := by
  have hattempts : ∀ row ∈ (demoRun (tableDependencies [acceptAll] []) dueRequests).2.effectJobs,
      row.attemptCount ≠ u32Max := by
    decide +kernel
  have hreadable : ∀ row ∈ (demoRun (tableDependencies [acceptAll] []) dueRequests).2.effectJobs,
      ((tableDependencies [acceptAll] []).fromStr row.payloadJson).isOk = true := by
    decide +kernel
  refine (claim_follows_wakeup_iff (reachable_demoRun _ dueRequests) (by decide)
    fun row hrow _ => hattempts row hrow).mpr fun row hfirst => ?_
  cases hread : (tableDependencies [acceptAll] []).fromStr row.payloadJson with
  | ok payload => exact ⟨payload, rfl⟩
  | error error =>
      have hok := hreadable row hfirst.mem
      rw [hread] at hok
      cases hok

/-! ## A payload that cannot be read -/

/-- A number of arrays, each the only item of the one around it. -/
def nestedArrays : Nat → Json
  | 0 => .null
  | depth + 1 => .array [nestedArrays depth]

/-- One array more than the parser reads. -/
def nestedPayload : JsonValue :=
  ⟨nestedArrays 128, by decide +kernel⟩

def nestedRequests : List Request :=
  [demoCommit 1 0 ⟨[], [], [⟨⟨1⟩, demoKey "demo.mail", nestedPayload⟩]⟩]

/-- The effect is committed and due at once, and every claim fails. -/
theorem claim_fails_on_nested_payload :
    let deps := tableDependencies [acceptAll] []
    let store := (demoRun deps nestedRequests).2
    (storageSystem deps).Reachable store ∧
      (∀ row ∈ store.effectJobs, row.attemptCount ≠ u32Max) ∧
      nextWakeup store = some ⟨0⟩ ∧
      (claimNext deps store ⟨0⟩ ⟨10⟩).isOk = false ∧
      ¬ ClaimsInOrder deps store ⟨0⟩ ⟨10⟩ := by
  intro deps store
  have hwakeup : nextWakeup store = some ⟨0⟩ := by decide +kernel
  have hfails : (claimNext deps store ⟨0⟩ ⟨10⟩).isOk = false := by decide +kernel
  refine ⟨reachable_demoRun deps nestedRequests, by decide +kernel, hwakeup, hfails, ?_⟩
  intro horder
  obtain ⟨store', claimed, hclaim⟩ := horder.wakeup.mpr ⟨⟨0⟩, hwakeup, by decide⟩
  rw [hclaim] at hfails
  cases hfails

end Reachable

end Rintawa.Storage
