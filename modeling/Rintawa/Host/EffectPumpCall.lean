/-
# One call of the effect pump

A call of the pump claims at most eight jobs, one after the other, and takes each
claim to its end before the next. It returns when no job is due, when it has
claimed its eighth job, or at the first failure of the database. Handlers,
runtimes and other hosts take their own steps in between.
-/

import Rintawa.Host.EffectReplay

namespace Rintawa.Host

open Rintawa.Lib Rintawa.Sdk Rintawa.World Rintawa.Storage Rintawa.WorldRuntime

def maxEffectJobsPerPump : Nat := 8

/-! ## The loop -/

/-- One call of `pump_effect_outbox`: the passes of the loop that are left, the
iterations that it has begun, the one that it works on, and what it returned. -/
structure EffectPump where
  remaining : Nat
  handled : Nat
  claims : List Nat
  current : Option Nat
  returned : Option (Except StorageError Nat)

/-- The call before its first pass. -/
def EffectPump.start : EffectPump :=
  ⟨maxEffectJobsPerPump, 0, [], none, none⟩

/-- The hosts of a world and one call of the pump. -/
structure PumpState (Digest Runtime : Type) where
  hosts : HostState Digest Runtime
  pump : EffectPump

/-- What is visible of a step: whether the call takes it, or anybody else. -/
inductive PumpLabel (Runtime : Type)
  | own (label : HostLabel Runtime)
  | returns
  | environment (label : HostLabel Runtime)

/-- The requests to the database in a step of the hosts, as far as they can hand
out a job. -/
def HostLabel.handsOut {Runtime : Type} (jobId : EffectJobId) : HostLabel Runtime → Bool
  | .claim _ request reply => (handedOutBy jobId (request, reply)).isSome
  | .other (.serve request reply) => (handedOutBy jobId (request, reply)).isSome
  | _ => false

/-- A step of somebody else: it belongs to no iteration of the call, and it
reclaims no lease of a job that the call has claimed. -/
def Environment {Digest Runtime : Type} (state : PumpState Digest Runtime)
    (label : HostLabel Runtime) : Prop :=
  ∀ execution ∈ state.pump.claims, label.execution ≠ some execution ∧
    ∀ iteration, state.hosts.executions execution = some iteration →
      label.handsOut iteration.claim.job.id = false

section Loop

variable {Digest Runtime : Type} [DecidableEq Digest] (deps : Dependencies Digest)
  (systems : Runtime → Systems) (host : EffectHost Runtime)

/-- One step of the call or of its environment. -/
inductive PumpStep :
    PumpState Digest Runtime → PumpLabel Runtime → PumpState Digest Runtime → Prop
  | claim {hosts hosts' : HostState Digest Runtime} {remaining handled : Nat}
      {claims : List Nat} {execution : Nat} {request : Request} {reply : Reply}
      (step : HostStep deps systems host hosts (.claim execution request reply) hosts') :
      PumpStep ⟨hosts, ⟨remaining + 1, handled, claims, none, none⟩⟩
        (.own (.claim execution request reply))
        ⟨hosts', ⟨remaining, handled, claims ++ [execution], some execution, none⟩⟩
  | empty {hosts : HostState Digest Runtime} {remaining handled : Nat} {claims : List Nat}
      {now : UnixTimeMillis} {store' : WorldStore Digest}
      (serves : Serves deps hosts.store
        (.claimNextEffect now ⟨saturatingAdd now.get effectJobLeaseMillis⟩, .claimed none)
        store') :
      PumpStep ⟨hosts, ⟨remaining + 1, handled, claims, none, none⟩⟩ .returns
        ⟨{ hosts with runtimes.store := store' },
          ⟨remaining, handled, claims, none, some (.ok handled)⟩⟩
  | claimFailed {hosts : HostState Digest Runtime} {remaining handled : Nat}
      {claims : List Nat} {now : UnixTimeMillis} {error : StorageError}
      {store' : WorldStore Digest}
      (serves : Serves deps hosts.store
        (.claimNextEffect now ⟨saturatingAdd now.get effectJobLeaseMillis⟩, .failed error)
        store') :
      PumpStep ⟨hosts, ⟨remaining + 1, handled, claims, none, none⟩⟩ .returns
        ⟨{ hosts with runtimes.store := store' },
          ⟨remaining, handled, claims, none, some (.error error)⟩⟩
  | exhausted {hosts : HostState Digest Runtime} {handled : Nat} {claims : List Nat} :
      PumpStep ⟨hosts, ⟨0, handled, claims, none, none⟩⟩ .returns
        ⟨hosts, ⟨0, handled, claims, none, some (.ok handled)⟩⟩
  | work {hosts hosts' : HostState Digest Runtime} {remaining handled : Nat}
      {claims : List Nat} {execution : Nat} {label : HostLabel Runtime}
      (step : HostStep deps systems host hosts label hosts')
      (own : label.execution = some execution)
      (inner : ∀ request reply, label ≠ .update execution request reply) :
      PumpStep ⟨hosts, ⟨remaining, handled, claims, some execution, none⟩⟩ (.own label)
        ⟨hosts', ⟨remaining, handled, claims, some execution, none⟩⟩
  | updated {hosts hosts' : HostState Digest Runtime} {remaining handled : Nat}
      {claims : List Nat} {execution : Nat} {request : Request}
      (step : HostStep deps systems host hosts (.update execution request .updated) hosts') :
      PumpStep ⟨hosts, ⟨remaining, handled, claims, some execution, none⟩⟩
        (.own (.update execution request .updated))
        ⟨hosts', ⟨remaining, handled + 1, claims, none, none⟩⟩
  | updateFailed {hosts hosts' : HostState Digest Runtime} {remaining handled : Nat}
      {claims : List Nat} {execution : Nat} {request : Request} {error : StorageError}
      (step : HostStep deps systems host hosts
        (.update execution request (.failed error)) hosts') :
      PumpStep ⟨hosts, ⟨remaining, handled, claims, some execution, none⟩⟩
        (.own (.update execution request (.failed error)))
        ⟨hosts', ⟨remaining, handled, claims, some execution, some (.error error)⟩⟩
  | environment {state : PumpState Digest Runtime} {hosts' : HostState Digest Runtime}
      {label : HostLabel Runtime}
      (step : HostStep deps systems host state.hosts label hosts')
      (others : Environment state label) :
      PumpStep state (.environment label) ⟨hosts', state.pump⟩

/-- The transition system of one call, which starts in any state of the world and
among any hosts. -/
def pumpSystem : Lts (PumpState Digest Runtime) (PumpLabel Runtime) where
  init state := (storageSystem deps).Reachable state.hosts.store ∧ state.pump = .start
  step := PumpStep deps systems host

end Loop

/-! ## Bounded diagnostics -/

/-- A cut diagnostic fits the outbox, whatever text it is cut from. -/
theorem utf8ByteSize_boundedEffectDiagnostic (reason : String) :
    (boundedEffectDiagnostic reason).utf8ByteSize ≤ maxLastErrorBytes := by
  unfold boundedEffectDiagnostic
  split
  · next hfits => exact hfits
  · exact utf8ByteSize_charsWithin _ _

/-- An update as the pump makes it: the diagnostic fits, and a retry waits as long
as its attempt says. -/
def EffectUpdate.Within (claim : ClaimedEffectJob) (now : UnixTimeMillis) : EffectUpdate → Prop
  | .complete => True
  | .retry availableAt diagnostic =>
      availableAt = effectRetryAt now claim.attempt ∧
        diagnostic.utf8ByteSize ≤ maxLastErrorBytes
  | .cancel diagnostic => diagnostic.utf8ByteSize ≤ maxLastErrorBytes

/-- An iteration that is about to write its outcome writes such an update. -/
def ExecutionPhase.Within (claim : ClaimedEffectJob) (now : UnixTimeMillis) :
    ExecutionPhase → Prop
  | .updating update => update.Within claim now
  | _ => True

theorem retryEffectClaim_within {claim : ClaimedEffectJob} {now : UnixTimeMillis}
    {diagnostic : String} (h : diagnostic.utf8ByteSize ≤ maxLastErrorBytes) :
    (retryEffectClaim claim now diagnostic).Within claim now :=
  ⟨rfl, h⟩

/-- Whatever a handler answers, its diagnostic has been checked or cut. -/
theorem afterHandler_within {handler : ServiceWorldEffectHandler}
    {call : WorldEffectServiceRequest → ServiceAnswer WorldEffectServiceResponse}
    (claim : ClaimedEffectJob) (now : UnixTimeMillis) :
    (afterHandler claim now (handler.execute call claim)).Within claim now := by
  cases hresult : handler.execute call claim with
  | error error => exact retryEffectClaim_within (utf8ByteSize_boundedEffectDiagnostic _)
  | ok response =>
      have hvalid := validateResponse_of_execute hresult
      cases response with
      | complete command => cases command <;> exact trivial
      | retry reason =>
          by_cases hlong : reason.utf8ByteSize > maxWorldEffectDiagnosticBytes
          · simp [validateResponse, hlong] at hvalid
          · exact retryEffectClaim_within (Nat.not_lt.mp hlong)
      | cancel reason =>
          by_cases hlong : reason.utf8ByteSize > maxWorldEffectDiagnosticBytes
          · simp [validateResponse, hlong] at hvalid
          · exact Nat.not_lt.mp hlong

theorem afterFollowUp_within {Runtime : Type} (host : EffectHost Runtime)
    (claim : ClaimedEffectJob) (now : UnixTimeMillis)
    (outcome : Except FollowUpError WorldCommandOutcome) :
    (ExecutionPhase.updating (afterFollowUp host claim now outcome)).Within claim now := by
  cases outcome with
  | ok outcome => exact trivial
  | error error => exact retryEffectClaim_within (utf8ByteSize_boundedEffectDiagnostic _)

/-! ## Errors of an update -/

/-- A result that is not the refusal of a long diagnostic. -/
def Accepts {α : Type} (result : Except StorageError α) : Prop :=
  ∀ actual maximum, result ≠ .error (.effectErrorTooLarge actual maximum)

section Accepts

variable {α β : Type}

theorem Accepts.ok {value : α} : Accepts (.ok value) :=
  nofun

theorem Accepts.error {failure : StorageError}
    (h : ∀ actual maximum, failure ≠ .effectErrorTooLarge actual maximum) :
    Accepts (.error failure : Except StorageError α) :=
  fun actual maximum heq => h actual maximum (Except.error.inj heq)

theorem Accepts.bind {x : Except StorageError α} {f : α → Except StorageError β}
    (hx : Accepts x) (hf : ∀ value, x = .ok value → Accepts (f value)) : Accepts (x >>= f) := by
  cases x with
  | error failure => exact .error fun actual maximum heq => hx actual maximum (heq ▸ rfl)
  | ok value => exact hf value rfl

theorem Accepts.map {x : Except StorageError α} (hx : Accepts x) (f : α → β) :
    Accepts (x.map f) := by
  cases x with
  | error failure => exact .error fun actual maximum heq => hx actual maximum (heq ▸ rfl)
  | ok value => exact .ok

theorem Accepts.ensure {condition : Bool} {failure : StorageError}
    (h : ∀ actual maximum, failure ≠ .effectErrorTooLarge actual maximum) :
    Accepts (ensure condition failure) := by
  cases condition with
  | true => exact .ok
  | false => exact .error h

end Accepts

section Requests

variable {Digest : Type} [DecidableEq Digest] {deps : Dependencies Digest}
  {store : WorldStore Digest}

theorem updateJobs_accepts (guard : EffectJobRow → Bool)
    (change : EffectJobRow → EffectJobRow) (jobs : List EffectJobRow) :
    Accepts (updateJobs guard change jobs) :=
  Accepts.bind (.ensure nofun) fun _ _ => .ok

omit [DecidableEq Digest] in
theorem transitionClaim_accepts (jobId : EffectJobId) (attempt : Nat)
    (change : EffectJobRow → EffectJobRow) :
    Accepts (transitionClaim store jobId attempt change) := by
  refine Accepts.bind (updateJobs_accepts _ _ _) fun updated _ => ?_
  split
  · exact .ok
  · split
    · exact .error nofun
    · exact .error nofun

/-- An update whose diagnostic fits is never refused for its length. -/
theorem update_accepts {claim : ClaimedEffectJob} {now : UnixTimeMillis}
    {update : EffectUpdate} (h : update.Within claim now) :
    Accepts (perform deps store (update.request claim)) := by
  have hfits : ∀ diagnostic : String, diagnostic.utf8ByteSize ≤ maxLastErrorBytes →
      ensureDiagnostic diagnostic = .ok () := by
    intro diagnostic hdiagnostic
    rw [ensureDiagnostic, ensure_eq_ok_iff, decide_eq_true_iff]
    exact hdiagnostic
  cases update with
  | complete => exact (transitionClaim_accepts _ _ _).map _
  | retry availableAt diagnostic =>
      refine Accepts.map (.bind ?_ fun _ _ => transitionClaim_accepts _ _ _) _
      rw [hfits diagnostic h.2]
      exact .ok
  | cancel diagnostic =>
      refine Accepts.map (.bind ?_ fun _ _ => transitionClaim_accepts _ _ _) _
      rw [hfits diagnostic h]
      exact .ok

omit [DecidableEq Digest] in
theorem decodeSchemaKey_accepts (columns : SchemaColumns) :
    Accepts (decodeSchemaKey columns) := by
  unfold decodeSchemaKey
  split
  · exact .error nofun
  · split
    · exact .error nofun
    · exact .ok

omit [DecidableEq Digest] in
theorem decodeProvenance_accepts (commit : CommitRow Digest) :
    Accepts (decodeProvenance commit) := by
  refine .bind ?_ fun actor _ => .bind ?_ fun causation _ =>
    .bind (decodeSchemaKey_accepts _) fun _ _ => .ok
  · unfold decodeActor
    split
    · exact .ok
    · exact .ok
    · exact .error nofun
  · unfold decodeCausation
    split
    · exact .ok
    · exact .ok
    · exact .ok
    · exact .ok
    · exact .error nofun
    · exact .error nofun

omit [DecidableEq Digest] in
theorem effectJobById_accepts (jobId : EffectJobId) :
    Accepts (effectJobById deps store jobId) := by
  unfold effectJobById
  split
  · exact .ok
  · split
    · exact .ok
    · refine .bind (.bind (.ensure nofun) fun _ _ => .ok) fun _ _ =>
        .bind (decodeProvenance_accepts _) fun _ _ => .bind (decodeSchemaKey_accepts _)
          fun _ _ => .bind ?_ fun _ _ => .bind (.bind (.ensure nofun) fun _ _ => .ok)
            fun _ _ => .ok
      cases deps.fromStr _ with
      | ok value => exact .ok
      | error failure => exact .error nofun

omit [DecidableEq Digest] in
theorem nextAttempt_accepts (jobId : EffectJobId) (attemptCount : Nat) :
    Accepts (nextAttempt jobId attemptCount) :=
  Accepts.bind (.ensure nofun) fun _ _ => .bind (.ensure nofun) fun _ _ => .ok

omit [DecidableEq Digest] in
/-- Neither is a claim. -/
theorem claimNext_accepts (now leaseExpiresAt : UnixTimeMillis) :
    Accepts (claimNext deps store now leaseExpiresAt) := by
  refine .bind (.ensure nofun) fun _ _ => ?_
  cases claimCandidate store now with
  | none => exact .ok
  | some candidate =>
      refine .bind (nextAttempt_accepts _ _) fun attempt _ =>
        .bind (updateJobs_accepts _ _ _) fun updated _ => .bind (.ensure nofun) fun _ _ =>
          .bind (effectJobById_accepts _) fun job _ => ?_
      cases job with
      | none => exact .error nofun
      | some job => exact .ok

theorem claim_accepts (now leaseExpiresAt : UnixTimeMillis) :
    Accepts (perform deps store (.claimNextEffect now leaseExpiresAt)) :=
  (claimNext_accepts now leaseExpiresAt).map _

end Requests

/-! ## The hosts of a call -/

section Hosts

variable {Digest Runtime : Type} [DecidableEq Digest] {deps : Dependencies Digest}
  {systems : Runtime → Systems} {host : EffectHost Runtime}

/-- A step of an iteration leaves it with the claim that it had, and with an
update that fits if it is about to write one. -/
theorem HostStep.own_iteration {hosts hosts' : HostState Digest Runtime}
    {label : HostLabel Runtime} (hstep : HostStep deps systems host hosts label hosts')
    {execution : Nat} (hown : label.execution = some execution) :
    ∃ iteration', hosts'.executions execution = some iteration' ∧
      iteration'.phase.Within iteration'.claim iteration'.now ∧
      ∀ iteration, hosts.executions execution = some iteration →
        iteration'.claim = iteration.claim ∧ iteration'.now = iteration.now := by
  have hsame : ∀ {before : EffectExecution Runtime}
      (_ : hosts.executions execution = some before) (after : EffectExecution Runtime),
      after.claim = before.claim → after.now = before.now →
      ∀ iteration, hosts.executions execution = some iteration →
        after.claim = iteration.claim ∧ after.now = iteration.now := by
    intro before hbefore after hclaim hnow iteration hiteration
    cases hbefore.symm.trans hiteration
    exact ⟨hclaim, hnow⟩
  cases hstep with
  | claim fresh =>
      cases hown
      exact ⟨_, HostState.put_executions_self, trivial,
        fun iteration h => nomatch fresh.symm.trans h⟩
  | unbound atPhase =>
      cases hown
      exact ⟨_, HostState.put_executions_self, retryEffectClaim_within (by decide),
        hsame atPhase _ rfl rfl⟩
  | handle atPhase =>
      cases hown
      exact ⟨_, HostState.put_executions_self, afterHandler_within _ _,
        hsame atPhase _ rfl rfl⟩
  | submit atPhase =>
      cases hown
      exact ⟨_, HostState.put_executions_self, trivial, hsame atPhase _ rfl rfl⟩
  | @refuse _ _ claim now _ _ atPhase =>
      cases hown
      exact ⟨_, HostState.put_executions_self, afterFollowUp_within host claim now _,
        hsame atPhase _ rfl rfl⟩
  | @stopped _ _ _ claim now _ atPhase =>
      cases hown
      exact ⟨_, HostState.put_executions_self, afterFollowUp_within host claim now _,
        hsame atPhase _ rfl rfl⟩
  | @resolve _ _ _ claim now _ _ atPhase =>
      cases hown
      exact ⟨_, HostState.put_executions_self, afterFollowUp_within host claim now _,
        hsame atPhase _ rfl rfl⟩
  | update atPhase =>
      cases hown
      exact ⟨_, HostState.put_executions_self, trivial, hsame atPhase _ rfl rfl⟩
  | other => cases hown

/-- An iteration keeps its claim and the time of it. -/
theorem HostStep.keeps_claim {hosts hosts' : HostState Digest Runtime}
    {label : HostLabel Runtime} (hstep : HostStep deps systems host hosts label hosts')
    {execution : Nat} {iteration : EffectExecution Runtime}
    (h : hosts.executions execution = some iteration) :
    ∃ iteration', hosts'.executions execution = some iteration' ∧
      iteration'.claim = iteration.claim ∧ iteration'.now = iteration.now := by
  by_cases hown : label.execution = some execution
  · obtain ⟨iteration', hafter, -, hsame⟩ := hstep.own_iteration hown
    exact ⟨iteration', hafter, hsame iteration h⟩
  · exact ⟨iteration, (hstep.executions_of_ne hown).trans h, rfl, rfl⟩

/-- Every step of a call is a step of the hosts, or a request to the database. -/
theorem PumpStep.hosts {state state' : PumpState Digest Runtime} {label : PumpLabel Runtime}
    (hstep : PumpStep deps systems host state label state') :
    ∃ labels, (hostSystem deps systems host).Run state.hosts labels state'.hosts := by
  cases hstep with
  | empty serves => exact ⟨_, .single (.other (.serve rfl serves))⟩
  | claimFailed serves => exact ⟨_, .single (.other (.serve rfl serves))⟩
  | exhausted => exact ⟨_, .refl _⟩
  | claim step => exact ⟨_, .single step⟩
  | work step => exact ⟨_, .single step⟩
  | updated step => exact ⟨_, .single step⟩
  | updateFailed step => exact ⟨_, .single step⟩
  | environment step => exact ⟨_, .single step⟩

/-- So the database of a call stays a reachable one. -/
theorem reachable_of_pump {state : PumpState Digest Runtime}
    (h : (pumpSystem deps systems host).Reachable state) :
    (storageSystem deps).Reachable state.hosts.store := by
  refine Lts.Reachable.induction (P := fun state : PumpState Digest Runtime =>
    (storageSystem deps).Reachable state.hosts.store) ?_ ?_ h
  · rintro state ⟨hstore, -⟩
    exact hstore
  intro state label state' _ hstore hstep
  obtain ⟨labels, hrun⟩ := PumpStep.hosts hstep
  exact reachable_of_runtime_run (runtime_of_host_run hrun) hstore

end Hosts

/-! ## What becomes of a claimed job -/

section Settled

variable {Digest Runtime : Type} [DecidableEq Digest] {deps : Dependencies Digest}
  {systems : Runtime → Systems} {host : EffectHost Runtime}

/-- A job that has left the call: it is finished, or it waits as long as the
attempt says under which the call claimed it. -/
def SettledRow (state : PumpState Digest Runtime) (jobId : EffectJobId)
    (row : EffectJobRow) : Prop :=
  row.jobId = jobId ∧
    (Terminal row ∨
      row.status = statusPending ∧
        ∃ execution ∈ state.pump.claims, ∃ iteration,
          state.hosts.executions execution = some iteration ∧
          iteration.claim.job.id = jobId ∧ iteration.claim.attempt = row.attemptCount ∧
          row.availableAtMs = (effectRetryAt iteration.now iteration.claim.attempt).get)

/-- The call works on a job right now. -/
def WorksOn (state : PumpState Digest Runtime) (jobId : EffectJobId) : Prop :=
  ∃ execution, state.pump.current = some execution ∧
    ∃ iteration, state.hosts.executions execution = some iteration ∧
      iteration.claim.job.id = jobId

/-- What holds of a call at any time. -/
structure PumpInvariant (state : PumpState Digest Runtime) : Prop where
  bounded : state.pump.claims.length + state.pump.remaining ≤ maxEffectJobsPerPump
  begun : ∀ execution ∈ state.pump.claims, ∃ iteration,
    state.hosts.executions execution = some iteration
  within : ∀ execution ∈ state.pump.claims, ∀ iteration,
    state.hosts.executions execution = some iteration →
      iteration.phase.Within iteration.claim iteration.now
  current : ∀ execution, state.pump.current = some execution →
    execution ∈ state.pump.claims
  settled : ∀ execution ∈ state.pump.claims, ∀ iteration,
    state.hosts.executions execution = some iteration →
      WorksOn state iteration.claim.job.id ∨
        ∃ row ∈ state.hosts.store.effectJobs, SettledRow state iteration.claim.job.id row
  returned : ∀ handled, state.pump.returned = some (.ok handled) → state.pump.current = none
  accepted : ∀ result, state.pump.returned = some result → Accepts result

variable {label : HostLabel Runtime}

/-- A step of the hosts leaves a job that no worker runs as it is, unless the step
hands it out or cancels it. -/
theorem HostStep.released {hosts hosts' : HostState Digest Runtime}
    (hstep : HostStep deps systems host hosts label hosts') {row : EffectJobRow}
    (hrow : row ∈ hosts.store.effectJobs) (hstopped : row.status ≠ statusRunning)
    (hkept : label.handsOut row.jobId = false) :
    row ∈ hosts'.store.effectJobs ∨ cancelChange row ∈ hosts'.store.effectJobs := by
  cases hstep with
  | claim _ serves =>
      exact serves.released hrow hstopped (by simpa [HostLabel.handsOut] using hkept)
  | @update _ _ claim _ update _ _ _ serves =>
      exact serves.released hrow hstopped (by cases update <;> rfl)
  | other step =>
      cases step with
      | commit _ serves => exact serves.released hrow hstopped rfl
      | commitFailed _ serves => exact serves.released hrow hstopped rfl
      | serve _ serves =>
          exact serves.released hrow hstopped (by simpa [HostLabel.handsOut] using hkept)
      | _ => exact Or.inl hrow
  | _ => exact Or.inl hrow

variable {execution : Nat} {pump' : EffectPump}

/-- An iteration that has begun hands out nothing any more. -/
theorem HostStep.handsOut_of_begun {hosts hosts' : HostState Digest Runtime}
    (hstep : HostStep deps systems host hosts label hosts') {iteration : EffectExecution Runtime}
    (hbegun : hosts.executions execution = some iteration) (hown : label.execution = some execution)
    (jobId : EffectJobId) : label.handsOut jobId = false := by
  cases hstep with
  | claim fresh =>
      cases hown
      cases fresh.symm.trans hbegun
  | other => cases hown
  | _ => rfl

omit [DecidableEq Digest] in
theorem SettledRow.stopped {state : PumpState Digest Runtime} {jobId : EffectJobId}
    {row : EffectJobRow} (h : SettledRow state jobId row) : row.status ≠ statusRunning := by
  obtain ⟨-, hterminal | ⟨hpending, -⟩⟩ := h
  · exact fun hrunning => running_ne_terminal hrunning hterminal
  · rw [hpending]
    decide

/-- A settled job stays settled, unless a step hands it out. -/
theorem settled_step {hosts hosts' : HostState Digest Runtime} {pump : EffectPump}
    (hstep : HostStep deps systems host hosts label hosts') (hclaims : pump.claims ⊆ pump'.claims)
    {jobId : EffectJobId} (hkept : label.handsOut jobId = false)
    (h : ∃ row ∈ hosts.store.effectJobs, SettledRow ⟨hosts, pump⟩ jobId row) :
    ∃ row ∈ hosts'.store.effectJobs, SettledRow ⟨hosts', pump'⟩ jobId row := by
  obtain ⟨row, hrow, hsettled⟩ := h
  rcases hstep.released hrow hsettled.stopped (hsettled.1 ▸ hkept) with hsame | hcancelled
  · refine ⟨row, hsame, hsettled.1, hsettled.2.imp id ?_⟩
    rintro ⟨hpending, execution, hmem, iteration, hiteration, hid, hattempt, hat⟩
    obtain ⟨iteration', hiteration', hclaim, hnow⟩ := hstep.keeps_claim hiteration
    exact ⟨hpending, execution, hclaims hmem, iteration', hiteration', hclaim ▸ hid,
      hclaim ▸ hattempt, by rw [hclaim, hnow]; exact hat⟩
  · exact ⟨cancelChange row, hcancelled, hsettled.1, Or.inl (Or.inr rfl)⟩

/-- A job that the call works on stays so while it keeps its iteration. -/
theorem WorksOn.step {hosts hosts' : HostState Digest Runtime} {pump : EffectPump}
    (hstep : HostStep deps systems host hosts label hosts')
    (hcurrent : pump'.current = pump.current) {jobId : EffectJobId}
    (h : WorksOn ⟨hosts, pump⟩ jobId) : WorksOn ⟨hosts', pump'⟩ jobId := by
  obtain ⟨execution, hworks, iteration, hiteration, hid⟩ := h
  obtain ⟨iteration', hiteration', hclaim, -⟩ := hstep.keeps_claim hiteration
  exact ⟨execution, hcurrent.trans hworks, iteration', hiteration', hclaim ▸ hid⟩

omit [DecidableEq Digest] in
/-- Iterations are known by their claims, before a step as after it. -/
theorem claim_before {hosts' : HostState Digest Runtime} {before after : EffectExecution Runtime}
    (hkept : ∃ iteration', hosts'.executions execution = some iteration' ∧
      iteration'.claim = before.claim ∧ iteration'.now = before.now)
    (hafter : hosts'.executions execution = some after) : after.claim = before.claim := by
  obtain ⟨iteration', hiteration', hclaim, -⟩ := hkept
  cases hiteration'.symm.trans hafter
  exact hclaim

/-- A successful update settles the job of its claim. -/
theorem settled_of_update {hosts hosts' : HostState Digest Runtime} {request : Request}
    (hclaims : execution ∈ pump'.claims)
    (hwithin : ∀ iteration, hosts.executions execution = some iteration →
      iteration.phase.Within iteration.claim iteration.now)
    (hstep : HostStep deps systems host hosts (.update execution request .updated) hosts')
    {iteration : EffectExecution Runtime}
    (hiteration : hosts.executions execution = some iteration) :
    ∃ row ∈ hosts'.store.effectJobs,
      SettledRow ⟨hosts', pump'⟩ iteration.claim.job.id row := by
  obtain ⟨iteration', hiteration', hclaim, hnow⟩ := hstep.keeps_claim hiteration
  cases hstep with
  | @update _ runtime claim now update _ _ atPhase serves =>
      cases atPhase.symm.trans hiteration
      obtain ⟨row, -, hid, -, hcount, hmem, -⟩ :=
        serves.workerSucceeded (update.fence claim)
      refine ⟨_, hmem, ?_⟩
      have hfits := hwithin _ hiteration
      cases update with
      | complete => exact ⟨hid, Or.inl (Or.inl rfl)⟩
      | cancel diagnostic => exact ⟨hid, Or.inl (Or.inr rfl)⟩
      | retry availableAt diagnostic =>
          refine ⟨hid, Or.inr ⟨rfl, execution, hclaims, iteration', hiteration',
            hclaim ▸ rfl, ?_, ?_⟩⟩
          · rw [hclaim]
            exact hcount.symm
          · rw [hclaim, hnow]
            exact congrArg UnixTimeMillis.get hfits.1

/-- A refusal of the database is not one for a long diagnostic. -/
theorem accepts_of_failed {store store' : WorldStore Digest} {request : Request}
    {error : StorageError} (haccepts : Accepts (perform deps store request))
    (hserves : Serves deps store (request, .failed error) store') :
    Accepts (.error error : Except StorageError Nat) := by
  cases hserves with
  | rejected hfailed =>
      rw [hfailed] at haccepts
      exact .error fun actual maximum heq => haccepts actual maximum (heq ▸ rfl)
  | unavailable => exact .error nofun
  | done hdone =>
      cases request <;> (obtain ⟨_, _, hresult⟩ := map_eq_ok_iff.mp hdone; cases hresult)

/-! ## One step of a call -/

/-- The iterations of a call after a step that begins none: each has the claim that
it had, and an update that fits. -/
structure Continues (hosts hosts' : HostState Digest Runtime) (claims : List Nat) : Prop where
  claim : ∀ execution ∈ claims, ∀ iteration', hosts'.executions execution = some iteration' →
    ∃ iteration, hosts.executions execution = some iteration ∧
      iteration'.claim = iteration.claim
  begun : ∀ execution ∈ claims, ∃ iteration', hosts'.executions execution = some iteration'
  within : ∀ execution ∈ claims, ∀ iteration', hosts'.executions execution = some iteration' →
    iteration'.phase.Within iteration'.claim iteration'.now

theorem PumpInvariant.continues {state : PumpState Digest Runtime}
    {hosts' : HostState Digest Runtime} (h : PumpInvariant state)
    (hstep : HostStep deps systems host state.hosts label hosts') :
    Continues state.hosts hosts' state.pump.claims where
  claim execution hmem iteration' hafter := by
    obtain ⟨iteration, hiteration⟩ := h.begun execution hmem
    exact ⟨iteration, hiteration, claim_before (hstep.keeps_claim hiteration) hafter⟩
  begun execution hmem := by
    obtain ⟨iteration, hiteration⟩ := h.begun execution hmem
    obtain ⟨iteration', hafter, -⟩ := hstep.keeps_claim hiteration
    exact ⟨iteration', hafter⟩
  within execution hmem iteration' hafter := by
    by_cases hown : label.execution = some execution
    · obtain ⟨own, hput, hfits, -⟩ := hstep.own_iteration hown
      cases hput.symm.trans hafter
      exact hfits
    · rw [hstep.executions_of_ne hown] at hafter
      exact h.within execution hmem iteration' hafter

/-- A step that hands out no job of the call, and after which the call still works
on what it worked on, keeps every job of the call worked on or settled. -/
theorem PumpInvariant.settled_step {state : PumpState Digest Runtime}
    {hosts' : HostState Digest Runtime} (h : PumpInvariant state)
    (hstep : HostStep deps systems host state.hosts label hosts')
    (hclaims : pump'.claims = state.pump.claims) (hcurrent : pump'.current = state.pump.current)
    (hkept : ∀ execution ∈ state.pump.claims, ∀ iteration,
      state.hosts.executions execution = some iteration →
        label.handsOut iteration.claim.job.id = false) :
    ∀ execution ∈ pump'.claims, ∀ iteration', hosts'.executions execution = some iteration' →
      WorksOn ⟨hosts', pump'⟩ iteration'.claim.job.id ∨
        ∃ row ∈ hosts'.store.effectJobs,
          SettledRow ⟨hosts', pump'⟩ iteration'.claim.job.id row := by
  intro execution hmem iteration' hafter
  rw [hclaims] at hmem
  obtain ⟨iteration, hiteration, hclaim⟩ := (h.continues hstep).claim execution hmem _ hafter
  rw [hclaim]
  exact (h.settled execution hmem iteration hiteration).imp (WorksOn.step hstep hcurrent)
    (Host.settled_step hstep (hclaims ▸ List.Subset.refl _)
      (hkept execution hmem iteration hiteration))

/-- Every step keeps the invariant of a call. -/
theorem PumpInvariant.step {state state' : PumpState Digest Runtime}
    {label : PumpLabel Runtime} (h : PumpInvariant state)
    (hstep : PumpStep deps systems host state label state') : PumpInvariant state' := by
  cases hstep with
  | @claim hosts hosts' remaining handled claims execution request reply step =>
      have hcontinues := h.continues step
      obtain ⟨own, hown, hfits, -⟩ := HostStep.own_iteration step rfl
      have hfresh : execution ∉ claims := by
        intro hmem
        obtain ⟨iteration, hiteration⟩ := h.begun execution hmem
        cases step with
        | claim fresh => cases fresh.symm.trans hiteration
      have hworks : WorksOn ⟨hosts', ⟨remaining, handled, claims ++ [execution],
          some execution, none⟩⟩ own.claim.job.id := ⟨execution, rfl, own, hown, rfl⟩
      have hkept : ∀ jobId, own.claim.job.id ≠ jobId →
          HostLabel.handsOut jobId (.claim execution request reply : HostLabel Runtime) =
            false := by
        intro jobId hne
        cases step with
        | claim =>
            rw [HostState.put_executions_self] at hown
            cases hown
            simp [HostLabel.handsOut, handedOutBy, hne]
      refine ⟨?_, ?_, ?_, ?_, ?_, fun _ hreturned => (by cases hreturned),
        fun _ hresult => by cases hresult⟩
      · have hbounded := h.bounded
        simp only [List.length_append, List.length_singleton] at hbounded ⊢
        omega
      · intro other hmem
        rcases List.mem_append.mp hmem with hold | hnew
        · exact hcontinues.begun other hold
        · rw [List.mem_singleton.mp hnew]
          exact ⟨own, hown⟩
      · intro other hmem iteration hiteration
        rcases List.mem_append.mp hmem with hold | hnew
        · exact hcontinues.within other hold iteration hiteration
        · rw [List.mem_singleton.mp hnew] at hiteration
          cases hown.symm.trans hiteration
          exact hfits
      · intro other hcurrent
        cases hcurrent
        exact List.mem_append_right _ (List.mem_singleton_self _)
      · intro other hmem iteration' hafter
        rcases List.mem_append.mp hmem with hold | hnew
        · obtain ⟨iteration, hiteration, hclaim⟩ := hcontinues.claim other hold _ hafter
          rw [hclaim]
          by_cases hjob : own.claim.job.id = iteration.claim.job.id
          · exact Or.inl (hjob ▸ hworks)
          · rcases h.settled other hold iteration hiteration with ⟨_, hnone, -⟩ | hsettled
            · cases hnone
            · exact Or.inr (Host.settled_step step (List.subset_append_left _ _)
                (hkept _ hjob) hsettled)
        · rw [List.mem_singleton.mp hnew] at hafter
          cases hown.symm.trans hafter
          exact Or.inl hworks
  | empty serves =>
      have hstep : HostStep deps systems host _ _ _ := .other (.serve rfl serves)
      have hcontinues := h.continues hstep
      exact ⟨by have := h.bounded; simp only at this ⊢; omega, hcontinues.begun,
        hcontinues.within, fun _ hcurrent => (by cases hcurrent),
        h.settled_step hstep rfl rfl fun _ _ _ _ => rfl,
        fun _ _ => rfl, fun _ hresult => by cases hresult; exact .ok⟩
  | claimFailed serves =>
      have hstep : HostStep deps systems host _ _ _ := .other (.serve rfl serves)
      have hcontinues := h.continues hstep
      exact ⟨by have := h.bounded; simp only at this ⊢; omega, hcontinues.begun,
        hcontinues.within, fun _ hcurrent => (by cases hcurrent),
        h.settled_step hstep rfl rfl fun _ _ _ _ => rfl,
        fun _ _ => rfl, fun _ hresult => by
          cases hresult
          exact accepts_of_failed (claim_accepts _ _) serves⟩
  | exhausted =>
      exact ⟨h.bounded, h.begun, h.within, h.current, h.settled, fun _ _ => rfl,
        fun _ hresult => by cases hresult; exact .ok⟩
  | @work hosts hosts' remaining handled claims execution label step own inner =>
      have hcontinues := h.continues step
      obtain ⟨iteration, hiteration⟩ := h.begun execution (h.current execution rfl)
      exact ⟨h.bounded, hcontinues.begun, hcontinues.within, h.current,
        h.settled_step step rfl rfl fun _ _ _ _ => step.handsOut_of_begun hiteration own _,
        fun _ hreturned => (by cases hreturned), fun _ hresult => by cases hresult⟩
  | @updated hosts hosts' remaining handled claims execution request step =>
      have hcontinues := h.continues step
      have hmem := h.current execution rfl
      refine ⟨h.bounded, hcontinues.begun, hcontinues.within, fun _ hcurrent => (by cases hcurrent),
        ?_, fun _ hreturned => (by cases hreturned), fun _ hresult => by cases hresult⟩
      intro other hother iteration' hafter
      obtain ⟨iteration, hiteration, hclaim⟩ := hcontinues.claim other hother _ hafter
      rw [hclaim]
      rcases h.settled other hother iteration hiteration with hworks | hsettled
      · obtain ⟨_, hcurrent, held, hheld, hjob⟩ := hworks
        cases hcurrent
        rw [← hjob]
        exact Or.inr (settled_of_update hmem (h.within execution hmem) step hheld)
      · exact Or.inr (Host.settled_step step (List.Subset.refl _) rfl hsettled)
  | @updateFailed hosts hosts' remaining handled claims execution request error step =>
      have hcontinues := h.continues step
      refine ⟨h.bounded, hcontinues.begun, hcontinues.within, h.current,
        h.settled_step step rfl rfl fun _ _ _ _ => rfl,
        fun _ hreturned => (by cases hreturned), ?_⟩
      intro result hresult
      cases hresult
      cases step with
      | update atPhase serves =>
          exact accepts_of_failed
            (update_accepts (h.within execution (h.current execution rfl) _ atPhase)) serves
  | environment step others =>
      have hcontinues := h.continues step
      exact ⟨h.bounded, hcontinues.begun, hcontinues.within, h.current,
        h.settled_step step rfl rfl fun execution hmem => (others execution hmem).2,
        h.returned, h.accepted⟩

/-- The invariant holds throughout every call. -/
theorem pumpInvariant_of_reachable {state : PumpState Digest Runtime}
    (h : (pumpSystem deps systems host).Reachable state) : PumpInvariant state := by
  refine Lts.Reachable.induction (P := PumpInvariant) ?_ ?_ h
  · rintro ⟨hosts, pump⟩ ⟨-, rfl⟩
    exact ⟨le_refl _, nofun, nofun, nofun, nofun, nofun, nofun⟩
  · intro state label state' _ hinvariant hstep
    exact hinvariant.step hstep

end Settled

/-! ## The end of a call -/

section End

variable {Digest Runtime : Type} [DecidableEq Digest] {deps : Dependencies Digest}
  {systems : Runtime → Systems} {host : EffectHost Runtime}

/-- A call claims at most eight jobs, and no update of it has a diagnostic that the
outbox refuses. When it returns without a failure of the database, each job that
it has claimed is finished, or waits until the retry time of its last attempt. -/
theorem pump_leaves_no_job_running {state : PumpState Digest Runtime}
    (hreachable : (pumpSystem deps systems host).Reachable state) :
    state.pump.claims.length ≤ maxEffectJobsPerPump ∧
    (∀ execution ∈ state.pump.claims, ∀ iteration,
      state.hosts.executions execution = some iteration →
        iteration.phase.Within iteration.claim iteration.now) ∧
    (∀ result, state.pump.returned = some result →
      ∀ actual maximum, result ≠ .error (.effectErrorTooLarge actual maximum)) ∧
    (∀ handled, state.pump.returned = some (.ok handled) →
      ∀ execution ∈ state.pump.claims, ∃ iteration,
        state.hosts.executions execution = some iteration ∧
        (∃ row ∈ state.hosts.store.effectJobs, row.jobId = iteration.claim.job.id) ∧
        ∀ row ∈ state.hosts.store.effectJobs, row.jobId = iteration.claim.job.id →
          row.status ≠ statusRunning ∧ SettledRow state iteration.claim.job.id row) := by
  have hinvariant := pumpInvariant_of_reachable hreachable
  have hbounded := hinvariant.bounded
  refine ⟨by omega, hinvariant.within, hinvariant.accepted, ?_⟩
  intro handled hreturned execution hmem
  obtain ⟨iteration, hiteration⟩ := hinvariant.begun execution hmem
  have hsettled : ∃ row ∈ state.hosts.store.effectJobs,
      SettledRow state iteration.claim.job.id row := by
    rcases hinvariant.settled execution hmem iteration hiteration with hworks | hsettled
    · obtain ⟨current, hcurrent, -⟩ := hworks
      cases hcurrent.symm.trans (hinvariant.returned handled hreturned)
    · exact hsettled
  obtain ⟨row, hrow, hsettled⟩ := hsettled
  refine ⟨iteration, hiteration, ⟨row, hrow, hsettled.1⟩, ?_⟩
  intro other hother hid
  have hsame := row_unique (effectIds_of_reachable (reachable_of_pump hreachable)) hother hrow
    (hid.trans hsettled.1.symm)
  subst hsame
  exact ⟨hsettled.stopped, hsettled⟩

end End

/-! ## A call that finds one job -/

/-- A host without handlers. -/
def unboundHost : EffectHost Unit where
  handlers _ _ := none
  describe _ := ""

/-- A world with one due job. -/
def dueStore : WorldStore String :=
  (demoRun crashDependencies [demoCommit 1 0 demoTransaction]).2

/-- The claim of that job. -/
def dueClaim : ClaimedEffectJob where
  job := ⟨⟨0⟩, ⟨1⟩, 1, 0, ⟨⟨1⟩, demoKey "demo.move", ⟨7⟩, .principal ⟨7⟩, none, ⟨1⟩, none, ⟨0⟩⟩,
    demoKey "demo.mail", acceptAll, 1⟩
  leaseExpiresAt := ⟨30000⟩

def dueUpdate : EffectUpdate :=
  retryEffectClaim dueClaim ⟨0⟩ "effect schema is not bound to a handler contract"

/-- The databases after the claim and after the update. -/
def dueClaimedStore : WorldStore String :=
  (serve crashDependencies dueStore (.claimNextEffect ⟨0⟩ ⟨30000⟩)).1

def dueUpdatedStore : WorldStore String :=
  (serve crashDependencies dueClaimedStore (dueUpdate.request dueClaim)).1

/-- The one iteration in a phase. -/
def dueHosts (store : WorldStore String) (phase : ExecutionPhase) : HostState String Unit :=
  HostState.put ⟨⟨store, fun _ => none⟩, fun _ => none⟩ 0 ⟨(), dueClaim, ⟨0⟩, phase⟩

theorem dueHosts_put (store store' : WorldStore String) (phase next : ExecutionPhase) :
    ({ dueHosts store phase with runtimes.store := store' } : HostState String Unit).put 0
      ⟨(), dueClaim, ⟨0⟩, next⟩ = dueHosts store' next := by
  simp [dueHosts, HostState.put]

/-- A call that claims the job, finds no handler, returns the job, and finds nothing
more to do. -/
theorem reachable_call {store claimed updated : WorldStore String}
    (hstore : (storageSystem crashDependencies).Reachable store)
    (hclaimed : Serves crashDependencies store (.claimNextEffect ⟨0⟩ ⟨30000⟩,
      .claimed (some dueClaim)) claimed)
    (hupdated : Serves crashDependencies claimed (dueUpdate.request dueClaim, .updated) updated)
    (hempty : Serves crashDependencies updated (.claimNextEffect ⟨0⟩ ⟨30000⟩, .claimed none)
      updated) :
    ∃ phase, (pumpSystem crashDependencies noSystems unboundHost).Reachable
      ⟨dueHosts updated phase, ⟨6, 1, [0], none, some (.ok 1)⟩⟩ := by
  have hclaim : HostStep crashDependencies noSystems unboundHost
      ⟨⟨store, fun _ => none⟩, fun _ => none⟩
      (.claim 0 (.claimNextEffect ⟨0⟩ ⟨30000⟩) (.claimed (some dueClaim)))
      (dueHosts claimed .handling) :=
    .claim rfl hclaimed
  have hunbound : HostStep crashDependencies noSystems unboundHost
      (dueHosts claimed .handling) (.unbound 0)
      ((dueHosts claimed .handling).put 0 ⟨(), dueClaim, ⟨0⟩, .updating dueUpdate⟩) :=
    .unbound HostState.put_executions_self rfl
  have hput := dueHosts_put claimed claimed .handling (.updating dueUpdate)
  rw [show (dueHosts claimed .handling).put 0 ⟨(), dueClaim, ⟨0⟩, .updating dueUpdate⟩ =
    dueHosts claimed (.updating dueUpdate) from hput] at hunbound
  have hupdate := @HostStep.update _ _ _ crashDependencies noSystems unboundHost
    (dueHosts claimed (.updating dueUpdate)) 0 () dueClaim ⟨0⟩ dueUpdate .updated
    updated HostState.put_executions_self hupdated
  rw [dueHosts_put] at hupdate
  have hstart : (pumpSystem crashDependencies noSystems unboundHost).Reachable
      ⟨⟨⟨store, fun _ => none⟩, fun _ => none⟩, .start⟩ :=
    .of_init ⟨hstore, rfl⟩
  have hbegun := hstart.step (.claim hclaim)
  have hworked := hbegun.step (.work hunbound rfl fun _ _ h => by cases h)
  have hdone := hworked.step (.updated hupdate)
  exact ⟨_, hdone.step (@PumpStep.empty _ _ _ _ _ _ _ _ _ _ ⟨0⟩ _ hempty)⟩

/-- That job waits for a second from its claim on. -/
theorem pump_leaves_no_job_running_due : ∃ phase,
    let hosts := dueHosts dueUpdatedStore phase
    hosts.executions 0 = some ⟨(), dueClaim, ⟨0⟩, phase⟩ ∧
      ∃ row ∈ hosts.store.effectJobs, row.jobId = ⟨1⟩ ∧ row.status ≠ statusRunning ∧
        row.availableAtMs = 1000 := by
  obtain ⟨phase, hreachable⟩ := reachable_call (reachable_demoRun crashDependencies _)
    (serves_serve crashDependencies dueStore (.claimNextEffect ⟨0⟩ ⟨30000⟩))
    (serves_serve crashDependencies dueClaimedStore (dueUpdate.request dueClaim))
    (serves_serve crashDependencies dueUpdatedStore (.claimNextEffect ⟨0⟩ ⟨30000⟩))
  obtain ⟨-, -, -, hend⟩ := pump_leaves_no_job_running hreachable
  obtain ⟨iteration, hiteration, ⟨row, hrow, hid⟩, hall⟩ :=
    hend 1 rfl 0 (List.mem_singleton_self 0)
  have hput : (dueHosts dueUpdatedStore phase).executions 0 =
      some ⟨(), dueClaim, ⟨0⟩, phase⟩ := HostState.put_executions_self
  cases hput.symm.trans hiteration
  refine ⟨phase, hput, row, hrow, hid, (hall row hrow hid).1, ?_⟩
  have hwaits : ∀ row ∈ dueUpdatedStore.effectJobs, row.jobId = ⟨1⟩ →
      row.availableAtMs = 1000 := by
    decide +kernel
  exact hwaits row hrow hid

end Rintawa.Host
