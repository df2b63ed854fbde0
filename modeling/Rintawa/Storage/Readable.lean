/-
# Rows that can be decoded

A commit is only accepted while every stored schema can be decoded, and all its schemas are
registered. So the schemas of its rows are canonical, and its indices were checked when the
rows were written. What remains are documents: a row is read back when its document is.
-/

import Rintawa.Storage.Fencing

namespace Rintawa.Storage

open Rintawa.Lib Rintawa.Sdk Rintawa.World

/-! ## Accepted commits -/

/-- What every commit of a history fulfils. -/
structure AcceptedEntry (entry : CommitEntry) : Prop where
  command : validateSchemaId entry.command.schema.id.asStr = .ok ()
  events : ∀ event ∈ entry.transaction.events, validateSchemaId event.schema.id.asStr = .ok ()
  effects : ∀ effect ∈ entry.transaction.effects,
    validateSchemaId effect.schema.id.asStr = .ok ()
  mutationCount : entry.transaction.mutations.length ≤ indexLimit
  eventCount : entry.transaction.events.length ≤ indexLimit
  effectCount : entry.transaction.effects.length ≤ indexLimit

theorem applyMutations_fits {parents : ParentKeys} {position : Nat} :
    ∀ {mutations : List WorldMutation} {index : Nat}
      {tables tables' : List MutationRow × StateTables},
      applyMutations parents position index mutations tables = .ok tables' →
      index ≤ indexLimit → index + mutations.length ≤ indexLimit
  | [], index, tables, tables', h, hindex => by simpa using hindex
  | mutation :: mutations, index, tables, tables', h, hindex => by
      obtain ⟨stored, hstored, hlog⟩ := bind_eq_ok_iff.mp h
      obtain ⟨log, _, hparent⟩ := bind_eq_ok_iff.mp hlog
      obtain ⟨⟨⟩, _, hstate⟩ := bind_eq_ok_iff.mp hparent
      obtain ⟨state, _, hrest⟩ := bind_eq_ok_iff.mp hstate
      obtain ⟨hfits, rfl⟩ := indexToSql_eq_ok_iff.mp hstored
      have hcount := applyMutations_fits hrest (Nat.succ_le_of_lt hfits)
      rw [List.length_cons]
      omega

/-- Rows that are numbered as they are inserted are no more than their limit. -/
theorem insertIndexed_fits {Row Draft : Type} {limit : Nat}
    {insert : List Row → Nat → Draft → Except StorageError (List Row)}
    (hinsert : ∀ rows index draft rows', insert rows index draft = .ok rows' → index < limit) :
    ∀ {drafts : List Draft} {index : Nat} {rows rows' : List Row},
      insertIndexed insert index drafts rows = .ok rows' →
      index ≤ limit → index + drafts.length ≤ limit
  | [], index, rows, rows', h, hindex => by simpa using hindex
  | draft :: drafts, index, rows, rows', h, hindex => by
      obtain ⟨middle, hfirst, hrest⟩ := bind_eq_ok_iff.mp h
      have hfits := hinsert _ _ _ _ hfirst
      have hrest := insertIndexed_fits hinsert hrest (Nat.succ_le_of_lt hfits)
      rw [List.length_cons]
      omega

section Accepted

variable {Digest : Type} {deps : Dependencies Digest}

/-- A key of a loaded registry is canonical. -/
theorem Reflects.canonical {rows : List SchemaRow} {registry : SchemaRegistry}
    (h : Reflects deps rows registry) {key : SchemaKey} {kind : SchemaKind}
    {payload : JsonValue} (hvalid : registry.validatePayload key kind payload = .ok ()) :
    validateSchemaId key.id.asStr = .ok () := by
  obtain ⟨hkind, -⟩ := SchemaRegistry.validatePayload_eq_ok_iff.mp hvalid
  obtain ⟨row, -, definition, hdecode, rfl, -⟩ := h.registered_of_requireKind hkind
  exact (decodeSchema_eq_ok hdecode).2.1

theorem acceptedEntry_of_commitNew {store store' : WorldStore Digest} {command : WorldCommand}
    {transaction : WorldTransaction} {evaluatedPosition : Nat} {clock : Int}
    {receipt : CommitReceipt} {digest : Digest}
    (h : commitNew deps store command transaction evaluatedPosition clock digest =
      .ok (store', receipt)) : AcceptedEntry ⟨command, transaction, clock⟩ := by
  obtain ⟨schemas, hschemas, h⟩ := bind_eq_ok_iff.mp h
  obtain ⟨⟨⟩, hcommand, h⟩ := bind_eq_ok_iff.mp h
  obtain ⟨⟨⟩, htransaction, h⟩ := bind_eq_ok_iff.mp h
  obtain ⟨⟨⟩, _, h⟩ := bind_eq_ok_iff.mp h
  obtain ⟨⟨⟩, _, h⟩ := bind_eq_ok_iff.mp h
  obtain ⟨⟨⟩, _, h⟩ := bind_eq_ok_iff.mp h
  obtain ⟨⟨⟩, _, h⟩ := bind_eq_ok_iff.mp h
  obtain ⟨next, _, h⟩ := bind_eq_ok_iff.mp h
  obtain ⟨position, _, h⟩ := bind_eq_ok_iff.mp h
  obtain ⟨worldCommits, _, h⟩ := bind_eq_ok_iff.mp h
  obtain ⟨tables, hmutations, h⟩ := bind_eq_ok_iff.mp h
  obtain ⟨worldEvents, hevents, h⟩ := bind_eq_ok_iff.mp h
  obtain ⟨effectJobs, heffects, h⟩ := bind_eq_ok_iff.mp h
  have hreflects := loadSchemaRegistry_reflects hschemas
  have hvalid := WorldTransaction.validateSchemas_eq_ok (liftWorld_eq_ok_iff.mp htransaction)
  have hevent : ∀ rows index draft rows', insertEvent
      { store with worldCommits := worldCommits }.parentKeys position rows index draft =
        .ok rows' → index < indexLimit := by
    intro rows index draft rows' hinsert
    obtain ⟨stored, hstored, -⟩ := bind_eq_ok_iff.mp hinsert
    exact (indexToSql_eq_ok_iff.mp hstored).1
  have heffect : ∀ rows index draft rows', insertEffect
      { store with worldCommits := worldCommits }.parentKeys position rows index draft =
        .ok rows' → index < indexLimit := by
    intro rows index draft rows' hinsert
    obtain ⟨stored, hstored, -⟩ := bind_eq_ok_iff.mp hinsert
    exact (indexToSql_eq_ok_iff.mp hstored).1
  exact {
    command := hreflects.canonical (liftWorld_eq_ok_iff.mp hcommand)
    events := fun event hevent => hreflects.canonical (hvalid.2.2.2.1 event hevent)
    effects := fun effect heffect => hreflects.canonical (hvalid.2.2.2.2 effect heffect)
    mutationCount := by simpa using applyMutations_fits hmutations (Nat.zero_le _)
    eventCount := by simpa using insertIndexed_fits hevent hevents (Nat.zero_le _)
    effectCount := by simpa using insertIndexed_fits heffect heffects (Nat.zero_le _) }

variable [DecidableEq Digest]

/-- A request that commits as new is accepted. -/
theorem Serves.acceptedEntry {store store' : WorldStore Digest} {label : Request × Reply}
    (h : Serves deps store label store') {entry : CommitEntry}
    (hentry : committedEntry label = some entry) : AcceptedEntry entry := by
  cases h with
  | rejected => simp [committedEntry] at hentry
  | unavailable => simp [committedEntry] at hentry
  | @done _ request reply h =>
      cases request with
      | commit command transaction evaluatedPosition clock =>
          obtain ⟨⟨next, receipt⟩, hcommit, hresult⟩ := map_eq_ok_iff.mp h
          cases hresult
          obtain ⟨existing, hexisting, hcommit⟩ := bind_eq_ok_iff.mp hcommit
          cases existing with
          | some found =>
              cases hcommit
              have hreplay := committedReceipt_disposition hexisting
              simp [committedEntry, hreplay] at hentry
          | none =>
              have haccepted := acceptedEntry_of_commitNew hcommit
              cases hdisposition : receipt.disposition with
              | alreadyCommitted => simp [committedEntry, hdisposition] at hentry
              | committed =>
                  simp only [committedEntry, hdisposition, Option.some.injEq] at hentry
                  exact hentry ▸ haccepted
      | _ => simp [committedEntry] at hentry

/-- Every commit of a run is accepted. -/
theorem acceptedEntries_of_run {start store : WorldStore Digest}
    {history : List (Request × Reply)} (hrun : (storageSystem deps).Run start history store) :
    ∀ entry ∈ committedEntries history, AcceptedEntry entry := by
  induction hrun with
  | refl => simp [committedEntries]
  | @cons s t u label labels hstep _ ih =>
      intro entry hentry
      cases hlabel : committedEntry label with
      | none =>
          rw [committedEntries, List.filterMap_cons_none hlabel] at hentry
          exact ih entry hentry
      | some first =>
          rw [committedEntries, List.filterMap_cons_some hlabel, List.mem_cons] at hentry
          rcases hentry with rfl | hrest
          · exact Serves.acceptedEntry hstep hlabel
          · exact ih entry hrest

end Accepted

/-! ## Rows and records -/

/-- The provenance of what a command commits. -/
def CommitEntry.provenance (entry : CommitEntry) : CommandProvenance where
  commandId := entry.command.id
  commandSchema := entry.command.schema
  principal := entry.command.principal
  actor := entry.command.actor
  causation := entry.command.causation
  correlationId := entry.command.correlationId
  effectiveAt := entry.command.effectiveAt
  recordedAt := ⟨entry.clock⟩

/-- The record of an event, with the payload that was read for it. -/
def storedEvent (worldId : WorldId) (position index : Nat) (entry : CommitEntry)
    (event : WorldEventDraft) (payload : JsonValue) : StoredWorldEvent :=
  ⟨worldId, event.id, position, index, entry.provenance, event.schema, payload⟩

/-- The record of an effect after some attempts. -/
def storedEffect (worldId : WorldId) (position index : Nat) (entry : CommitEntry)
    (effect : EffectJobDraft) (attempts : Nat) (payload : JsonValue) : StoredEffectJob :=
  ⟨worldId, effect.id, position, index, entry.provenance, effect.schema, payload, attempts⟩

theorem decodeSchemaKey_columns {key : SchemaKey}
    (h : validateSchemaId key.id.asStr = .ok ()) :
    decodeSchemaKey (schemaColumns key) = .ok key :=
  decodeSchemaKey_eq_ok_iff.mpr ⟨rfl, h⟩

theorem decodeActor_actor (actor : ActorRef) :
    decodeActor (actorKind actor) (actorId actor) = .ok actor := by
  cases actor <;> rfl

theorem decodeCausation_causation (causation : Option CausationRef) :
    decodeCausation (causation.map causationKind) (causation.map causationId) =
      .ok causation := by
  rcases causation with _ | (id | id | id) <;> rfl

theorem indexFromSql_of_lt {index : Nat} (h : index < indexLimit) (label : String) :
    indexFromSql index label = .ok index := by
  simp [indexFromSql, ensure, h, bind, Except.bind]

section Rows

variable {Digest : Type} {deps : Dependencies Digest} {store : WorldStore Digest}
  {entry : CommitEntry} {position index : Nat}

theorem decodeProvenance_commitRow (haccepted : AcceptedEntry entry) (digest : Digest)
    (position : Nat) :
    decodeProvenance (commitRow entry.command digest position entry.clock) =
      .ok entry.provenance := by
  have htime : (entry.command.effectiveAt.map UnixTimeMillis.get).map UnixTimeMillis.mk =
      entry.command.effectiveAt := by
    cases entry.command.effectiveAt <;> rfl
  simp only [decodeProvenance, commitRow, decodeActor_actor, decodeCausation_causation,
    decodeSchemaKey_columns haccepted.command, htime]
  rfl

/-- The row of an event is read exactly as its payload is. -/
theorem decodeEvent_eventRow (haccepted : AcceptedEntry entry) (digest : Digest)
    {event : WorldEventDraft} (hevent : event ∈ entry.transaction.events)
    (hindex : index < indexLimit) :
    decodeEvent deps store
        (eventRow position index event, commitRow entry.command digest position entry.clock) =
      (liftJson (deps.fromStr event.payload.json.toText)).map
        (storedEvent store.worldId position index entry event) := by
  have hschema := decodeSchemaKey_columns (haccepted.events event hevent)
  simp only [decodeEvent, eventRow, indexFromSql_of_lt hindex, hschema,
    decodeProvenance_commitRow haccepted]
  cases deps.fromStr event.payload.json.toText <;> rfl

variable {row : EffectJobRow}

/-- The row of an effect is read exactly as its payload is, however often it was attempted. -/
theorem decodeEffect_effectRow (haccepted : AcceptedEntry entry) (digest : Digest)
    {effect : EffectJobDraft} (heffect : effect ∈ entry.transaction.effects)
    (hindex : index < indexLimit)
    (hidentity : row.identity = (effectRow position index effect).identity)
    (hattempts : row.attemptCount < indexLimit) :
    decodeEffect deps store
        (row, commitRow entry.command digest position entry.clock) =
      (liftJson (deps.fromStr effect.payload.json.toText)).map
        (storedEffect store.worldId position index entry effect row.attemptCount) := by
  simp only [EffectJobRow.identity, effectRow, Prod.mk.injEq] at hidentity
  obtain ⟨hid, hposition, hjobIndex, hcolumns, hpayload⟩ := hidentity
  have hschema := decodeSchemaKey_columns (haccepted.effects effect heffect)
  simp only [decodeEffect, hposition, hjobIndex, hcolumns, hpayload, hschema,
    indexFromSql_of_lt hindex, indexFromSql_of_lt hattempts,
    decodeProvenance_commitRow haccepted]
  cases deps.fromStr effect.payload.json.toText with
  | error => rfl
  | ok payload =>
      simp [liftJson, bind, Except.bind, pure, Except.pure, Except.map, storedEffect, hid]

/-- A job that has a commit is read from the two rows. -/
theorem effectJobById_of_rows {jobId : EffectJobId} {job : EffectJobRow}
    {commit : CommitRow Digest}
    (hjob : lookupRow EffectJobRow.jobId store.effectJobs jobId = some job)
    (hcommit : commitAt store job.commitPosition = some commit) :
    effectJobById deps store jobId = (decodeEffect deps store (job, commit)).map some := by
  simp only [effectJobById, hjob, hcommit, decodeEffect]
  cases indexFromSql job.jobIndex "job_index" with
  | error => rfl
  | ok index => ?_
  cases decodeProvenance commit with
  | error => rfl
  | ok provenance => ?_
  cases decodeSchemaKey job.schema with
  | error => rfl
  | ok schema => ?_
  cases liftJson (deps.fromStr job.payloadJson) with
  | error => rfl
  | ok payload => ?_
  cases indexFromSql job.attemptCount "attempt_count" <;> rfl

theorem effectJobById_effectRow (haccepted : AcceptedEntry entry) {digest : Digest}
    {effect : EffectJobDraft} (heffect : effect ∈ entry.transaction.effects)
    (hindex : index < indexLimit)
    (hrow : lookupRow EffectJobRow.jobId store.effectJobs row.jobId = some row)
    (hidentity : row.identity = (effectRow position index effect).identity)
    (hattempts : row.attemptCount < indexLimit) (hcommit : commitAt store position =
      some (commitRow entry.command digest position entry.clock)) :
    effectJobById deps store row.jobId =
      (liftJson (deps.fromStr effect.payload.json.toText)).map fun payload =>
        some (storedEffect store.worldId position index entry effect row.attemptCount
          payload) := by
  have hposition : row.commitPosition = position :=
    congrArg (fun identity => identity.2.1) hidentity
  rw [← hposition] at hcommit
  rw [effectJobById_of_rows hrow hcommit, hposition,
    decodeEffect_effectRow haccepted digest heffect hindex hidentity hattempts]
  cases deps.fromStr effect.payload.json.toText <;> rfl

/-! ## Rows of a history -/

variable {entries : List CommitEntry}

/-- Every job was committed as an effect. -/
theorem Journal.effect_of_job (h : Journal deps entries store) (hrow : row ∈ store.effectJobs) :
    ∃ n entry i effect, entries[n]? = some entry ∧ entry.transaction.effects[i]? = some effect ∧
      row.identity = (effectRow (n + 1) i effect).identity := by
  have hmem : row.identity ∈ (effectRows entries).map EffectJobRow.identity := by
    rw [← h.effectJobs]
    exact List.mem_map_of_mem hrow
  obtain ⟨source, hsource, hidentity⟩ := List.mem_map.mp hmem
  simp only [effectRows, batchRows, List.mem_flatten, List.mem_mapIdx] at hsource
  obtain ⟨_, ⟨n, hn, rfl⟩, hsource⟩ := hsource
  obtain ⟨i, hi, rfl⟩ := List.mem_mapIdx.mp hsource
  exact ⟨n, entries[n], i, _, List.getElem?_eq_getElem hn, List.getElem?_eq_getElem hi,
    hidentity.symm⟩

end Rows

/-! ## Attempts -/

section Attempts

variable {Digest : Type} {deps : Dependencies Digest} {store : WorldStore Digest}

/-- The attempts of a job that was read fit its column. -/
theorem attempts_of_effectJobById {jobId : EffectJobId} {job : StoredEffectJob}
    (h : effectJobById deps store jobId = .ok (some job)) :
    ∃ row, lookupRow EffectJobRow.jobId store.effectJobs jobId = some row ∧
      row.attemptCount < indexLimit := by
  unfold effectJobById at h
  split at h
  · cases h
  · next row hrow =>
      split at h
      · cases h
      · obtain ⟨_, _, h⟩ := bind_eq_ok_iff.mp h
        obtain ⟨_, _, h⟩ := bind_eq_ok_iff.mp h
        obtain ⟨_, _, h⟩ := bind_eq_ok_iff.mp h
        obtain ⟨_, _, h⟩ := bind_eq_ok_iff.mp h
        obtain ⟨_, hattempts, _⟩ := bind_eq_ok_iff.mp h
        obtain ⟨⟨⟩, hfits, -⟩ := bind_eq_ok_iff.mp hattempts
        exact ⟨row, hrow, by simpa using hfits⟩

variable [DecidableEq Digest]

/-- Attempts of every job fit an unsigned 32-bit number, as a claim reads the row back that it has
written. -/
theorem attempts_of_reachable (h : (storageSystem deps).Reachable store) :
    ∀ row ∈ store.effectJobs, row.attemptCount < indexLimit := by
  refine Lts.Reachable.induction (P := fun store => ∀ row ∈ store.effectJobs,
    row.attemptCount < indexLimit) ?_ ?_ h
  · rintro _ ⟨worldId, rfl⟩ row hrow
    simp [WorldStore.create] at hrow
  · intro s label t hreachable hfits hstep row hrow
    have hids := effectIds_of_reachable (hreachable.step hstep)
    cases Serves.storeChange hstep with
    | unchanged => exact hfits row hrow
    | schemas => exact hfits row hrow
    | commits hnew =>
        rw [hnew.effectJobs, List.mem_append] at hrow
        rcases hrow with hold | hadded
        · exact hfits row hold
        · obtain ⟨i, _, rfl⟩ := List.mem_mapIdx.mp hadded
          show 0 < indexLimit
          decide
    | jobs hjob hupdate =>
        have hmem := hrow
        rw [hupdate.result] at hmem
        obtain ⟨source, hsource, hchanged⟩ := List.mem_map.mp hmem
        split at hchanged
        · next hguard =>
            subst hchanged
            cases hjob with
            | @claim now leaseExpiresAt candidate claimed _ _ hread =>
                obtain ⟨found, hfound, hattempts⟩ := attempts_of_effectJobById hread
                obtain ⟨hfoundMem, hfoundId⟩ := mem_of_lookupRow hfound
                simp only [claimGuard, Bool.and_eq_true, decide_eq_true_eq] at hguard
                have hsame := row_unique hids hrow hfoundMem (hguard.1.1.trans hfoundId.symm)
                rwa [hsame]
            | @worker request jobId attempt hfence =>
                rw [(workerChange_spec hfence source).2.1]
                exact hfits source hsource
            | cancel => exact hfits source hsource
        · exact hchanged ▸ hfits source hsource

end Attempts

end Rintawa.Storage
