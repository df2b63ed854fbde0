/-
# Committed rows are read back exactly

Four readers decode the rows of a commit on their own: the events of one position, the
pages of the event log, the pages of the mutation log, and the outbox. All of them return
the committed data in its order, with the provenance of its command. That a document is
read back from its text is left to the JSON parser.
-/

import Rintawa.Storage.Rebuild
import Rintawa.Storage.Wakeup

namespace Rintawa.Storage

open Rintawa.Lib Rintawa.Sdk Rintawa.World

/-! ## Reading rows that were made from records -/

section Pages

variable {Source Row Item : Type} {position index : Row → Nat}
  {decode : Row → Except StorageError Item} {row : Source → Row} {record : Source → Item}
  {sources : List Source}

/-- Rows are decoded one by one. -/
theorem mapM_rows (hdecode : ∀ source ∈ sources, decode (row source) = .ok (record source)) :
    (sources.map row).mapM decode = .ok (sources.map record) := by
  rw [mapM_eq_ok_iff, List.forall₂_map_left_iff, List.forall₂_map_right_iff, List.forall₂_same]
  exact hdecode

/-- A page holds the first records after a position. -/
theorem readPage_rows (hsorted : (sources.map row).Pairwise (rowLe position index))
    (hdecode : ∀ source ∈ sources, decode (row source) = .ok (record source)) {start : Nat}
    (hstart : start < positionLimit) (limit : Nat) :
    readPage position index decode (sources.map row) start limit =
      .ok (((sources.filter fun source => decide (start < position (row source))).take
        (boundedLimit limit)).map record) := by
  by_cases hlimit : boundedLimit limit = 0
  · rw [readPage, if_pos hlimit, hlimit, List.take_zero, List.map_nil]
  · have hstored : positionToSql start = .ok start := positionToSql_eq_ok_iff.mpr ⟨hstart, rfl⟩
    rw [readPage, if_neg hlimit, hstored]
    show ((rowsAfter position index (sources.map row) start).take _).mapM decode = _
    rw [rowsAfter_of_pairwise hsorted, List.filter_map, ← List.map_take]
    refine mapM_rows fun source hsource => hdecode source ?_
    exact (List.mem_filter.mp (List.mem_of_mem_take hsource)).1

end Pages

/-! ## Committed data -/

/-- The documents of a commit are read back from their texts. -/
structure DocumentsReadBack {Digest : Type} (deps : Dependencies Digest)
    (entry : CommitEntry) : Prop where
  mutations : ∀ mutation ∈ entry.transaction.mutations,
    deps.mutationFromStr mutation.toJson.toText = .ok mutation
  events : ∀ event ∈ entry.transaction.events,
    deps.fromStr event.payload.json.toText = .ok event.payload
  effects : ∀ effect ∈ entry.transaction.effects,
    deps.fromStr effect.payload.json.toText = .ok effect.payload

/-- The events of a history in commit order. -/
def committedEvents : List CommitEntry → List (BatchItem CommitEntry WorldEventDraft) :=
  batchItems fun entry => entry.transaction.events

/-- The effects of a history in commit order. -/
def committedEffects : List CommitEntry → List (BatchItem CommitEntry EffectJobDraft) :=
  batchItems fun entry => entry.transaction.effects

/-- The record that stands for a committed event. -/
def eventRecord (worldId : WorldId) (place : BatchItem CommitEntry WorldEventDraft) :
    StoredWorldEvent :=
  storedEvent worldId place.number place.index place.entry place.item place.item.payload

section Records

variable {Digest : Type} (store : WorldStore Digest)

/-- The outbox job of a committed effect. -/
def jobOf (place : BatchItem CommitEntry EffectJobDraft) : EffectJobRow :=
  (lookupRow EffectJobRow.jobId store.effectJobs place.item.id).getD
    (effectRow place.number place.index place.item)

/-- The record that stands for a committed effect after its attempts. -/
def effectRecord (place : BatchItem CommitEntry EffectJobDraft) : StoredEffectJob :=
  storedEffect store.worldId place.number place.index place.entry place.item
    (jobOf store place).attemptCount place.item.payload

variable {store} {deps : Dependencies Digest} {entries : List CommitEntry}

/-- The row of the commit that an item belongs to. -/
def commitOf (deps : Dependencies Digest) {Item : Type} (place : BatchItem CommitEntry Item) :
    CommitRow Digest :=
  commitRow place.entry.command (commandDigest deps place.entry.command) place.number
    place.entry.clock

theorem Journal.commitAt_place (h : Journal deps entries store) {Item : Type}
    {items : CommitEntry → List Item} {place : BatchItem CommitEntry Item}
    (hplace : place ∈ batchItems items entries) :
    commitAt store place.number = some (commitOf deps place) := by
  obtain ⟨n, hnumber, hentry, -⟩ := mem_batchItems hplace
  rw [commitOf, hnumber]
  exact h.commitAt_entry hentry

/-! ## Events -/

/-- The joined event rows of a history. -/
theorem Journal.eventCommits_eq (h : Journal deps entries store) :
    eventCommits store = (committedEvents entries).map fun place =>
      (eventRow place.number place.index place.item, commitOf deps place) := by
  rw [eventCommits, h.worldEvents, eventRows, batchRows_eq_map, List.filterMap_map,
    ← List.filterMap_eq_map]
  refine List.filterMap_congr fun place hplace => ?_
  show (commitAt store place.number).map _ = _
  rw [h.commitAt_place hplace]
  rfl

theorem Journal.eventCommits_pairwise (h : Journal deps entries store) :
    (eventCommits store).Pairwise (rowLe eventPosition eventIndexOf) := by
  have hevents : (eventRows entries).Pairwise
      (rowLe EventRow.commitPosition EventRow.eventIndex) :=
    batchRows_pairwise (fun _ _ _ => rfl) (fun _ _ _ => rfl) entries
  rw [eventRows, batchRows_eq_map, List.pairwise_map] at hevents
  rw [h.eventCommits_eq, List.pairwise_map]
  exact hevents

theorem AcceptedEntry.decodeEvent {place : BatchItem CommitEntry WorldEventDraft}
    (haccepted : ∀ entry ∈ entries, AcceptedEntry entry)
    (hdocuments : ∀ entry ∈ entries, DocumentsReadBack deps entry)
    (hplace : place ∈ committedEvents entries) :
    Storage.decodeEvent deps store
        (eventRow place.number place.index place.item, commitOf deps place) =
      .ok (eventRecord store.worldId place) := by
  obtain ⟨n, hnumber, hentry, hitem⟩ := mem_batchItems hplace
  have hmem := List.mem_of_getElem? hentry
  have hevent := List.mem_of_getElem? hitem
  have hindex : place.index < indexLimit := by
    have hlt := (List.getElem?_eq_some_iff.mp hitem).1
    have hcount := (haccepted place.entry hmem).eventCount
    omega
  rw [commitOf, decodeEvent_eventRow (haccepted place.entry hmem) _ hevent hindex,
    (hdocuments place.entry hmem).events place.item hevent]
  rfl

/-! ## Mutations -/

theorem AcceptedEntry.decodeMutation {mutation : StoredWorldMutation}
    (haccepted : ∀ entry ∈ entries, AcceptedEntry entry)
    (hdocuments : ∀ entry ∈ entries, DocumentsReadBack deps entry)
    (hmutation : mutation ∈ storedMutations entries) :
    Storage.decodeMutation deps
        (mutationRow mutation.commitPosition mutation.mutationIndex mutation.mutation) =
      .ok mutation := by
  rw [storedMutations, batchRows_eq_map] at hmutation
  obtain ⟨place, hplace, rfl⟩ := List.mem_map.mp hmutation
  obtain ⟨n, hnumber, hentry, hitem⟩ := mem_batchItems hplace
  have hmem := List.mem_of_getElem? hentry
  have hindex : place.index < indexLimit := by
    have hlt := (List.getElem?_eq_some_iff.mp hitem).1
    have hcount := (haccepted place.entry hmem).mutationCount
    omega
  have hread := (hdocuments place.entry hmem).mutations place.item (List.mem_of_getElem? hitem)
  simp only [Storage.decodeMutation, mutationRow, hread, indexFromSql_of_lt hindex]
  rfl

/-! ## Effects -/

/-- The outbox holds one job for every committed effect, in order. -/
theorem Journal.effectJobs_eq (h : Journal deps entries store) :
    store.effectJobs = (committedEffects entries).map (jobOf store) := by
  have hids : store.effectJobs.map EffectJobRow.jobId =
      (committedEffects entries).map fun place => place.item.id := by
    have hfirst := congrArg (List.map Prod.fst) h.effectJobs
    rw [effectRows, batchRows_eq_map, List.map_map, List.map_map, List.map_map] at hfirst
    exact hfirst
  have hlength : store.effectJobs.length = (committedEffects entries).length := by
    simpa using congrArg List.length hids
  apply List.ext_getElem
  · rw [List.length_map, hlength]
  · intro i hrow hplace
    have hbound : i < (committedEffects entries).length := hlength ▸ hrow
    have hid : (store.effectJobs[i]).jobId = (committedEffects entries)[i].item.id := by
      have hcolumn := List.getElem_of_eq hids (by simpa using hrow)
      simpa using hcolumn
    have hlookup := (lookupRow_eq_some_iff h.effectIds).mpr
      ⟨List.getElem_mem hrow, hid⟩
    rw [List.getElem_map, jobOf, hlookup, Option.getD_some]

variable {place : BatchItem CommitEntry EffectJobDraft} {leaseExpiresAt now : UnixTimeMillis}

theorem Journal.jobOf_identity (h : Journal deps entries store)
    (hplace : place ∈ committedEffects entries) :
    (jobOf store place).identity =
      (effectRow place.number place.index place.item).identity := by
  have hidentities := h.effectJobs
  rw [h.effectJobs_eq, effectRows, batchRows_eq_map, List.map_map, List.map_map] at hidentities
  exact List.map_inj_left.mp hidentities place hplace

theorem Journal.lookup_jobOf (h : Journal deps entries store)
    (hplace : place ∈ committedEffects entries) :
    lookupRow EffectJobRow.jobId store.effectJobs place.item.id = some (jobOf store place) := by
  refine (lookupRow_eq_some_iff h.effectIds).mpr ⟨?_, congrArg Prod.fst (h.jobOf_identity hplace)⟩
  rw [h.effectJobs_eq]
  exact List.mem_map_of_mem hplace

/-- The row of an outbox job is read as its effect, when its document can be read. -/
theorem Journal.decodeEffect (h : Journal deps entries store)
    (haccepted : ∀ entry ∈ entries, AcceptedEntry entry)
    (hdocuments : ∀ entry ∈ entries, DocumentsReadBack deps entry)
    (hattempts : ∀ row ∈ store.effectJobs, row.attemptCount < indexLimit)
    (hplace : place ∈ committedEffects entries) :
    Storage.decodeEffect deps store (jobOf store place, commitOf deps place) =
      .ok (effectRecord store place) := by
  obtain ⟨n, hnumber, hentry, hitem⟩ := mem_batchItems hplace
  have hmem := List.mem_of_getElem? hentry
  have heffect := List.mem_of_getElem? hitem
  have hindex : place.index < indexLimit := by
    have hlt := (List.getElem?_eq_some_iff.mp hitem).1
    have hcount := (haccepted place.entry hmem).effectCount
    omega
  have hjob : jobOf store place ∈ store.effectJobs := by
    rw [h.effectJobs_eq]
    exact List.mem_map_of_mem hplace
  rw [commitOf, decodeEffect_effectRow (haccepted place.entry hmem) _ heffect hindex
    (h.jobOf_identity hplace) (hattempts _ hjob),
    (hdocuments place.entry hmem).effects place.item heffect]
  rfl

theorem Journal.effectCommits_eq (h : Journal deps entries store) :
    effectCommits store = (committedEffects entries).map fun place =>
      (jobOf store place, commitOf deps place) := by
  have hjobs := h.effectJobs_eq
  rw [effectCommits, hjobs, List.filterMap_map, ← List.filterMap_eq_map]
  refine List.filterMap_congr fun place hplace => ?_
  have hposition : (jobOf store place).commitPosition = place.number :=
    congrArg (fun identity => identity.2.1) (h.jobOf_identity hplace)
  show (commitAt store (jobOf store place).commitPosition).map _ = _
  rw [hposition, h.commitAt_place hplace]
  rfl

theorem Journal.effectCommits_pairwise (h : Journal deps entries store) :
    (effectCommits store).Pairwise (rowLe jobPosition jobIndexOf) := by
  have heffects : (effectRows entries).Pairwise
      (rowLe EffectJobRow.commitPosition EffectJobRow.jobIndex) :=
    batchRows_pairwise (fun _ _ _ => rfl) (fun _ _ _ => rfl) entries
  rw [effectRows, batchRows_eq_map, List.pairwise_map] at heffects
  rw [h.effectCommits_eq, List.pairwise_map]
  refine heffects.imp_of_mem fun hfirst hsecond hle => ?_
  have hidentity := h.jobOf_identity hfirst
  have hidentity' := h.jobOf_identity hsecond
  simp only [EffectJobRow.identity, Prod.mk.injEq] at hidentity hidentity'
  simpa only [rowLe, jobPosition, jobIndexOf, hidentity, hidentity'] using hle

/-- The effects that wait are read in commit order. -/
theorem Journal.pendingEffects_eq (h : Journal deps entries store)
    (haccepted : ∀ entry ∈ entries, AcceptedEntry entry)
    (hdocuments : ∀ entry ∈ entries, DocumentsReadBack deps entry)
    (hattempts : ∀ row ∈ store.effectJobs, row.attemptCount < indexLimit) (limit : Nat) :
    pendingEffects deps store limit = .ok
      ((((committedEffects entries).filter fun place =>
        decide ((jobOf store place).status = statusPending)).take (boundedLimit limit)).map
          (effectRecord store)) := by
  by_cases hlimit : boundedLimit limit = 0
  · rw [pendingEffects, if_pos hlimit, hlimit, List.take_zero, List.map_nil]
  · have hsorted := h.effectCommits_pairwise.filter fun row => decide (row.1.status = 0)
    rw [pendingEffects, if_neg hlimit, hsorted.insertionSort_eq, h.effectCommits_eq,
      List.filter_map, ← List.map_take]
    refine mapM_rows fun place hplace => h.decodeEffect haccepted hdocuments hattempts ?_
    exact (List.mem_filter.mp (List.mem_of_mem_take hplace)).1

theorem Journal.effectJobById_eq (h : Journal deps entries store)
    (haccepted : ∀ entry ∈ entries, AcceptedEntry entry)
    (hdocuments : ∀ entry ∈ entries, DocumentsReadBack deps entry)
    (hattempts : ∀ row ∈ store.effectJobs, row.attemptCount < indexLimit)
    (hplace : place ∈ committedEffects entries) :
    effectJobById deps store place.item.id = .ok (some (effectRecord store place)) := by
  have hposition : (jobOf store place).commitPosition = place.number :=
    congrArg (fun identity => identity.2.1) (h.jobOf_identity hplace)
  have hcommit : commitAt store (jobOf store place).commitPosition =
      some (commitOf deps place) := by
    rw [hposition, h.commitAt_place hplace]
  rw [effectJobById_of_rows (h.lookup_jobOf hplace) hcommit,
    h.decodeEffect haccepted hdocuments hattempts hplace]
  rfl

/-- The job of an effect after it was claimed once more. -/
theorem Journal.jobOf_claimed (h : Journal deps entries store)
    (hplace : place ∈ committedEffects entries) {store' : WorldStore Digest}
    (h' : Journal deps entries store') (hdue : claimable now (jobOf store place) = true)
    (hupdate : Updated (claimGuard now (jobOf store place))
      (claimChange leaseExpiresAt ((jobOf store place).attemptCount + 1)) store store') :
    jobOf store' place =
      claimChange leaseExpiresAt ((jobOf store place).attemptCount + 1) (jobOf store place) := by
  have hjob : jobOf store place ∈ store.effectJobs := by
    rw [h.effectJobs_eq]
    exact List.mem_map_of_mem hplace
  have hguard : claimGuard now (jobOf store place) (jobOf store place) = true := by
    simp [claimGuard, hdue]
  have hclaimed : claimChange leaseExpiresAt ((jobOf store place).attemptCount + 1)
      (jobOf store place) ∈ store'.effectJobs := by
    rw [hupdate.result]
    exact List.mem_map.mpr ⟨jobOf store place, hjob, if_pos hguard⟩
  have hid : (jobOf store place).jobId = place.item.id :=
    congrArg Prod.fst (h.jobOf_identity hplace)
  have hlookup := (lookupRow_eq_some_iff h'.effectIds).mpr ⟨hclaimed, hid⟩
  exact Option.some.inj ((h'.lookup_jobOf hplace).symm.trans hlookup)

/-- A claim hands out a committed effect with one more attempt. -/
theorem Journal.claimNext_eq_some (h : Journal deps entries store)
    (haccepted : ∀ entry ∈ entries, AcceptedEntry entry)
    (hdocuments : ∀ entry ∈ entries, DocumentsReadBack deps entry) {store' : WorldStore Digest}
    {claimed : ClaimedEffectJob}
    (hattempts : ∀ row ∈ store'.effectJobs, row.attemptCount < indexLimit)
    (hclaim : claimNext deps store now leaseExpiresAt = .ok (store', some claimed)) :
    ∃ place ∈ committedEffects entries, claimed =
      ⟨{ effectRecord store place with attemptCount := (jobOf store place).attemptCount + 1 },
        leaseExpiresAt⟩ := by
  rcases claimNext_eq_ok hclaim with ⟨hnone, -⟩ |
    ⟨candidate, hcandidate, other, hsome, hdue, -, hupdate, hlease, hread⟩
  · cases hnone
  · cases hsome
    rw [h.effectJobs_eq] at hcandidate
    obtain ⟨place, hplace, rfl⟩ := List.mem_map.mp hcandidate
    have hnext : Journal deps entries store' :=
      h.jobs (claimChange_identity leaseExpiresAt _) hupdate
    have hid : (jobOf store place).jobId = place.item.id :=
      congrArg Prod.fst (h.jobOf_identity hplace)
    have hrecord := hnext.effectJobById_eq haccepted hdocuments hattempts hplace
    rw [hid, hrecord] at hread
    have hjob := h.jobOf_claimed hplace hnext hdue hupdate
    have hworld : store'.worldId = store.worldId := by rw [hupdate.result]
    refine ⟨place, hplace, ?_⟩
    cases claimed with
    | mk job lease =>
        cases hlease
        cases hread
        simp only [effectRecord, hjob, hworld]
        rfl

/-- A claim fails for a used up job only. -/
theorem Journal.claimNext_error (h : Journal deps entries store)
    (haccepted : ∀ entry ∈ entries, AcceptedEntry entry)
    (hdocuments : ∀ entry ∈ entries, DocumentsReadBack deps entry)
    (hattempts : ∀ row ∈ store.effectJobs, row.attemptCount < indexLimit)
    (hlease : now.get < leaseExpiresAt.get) {error : StorageError}
    (hclaim : claimNext deps store now leaseExpiresAt = .error error) :
    ∃ jobId, error = .effectAttemptOverflow jobId := by
  cases hcandidate : claimCandidate store now with
  | none => cases hclaim.symm.trans (claimNext_none hlease hcandidate)
  | some row =>
      have hrow := (firstDue_of_claimCandidate hcandidate).mem
      have hfits := hattempts row hrow
      by_cases hnext : row.attemptCount + 1 < indexLimit
      · obtain ⟨job, -, hresult⟩ := h.claimNext_of_candidate haccepted hcandidate hlease hnext
        rw [h.effectJobs_eq] at hrow
        obtain ⟨place, hplace, rfl⟩ := List.mem_map.mp hrow
        obtain ⟨n, -, hentry, hitem⟩ := mem_batchItems hplace
        have hpayload : (jobOf store place).payloadJson = place.item.payload.json.toText :=
          congrArg (fun identity => identity.2.2.2.2) (h.jobOf_identity hplace)
        have hread := (hdocuments place.entry (List.mem_of_getElem? hentry)).effects place.item
          (List.mem_of_getElem? hitem)
        rw [hclaim, hpayload, hread] at hresult
        cases hresult
      · refine ⟨row.jobId, ?_⟩
        simp only [claimNext, hcandidate, nextAttempt, ensure, hlease, hfits, hnext, decide_true,
          decide_false, if_true, bind, Except.bind] at hclaim
        cases hclaim
        rfl

end Records

/-! ## Every reachable database -/

section Reachable

variable {Digest : Type} [DecidableEq Digest] {deps : Dependencies Digest}

/-- Every reader returns exactly what a history committed. -/
structure ReadsCommitted (deps : Dependencies Digest) (entries : List CommitEntry)
    (store : WorldStore Digest) : Prop where
  eventsAtPosition : ∀ n entry, entries[n]? = some entry →
    eventsAtPosition deps store (n + 1) =
      .ok (entry.transaction.events.mapIdx fun index event =>
        storedEvent store.worldId (n + 1) index entry event event.payload)
  eventsAfter : ∀ start limit, start < positionLimit →
    eventsAfter deps store start limit =
      .ok ((((committedEvents entries).filter fun place => decide (start < place.number)).take
        (boundedLimit limit)).map (eventRecord store.worldId))
  mutationsAfter : ∀ start limit, start < positionLimit →
    mutationsAfter deps store start limit =
      .ok (((storedMutations entries).filter fun mutation =>
        decide (start < mutation.commitPosition)).take (boundedLimit limit))
  pendingEffects : ∀ limit, pendingEffects deps store limit =
    .ok ((((committedEffects entries).filter fun place =>
      decide ((jobOf store place).status = statusPending)).take (boundedLimit limit)).map
        (effectRecord store))
  outbox : ∀ place ∈ committedEffects entries,
    lookupRow EffectJobRow.jobId store.effectJobs place.item.id = some (jobOf store place)
  effectJobById : ∀ place ∈ committedEffects entries,
    effectJobById deps store place.item.id = .ok (some (effectRecord store place))
  claimed : ∀ now leaseExpiresAt store' claimed,
    claimNext deps store now leaseExpiresAt = .ok (store', some claimed) →
    ∃ place ∈ committedEffects entries, claimed =
      ⟨{ effectRecord store place with attemptCount := (jobOf store place).attemptCount + 1 },
        leaseExpiresAt⟩
  claimFails : ∀ now leaseExpiresAt error, now.get < leaseExpiresAt.get →
    claimNext deps store now leaseExpiresAt = .error error →
    ∃ jobId, error = .effectAttemptOverflow jobId

/-- Everything that was committed is read back. -/
theorem Journal.readsCommitted {entries : List CommitEntry} {store : WorldStore Digest}
    (h : Journal deps entries store) (hreachable : (storageSystem deps).Reachable store)
    (haccepted : ∀ entry ∈ entries, AcceptedEntry entry)
    (hdocuments : ∀ entry ∈ entries, DocumentsReadBack deps entry) :
    ReadsCommitted deps entries store := by
  have hattempts := attempts_of_reachable hreachable
  refine ⟨?_, ?_, ?_, ?_, ?_, ?_, ?_, ?_⟩
  · intro n entry hentry
    have hmem := List.mem_of_getElem? hentry
    rw [h.eventsAtPosition hentry, mapM_eq_ok_iff, List.forall₂_map_left_iff,
      List.forall₂_iff_get]
    refine ⟨by simp, fun i hrow hrecord => ?_⟩
    rw [List.length_mapIdx] at hrow
    have hindex : i < indexLimit := by
      have hcount := (haccepted entry hmem).eventCount
      omega
    have hevent := List.getElem_mem hrow
    simp only [List.get_eq_getElem, List.getElem_mapIdx]
    rw [decodeEvent_eventRow (haccepted entry hmem) _ hevent hindex,
      (hdocuments entry hmem).events _ hevent]
    rfl
  · intro start limit hstart
    have hsorted := h.eventCommits_pairwise
    rw [h.eventCommits_eq] at hsorted
    rw [Storage.eventsAfter, h.eventCommits_eq]
    exact readPage_rows hsorted
      (fun place hplace => AcceptedEntry.decodeEvent haccepted hdocuments hplace) hstart limit
  · intro start limit hstart
    have hsorted : (mutationRows entries).Pairwise
        (rowLe MutationRow.commitPosition MutationRow.mutationIndex) :=
      batchRows_pairwise (fun _ _ _ => rfl) (fun _ _ _ => rfl) entries
    rw [mutationRows_eq_map] at hsorted
    have hpage := readPage_rows hsorted
      (fun mutation hmutation => AcceptedEntry.decodeMutation haccepted hdocuments hmutation)
      hstart limit
    rw [List.map_id'] at hpage
    rw [Storage.mutationsAfter, h.worldMutations, mutationRows_eq_map]
    exact hpage
  · exact h.pendingEffects_eq haccepted hdocuments hattempts
  · exact fun place hplace => h.lookup_jobOf hplace
  · exact fun place hplace => h.effectJobById_eq haccepted hdocuments hattempts hplace
  · intro now leaseExpiresAt store' claimed hclaim
    have hstep : Serves deps store (.claimNextEffect now leaseExpiresAt, .claimed (some claimed))
        store' := .done (map_eq_ok_iff.mpr ⟨_, hclaim, rfl⟩)
    exact h.claimNext_eq_some haccepted hdocuments
      (attempts_of_reachable (hreachable.step hstep)) hclaim
  · intro now leaseExpiresAt error hlease hclaim
    exact h.claimNext_error haccepted hdocuments hattempts hlease hclaim

omit [DecidableEq Digest] in
/-- The effects of a new commit wait for their first attempt. -/
theorem NewCommit.jobOf_eq {store store' : WorldStore Digest} {command : WorldCommand}
    {transaction : WorldTransaction} {evaluatedPosition : Nat} {clock : Int}
    {receipt : CommitReceipt}
    (hnew : NewCommit deps store command transaction evaluatedPosition clock store' receipt)
    {entries : List CommitEntry} (h : Journal deps entries store')
    (hentry : entries[evaluatedPosition]? = some ⟨command, transaction, clock⟩)
    {place : BatchItem CommitEntry EffectJobDraft} (hplace : place ∈ committedEffects entries)
    (hnumber : place.number = evaluatedPosition + 1) :
    jobOf store' place = effectRow place.number place.index place.item := by
  obtain ⟨n, hn, hplaceEntry, hitem⟩ := mem_batchItems hplace
  have hposition : n = evaluatedPosition := by omega
  subst hposition
  rw [Option.some.inj (hplaceEntry.symm.trans hentry)] at hitem
  obtain ⟨hindex, hitem⟩ := List.getElem?_eq_some_iff.mp hitem
  have hrow : effectRow place.number place.index place.item ∈ store'.effectJobs := by
    rw [hnew.effectJobs, hnew.evaluated, hnumber]
    refine List.mem_append_right _ (List.mem_mapIdx.mpr ⟨place.index, hindex, ?_⟩)
    rw [hitem]
  have hlookup := (lookupRow_eq_some_iff h.effectIds).mpr ⟨hrow, rfl⟩
  exact Option.some.inj ((h.lookup_jobOf hplace).symm.trans hlookup)

/-- In every run whose documents are read back from their texts, the readers return exactly
the committed data in its order. A new commit stands in the history under the position of
its receipt, and right after it all its effects are pending. -/
theorem committed_rows_read_back {worldId : WorldId} {history : List (Request × Reply)}
    {store : WorldStore Digest}
    (hrun : (storageSystem deps).Run (WorldStore.create Digest worldId) history store)
    (hdocuments : ∀ entry ∈ committedEntries history, DocumentsReadBack deps entry) :
    ReadsCommitted deps (committedEntries history) store ∧
      ∀ before after command transaction evaluatedPosition clock receipt,
        history = before ++
          (.commit command transaction evaluatedPosition clock, .receipt receipt) :: after →
        receipt.disposition = .committed →
        ∃ n, receipt.position = n + 1 ∧
          (committedEntries history)[n]? = some ⟨command, transaction, clock⟩ ∧
          (after = [] → ∀ place ∈ committedEffects (committedEntries history),
            place.number = n + 1 →
            jobOf store place = effectRow place.number place.index place.item) := by
  have hjournal := journal_of_run hrun
  refine ⟨hjournal.readsCommitted ⟨_, _, ⟨worldId, rfl⟩, hrun⟩ (acceptedEntries_of_run hrun)
    hdocuments, ?_⟩
  rintro before after command transaction evaluatedPosition clock receipt rfl hcommitted
  obtain ⟨earlier, hbefore, hposition, hreceipt, hentry⟩ := entry_of_past_commit hrun hcommitted
  refine ⟨evaluatedPosition, by rw [hreceipt]; rfl, hentry, ?_⟩
  rintro rfl place hplace hnumber
  obtain ⟨middle, -, hlast⟩ := hrun.split
  cases hlast with
  | cons hstep hrest =>
      cases hrest
      exact (Serves.newCommit hstep hcommitted).jobOf_eq hjournal hentry hplace hnumber

end Reachable

/-- A mutation, an event and an effect of one commit are read back. -/
theorem committed_rows_read_back_due :
    let deps := tableDependencies [acceptAll] demoTransaction.mutations
    let run := demoRun deps dueRequests
    (committedEntries run.1).length = 1 ∧ ReadsCommitted deps (committedEntries run.1) run.2 := by
  intro deps run
  have hentries : committedEntries run.1 = [⟨demoCommand 1, demoTransaction, 0⟩] := rfl
  have hdocuments : ∀ entry ∈ committedEntries run.1, DocumentsReadBack deps entry := by
    rw [hentries]
    intro entry hentry
    cases List.mem_singleton.mp hentry
    refine ⟨?_, ?_, ?_⟩ <;>
      · intro committed hcommitted
        cases List.mem_singleton.mp hcommitted
        simp [deps, tableDependencies, demoTransaction]
  exact ⟨by rw [hentries]; rfl,
    (committed_rows_read_back (run_demoRun deps dueRequests) hdocuments).1⟩

end Rintawa.Storage
