/-
# Reading the logs page by page

A reader of the event log or of the mutation log continues after the commit
position of the last entry it received. That cursor is coarser than the order of
the log: what the reader misses are the entries of a commit behind a page that
ends inside the commit.
-/

import Rintawa.Lib.Lists
import Rintawa.Storage.Journal

namespace Rintawa.Storage

open Rintawa.Lib Rintawa.Sdk Rintawa.World

/-! ## Pages -/

section Page

variable {Row Item : Type} {position index : Row → Nat} {rows : List Row}
  {decode : Row → Except StorageError Item} {limit : Nat}

theorem readPage_of_fits (hlimit : 1 ≤ limit) {after : Nat} (hafter : after < positionLimit) :
    readPage position index decode rows after limit =
      ((rowsAfter position index rows after).take (boundedLimit limit)).mapM decode := by
  have hnonempty : boundedLimit limit ≠ 0 := by
    unfold boundedLimit maxReadBatch
    omega
  have hstored : positionToSql after = .ok after := positionToSql_eq_ok_iff.mpr ⟨hafter, rfl⟩
  rw [readPage, if_neg hnonempty, hstored]
  rfl

theorem fits_of_readPage (hlimit : 1 ≤ limit) {after : Nat} {items : List Item}
    (h : readPage position index decode rows after limit = .ok items) :
    after < positionLimit := by
  have hnonempty : boundedLimit limit ≠ 0 := by
    unfold boundedLimit maxReadBatch
    omega
  rw [readPage, if_neg hnonempty] at h
  obtain ⟨stored, hstored, -⟩ := bind_eq_ok_iff.mp h
  exact (positionToSql_eq_ok_iff.mp hstored).1

/-- Reading a table with pages of a positive limit. -/
theorem readPage_drains_all_iff (hlimit : 1 ≤ limit)
    (hpositions : ∀ row ∈ rows, position row < positionLimit) {cursor : Item → Nat}
    (hcursor : ∀ row item, decode row = .ok item → cursor item = position row) {start : Nat} :
    (∃ items, List.Forall₂ (fun row item => decode row = .ok item)
        (rowsAfter position index rows start) items ∧
        Drains (fun after => readPage position index decode rows after limit) cursor start
          items) ↔
      start < positionLimit ∧
        (∀ row ∈ rowsAfter position index rows start, ∃ item, decode row = .ok item) ∧
        NoSplitPosition position (boundedLimit limit) (rowsAfter position index rows start) := by
  have hbounded : 0 < boundedLimit limit := by
    unfold boundedLimit maxReadBatch
    omega
  have hfetch : ∀ after, after < positionLimit →
      readPage position index decode rows after limit =
        ((rowsAfter position index rows after).take (boundedLimit limit)).mapM decode :=
    fun _ hafter => readPage_of_fits hlimit hafter
  exact drains_all_iff hbounded hfetch (fun _ _ hpage => fits_of_readPage hlimit hpage)
    hpositions hcursor

end Page

/-! ## The two logs -/

section Log

variable {Digest : Type} (deps : Dependencies Digest) (store : WorldStore Digest)

/-- A record is read from an event row and the commit of its position. -/
def ReadsEvent (row : EventRow) (event : StoredWorldEvent) : Prop :=
  ∃ commit, commitAt store row.commitPosition = some commit ∧
    decodeEvent deps store (row, commit) = .ok event

/-- The event rows after a position, in order. -/
def eventRowsAfter (start : Nat) : List EventRow :=
  rowsAfter EventRow.commitPosition EventRow.eventIndex store.worldEvents start

/-- The mutation rows after a position, in order. -/
def mutationRowsAfter (start : Nat) : List MutationRow :=
  rowsAfter MutationRow.commitPosition MutationRow.mutationIndex store.worldMutations start

/-- Paging through events finds every event after the start once and in order. -/
def EnumeratesEvents (limit start : Nat) : Prop :=
  ∃ events, List.Forall₂ (ReadsEvent deps store) (eventRowsAfter store start) events ∧
    Drains (fun after => eventsAfter deps store after limit) StoredWorldEvent.commitPosition
      start events

/-- Paging through mutations finds every mutation after the start once and in
order. -/
def EnumeratesMutations (limit start : Nat) : Prop :=
  ∃ mutations, List.Forall₂ (fun row mutation => decodeMutation deps row = .ok mutation)
      (mutationRowsAfter store start) mutations ∧
    Drains (fun after => mutationsAfter deps store after limit)
      StoredWorldMutation.commitPosition start mutations

variable {deps} {store}

theorem decodeMutation_position {row : MutationRow} {mutation : StoredWorldMutation}
    (h : decodeMutation deps row = .ok mutation) :
    mutation.commitPosition = row.commitPosition := by
  obtain ⟨_, _, h⟩ := bind_eq_ok_iff.mp h
  obtain ⟨_, _, h⟩ := bind_eq_ok_iff.mp h
  obtain ⟨_, _, h⟩ := bind_eq_ok_iff.mp h
  obtain ⟨_, _, h⟩ := bind_eq_ok_iff.mp h
  cases h
  rfl

theorem decodeEvent_position {row : EventRow × CommitRow Digest} {event : StoredWorldEvent}
    (h : decodeEvent deps store row = .ok event) : event.commitPosition = eventPosition row := by
  obtain ⟨_, _, h⟩ := bind_eq_ok_iff.mp h
  obtain ⟨_, _, h⟩ := bind_eq_ok_iff.mp h
  obtain ⟨_, _, h⟩ := bind_eq_ok_iff.mp h
  obtain ⟨_, _, h⟩ := bind_eq_ok_iff.mp h
  cases h
  rfl

variable {entries : List CommitEntry}

theorem Journal.mutationRows_fit (h : Journal deps entries store) :
    ∀ row ∈ store.worldMutations, row.commitPosition < positionLimit := by
  intro row hrow
  rw [h.worldMutations] at hrow
  have hbound : 0 < row.commitPosition ∧ row.commitPosition ≤ entries.length :=
    position_of_mem_batchRows (fun _ _ _ => rfl) hrow
  have hfits := h.fits
  omega

theorem Journal.enumeratesMutations_iff (h : Journal deps entries store) {limit start : Nat}
    (hlimit : 1 ≤ limit) :
    EnumeratesMutations deps store limit start ↔
      start < positionLimit ∧
        (∀ row ∈ mutationRowsAfter store start, ∃ mutation,
          decodeMutation deps row = .ok mutation) ∧
        NoSplitPosition MutationRow.commitPosition (boundedLimit limit)
          (mutationRowsAfter store start) :=
  readPage_drains_all_iff hlimit h.mutationRows_fit fun _ _ => decodeMutation_position

/-- Every event row has a commit to be joined with. -/
theorem Journal.commitAt_event (h : Journal deps entries store) :
    ∀ row ∈ store.worldEvents, ∃ commit, commitAt store row.commitPosition = some commit := by
  intro row hrow
  rw [h.worldEvents] at hrow
  have hbound : 0 < row.commitPosition ∧ row.commitPosition ≤ entries.length :=
    position_of_mem_batchRows (fun _ _ _ => rfl) hrow
  have hindex : row.commitPosition - 1 < entries.length := by omega
  cases hfound : commitAt store row.commitPosition with
  | some commit => exact ⟨commit, rfl⟩
  | none =>
      have hnone := lookupRow_eq_none_iff.mp hfound
      rw [h.worldCommits] at hnone
      refine absurd ?_ (hnone _ (List.mem_mapIdx.mpr ⟨row.commitPosition - 1, hindex, rfl⟩))
      show row.commitPosition - 1 + 1 = row.commitPosition
      omega

/-- Joining a list of event rows that all have commits loses no row. -/
theorem eventCommits_fst :
    ∀ {rows : List EventRow},
      (∀ row ∈ rows, ∃ commit, commitAt store row.commitPosition = some commit) →
      (rows.filterMap fun event =>
        (commitAt store event.commitPosition).map fun commit => (event, commit)).map Prod.fst =
        rows
  | [], _ => rfl
  | row :: rows, h => by
      obtain ⟨commit, hcommit⟩ := h row List.mem_cons_self
      have hrest := eventCommits_fst fun other hother => h other (List.mem_cons_of_mem _ hother)
      rw [List.filterMap_cons, hcommit, Option.map_some, List.map_cons, hrest]

theorem mem_eventCommits {row : EventRow × CommitRow Digest} (h : row ∈ eventCommits store) :
    row.1 ∈ store.worldEvents ∧ commitAt store row.1.commitPosition = some row.2 := by
  obtain ⟨event, hmem, hrow⟩ := List.mem_filterMap.mp h
  obtain ⟨commit, hcommit, rfl⟩ := Option.map_eq_some_iff.mp hrow
  exact ⟨hmem, hcommit⟩

/-- The joined rows after a position are the event rows after it. -/
theorem Journal.rowsAfter_eventCommits (h : Journal deps entries store) (start : Nat) :
    (rowsAfter eventPosition eventIndexOf (eventCommits store) start).map Prod.fst =
      eventRowsAfter store start := by
  have hfst : (eventCommits store).map Prod.fst = store.worldEvents :=
    eventCommits_fst h.commitAt_event
  have hsorted : store.worldEvents.Pairwise
      (rowLe EventRow.commitPosition EventRow.eventIndex) := by
    rw [h.worldEvents]
    exact batchRows_pairwise (fun _ _ _ => rfl) (fun _ _ _ => rfl) entries
  have hsorted' : (eventCommits store).Pairwise (rowLe eventPosition eventIndexOf) := by
    rw [← hfst, List.pairwise_map] at hsorted
    exact hsorted
  rw [eventRowsAfter, rowsAfter_of_pairwise hsorted, rowsAfter_of_pairwise hsorted', ← hfst,
    List.filter_map]
  rfl

/-- A consumer that pages through the events gets all of them exactly when it starts within the
range of positions, all rows can be read, and no page ends inside a commit. Reading a joined row is
reading its event row. -/
theorem Journal.enumeratesEvents_iff (h : Journal deps entries store) {limit start : Nat}
    (hlimit : 1 ≤ limit) :
    EnumeratesEvents deps store limit start ↔
      start < positionLimit ∧
        (∀ row ∈ eventRowsAfter store start, ∃ event, ReadsEvent deps store row event) ∧
        NoSplitPosition EventRow.commitPosition (boundedLimit limit)
          (eventRowsAfter store start) := by
  have hpositions : ∀ row ∈ eventCommits store, eventPosition row < positionLimit := by
    intro row hrow
    have hevent := (mem_eventCommits hrow).1
    rw [h.worldEvents] at hevent
    have hbound : 0 < row.1.commitPosition ∧ row.1.commitPosition ≤ entries.length :=
      position_of_mem_batchRows (fun _ _ _ => rfl) hevent
    have hfits := h.fits
    show row.1.commitPosition < positionLimit
    omega
  have hjoined := @readPage_drains_all_iff _ _ eventPosition eventIndexOf (eventCommits store)
    (decodeEvent deps store) limit hlimit hpositions StoredWorldEvent.commitPosition
    (fun _ _ => decodeEvent_position) start
  have hrows := h.rowsAfter_eventCommits start
  have hreads : ∀ row ∈ rowsAfter eventPosition eventIndexOf (eventCommits store) start,
      ∀ event, ReadsEvent deps store row.1 event ↔ decodeEvent deps store row = .ok event := by
    intro row hrow event
    have hcommit := (mem_eventCommits (mem_rowsAfter.mp hrow).1).2
    simp only [ReadsEvent, hcommit, Option.some.injEq, exists_eq_left']
  have hsame : ∀ events, List.Forall₂ (ReadsEvent deps store) (eventRowsAfter store start) events ↔
      List.Forall₂ (fun row event => decodeEvent deps store row = .ok event)
        (rowsAfter eventPosition eventIndexOf (eventCommits store) start) events := by
    intro events
    rw [← hrows, List.forall₂_map_left_iff]
    exact forall₂_congr_of_mem hreads
  have hall : (∀ row ∈ eventRowsAfter store start, ∃ event, ReadsEvent deps store row event) ↔
      ∀ row ∈ rowsAfter eventPosition eventIndexOf (eventCommits store) start,
        ∃ event, decodeEvent deps store row = .ok event := by
    rw [← hrows, List.forall_mem_map]
    exact forall₂_congr fun row hrow => exists_congr (hreads row hrow)
  have hsplit : NoSplitPosition EventRow.commitPosition (boundedLimit limit)
        (eventRowsAfter store start) ↔
      NoSplitPosition eventPosition (boundedLimit limit)
        (rowsAfter eventPosition eventIndexOf (eventCommits store) start) := by
    rw [← hrows, noSplitPosition_map]
    rfl
  rw [hall, hsplit, ← hjoined]
  exact exists_congr fun events => and_congr_left fun _ => hsame events

end Log

/-! ## Every reachable database -/

section Reachable

variable {Digest : Type} [DecidableEq Digest] {deps : Dependencies Digest}

/-- On every reachable database paging through a log finds everything after the
start exactly when the start can be stored, every later row can be read, and no
page, of at most the largest batch, ends inside a commit. -/
theorem cursor_paging_complete_iff {store : WorldStore Digest}
    (hreachable : (storageSystem deps).Reachable store) {limit : Nat} (hlimit : 1 ≤ limit)
    (start : Nat) :
    (EnumeratesEvents deps store limit start ↔
      start < positionLimit ∧
        (∀ row ∈ eventRowsAfter store start, ∃ event, ReadsEvent deps store row event) ∧
        NoSplitPosition EventRow.commitPosition (min limit maxReadBatch)
          (eventRowsAfter store start)) ∧
    (EnumeratesMutations deps store limit start ↔
      start < positionLimit ∧
        (∀ row ∈ mutationRowsAfter store start, ∃ mutation,
          decodeMutation deps row = .ok mutation) ∧
        NoSplitPosition MutationRow.commitPosition (min limit maxReadBatch)
          (mutationRowsAfter store start)) := by
  obtain ⟨entries, hjournal⟩ := journal_of_reachable hreachable
  exact ⟨hjournal.enumeratesEvents_iff hlimit, hjournal.enumeratesMutations_iff hlimit⟩

/-- One commit with two mutations and two events. -/
def pairMutations : List WorldMutation :=
  [.createEntity ⟨⟨1⟩, demoKey "demo.body"⟩, .createEntity ⟨⟨2⟩, demoKey "demo.body"⟩]

def pairRequests : List Request :=
  [demoCommit 1 0 ⟨pairMutations, [⟨⟨1⟩, demoKey "demo.moved", acceptAll⟩,
    ⟨⟨2⟩, demoKey "demo.moved", acceptAll⟩], []⟩]

theorem exists_of_isOk {α : Type} {x : Except StorageError α} (h : x.isOk = true) :
    ∃ a, x = .ok a := by
  cases x with
  | error _ => cases h
  | ok a => exact ⟨a, rfl⟩

/-- Pages of two find both events of the commit and both mutations. -/
theorem cursor_paging_complete_pair :
    let deps := tableDependencies [acceptAll] pairMutations
    let store := (demoRun deps pairRequests).2
    EnumeratesEvents deps store 2 0 ∧ EnumeratesMutations deps store 2 0 := by
  intro deps store
  obtain ⟨hevents, hmutations⟩ := cursor_paging_complete_iff (reachable_demoRun deps pairRequests)
    (by decide : 1 ≤ 2) 0
  have hreadable : ∀ row ∈ eventRowsAfter store 0,
      ((commitAt store row.commitPosition).any fun commit =>
        (decodeEvent deps store (row, commit)).isOk) = true := by decide +kernel
  have hdecodable : ∀ row ∈ mutationRowsAfter store 0,
      (decodeMutation deps row).isOk = true := by decide +kernel
  constructor
  · refine hevents.mpr ⟨by decide, ?_, noSplitPosition_of_length_le (by decide +kernel)⟩
    intro row hrow
    obtain ⟨commit, hcommit, hok⟩ := (Option.any_eq_true _ _).mp (hreadable row hrow)
    obtain ⟨event, hevent⟩ := exists_of_isOk hok
    exact ⟨event, commit, hcommit, hevent⟩
  · refine hmutations.mpr ⟨by decide, ?_, noSplitPosition_of_length_le (by decide +kernel)⟩
    exact fun row hrow => exists_of_isOk (hdecodable row hrow)

/-- Pages of one never return the second event of the commit, nor the second
mutation. -/
theorem cursor_paging_loses_rest_of_commit :
    let deps := tableDependencies [acceptAll] pairMutations
    let store := (demoRun deps pairRequests).2
    (storageSystem deps).Reachable store ∧ ¬ EnumeratesEvents deps store 1 0 ∧
      ¬ EnumeratesMutations deps store 1 0 := by
  intro deps store
  have hreachable : (storageSystem deps).Reachable store := reachable_demoRun deps pairRequests
  obtain ⟨entries, hjournal⟩ := journal_of_reachable hreachable
  refine ⟨hreachable, ?_, ?_⟩
  · intro hevents
    have hsplit := ((hjournal.enumeratesEvents_iff (by decide)).mp hevents).2.2
    exact hsplit 1 (by decide +kernel) (by decide) (by decide) (by decide +kernel)
  · intro hmutations
    have hsplit := ((hjournal.enumeratesMutations_iff (by decide)).mp hmutations).2.2
    exact hsplit 1 (by decide +kernel) (by decide) (by decide) (by decide +kernel)

end Reachable

end Rintawa.Storage
