/-
# Rows appended in numbered batches

An append-only table holds, for every entry of a history, one row for each item
of the entry. Rows carry the number of their batch and their index in it, so the
table is ordered by construction and every batch can be read back from it.
-/

import Mathlib.Data.List.Induction
import Rintawa.Lib.Paging

namespace Rintawa.Lib

universe u v w

variable {Entry : Type u} {Item : Type v} {Row : Type w}

/-- The rows of all entries; batches are numbered from one. -/
def batchRows (items : Entry → List Item) (make : Nat → Nat → Item → Row)
    (entries : List Entry) : List Row :=
  (entries.mapIdx fun i entry => (items entry).mapIdx (make (i + 1))).flatten

/-- A column that does not depend on the index is a plain map. -/
theorem map_mapIdx_eq_map {α : Type u} {β : Type v} {γ : Type w} {make : Nat → α → β}
    {column : β → γ} {source : α → γ} (h : ∀ i a, column (make i a) = source a) (l : List α) :
    (l.mapIdx make).map column = l.map source :=
  List.ext_getElem (by simp) (by simp [h])

variable {items : Entry → List Item} {make : Nat → Nat → Item → Row}
  {position index : Row → Nat}

@[simp]
theorem batchRows_nil : batchRows items make [] = [] :=
  rfl

/-- A new entry adds its rows at the end. -/
theorem batchRows_snoc (entries : List Entry) (entry : Entry) :
    batchRows items make (entries ++ [entry]) =
      batchRows items make entries ++ (items entry).mapIdx (make (entries.length + 1)) := by
  simp [batchRows, List.mapIdx_append]

/-- A column of the rows is made item by item. -/
theorem map_batchRows {Column : Type*} (column : Row → Column) (entries : List Entry) :
    (batchRows items make entries).map column =
      batchRows items (fun n i item => column (make n i item)) entries := by
  induction entries using List.reverseRecOn with
  | nil => rfl
  | append_singleton entries entry ih =>
      rw [batchRows_snoc, batchRows_snoc, List.map_append, ih]
      congr 1
      exact List.ext_getElem (by simp) (by simp)

variable {entries : List Entry}

/-- A batch number lies between one and the number of entries. -/
theorem position_of_mem_batchRows (hposition : ∀ n i item, position (make n i item) = n) {row : Row}
    (h : row ∈ batchRows items make entries) :
    0 < position row ∧ position row ≤ entries.length := by
  simp only [batchRows, List.mem_flatten, List.mem_mapIdx] at h
  obtain ⟨_, ⟨i, hi, rfl⟩, hrow⟩ := h
  obtain ⟨j, _, rfl⟩ := List.mem_mapIdx.mp hrow
  rw [hposition]
  omega

/-- The table is ordered by batch number and index. -/
theorem batchRows_pairwise (hposition : ∀ n i item, position (make n i item) = n)
    (hindex : ∀ n i item, index (make n i item) = i) (entries : List Entry) :
    (batchRows items make entries).Pairwise (rowLe position index) := by
  induction entries using List.reverseRecOn with
  | nil => exact List.Pairwise.nil
  | append_singleton entries entry ih =>
      rw [batchRows_snoc, List.pairwise_append]
      refine ⟨ih, ?_, ?_⟩
      · rw [List.pairwise_iff_getElem]
        intro i j hi hj hlt
        right
        simp only [List.getElem_mapIdx, hposition, hindex]
        exact ⟨trivial, le_of_lt hlt⟩
      · intro a ha b hb
        have hle := (position_of_mem_batchRows hposition ha).2
        obtain ⟨j, _, rfl⟩ := List.mem_mapIdx.mp hb
        simp only [rowLe, hposition]
        omega

/-- Selecting one batch number gives back the rows of that entry. -/
theorem batchRows_filter (hposition : ∀ n i item, position (make n i item) = n) {n : Nat}
    {entry : Entry} (hentry : entries[n]? = some entry) :
    (batchRows items make entries).filter (fun row => decide (position row = n + 1)) =
      (items entry).mapIdx (make (n + 1)) := by
  induction entries using List.reverseRecOn with
  | nil => simp at hentry
  | append_singleton entries last ih =>
      rw [batchRows_snoc, List.filter_append]
      by_cases hn : n < entries.length
      · rw [List.getElem?_append_left hn] at hentry
        have hnone : ((items last).mapIdx (make (entries.length + 1))).filter
            (fun row => decide (position row = n + 1)) = [] := by
          rw [List.filter_eq_nil_iff]
          intro row hrow
          obtain ⟨j, _, rfl⟩ := List.mem_mapIdx.mp hrow
          simp only [hposition, decide_eq_true_eq]
          omega
        rw [ih hentry, hnone, List.append_nil]
      · have hlast : n = entries.length := by
          have hbound := (List.getElem?_eq_some_iff.mp hentry).1
          simp only [List.length_append, List.length_singleton] at hbound
          omega
        subst hlast
        simp only [List.getElem?_concat_length, Option.some.injEq] at hentry
        subst hentry
        have hnone : (batchRows items make entries).filter
            (fun row => decide (position row = entries.length + 1)) = [] := by
          rw [List.filter_eq_nil_iff]
          intro row hrow
          have hle := (position_of_mem_batchRows hposition hrow).2
          simp only [decide_eq_true_eq]
          omega
        rw [hnone, List.nil_append, List.filter_eq_self]
        intro row hrow
        obtain ⟨j, _, rfl⟩ := List.mem_mapIdx.mp hrow
        simp [hposition]

/-- Reading one batch number back in order gives the rows of that entry. -/
theorem rowsAt_batchRows (hposition : ∀ n i item, position (make n i item) = n)
    (hindex : ∀ n i item, index (make n i item) = i) {n : Nat} {entry : Entry}
    (hentry : entries[n]? = some entry) :
    rowsAt position index (batchRows items make entries) (n + 1) =
      (items entry).mapIdx (make (n + 1)) := by
  rw [rowsAt_of_pairwise (batchRows_pairwise hposition hindex entries),
    batchRows_filter hposition hentry]

/-! ## Items with their places -/

/-- An item with its entry, the number of its batch and its index in the batch. -/
structure BatchItem (Entry : Type u) (Item : Type v) where
  number : Nat
  index : Nat
  entry : Entry
  item : Item

/-- The items of all entries in the order of their rows. -/
def batchItems (items : Entry → List Item) (entries : List Entry) :
    List (BatchItem Entry Item) :=
  batchRows (fun entry => (items entry).map (Prod.mk entry))
    (fun number index source => ⟨number, index, source.1, source.2⟩) entries

theorem mapIdx_map {α β γ : Type*} (f : α → β) (g : Nat → β → γ) (l : List α) :
    (l.map f).mapIdx g = l.mapIdx fun i a => g i (f a) :=
  List.ext_getElem (by simp) (by simp)

/-- Rows are made item by item. -/
theorem batchRows_eq_map (entries : List Entry) :
    batchRows items make entries =
      (batchItems items entries).map fun place => make place.number place.index place.item := by
  rw [batchItems, map_batchRows]
  simp only [batchRows, mapIdx_map]

/-- Every item is in its place. -/
theorem mem_batchItems {place : BatchItem Entry Item} (h : place ∈ batchItems items entries) :
    ∃ n, place.number = n + 1 ∧ entries[n]? = some place.entry ∧
      (items place.entry)[place.index]? = some place.item := by
  simp only [batchItems, batchRows, List.mem_flatten, List.mem_mapIdx] at h
  obtain ⟨_, ⟨n, hn, rfl⟩, h⟩ := h
  obtain ⟨i, hi, rfl⟩ := List.mem_mapIdx.mp h
  rw [List.length_map] at hi
  refine ⟨n, rfl, ?_, ?_⟩
  · simp [List.getElem?_eq_getElem hn]
  · simp [List.getElem?_eq_getElem hi]

end Rintawa.Lib
