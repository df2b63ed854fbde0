/-
# Keyed rows

A table is the list of its rows in insertion order. Uniqueness is a check made by
every insertion, a lookup returns the first row under a key, and an upsert either
replaces the row under its key or appends a new one. Results of checked
operations are given by one characterization each.
-/

import Mathlib.Data.List.Forall2
import Mathlib.Data.List.Nodup

namespace Rintawa.Lib

universe u v w

variable {Row : Type u} {Key : Type v} {Violation : Type w} [DecidableEq Key]

/-! ## Sequencing -/

variable {α β : Type u}

variable {x : Except Violation α} {violation : Violation} {row : Row} {rows : List Row}

/-- A sequence of checked computations succeeds exactly when both parts do. -/
theorem bind_eq_ok_iff {f : α → Except Violation β} {b : β} :
    (x >>= f) = .ok b ↔ ∃ a, x = .ok a ∧ f a = .ok b := by
  cases x with
  | error e => simp [bind, Except.bind]
  | ok a => simp [bind, Except.bind]

/-- A sequence of checked computations fails when the first part does, or the second one after
it. -/
theorem bind_eq_error_iff {f : α → Except Violation β} :
    (x >>= f) = .error violation ↔
      x = .error violation ∨ ∃ a, x = .ok a ∧ f a = .error violation := by
  cases x with
  | error e => simp [bind, Except.bind]
  | ok a => simp [bind, Except.bind]

/-- The result of a checked computation, read through a function. -/
theorem map_eq_ok_iff {f : α → β} {b : β} : x.map f = .ok b ↔ ∃ a, x = .ok a ∧ f a = b := by
  cases x with
  | error e => simp [Except.map]
  | ok a => simp [Except.map]

/-- A computation that fails when it is read through a function fails by itself. -/
theorem eq_error_of_map {β : Type v} {f : α → β} (h : x.map f = .error violation) :
    x = .error violation := by
  cases x with
  | error other =>
      cases h
      rfl
  | ok a => cases h

/-- A computation that succeeds when its violations are renamed succeeds by itself. -/
theorem eq_ok_of_mapError {Violation' : Type v} {f : Violation → Violation'} {a : α}
    (h : x.mapError f = .ok a) : x = .ok a := by
  cases x with
  | error violation => cases h
  | ok other =>
      cases h
      rfl

/-- A check that is followed by another one. -/
theorem checks_eq_ok_iff {check : Except Violation Unit} {next : Unit → Except Violation Unit} :
    (check >>= next) = .ok () ↔ check = .ok () ∧ next () = .ok () := by
  rw [bind_eq_ok_iff]
  constructor
  · intro h
    exact h.elim fun _ hpassed => hpassed
  · intro h
    exact ⟨(), h⟩

/-- What every step keeps is kept by a fold that succeeds. -/
theorem foldlM_preserves {α : Type v} {step : β → α → Except Violation β} {P : β → Prop}
    {items : List α}
    (hstep : ∀ before item after, P before → step before item = .ok after → P after)
    {first last : β} (hfirst : P first) (hlast : items.foldlM step first = .ok last) : P last := by
  induction items generalizing first with
  | nil =>
      cases hlast
      exact hfirst
  | cons item rest ih =>
      rw [List.foldlM_cons, bind_eq_ok_iff] at hlast
      obtain ⟨next, hnext, hrest⟩ := hlast
      exact ih (hstep first item next hfirst hnext) hrest

/-- A checked loop succeeds exactly when every round does. -/
theorem forM_eq_ok_iff {α : Type v} {f : α → Except Violation PUnit}
    {items : List α} :
    items.forM f = .ok ⟨⟩ ↔ ∀ item ∈ items, f item = .ok ⟨⟩ := by
  induction items with
  | nil => simp [pure, Except.pure]
  | cons item rest ih =>
      change (f item >>= fun _ => rest.forM f) = _ ↔ _
      rw [bind_eq_ok_iff, List.forall_mem_cons, ← ih]
      constructor
      · rintro ⟨⟨⟩, hfirst, hrest⟩
        exact ⟨hfirst, hrest⟩
      · rintro ⟨hfirst, hrest⟩
        exact ⟨⟨⟩, hfirst, hrest⟩

/-- A checked map succeeds exactly when every item does, with the results in order. -/
theorem mapM_eq_ok_iff {α : Type v} {f : α → Except Violation β} {items : List α}
    {results : List β} :
    items.mapM f = .ok results ↔ List.Forall₂ (fun item result => f item = .ok result)
      items results := by
  induction items generalizing results with
  | nil => simp [pure, Except.pure, eq_comm]
  | cons item rest ih =>
      simp only [List.mapM_cons, bind_eq_ok_iff, ih, List.forall₂_cons_left_iff]
      constructor
      · rintro ⟨result, hfirst, others, hrest, hresults⟩
        cases hresults
        exact ⟨result, others, hfirst, hrest, rfl⟩
      · rintro ⟨result, others, hfirst, hrest, rfl⟩
        exact ⟨result, hfirst, others, hrest, rfl⟩

/-- Every item on the left is related to one on the right. -/
theorem exists_mem_of_forall₂ {β : Type v} {R : α → β → Prop} {items : List α} {others : List β}
    (h : List.Forall₂ R items others) {item : α} (hmem : item ∈ items) :
    ∃ other ∈ others, R item other := by
  induction h with
  | nil => cases hmem
  | @cons first other rest others hfirst _ ih =>
      rcases List.mem_cons.mp hmem with rfl | hrest
      · exact ⟨other, List.mem_cons_self, hfirst⟩
      · obtain ⟨found, hfound, hrelated⟩ := ih hrest
        exact ⟨found, List.mem_cons_of_mem _ hfound, hrelated⟩

/-- The first item that repeats an earlier one. -/
def firstRepeated {α : Type u} [DecidableEq α] (seen : List α) : List α → Option α
  | [] => none
  | item :: rest => if item ∈ seen then some item else firstRepeated (item :: seen) rest

/-- Nothing is repeated if the items are distinct and none was seen before. -/
theorem firstRepeated_eq_none_iff {α : Type u} [DecidableEq α] {seen items : List α} :
    firstRepeated seen items = none ↔ items.Nodup ∧ ∀ item ∈ items, item ∉ seen := by
  induction items generalizing seen with
  | nil => simp [firstRepeated]
  | cons item rest ih =>
      by_cases hseen : item ∈ seen
      · simp [firstRepeated, hseen]
      · simp only [firstRepeated, if_neg hseen, ih, List.nodup_cons, List.forall_mem_cons]
        constructor
        · rintro ⟨hnodup, hfresh⟩
          refine ⟨⟨fun hmem => hfresh item hmem List.mem_cons_self, hnodup⟩, hseen, ?_⟩
          exact fun other hother hbefore =>
            hfresh other hother (List.mem_cons_of_mem _ hbefore)
        · rintro ⟨⟨hnot, hnodup⟩, _, hfresh⟩
          refine ⟨hnodup, fun other hother hbefore => ?_⟩
          rcases List.mem_cons.mp hbefore with rfl | hold
          · exact hnot hother
          · exact hfresh other hother hold

/-! ## Lookup -/

/-- The first row stored under a key. -/
def lookupRow (key : Row → Key) (rows : List Row) (k : Key) : Option Row :=
  rows.find? fun row => key row = k

/-- A row that is found is there, with its key. -/
theorem mem_of_lookupRow {key : Row → Key} {k : Key} (h : lookupRow key rows k = some row) :
    row ∈ rows ∧ key row = k :=
  ⟨List.mem_of_find?_eq_some h, by simpa using List.find?_some h⟩

/-- With unique keys a lookup finds exactly the row that carries the key. -/
theorem lookupRow_eq_some_iff {key : Row → Key} (unique : (rows.map key).Nodup) {k : Key} :
    lookupRow key rows k = some row ↔ row ∈ rows ∧ key row = k := by
  refine ⟨mem_of_lookupRow, ?_⟩
  rintro ⟨hmem, rfl⟩
  cases hfound : lookupRow key rows (key row) with
  | none =>
      have hnone := List.find?_eq_none.mp hfound row hmem
      simp at hnone
  | some other =>
      obtain ⟨hother, hkey⟩ := mem_of_lookupRow hfound
      rw [List.inj_on_of_nodup_map unique hother hmem hkey]

/-- Nothing is found under a key that no row has. -/
theorem lookupRow_eq_none_iff {key : Row → Key} {k : Key} :
    lookupRow key rows k = none ↔ ∀ row ∈ rows, key row ≠ k := by
  simp [lookupRow, List.find?_eq_none]

/-- A row that was found is still found after rows are appended. -/
theorem lookupRow_append {key : Row → Key} {more : List Row} {k : Key}
    (h : lookupRow key rows k = some row) : lookupRow key (rows ++ more) k = some row := by
  simp only [lookupRow] at h ⊢
  rw [List.find?_append, h]
  rfl

/-- A row at the end is found if no other row is. -/
theorem lookupRow_snoc {key : Row → Key} {k : Key} :
    lookupRow key (rows ++ [row]) k =
      (lookupRow key rows k).or (if key row = k then some row else none) := by
  simp only [lookupRow, List.find?_append, List.find?_singleton, decide_eq_true_eq]

/-! ## Insertion -/

/-- Append a row unless its key is taken. -/
def insertUnique (violation : Violation) (key : Row → Key) (rows : List Row) (row : Row) :
    Except Violation (List Row) :=
  if rows.any fun other => key other = key row then .error violation
  else .ok (rows ++ [row])

/-- A row is inserted at the end if its key is new. -/
theorem insertUnique_eq_ok_iff {key : Row → Key} {rows' : List Row} :
    insertUnique violation key rows row = .ok rows' ↔
      key row ∉ rows.map key ∧ rows' = rows ++ [row] := by
  simp only [insertUnique, List.any_eq_true, decide_eq_true_eq, List.mem_map]
  split <;> simp_all [eq_comm]

omit [DecidableEq Key] in
/-- Appending a row under a free key keeps keys unique. -/
theorem nodup_map_snoc {key : Row → Key} (unique : (rows.map key).Nodup)
    (free : key row ∉ rows.map key) : ((rows ++ [row]).map key).Nodup := by
  rw [List.map_append, List.map_singleton, List.nodup_append]
  refine ⟨unique, List.nodup_singleton _, ?_⟩
  intro a ha b hb heq
  rw [List.mem_singleton] at hb
  exact free (hb ▸ heq ▸ ha)

/-! ## Deletion and replacement -/

omit [DecidableEq Key] in
/-- Keys stay unique when rows are taken away. -/
theorem nodup_map_filter {key : Row → Key} (keep : Row → Bool) (unique : (rows.map key).Nodup) :
    ((rows.filter keep).map key).Nodup :=
  unique.sublist (List.filter_sublist.map key)

/-- Replace the row under a key, or append it when the key is free. -/
def upsert (key : Row → Key) (rows : List Row) (row : Row) : List Row :=
  if rows.any fun other => key other = key row then
    rows.map fun other => if key other = key row then row else other
  else rows ++ [row]

/-- A row takes the place of those with its key. -/
theorem mem_upsert {key : Row → Key} {other : Row} :
    other ∈ upsert key rows row ↔ other = row ∨ (other ∈ rows ∧ key other ≠ key row) := by
  simp only [upsert, List.any_eq_true, decide_eq_true_eq]
  split
  · next htaken =>
      obtain ⟨witness, hmem, hkey⟩ := htaken
      simp only [List.mem_map]
      constructor
      · rintro ⟨source, hsource, rfl⟩
        by_cases hsame : key source = key row
        · simp [hsame]
        · simp [hsame, hsource]
      · rintro (rfl | ⟨hother, hne⟩)
        · exact ⟨witness, hmem, by simp [hkey]⟩
        · exact ⟨other, hother, by simp [hne]⟩
  · next hfree =>
      simp only [List.mem_append, List.mem_singleton]
      constructor
      · rintro (hmem | rfl)
        · exact Or.inr ⟨hmem, fun hkey => hfree ⟨other, hmem, hkey⟩⟩
        · exact Or.inl rfl
      · rintro (rfl | ⟨hmem, _⟩)
        · exact Or.inr rfl
        · exact Or.inl hmem

/-! ## Appending a batch with running indices -/

/-- Insert the rows made from a batch of drafts, numbering them from an index. -/
def insertIndexed {Draft : Type*} (insert : List Row → Nat → Draft → Except Violation (List Row)) :
    Nat → List Draft → List Row → Except Violation (List Row)
  | _, [], rows => .ok rows
  | index, draft :: drafts, rows =>
      insert rows index draft >>= insertIndexed insert (index + 1) drafts

/-- When every insertion appends the row made from its draft, a batch appends the
rows of all drafts, and a property kept by single insertions is kept. -/
theorem insertIndexed_spec {Draft : Type*}
    {insert : List Row → Nat → Draft → Except Violation (List Row)}
    {make : Nat → Draft → Row} {G : List Row → Prop}
    (hinsert : ∀ rows index draft rows', insert rows index draft = .ok rows' →
      rows' = rows ++ [make index draft] ∧ (G rows → G rows')) :
    ∀ {drafts : List Draft} {index : Nat} {rows rows' : List Row},
      insertIndexed insert index drafts rows = .ok rows' →
      rows' = rows ++ drafts.mapIdx (fun offset draft => make (index + offset) draft) ∧
        (G rows → G rows') := by
  intro drafts
  induction drafts with
  | nil =>
      intro index rows rows' h
      simp only [insertIndexed, Except.ok.injEq] at h
      subst h
      simp
  | cons draft drafts ih =>
      intro index rows rows' h
      obtain ⟨middle, hfirst, hrest⟩ := bind_eq_ok_iff.mp h
      obtain ⟨rfl, hgood⟩ := hinsert _ _ _ _ hfirst
      obtain ⟨rfl, hgood'⟩ := ih hrest
      refine ⟨?_, fun hrows => hgood' (hgood hrows)⟩
      simp [List.mapIdx_cons, Nat.add_assoc, Nat.add_comm 1]

end Rintawa.Lib
