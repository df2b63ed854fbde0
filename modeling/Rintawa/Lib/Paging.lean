/-
# Reading an ordered table page by page

Rows are ordered by a position and by an index within the position. A page holds
the first rows after an exclusive position, up to a limit. A reader that takes
the position of the last row it received as its next cursor sees every row
exactly when no page ends in the middle of a position.
-/

import Mathlib.Data.List.Sort
import Rintawa.Lib.Table

namespace Rintawa.Lib

universe u v w

/-! ## Sorting and filtering -/

section Sorting

variable {α : Type u} {le : α → α → Prop} [DecidableRel le]

/-- What comes before everything else is inserted at the front. -/
theorem orderedInsert_of_forall_le {a : α} {items : List α} (h : ∀ b ∈ items, le a b) :
    items.orderedInsert le a = a :: items := by
  cases items with
  | nil => rfl
  | cons b rest => simp [List.orderedInsert, h b List.mem_cons_self]

/-- Filtering commutes with insertion into a sorted list. -/
theorem filter_orderedInsert [IsTrans α le] (keep : α → Bool) (a : α) {items : List α}
    (hsorted : items.Pairwise le) :
    (items.orderedInsert le a).filter keep =
      if keep a then (items.filter keep).orderedInsert le a else items.filter keep := by
  induction items with
  | nil => by_cases hkeep : keep a <;> simp [hkeep]
  | cons b rest ih =>
      obtain ⟨hbefore, hrest⟩ := List.pairwise_cons.mp hsorted
      by_cases hle : le a b
      · have hall : ∀ c ∈ (b :: rest).filter keep, le a c := by
          intro c hc
          rcases List.mem_cons.mp (List.mem_of_mem_filter hc) with rfl | hmem
          · exact hle
          · exact IsTrans.trans _ _ _ hle (hbefore c hmem)
        rw [orderedInsert_of_forall_le hall, List.orderedInsert, if_pos hle, List.filter_cons]
      · rw [List.orderedInsert, if_neg hle, List.filter_cons, ih hrest]
        by_cases hkeep : keep b
        · by_cases hkeep' : keep a <;> simp [hkeep, hkeep', hle]
        · simp [hkeep]

/-- Sorting is stable, so it commutes with filtering. -/
theorem filter_insertionSort [Std.Total le] [IsTrans α le] (keep : α → Bool) (items : List α) :
    (items.insertionSort le).filter keep = (items.filter keep).insertionSort le := by
  induction items with
  | nil => rfl
  | cons a rest ih =>
      rw [List.insertionSort_cons,
        filter_orderedInsert keep a (List.pairwise_insertionSort le rest), ih]
      by_cases hkeep : keep a <;> simp [hkeep]

end Sorting

/-! ## Order of rows -/

section Order

variable {Row : Type u} (position index : Row → Nat)

/-- The order of rows by position, then by index. -/
def rowLe (a b : Row) : Prop :=
  position a < position b ∨ (position a = position b ∧ index a ≤ index b)

instance : DecidableRel (rowLe position index) := fun a b =>
  inferInstanceAs (Decidable (position a < position b ∨
    (position a = position b ∧ index a ≤ index b)))

instance : Std.Total (rowLe position index) := ⟨fun a b => by unfold rowLe; omega⟩

instance : IsTrans Row (rowLe position index) :=
  ⟨fun a b c => by unfold rowLe; omega⟩

/-- All rows after an exclusive position, in order. -/
def rowsAfter (rows : List Row) (after : Nat) : List Row :=
  (rows.filter fun row => decide (after < position row)).insertionSort (rowLe position index)

/-- The rows of one position, in order of their index. -/
def rowsAt (rows : List Row) (place : Nat) : List Row :=
  (rows.filter fun row => decide (position row = place)).insertionSort
    fun a b => index a ≤ index b

variable {position index}

/-- A page is sorted by position. -/
theorem rowsAfter_pairwise (rows : List Row) (after : Nat) :
    (rowsAfter position index rows after).Pairwise fun a b => position a ≤ position b :=
  (List.pairwise_insertionSort _ _).imp fun h => by
    unfold rowLe at h
    omega

variable {after limit : Nat}

variable {rows : List Row}

/-- A page has the rows behind a position, and no others. -/
theorem mem_rowsAfter {row : Row} :
    row ∈ rowsAfter position index rows after ↔ row ∈ rows ∧ after < position row := by
  simp [rowsAfter]

/-- Reading on from a later position drops the rows up to it. -/
theorem rowsAfter_rowsAfter (rows : List Row) {later : Nat} (h : after ≤ later) :
    rowsAfter position index rows later =
      (rowsAfter position index rows after).filter fun row => decide (later < position row) := by
  rw [rowsAfter, rowsAfter, filter_insertionSort, List.filter_filter]
  congr 1
  apply List.filter_congr
  intro row _
  by_cases hlater : later < position row
  · have hafter : after < position row := by omega
    simp [hlater, hafter]
  · simp [hlater]

/-- Rows inserted in order need no sorting. -/
theorem rowsAfter_of_pairwise (h : rows.Pairwise (rowLe position index)) (after : Nat) :
    rowsAfter position index rows after =
      rows.filter fun row => decide (after < position row) := by
  rw [rowsAfter, List.Pairwise.insertionSort_eq]
  exact h.filter _

/-- In a sorted table, the rows of a position are in order already. -/
theorem rowsAt_of_pairwise (h : rows.Pairwise (rowLe position index)) (place : Nat) :
    rowsAt position index rows place = rows.filter fun row => decide (position row = place) := by
  rw [rowsAt, List.Pairwise.insertionSort_eq]
  refine (h.filter _).imp_of_mem ?_
  intro a b ha hb hle
  simp only [List.mem_filter, decide_eq_true_eq] at ha hb
  unfold rowLe at hle
  omega

/-- No page of the given size ends between two rows of one position. -/
def NoSplitPosition (position : Row → Nat) (limit : Nat) (rows : List Row) : Prop :=
  ∀ (m : Nat) (h : m < rows.length), 0 < m → limit ∣ m →
    position (rows[m - 1]) ≠ position rows[m]

/-- The condition for all rows is the one for the first page boundary together
with the one for the remaining rows. -/
theorem noSplitPosition_iff_drop (hlimit : 0 < limit) :
    NoSplitPosition position limit rows ↔
      (∀ h : limit < rows.length,
        position (rows[limit - 1]) ≠ position rows[limit]) ∧
      NoSplitPosition position limit (rows.drop limit) := by
  constructor
  · intro hsplit
    refine ⟨fun h => hsplit limit h hlimit (Nat.dvd_refl limit), ?_⟩
    intro m hm hpositive hdvd
    have hm' : limit + m < rows.length := by
      rw [List.length_drop] at hm
      omega
    have hboundary := hsplit (limit + m) hm' (by omega) (by simpa using hdvd)
    have hprevious : limit + m - 1 = limit + (m - 1) := by omega
    simpa [List.getElem_drop, hprevious] using hboundary
  · rintro ⟨hfirst, hrest⟩ m hm hpositive ⟨k, rfl⟩
    obtain _ | _ | k := k
    · simp at hpositive
    · simpa using hfirst (by simpa using hm)
    · have hpos : 0 < limit * (k + 1) := Nat.mul_pos hlimit (Nat.succ_pos k)
      have hsum : limit * (k + 1 + 1) = limit + limit * (k + 1) := by
        rw [Nat.mul_succ, Nat.add_comm]
      have hm' : limit * (k + 1) < (rows.drop limit).length := by
        rw [List.length_drop]
        omega
      have hboundary := hrest (limit * (k + 1)) hm' hpos ⟨k + 1, rfl⟩
      have hprevious : limit + limit * (k + 1) - 1 = limit + (limit * (k + 1) - 1) := by omega
      simpa only [List.getElem_drop, hsum, hprevious] using hboundary

/-- After a page, reading on from the position of its last row leaves the rows
behind the page that have a later position. -/
theorem rowsAfter_page {page : List Row} {last : Row}
    (hpage : (rowsAfter position index rows after).take limit = page ++ [last]) :
    rowsAfter position index rows (position last) =
      ((rowsAfter position index rows after).drop limit).filter fun row =>
        decide (position last < position row) := by
  have hall := List.take_append_drop limit (rowsAfter position index rows after)
  have hsorted := @rowsAfter_pairwise _ position index rows after
  have hlast : last ∈ rowsAfter position index rows after :=
    List.mem_of_mem_take (i := limit) (by simp [hpage])
  have hlater := (mem_rowsAfter.mp hlast).2
  have hnone : (page ++ [last]).filter (fun row => decide (position last < position row)) =
      [] := by
    rw [List.filter_eq_nil_iff]
    intro row hrow
    rw [← hall, hpage, List.pairwise_append, List.pairwise_append] at hsorted
    rcases List.mem_append.mp hrow with hbefore | hsame
    · have hle := hsorted.1.2.2 row hbefore last (List.mem_singleton_self last)
      simpa using hle
    · simp [List.mem_singleton.mp hsame]
  rw [rowsAfter_rowsAfter rows (le_of_lt hlater)]
  conv_lhs => rw [← hall, List.filter_append, hpage, hnone, List.nil_append]

/-- Nothing behind a page is skipped exactly when the page does not end inside
a position. -/
theorem drop_filter_eq_self_iff {all page : List Row} {last : Row}
    (hsorted : all.Pairwise fun a b => position a ≤ position b)
    (hpage : all.take limit = page ++ [last]) :
    ((all.drop limit).filter fun row => decide (position last < position row)) =
        all.drop limit ↔
      ∀ h : limit < all.length, position (all[limit - 1]) ≠ position all[limit] := by
  rw [List.filter_eq_self]
  have hlength := congrArg List.length hpage
  simp only [List.length_take, List.length_append, List.length_singleton] at hlength
  have hlast : ∀ h : limit < all.length, all[limit - 1] = last := by
    intro h
    have hindex : limit - 1 = page.length := by omega
    have hget : (page ++ [last])[page.length]? = some last := by simp
    rw [← hpage, List.getElem?_take, if_pos (by omega)] at hget
    simp only [hindex]
    exact (List.getElem?_eq_some_iff.mp hget).2
  constructor
  · intro hlater h
    have hmem : all[limit] ∈ all.drop limit := by
      rw [List.mem_drop_iff_getElem]
      exact ⟨0, by simpa using h, by simp⟩
    have hlt := hlater _ hmem
    rw [hlast h]
    exact Nat.ne_of_lt (by simpa using hlt)
  · intro hboundary row hrow
    obtain ⟨offset, hoffset, rfl⟩ := List.mem_drop_iff_getElem.mp hrow
    have h : limit < all.length := by omega
    have hne := hboundary h
    rw [hlast h] at hne
    have hpairwise := List.pairwise_iff_getElem.mp hsorted
    have hfirst := hpairwise (limit - 1) limit (by omega) h (by omega)
    rw [hlast h] at hfirst
    rcases Nat.eq_zero_or_pos offset with rfl | hpositive
    · simp only [Nat.add_zero, decide_eq_true_eq]
      omega
    · have hrest := hpairwise limit (limit + offset) h (by omega) (by omega)
      simp only [decide_eq_true_eq]
      omega

end Order

/-! ## The cursor loop -/

section Cursor

variable {Row : Type u} {Item : Type v} {Failure : Type w}

/-- A finished run of the loop that reads pages until one is empty, each time
continuing after the cursor of the last item received. -/
inductive Drains (fetch : Nat → Except Failure (List Item)) (cursor : Item → Nat) :
    Nat → List Item → Prop
  | done {after : Nat} : fetch after = .ok [] → Drains fetch cursor after []
  | more {after : Nat} {page rest : List Item} {last : Item} :
      fetch after = .ok (page ++ [last]) → Drains fetch cursor (cursor last) rest →
      Drains fetch cursor after (page ++ [last] ++ rest)

variable {position index : Row → Nat} {rows : List Row} {limit : Nat}
  {fetch : Nat → Except Failure (List Item)} {decode : Row → Except Failure Item}
  {cursor : Item → Nat} {valid : Nat → Prop}

variable {after : Nat}

/-- A fetched page stands for the first rows, its last item for the last of them. -/
theorem rows_of_page (hfetch : ∀ after, valid after →
      fetch after = ((rowsAfter position index rows after).take limit).mapM decode)
    (hafter : valid after) {page : List Item} {last : Item}
    (hpage : fetch after = .ok (page ++ [last])) :
    ∃ front lastRow, (rowsAfter position index rows after).take limit = front ++ [lastRow] ∧
      front.length = page.length ∧ lastRow ∈ rows ∧ decode lastRow = .ok last := by
  rw [hfetch after hafter, mapM_eq_ok_iff] at hpage
  have hfront := List.forall₂_take_append _ _ _ hpage
  have hlast := List.forall₂_drop_append _ _ _ hpage
  obtain ⟨lastRow, ends, hdecode, hnone, hends⟩ := List.forall₂_cons_right_iff.mp hlast
  rw [List.forall₂_nil_right_iff] at hnone
  subst hnone
  refine ⟨_, lastRow, ?_, hfront.length_eq, ?_, hdecode⟩
  · rw [← hends, List.take_append_drop]
  · have hmem : lastRow ∈ (rowsAfter position index rows after).take limit := by
      apply List.mem_of_mem_drop (i := page.length)
      rw [hends]
      exact List.mem_singleton_self lastRow
    exact (mem_rowsAfter.mp (List.mem_of_mem_take hmem)).1

/-- The loop never returns more items than there are rows. -/
theorem Drains.length_le (hfetch : ∀ after, valid after →
      fetch after = ((rowsAfter position index rows after).take limit).mapM decode)
    (hvalid : ∀ row ∈ rows, valid (position row))
    (hcursor : ∀ row item, decode row = .ok item → cursor item = position row) {items : List Item}
    (hdrains : Drains fetch cursor after items) (hafter : valid after) :
    items.length ≤ (rowsAfter position index rows after).length := by
  induction hdrains with
  | done => exact Nat.zero_le _
  | @more after page rest last hpage hrest ih =>
      obtain ⟨front, lastRow, htake, hlength, hmem, hdecode⟩ :=
        rows_of_page hfetch hafter hpage
      rw [hcursor lastRow last hdecode] at ih
      have hle := ih (hvalid lastRow hmem)
      rw [rowsAfter_page htake] at hle
      have hfilter := List.length_filter_le (fun row => decide (position lastRow < position row))
        ((rowsAfter position index rows after).drop limit)
      have hsum := congrArg List.length
        (List.take_append_drop limit (rowsAfter position index rows after))
      rw [htake] at hsum
      simp only [List.length_append, List.length_singleton] at hsum ⊢
      omega

/-- The loop returns all rows exactly when no page ends inside a position. The rest of the items
stands for the rows behind the page. -/
theorem drains_iff (hlimit : 0 < limit) (hfetch : ∀ after, valid after →
      fetch after = ((rowsAfter position index rows after).take limit).mapM decode)
    (hvalid : ∀ row ∈ rows, valid (position row))
    (hcursor : ∀ row item, decode row = .ok item → cursor item = position row) {items : List Item}
    (hafter : valid after) (hitems : List.Forall₂ (fun row item => decode row = .ok item)
      (rowsAfter position index rows after) items) :
    Drains fetch cursor after items ↔
      NoSplitPosition position limit (rowsAfter position index rows after) := by
  constructor
  · intro hdrains
    induction hdrains with
    | done =>
        rw [List.forall₂_nil_right_iff.mp hitems]
        intro m h
        simp at h
    | @more after page rest last hpage hrest ih =>
        obtain ⟨front, lastRow, htake, hlength, hmem, hdecode⟩ :=
          rows_of_page hfetch hafter hpage
        have hnext := hvalid lastRow hmem
        have hcount := hrest.length_le hfetch hvalid hcursor
          (by rwa [hcursor lastRow last hdecode])
        rw [hcursor lastRow last hdecode] at ih hcount
        have hbehind := List.forall₂_drop_append _ _ _ hitems
        have hdrop : (rowsAfter position index rows after).drop (page ++ [last]).length =
            (rowsAfter position index rows after).drop limit := by
          conv_lhs =>
            rw [← List.take_append_drop limit (rowsAfter position index rows after), htake]
          exact List.drop_left' (by simp [hlength])
        rw [hdrop] at hbehind
        rw [rowsAfter_page htake, ← hbehind.length_eq] at hcount
        have hall := List.filter_sublist.eq_of_length_le hcount
        have hrows := rowsAfter_page htake
        rw [hall] at hrows
        rw [noSplitPosition_iff_drop hlimit]
        refine ⟨(drop_filter_eq_self_iff (rowsAfter_pairwise _ _) htake).mp hall, ?_⟩
        rw [← hrows]
        exact ih hnext (by rwa [hrows])
  · intro hsplit
    induction hcount : (rowsAfter position index rows after).length using
      Nat.strong_induction_on generalizing after items with
    | _ count ih =>
        have hpage : fetch after = .ok (items.take limit) := by
          rw [hfetch after hafter, mapM_eq_ok_iff]
          exact List.forall₂_take limit hitems
        rcases List.eq_nil_or_concat (items.take limit) with hnil | ⟨page, last, htake⟩
        · have hempty : items = [] := by
            rcases List.take_eq_nil_iff.mp hnil with hzero | hempty
            · omega
            · exact hempty
          rw [hempty]
          exact .done (hnil ▸ hpage)
        · rw [List.concat_eq_append] at htake
          rw [htake] at hpage
          obtain ⟨front, lastRow, hfront, -, hmem, hdecode⟩ := rows_of_page hfetch hafter hpage
          obtain ⟨hboundary, hrest⟩ := (noSplitPosition_iff_drop hlimit).mp hsplit
          have hbehind := (drop_filter_eq_self_iff (rowsAfter_pairwise _ _) hfront).mpr hboundary
          have hrows := (rowsAfter_page hfront).trans hbehind
          have hshorter : (rowsAfter position index rows (position lastRow)).length < count := by
            have hpositive := congrArg List.length hfront
            rw [hrows, List.length_drop]
            simp only [List.length_take, List.length_append, List.length_singleton] at hpositive
            omega
          have hitems' : List.Forall₂ (fun row item => decode row = .ok item)
              (rowsAfter position index rows (position lastRow)) (items.drop limit) := by
            rw [hrows]
            exact List.forall₂_drop limit hitems
          have hnext := ih _ hshorter (hvalid lastRow hmem) hitems' (by rwa [hrows]) rfl
          rw [← hcursor lastRow last hdecode] at hnext
          rw [← List.take_append_drop limit items, htake]
          exact .more hpage hnext

/-- Rows that each decode have a list of decoded items. -/
theorem exists_forall₂_decoded :
    ∀ {rows : List Row}, (∀ row ∈ rows, ∃ item, decode row = .ok item) →
      ∃ items, List.Forall₂ (fun row item => decode row = .ok item) rows items
  | [], _ => ⟨[], .nil⟩
  | row :: rows, h => by
      obtain ⟨item, hitem⟩ := h row List.mem_cons_self
      obtain ⟨items, hitems⟩ :=
        exists_forall₂_decoded fun other hother => h other (List.mem_cons_of_mem _ hother)
      exact ⟨item :: items, .cons hitem hitems⟩

/-- The loop finds everything after a start exactly when pages can be fetched
there, all rows decode, and no page ends inside a position. -/
theorem drains_all_iff (hlimit : 0 < limit) (hfetch : ∀ after, valid after →
      fetch after = ((rowsAfter position index rows after).take limit).mapM decode)
    (hfails : ∀ after items, fetch after = .ok items → valid after)
    (hvalid : ∀ row ∈ rows, valid (position row))
    (hcursor : ∀ row item, decode row = .ok item → cursor item = position row) :
    (∃ items, List.Forall₂ (fun row item => decode row = .ok item)
        (rowsAfter position index rows after) items ∧ Drains fetch cursor after items) ↔
      valid after ∧ (∀ row ∈ rowsAfter position index rows after, ∃ item, decode row = .ok item) ∧
        NoSplitPosition position limit (rowsAfter position index rows after) := by
  constructor
  · rintro ⟨items, hitems, hdrains⟩
    have hafter : valid after := by
      cases hdrains with
      | done hpage => exact hfails _ _ hpage
      | more hpage _ => exact hfails _ _ hpage
    refine ⟨hafter, ?_, (drains_iff hlimit hfetch hvalid hcursor hafter hitems).mp hdrains⟩
    intro row hrow
    obtain ⟨i, hi, rfl⟩ := List.getElem_of_mem hrow
    exact ⟨items.get ⟨i, hitems.length_eq ▸ hi⟩, List.Forall₂.get hitems hi _⟩
  · rintro ⟨hafter, hdecode, hsplit⟩
    obtain ⟨items, hitems⟩ := exists_forall₂_decoded hdecode
    exact ⟨items, hitems, (drains_iff hlimit hfetch hvalid hcursor hafter hitems).mpr hsplit⟩

end Cursor

/-- Rows that fit on one page are not split. -/
theorem noSplitPosition_of_length_le {Row : Type u} {position : Row → Nat} {limit : Nat}
    {rows : List Row} (h : rows.length ≤ limit) : NoSplitPosition position limit rows := by
  intro m hm hpos hdvd
  exact absurd (Nat.le_of_dvd hpos hdvd) (by omega)

/-- The condition on page boundaries only looks at positions. -/
theorem noSplitPosition_map {Source : Type w} {Row : Type u} {position : Row → Nat}
    {f : Source → Row} {limit : Nat} {rows : List Source} :
    NoSplitPosition position limit (rows.map f) ↔
      NoSplitPosition (fun row => position (f row)) limit rows := by
  simp [NoSplitPosition]

end Rintawa.Lib
