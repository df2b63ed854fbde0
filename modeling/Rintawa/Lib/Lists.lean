/-
# Facts about lists

What filters and maps of lists do when entries are known by their keys, or all come from
one place, what a list says about its last entry, and at which place of a list something
happens. The facts are about lists of any kind.
-/

import Mathlib.Data.List.Destutter
import Mathlib.Data.List.Forall2
import Mathlib.Data.List.Nodup

namespace Rintawa.Lib

/-! ## Members -/

/-- Two relations that agree on the members of a list relate it to the same lists. -/
theorem forall₂_congr_of_mem {α β : Type} {R S : α → β → Prop} :
    ∀ {items : List α} {others : List β}, (∀ a ∈ items, ∀ b, R a b ↔ S a b) →
      (List.Forall₂ R items others ↔ List.Forall₂ S items others)
  | [], others, _ => by simp only [List.forall₂_nil_left_iff]
  | a :: items, [], _ => by simp only [List.forall₂_nil_right_iff]
  | a :: items, b :: others, h => by
      rw [List.forall₂_cons, List.forall₂_cons, h a List.mem_cons_self b,
        forall₂_congr_of_mem fun c hc => h c (List.mem_cons_of_mem _ hc)]

variable {α β : Type}

/-- Removing repetitions from neighbours leaves the elements. -/
theorem mem_destutter_ne [DecidableEq α] {entries : List α} {entry : α} :
    entry ∈ entries.destutter (· ≠ ·) ↔ entry ∈ entries := by
  refine ⟨fun h => (List.destutter_sublist _ entries).mem h, fun h => ?_⟩
  have general : ∀ (rest : List α) (first : α),
      entry ∈ first :: rest → entry ∈ rest.destutter' (· ≠ ·) first := by
    intro rest
    induction rest with
    | nil =>
        intro first hmem
        exact hmem
    | cons next rest ih =>
        intro first hmem
        by_cases hsame : first = next
        · rw [List.destutter'_cons_neg _ (not_not.mpr hsame)]
          apply ih
          rcases List.mem_cons.mp hmem with rfl | hrest
          · exact List.mem_cons_self
          · rw [hsame]
            exact hrest
        · rw [List.destutter'_cons_pos _ hsame]
          rcases List.mem_cons.mp hmem with rfl | hrest
          · exact List.mem_cons_self
          · exact List.mem_cons_of_mem _ (ih next hrest)
  cases entries with
  | nil => exact h
  | cons first rest => exact general rest first h

/-! ## Keys -/

variable {entries : List α}

/-- A list with distinct keys keeps them when an entry with another key is appended. -/
theorem nodup_map_append [BEq β] [LawfulBEq β] {key : α → β} (h : (entries.map key).Nodup)
    {added : α} (hnew : (entries.any fun entry => key entry == key added) = false) :
    ((entries ++ [added]).map key).Nodup := by
  rw [List.map_append, List.map_singleton, List.nodup_append]
  refine ⟨h, List.nodup_singleton _, ?_⟩
  intro k hk other hother heq
  rw [List.mem_singleton] at hother
  obtain ⟨entry, hentry, hkey⟩ := List.mem_map.mp hk
  have hdiffers := List.any_eq_false.mp hnew entry hentry
  simp only [beq_iff_eq] at hdiffers
  exact hdiffers (hkey.trans (heq.trans hother))

/-- What a map yields for the entries that it knows. -/
theorem filterMap_of_lookup {κ : Type} [DecidableEq κ] {key : α → κ} {known : List κ}
    {lookup : κ → Option κ} {rename : κ → κ} (move : κ → α → β)
    (hlookup : ∀ k, lookup k = if k ∈ known then some (rename k) else none) (items : List α) :
    items.filterMap (fun item => (lookup (key item)).map fun k => move k item) =
      (items.filter fun item => decide (key item ∈ known)).map fun item =>
        move (rename (key item)) item := by
  induction items with
  | nil => rfl
  | cons item rest ih =>
      by_cases hknown : key item ∈ known
      · rw [List.filterMap_cons, hlookup, if_pos hknown, Option.map_some,
          List.filter_cons_of_pos (by simpa using hknown), List.map_cons, ih]
      · rw [List.filterMap_cons, hlookup, if_neg hknown, Option.map_none,
          List.filter_cons_of_neg (by simpa using hknown), ih]

/-! ## Concatenations -/

/-- Filtering the rows of a concatenation in which each part is kept or dropped
as a whole. -/
theorem filter_flatMap_eq {α β : Type} {f : α → List β} {p : β → Bool} {keep : α → Bool} :
    ∀ {items : List α}, (∀ a ∈ items, ∀ b ∈ f a, p b = keep a) →
      (items.flatMap f).filter p = (items.filter keep).flatMap f
  | [], _ => rfl
  | a :: items, h => by
      have hrest := @filter_flatMap_eq _ _ f p keep items
        fun b hb => h b (List.mem_cons_of_mem _ hb)
      have hhead := h a List.mem_cons_self
      rw [List.flatMap_cons, List.filter_append, hrest]
      cases hkeep : keep a with
      | true =>
          rw [List.filter_cons_of_pos hkeep, List.flatMap_cons,
            List.filter_eq_self.mpr fun b hb => (hhead b hb).trans hkeep]
      | false =>
          rw [List.filter_cons_of_neg (by simp [hkeep])]
          have hnone : (f a).filter p = [] := by
            rw [List.filter_eq_nil_iff]
            intro b hb
            simp [hhead b hb, hkeep]
          rw [hnone, List.nil_append]

/-! ## Places -/

/-- Something happens at a place of a concatenation exactly when it happens at a place of one of
the two parts, where the second part comes after the whole of the first. -/
theorem exists_place_append_iff {first second : List α} {P : List α → α → Prop} :
    (∃ earlier entry later, first ++ second = earlier ++ entry :: later ∧ P earlier entry) ↔
      (∃ earlier entry later, first = earlier ++ entry :: later ∧ P earlier entry) ∨
        ∃ earlier entry later, second = earlier ++ entry :: later ∧ P (first ++ earlier) entry := by
  constructor
  · rintro ⟨earlier, entry, later, hsplit, hP⟩
    rcases List.append_eq_append_iff.mp hsplit with ⟨middle, rfl, hsecond⟩ | ⟨middle, hfirst, hrest⟩
    · exact .inr ⟨middle, entry, later, hsecond, hP⟩
    · cases middle with
      | nil =>
          rw [List.append_nil] at hfirst
          subst hfirst
          exact .inr ⟨[], entry, later, hrest.symm, by rwa [List.append_nil]⟩
      | cons next middle =>
          obtain ⟨rfl, -⟩ := List.cons.inj hrest
          exact .inl ⟨earlier, entry, middle, hfirst, hP⟩
  · rintro (⟨earlier, entry, later, rfl, hP⟩ | ⟨earlier, entry, later, rfl, hP⟩)
    · exact ⟨earlier, entry, later ++ second, by rw [List.append_assoc, List.cons_append], hP⟩
    · exact ⟨first ++ earlier, entry, later, by rw [List.append_assoc], hP⟩

/-- What holds at the end of a fold, but not at its beginning, is established by one of its
steps. -/
theorem exists_step_of_foldl {σ : Type} {step : σ → α → σ} {P : σ → Prop} {start : σ}
    (hstart : ¬ P start) (hend : P (entries.foldl step start)) :
    ∃ earlier entry later, entries = earlier ++ entry :: later ∧
      ¬ P (earlier.foldl step start) ∧ P (step (earlier.foldl step start) entry) := by
  induction entries generalizing start with
  | nil => exact absurd hend hstart
  | cons entry rest ih =>
      by_cases hnext : P (step start entry)
      · exact ⟨[], entry, rest, rfl, hstart, hnext⟩
      · obtain ⟨earlier, found, later, rfl, hbefore, hafter⟩ := ih hnext hend
        exact ⟨entry :: earlier, found, later, rfl, hbefore, hafter⟩

/-! ## Last entries -/

/-- A history that is read label by label grows by what it reads of the last label. -/
theorem filterMap_snoc (read : α → Option β) (labels : List α) (label : α) :
    (labels ++ [label]).filterMap read = labels.filterMap read ++ (read label).toList := by
  rw [List.filterMap_append]
  cases hread : read label with
  | none => simp [hread]
  | some value => simp [hread]

/-- A part of a list that avoids its last entry is a part of the rest. -/
theorem sublist_of_append_singleton {part : List α} {last : α}
    (hpart : part.Sublist (entries ++ [last])) (hlast : last ∉ part) : part.Sublist entries := by
  obtain ⟨first, second, rfl, hfirst, hsecond⟩ := List.sublist_append_iff.mp hpart
  cases hsecond with
  | cons _ hrest =>
      cases hrest
      simpa using hfirst
  | cons_cons _ hrest => simp at hlast

end Rintawa.Lib
