/-
# Sorting by a key

A list that is sorted by a total preorder does not depend on the order in which its
elements were given, as long as the preorder tells them apart. Lists that are sorted by
a key are told apart by it.
-/

import Mathlib.Data.List.Sort

namespace Rintawa.Lib

universe u v

section Sorting

variable {α : Type u} {β : Type v} (r : α → α → Prop) [DecidableRel r] [Std.Total r]
  [IsTrans α r]

/-- Permutations are sorted to the same list, when equivalent elements are equal. -/
theorem insertionSort_eq_of_perm {left right : List α} (hperm : left.Perm right)
    (hantisymm : ∀ a b, a ∈ left → b ∈ left → r a b → r b a → a = b) :
    left.insertionSort r = right.insertionSort r := by
  have hsorted : (left.insertionSort r).Perm (right.insertionSort r) :=
    (List.perm_insertionSort r left).trans (hperm.trans (List.perm_insertionSort r right).symm)
  refine List.Perm.eq_of_pairwise ?_ (List.pairwise_insertionSort r left)
    (List.pairwise_insertionSort r right) hsorted
  intro a b ha hb
  refine hantisymm a b ((List.mem_insertionSort r).mp ha) ?_
  exact hperm.mem_iff.mpr ((List.mem_insertionSort r).mp hb)

/-- Permutations are sorted to the same list by an antisymmetric relation. -/
theorem insertionSort_perm [Std.Antisymm r] {left right : List α} (hperm : left.Perm right) :
    left.insertionSort r = right.insertionSort r :=
  insertionSort_eq_of_perm r hperm fun _ _ _ _ => antisymm

/-- Permutations whose keys are different are sorted to the same list by their keys. -/
theorem insertionSort_key_perm [Std.Antisymm r] (key : β → α) {left right : List β}
    (hperm : left.Perm right) (hkeys : (left.map key).Nodup) :
    left.insertionSort (fun a b => r (key a) (key b)) =
      right.insertionSort fun a b => r (key a) (key b) := by
  have : Std.Total fun a b => r (key a) (key b) := ⟨fun a b => total_of r (key a) (key b)⟩
  have : IsTrans β fun a b => r (key a) (key b) := ⟨fun _ _ _ => trans_of r⟩
  refine insertionSort_eq_of_perm _ hperm fun a b ha hb hab hba => ?_
  exact List.inj_on_of_nodup_map hkeys ha hb (antisymm hab hba)

/-- The keys of a list that is sorted by them do not depend on the order. -/
theorem map_insertionSort_perm [Std.Antisymm r] (key : β → α) {left right : List β}
    (hperm : left.Perm right) :
    (left.insertionSort fun a b => r (key a) (key b)).map key =
      (right.insertionSort fun a b => r (key a) (key b)).map key := by
  have hmap : ∀ list : List β, (list.insertionSort fun a b => r (key a) (key b)).map key =
      (list.map key).insertionSort r := fun list =>
    List.map_insertionSort _ r key list fun _ _ _ _ => Iff.rfl
  rw [hmap, hmap]
  exact insertionSort_perm r (hperm.map key)

end Sorting

end Rintawa.Lib
