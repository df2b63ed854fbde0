/-
# Least topological orders

Nodes are ordered one after another. A node is ready when everything before it is done.
An order that takes the least ready node every time is lexicographically least among the
orders that respect the relation. It only ends early if the relation has a cycle.
-/

import Mathlib.Data.Finset.Basic
import Mathlib.Logic.Relation
import Mathlib.Order.WellFoundedSet

namespace Rintawa.Lib

open Relation

section Orders

variable {Node : Type*} [LinearOrder Node] (nodes : Finset Node) (before : Node → Node → Prop)

/-- A node that is left, with everything before it done. -/
structure Ready (done : Finset Node) (node : Node) : Prop where
  mem : node ∈ nodes
  left : node ∉ done
  done_of_before : ∀ other, before other node → other ∈ done

/-- Each node is ready when its turn comes. -/
def ReadyOrder : Finset Node → List Node → Prop
  | _, [] => True
  | done, node :: rest => Ready nodes before done node ∧ ReadyOrder (insert node done) rest

/-- Each node is the least one that is ready when its turn comes. -/
def GreedyOrder : Finset Node → List Node → Prop
  | _, [] => True
  | done, node :: rest =>
      IsLeast {next | Ready nodes before done next} node ∧ GreedyOrder (insert node done) rest

variable {nodes : Finset Node} {before : Node → Node → Prop} {done : Finset Node}
  {order other : List Node}

/-- In a greedy order, everything is ready in its turn. -/
theorem GreedyOrder.ready (h : GreedyOrder nodes before done order) :
    ReadyOrder nodes before done order := by
  induction order generalizing done with
  | nil => trivial
  | cons node rest ih => exact ⟨h.1.1, ih h.2⟩

/-- Where two orders part, the greedy one has the smaller node. -/
theorem GreedyOrder.lex (h : GreedyOrder nodes before done order)
    (hother : ReadyOrder nodes before done other) (hlength : order.length = other.length) :
    order = other ∨ List.Lex (· < ·) order other := by
  induction order generalizing done other with
  | nil => exact .inl (List.eq_nil_of_length_eq_zero hlength.symm).symm
  | cons node rest ih =>
      cases other with
      | nil => cases hlength
      | cons next others =>
          have hle : node ≤ next := h.1.2 hother.1
          cases hle.lt_or_eq with
          | inl hlt => exact .inr (.rel hlt)
          | inr heq =>
              cases heq
              cases ih h.2 hother.2 (Nat.succ.inj hlength) with
              | inl hsame => exact .inl (hsame ▸ rfl)
              | inr hlex => exact .inr (.cons hlex)

/-! ## What an order visits -/

/-- An order has only nodes that were not done before. -/
theorem ReadyOrder.mem (h : ReadyOrder nodes before done order) {node : Node}
    (hnode : node ∈ order) : node ∈ nodes ∧ node ∉ done := by
  induction order generalizing done with
  | nil => cases hnode
  | cons first rest ih =>
      cases List.mem_cons.mp hnode with
      | inl hfirst =>
          cases hfirst
          exact ⟨h.1.mem, h.1.left⟩
      | inr hrest =>
          have hmem := ih h.2 hrest
          exact ⟨hmem.1, fun hdone => hmem.2 (Finset.mem_insert_of_mem hdone)⟩

/-- Descending from a node that was visited comes to an end. -/
theorem ReadyOrder.acc (h : ReadyOrder nodes before done order)
    (hdone : ∀ node ∈ done, Acc before node) {node : Node} (hnode : node ∈ order) :
    Acc before node := by
  induction order generalizing done with
  | nil => cases hnode
  | cons first rest ih =>
      have hfirst : Acc before first :=
        Acc.intro first fun other hbefore => hdone other (h.1.done_of_before other hbefore)
      cases List.mem_cons.mp hnode with
      | inl heq =>
          rw [heq]
          exact hfirst
      | inr hrest =>
          refine ih h.2 (fun other hother => ?_) hrest
          cases Finset.mem_insert.mp hother with
          | inl heq =>
              rw [heq]
              exact hfirst
          | inr hmem => exact hdone other hmem

/-- There is no cycle through a node that was visited. -/
theorem ReadyOrder.acyclic (h : ReadyOrder nodes before ∅ order) {node : Node}
    (hnode : node ∈ order) : ¬ TransGen before node node := by
  have hacc : Acc (TransGen before) node :=
    (h.acc (fun other hother => absurd hother (Finset.notMem_empty other)) hnode).transGen
  intro hcycle
  induction hacc with
  | intro current _ ih => exact ih current hcycle hnode hcycle

/-- No node follows one that it is before. -/
theorem ReadyOrder.pairwise (h : ReadyOrder nodes before done order) :
    order.Pairwise fun first second => ¬ before second first := by
  induction order generalizing done with
  | nil => exact List.Pairwise.nil
  | cons first rest ih =>
      refine List.pairwise_cons.mpr ⟨fun second hsecond hbefore => ?_, ih h.2⟩
      have hdone : second ∈ done := h.1.done_of_before second hbefore
      exact (h.2.mem hsecond).2 (Finset.mem_insert_of_mem hdone)

/-! ## Orders of all nodes -/

/-- Without a cycle there is always a ready node, as long as nodes are left: one that no other node
that is left comes before. -/
theorem exists_ready (hnodes : ∀ first second, before first second → first ∈ nodes)
    (hacyclic : ∀ node, ¬ TransGen before node node)
    (hleft : ∃ node ∈ nodes, node ∉ done) : ∃ node, Ready nodes before done node := by
  have hstrict : IsStrictOrder Node (TransGen before) :=
    { irrefl := hacyclic, trans := fun _ _ _ => TransGen.trans }
  obtain ⟨start, hstart, hnotDone⟩ := hleft
  have hwf : (↑(nodes \ done) : Set Node).WellFoundedOn (TransGen before) :=
    (nodes \ done).finite_toSet.wellFoundedOn
  obtain ⟨⟨node, hnode⟩, -, hleast⟩ := hwf.has_min Set.univ
    ⟨⟨start, Finset.mem_coe.mpr (Finset.mem_sdiff.mpr ⟨hstart, hnotDone⟩)⟩, trivial⟩
  have hleft := Finset.mem_sdiff.mp (Finset.mem_coe.mp hnode)
  refine ⟨node, hleft.1, hleft.2, fun other hbefore => ?_⟩
  by_contra hother
  have hmem := Finset.mem_sdiff.mpr ⟨hnodes other node hbefore, hother⟩
  exact hleast ⟨other, Finset.mem_coe.mpr hmem⟩ trivial (.single hbefore)

/-- An order of all nodes in which no node follows one that it is before. -/
theorem readyOrder_of_pairwise (hnodes : ∀ first second, before first second → first ∈ nodes)
    (hirrefl : ∀ node, ¬ before node node) (hnodup : order.Nodup)
    (horder : ∀ node, node ∈ order ↔ node ∈ nodes ∧ node ∉ done)
    (hpairwise : order.Pairwise fun first second => ¬ before second first) :
    ReadyOrder nodes before done order := by
  induction order generalizing done with
  | nil => trivial
  | cons first rest ih =>
      rw [List.pairwise_cons] at hpairwise
      rw [List.nodup_cons] at hnodup
      have hfirst := (horder first).mp List.mem_cons_self
      refine ⟨⟨hfirst.1, hfirst.2, fun other hbefore => ?_⟩, ?_⟩
      · by_contra hnotDone
        have hmem := (horder other).mpr ⟨hnodes other first hbefore, hnotDone⟩
        cases List.mem_cons.mp hmem with
        | inl heq =>
            rw [heq] at hbefore
            exact hirrefl first hbefore
        | inr hrest => exact hpairwise.1 other hrest hbefore
      · refine ih hnodup.2 (fun node => ?_) hpairwise.2
        have hnode := horder node
        rw [List.mem_cons] at hnode
        rw [Finset.mem_insert]
        constructor
        · intro hrest
          have hleft := hnode.mp (.inr hrest)
          refine ⟨hleft.1, fun hdone => hdone.elim (fun heq => ?_) hleft.2⟩
          rw [heq] at hrest
          exact hnodup.1 hrest
        · intro hleft
          refine (hnode.mpr ⟨hleft.1, fun hdone => hleft.2 (.inr hdone)⟩).resolve_left ?_
          exact fun heq => hleft.2 (.inl heq)

end Orders

section Positions

variable {Node : Type*} [DecidableEq Node] {before : Node → Node → Prop} {order : List Node}

/-- The relation is respected when it increases positions. -/
theorem pairwise_iff_idxOf (hnodup : order.Nodup) (hirrefl : ∀ node, ¬ before node node)
    (hmem : ∀ first second, before first second → first ∈ order ∧ second ∈ order) :
    (order.Pairwise fun first second => ¬ before second first) ↔
      ∀ first second, before first second → order.idxOf first < order.idxOf second := by
  constructor
  · intro hpairwise first second hbefore
    obtain ⟨hfirst, hsecond⟩ := hmem first second hbefore
    by_contra hlater
    have hne : order.idxOf second ≠ order.idxOf first := by
      intro heq
      have hsame : second = first := (List.idxOf_inj hsecond).mp heq
      rw [hsame] at hbefore
      exact hirrefl first hbefore
    have hlt : order.idxOf second < order.idxOf first := by omega
    have hnot := List.pairwise_iff_getElem.mp hpairwise _ _ (List.idxOf_lt_length_iff.mpr hsecond)
      (List.idxOf_lt_length_iff.mpr hfirst) hlt
    rw [List.getElem_idxOf, List.getElem_idxOf] at hnot
    exact hnot hbefore
  · intro hincreasing
    rw [List.pairwise_iff_getElem]
    intro low high hlow hhigh hlt hbefore
    have hpositions := hincreasing _ _ hbefore
    rw [hnodup.idxOf_getElem, hnodup.idxOf_getElem] at hpositions
    omega

end Positions

end Rintawa.Lib
