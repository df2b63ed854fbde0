/-
# Rooted trees

A rooted tree is given by the children of its nodes: every node is reached from the root,
no node has two parents, and the root has none. It follows that there are no cycles, and
that every node but the root has a parent.
-/

import Mathlib.Logic.Relation

namespace Rintawa.Lib

open Relation

universe u

/-- Nodes with a relation from parents to children that make up a tree. -/
structure IsRootedTree {Node : Type u} (nodes : Node → Prop) (child : Node → Node → Prop)
    (root : Node) : Prop where
  rooted : nodes root
  closed : ∀ {parent node}, child parent node → nodes parent ∧ nodes node
  parentless : ∀ parent, ¬ child parent root
  oneParent : ∀ {parent other node}, child parent node → child other node → parent = other
  reached : ∀ {node}, nodes node → ReflTransGen child root node

namespace IsRootedTree

variable {Node : Type u} {nodes : Node → Prop} {child : Node → Node → Prop} {root : Node}

/-- Nothing that is reached from the root is below itself. A cycle enters the node from its one
parent, which then lies on the cycle, too. -/
theorem not_below_of_reached (h : IsRootedTree nodes child root) {node : Node}
    (hreached : ReflTransGen child root node) : ¬ TransGen child node node := by
  induction hreached with
  | refl =>
      intro hcycle
      obtain ⟨parent, -, hlast⟩ := TransGen.tail'_iff.mp hcycle
      exact h.parentless parent hlast
  | @tail parent node _ hchild ih =>
      intro hcycle
      obtain ⟨last, hpath, hlast⟩ := TransGen.tail'_iff.mp hcycle
      have hsame : last = parent := h.oneParent hlast hchild
      subst hsame
      exact ih (TransGen.head' hchild hpath)

/-- A tree has no cycles. -/
theorem acyclic (h : IsRootedTree nodes child root) (node : Node) : ¬ TransGen child node node := by
  intro hcycle
  obtain ⟨next, hchild, -⟩ := TransGen.head'_iff.mp hcycle
  exact h.not_below_of_reached (h.reached (h.closed hchild).1) hcycle

/-- Every node but the root has a parent. -/
theorem exists_parent (h : IsRootedTree nodes child root) {node : Node} (hnode : nodes node)
    (hroot : node ≠ root) : ∃ parent, nodes parent ∧ child parent node := by
  rcases (h.reached hnode).cases_tail with heq | ⟨parent, -, hchild⟩
  · exact absurd heq hroot
  · exact ⟨parent, (h.closed hchild).1, hchild⟩

end IsRootedTree

end Rintawa.Lib
