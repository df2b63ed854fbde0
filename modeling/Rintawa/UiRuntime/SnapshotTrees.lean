/-
# Accepted snapshots are trees

Validation collects the nodes by identifier, records the parents of all children, and
visits what is reached from the root. What it accepts is a rooted tree: the visit ends
with the nodes that are reached, and there have to be as many of them as nodes.
-/

import Rintawa.Lib.RootedTree
import Rintawa.UiRuntime.Operations

namespace Rintawa.UiRuntime

open Rintawa.Lib Rintawa.Sdk Relation

/-- A node lists another one among its children. -/
def ChildOf (snapshot : UiSurfaceSnapshot) (parent child : UiNodeId) : Prop :=
  ∃ node ∈ snapshot.nodes, node.id = parent ∧ child ∈ node.kind.children

/-- The nodes of a snapshot have different identifiers, they make up a tree below its root,
and no node lists a child twice. -/
structure SnapshotTree (snapshot : UiSurfaceSnapshot) : Prop where
  unique : (snapshot.nodes.map fun node => node.id).Nodup
  tree : IsRootedTree (fun id => id ∈ snapshot.nodes.map fun node => node.id)
    (ChildOf snapshot) snapshot.root
  acyclic : ∀ id, ¬ TransGen (ChildOf snapshot) id id
  parented : ∀ node ∈ snapshot.nodes, node.id ≠ snapshot.root →
    ∃ parent, ChildOf snapshot parent node.id
  once : ∀ node ∈ snapshot.nodes, node.kind.children.Nodup

/-! ## Nodes by identifier -/

variable {nodes : Dict UiNodeId UiNode} {snapshot : UiSurfaceSnapshot}

/-- Collected are the nodes of the list, which have different identifiers. -/
theorem nodeMapFrom_ok {result : Dict UiNodeId UiNode} {list : List UiNode}
    (h : nodeMapFrom nodes list = .ok result) :
    (∀ id node, result.lookup id = some node ↔
      nodes.lookup id = some node ∨ (node ∈ list ∧ node.id = id)) ∧
    (list.map fun node => node.id).Nodup ∧ ∀ node ∈ list, nodes.lookup node.id = none := by
  induction list generalizing nodes with
  | nil =>
      cases h
      exact ⟨fun id node => by simp, List.nodup_nil, fun node hmem => by cases hmem⟩
  | cons first rest ih =>
      unfold nodeMapFrom at h
      split at h
      · cases h
      · next hfresh =>
          have hfresh := Option.not_isSome_iff_eq_none.mp hfresh
          obtain ⟨hlookup, hnodup, hrest⟩ := ih h
          have hothers : ∀ node ∈ rest, node.id ≠ first.id ∧ nodes.lookup node.id = none := by
            intro node hmem
            have hnone := hrest node hmem
            rw [Dict.lookup_insert_ite] at hnone
            split at hnone
            · cases hnone
            · next hne => exact ⟨hne, hnone⟩
          refine ⟨fun id node => ?_, ?_, fun node hmem => ?_⟩
          · rw [hlookup, Dict.lookup_insert_ite, List.mem_cons]
            split
            · next hsame =>
                subst hsame
                rw [hfresh]
                constructor
                · rintro (hfirst | ⟨hmem, hid⟩)
                  · cases hfirst
                    exact .inr ⟨.inl rfl, rfl⟩
                  · exact .inr ⟨.inr hmem, hid⟩
                · rintro (hnone | ⟨rfl | hmem, hid⟩)
                  · cases hnone
                  · exact .inl rfl
                  · exact .inr ⟨hmem, hid⟩
            · next hne =>
                refine or_congr_right (and_congr_left fun hid => ?_)
                refine (or_iff_right fun hsame => hne ?_).symm
                rw [← hid, hsame]
          · rw [List.map_cons, List.nodup_cons]
            refine ⟨fun hmem => ?_, hnodup⟩
            obtain ⟨node, hnode, hid⟩ := List.mem_map.mp hmem
            exact (hothers node hnode).1 hid
          · rcases List.mem_cons.mp hmem with rfl | hnode
            · exact hfresh
            · exact (hothers node hnode).2

/-- The nodes of a snapshot under their identifiers. -/
theorem nodeMap_ok (h : nodeMap snapshot = .ok nodes) :
    (∀ id node, nodes.lookup id = some node ↔ node ∈ snapshot.nodes ∧ node.id = id) ∧
      (snapshot.nodes.map fun node => node.id).Nodup := by
  obtain ⟨hlookup, hnodup, -⟩ := nodeMapFrom_ok h
  refine ⟨fun id node => (hlookup id node).trans (or_iff_right ?_), hnodup⟩
  intro hnone
  cases hnone

/-! ## Parents -/

/-- The children of one node are nodes that had no parent, and are listed once. -/
theorem addChildren_ok {parent : UiNodeId} {children : List UiNodeId}
    {parentOf result : Dict UiNodeId UiNodeId}
    (h : addChildren nodes parent children parentOf = .ok result) :
    (∀ child ∈ children, (nodes.lookup child).isSome = true) ∧ children.Nodup ∧
      (∀ child ∈ children, parentOf.lookup child = none) ∧
      ∀ id, result.lookup id = if id ∈ children then some parent else parentOf.lookup id := by
  induction children generalizing parentOf with
  | nil =>
      cases h
      exact ⟨(fun _ hmem => by cases hmem), List.nodup_nil, (fun _ hmem => by cases hmem),
        fun id => by simp⟩
  | cons first rest ih =>
      unfold addChildren at h
      split at h
      · cases h
      · next hnode =>
          split at h
          · cases h
          · next hfresh =>
              have hfresh := Option.not_isSome_iff_eq_none.mp hfresh
              obtain ⟨hnodes, hnodup, hnone, hlookup⟩ := ih h
              have hothers : ∀ child ∈ rest, child ≠ first ∧ parentOf.lookup child = none := by
                intro child hmem
                have hchild := hnone child hmem
                rw [Dict.lookup_insert_ite] at hchild
                split at hchild
                · cases hchild
                · next hne => exact ⟨hne, hchild⟩
              refine ⟨fun child hmem => ?_, ?_, fun child hmem => ?_, fun id => ?_⟩
              · rcases List.mem_cons.mp hmem with rfl | hrest
                · exact Option.isSome_iff_ne_none.mpr fun hnone => hnode (by rw [hnone]; rfl)
                · exact hnodes child hrest
              · exact List.nodup_cons.mpr ⟨fun hmem => (hothers first hmem).1 rfl, hnodup⟩
              · rcases List.mem_cons.mp hmem with rfl | hrest
                · exact hfresh
                · exact (hothers child hrest).2
              · rw [hlookup, Dict.lookup_insert_ite]
                by_cases hsame : id = first
                · simp [hsame]
                · simp [hsame]

/-- The recorded parents are the nodes that list a child. -/
theorem collectParents_ok {list : List UiNode} {parentOf result : Dict UiNodeId UiNodeId}
    (h : collectParents nodes list parentOf = .ok result) :
    (∀ node ∈ list, ∀ child ∈ node.kind.children, (nodes.lookup child).isSome = true) ∧
      (∀ node ∈ list, node.kind.children.Nodup) ∧
      ∀ id parent, result.lookup id = some parent ↔ parentOf.lookup id = some parent ∨
        ∃ node ∈ list, node.id = parent ∧ id ∈ node.kind.children := by
  induction list generalizing parentOf with
  | nil =>
      cases h
      exact ⟨(fun _ hmem => by cases hmem), (fun _ hmem => by cases hmem), fun id parent => by simp⟩
  | cons first rest ih =>
      simp only [collectParents, bind_eq_ok_iff] at h
      obtain ⟨-, -, middle, hfirst, hrest⟩ := h
      obtain ⟨hchildren, hnodup, hnone, hmiddle⟩ := addChildren_ok hfirst
      obtain ⟨hnodes, hdistinct, hresult⟩ := ih hrest
      refine ⟨fun node hmem => ?_, fun node hmem => ?_, fun id parent => ?_⟩
      · rcases List.mem_cons.mp hmem with rfl | hnode
        · exact hchildren
        · exact hnodes node hnode
      · rcases List.mem_cons.mp hmem with rfl | hnode
        · exact hnodup
        · exact hdistinct node hnode
      · rw [hresult, hmiddle]
        simp only [List.mem_cons, exists_eq_or_imp]
        split
        · next hchild =>
            rw [hnone id hchild]
            simp [hchild]
        · next hchild => simp [hchild]

/-! ## Reachability -/

/-- A visit stays within what its nodes lead to. -/
theorem visit_sound {P : UiNodeId → Prop}
    (hnext : ∀ id node, P id → nodes.lookup id = some node → ∀ child ∈ node.kind.children, P child)
    {rounds : Nat} {visited pending : List UiNodeId} (hvisited : ∀ id ∈ visited, P id)
    (hpending : ∀ id ∈ pending, P id) : ∀ id ∈ visit nodes rounds visited pending, P id := by
  induction rounds generalizing visited pending with
  | zero => exact hvisited
  | succ rounds ih =>
      cases pending with
      | nil => exact hvisited
      | cons first rest =>
          obtain ⟨hfirst, hrest⟩ := List.forall_mem_cons.mp hpending
          unfold visit
          split
          · exact ih hvisited hrest
          · refine ih (List.forall_mem_cons.mpr ⟨hfirst, hvisited⟩) fun id hmem => ?_
            rcases List.mem_append.mp hmem with hchild | hold
            · cases hnode : nodes.lookup first with
              | none => simp [hnode] at hchild
              | some node =>
                  simp only [hnode, Option.elim_some, List.mem_reverse] at hchild
                  exact hnext first node hfirst hnode id hchild
            · exact hrest id hold

/-- A visit takes every node once. -/
theorem visit_nodup {rounds : Nat} {visited pending : List UiNodeId} (h : visited.Nodup) :
    (visit nodes rounds visited pending).Nodup := by
  induction rounds generalizing visited pending with
  | zero => exact h
  | succ rounds ih =>
      cases pending with
      | nil => exact h
      | cons first rest =>
          unfold visit
          split
          · exact ih h
          · next hnew => exact ih (List.nodup_cons.mpr ⟨by simpa using hnew, h⟩)

/-- When the reachability of a snapshot is accepted, all its nodes are visited. -/
theorem validateReachability_ok (h : validateReachability snapshot nodes = .ok ())
    {P : UiNodeId → Prop} (hroot : P snapshot.root)
    (hnext : ∀ id node, P id → nodes.lookup id = some node → ∀ child ∈ node.kind.children, P child)
    (hkeys : ∀ id, P id → id ∈ nodes.keys) : ∀ id ∈ nodes.keys, P id := by
  unfold validateReachability at h
  dsimp only at h
  set visited := visit nodes ((nodes.values.map fun node => node.kind.children.length).sum + 2) []
    [snapshot.root] with hvisit
  have hsound : ∀ id ∈ visited, P id :=
    visit_sound hnext (fun _ hmem => by cases hmem) (List.forall_mem_singleton.mpr hroot)
  have hnodup : visited.Nodup := visit_nodup List.nodup_nil
  split at h
  · split at h
    · cases h
    · next hnone =>
        intro id hid
        have hempty : (nodes.keys.filter fun id => !visited.contains id) = [] := by
          have hperm := List.perm_insertionSort (fun a b : UiNodeId => a.asStr ≤ b.asStr)
            (nodes.keys.filter fun id => !visited.contains id)
          rw [hnone] at hperm
          exact hperm.symm.eq_nil
        have hseen := List.filter_eq_nil_iff.mp hempty id hid
        exact hsound id (by simpa using hseen)
  · next hlength =>
      intro id hid
      have hlength : nodes.keys.length ≤ visited.length := by
        rw [not_not.mp hlength]
        exact (List.length_map _).le
      have hsubperm : visited.Subperm nodes.keys :=
        hnodup.subperm fun id hmem => hkeys id (hsound id hmem)
      exact hsound id ((hsubperm.perm_of_length_le hlength).mem_iff.mpr hid)

/-! ## Validation -/

/-- Accepted snapshots are trees. -/
theorem validateSnapshot_tree (h : validateSnapshot snapshot = .ok ()) : SnapshotTree snapshot := by
  simp only [validateSnapshot, bind_eq_ok_iff, require_eq_ok_iff, Option.isNone_iff_eq_none] at h
  obtain ⟨_, -, nodes, hmap, _, hroot, parentOf, hparents, _, hrootless, _, -, hreach⟩ := h
  obtain ⟨hlookup, hunique⟩ := nodeMap_ok hmap
  obtain ⟨hchildren, hdistinct, hparent⟩ := collectParents_ok hparents
  have hvalues : ∀ {node}, node ∈ nodes.values ↔ node ∈ snapshot.nodes := by
    intro node
    rw [Dict.mem_values_iff]
    exact ⟨fun ⟨id, hid⟩ => ((hlookup id node).mp hid).1,
      fun hmem => ⟨node.id, (hlookup node.id node).mpr ⟨hmem, rfl⟩⟩⟩
  have hkeys : ∀ {id}, id ∈ nodes.keys ↔ id ∈ snapshot.nodes.map fun node => node.id := by
    intro id
    have hsome : id ∈ nodes.keys ↔ (nodes.lookup id).isSome := AList.lookup_isSome.symm
    rw [hsome, Option.isSome_iff_exists, List.mem_map]
    exact exists_congr fun node => hlookup id node
  have hchild : ∀ {parent id}, ChildOf snapshot parent id ↔ parentOf.lookup id = some parent := by
    intro parent id
    rw [hparent]
    have hnone : ¬ AList.lookup id (∅ : Dict UiNodeId UiNodeId) = some parent := by
      intro hnone
      cases hnone
    rw [or_iff_right hnone]
    simp only [ChildOf, hvalues]
  have hclosed : ∀ {parent id}, ChildOf snapshot parent id →
      (parent ∈ snapshot.nodes.map fun node => node.id) ∧
        id ∈ snapshot.nodes.map fun node => node.id := by
    rintro parent id ⟨node, hnode, rfl, hmem⟩
    refine ⟨List.mem_map_of_mem hnode, hkeys.mp ?_⟩
    exact AList.lookup_isSome.mp (hchildren node (hvalues.mpr hnode) id hmem)
  have hrooted : snapshot.root ∈ snapshot.nodes.map fun node => node.id :=
    hkeys.mp (AList.lookup_isSome.mp hroot)
  have hreached := validateReachability_ok hreach
    (P := fun id => ReflTransGen (ChildOf snapshot) snapshot.root id ∧
      id ∈ snapshot.nodes.map fun node => node.id) ⟨.refl, hrooted⟩
    (fun id node hid hnode child hmem => by
      obtain ⟨hlisted, rfl⟩ := (hlookup id node).mp hnode
      have hedge : ChildOf snapshot node.id child := ⟨node, hlisted, rfl, hmem⟩
      exact ⟨hid.1.tail hedge, (hclosed hedge).2⟩)
    (fun id hid => hkeys.mpr hid.2)
  have htree : IsRootedTree (fun id => id ∈ snapshot.nodes.map fun node => node.id)
      (ChildOf snapshot) snapshot.root := {
    rooted := hrooted
    closed := hclosed
    parentless := fun parent hedge => by
      rw [hchild, hrootless] at hedge
      cases hedge
    oneParent := fun hedge hother => by
      rw [hchild] at hedge hother
      exact Option.some.inj (hedge.symm.trans hother)
    reached := fun hid => (hreached _ (hkeys.mpr hid)).1 }
  refine ⟨hunique, htree, htree.acyclic, fun node hnode hne => ?_, fun node hnode => ?_⟩
  · obtain ⟨parent, -, hedge⟩ := htree.exists_parent (List.mem_map_of_mem hnode) hne
    exact ⟨parent, hedge⟩
  · exact hdistinct node (hvalues.mpr hnode)

end Rintawa.UiRuntime
