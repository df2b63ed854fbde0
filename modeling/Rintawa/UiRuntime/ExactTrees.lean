/-
# Snapshots are accepted exactly when they are trees

The passes of the validation together accept a snapshot exactly when it is a rooted tree of
nodes that meet their constraints. The loops end on every snapshot, with cycles too, and the
order of a map or of the nodes does not matter.
-/

import Mathlib.Algebra.BigOperators.Group.List.Basic
import Rintawa.Lib.GraphWalks
import Rintawa.UiRuntime.NodeConstraints

namespace Rintawa.UiRuntime

open Rintawa.Lib Rintawa.Sdk Relation

/-! ## The loops end -/

variable {parentOf : Dict UiNodeId UiNodeId} {list : List UiNode}

/-- An ascent from a node ends, at the top or at a node that comes again. -/
theorem climb_ascent {rounds : Nat} :
    ∀ {chain : List UiNodeId} (current : UiNodeId), chain.Nodup →
      (∀ id ∈ chain, id ∈ parentOf.keys) → parentOf.entries.length < rounds + chain.length →
      ∃ repeated, Ascent parentOf.lookup chain current repeated ∧
        climb parentOf rounds chain current =
          repeated.elim (.ok ()) fun id => .error (.cycleDetected id.asStr) := by
  induction rounds with
  | zero =>
      intro chain current hnodup hkeys hrounds
      have hlength : chain.length ≤ parentOf.keys.length :=
        (hnodup.subperm hkeys).length_le
      have hentries : parentOf.keys.length = parentOf.entries.length := List.length_map _
      omega
  | succ rounds ih =>
      intro chain current hnodup hkeys hrounds
      cases hparent : parentOf.lookup current with
      | none =>
          refine ⟨none, .top hparent, ?_⟩
          rw [climb, hparent]
          rfl
      | some above =>
          by_cases hagain : current ∈ chain
          · refine ⟨some current, .again hparent hagain, ?_⟩
            rw [climb, hparent]
            dsimp only
            rw [if_pos (List.contains_iff_mem.mpr hagain)]
            rfl
          · have hkey : current ∈ parentOf.keys :=
              AList.lookup_isSome.mp (hparent ▸ rfl)
            obtain ⟨repeated, hascent, hclimb⟩ :=
              ih above (List.nodup_cons.mpr ⟨hagain, hnodup⟩)
                (List.forall_mem_cons.mpr ⟨hkey, hkeys⟩) (by rw [List.length_cons]; omega)
            refine ⟨repeated, .up hparent hagain hascent, ?_⟩
            rw [climb, hparent]
            dsimp only
            rw [if_neg fun hmem => hagain (List.contains_iff_mem.mp hmem)]
            exact hclimb

/-- The children of a node in a map. -/
def childrenIn (nodes : Dict UiNodeId UiNode) (id : UiNodeId) : List UiNodeId :=
  (nodes.lookup id).elim [] fun node => node.kind.children

/-- What is left to visit: what is pending, and the children of nodes that are not visited. -/
def visitCost (nodes : Dict UiNodeId UiNode) (visited pending : List UiNodeId) : Nat :=
  pending.length +
    ((nodes.keys.filter fun id => id ∉ visited).map fun id => (childrenIn nodes id).length).sum

theorem visitCost_fresh {nodes : Dict UiNodeId UiNode} {visited pending : List UiNodeId}
    {id : UiNodeId} (hfresh : id ∉ visited) :
    visitCost nodes (id :: visited) ((childrenIn nodes id).reverse ++ pending) + 1 =
      visitCost nodes visited (id :: pending) := by
  have hleft : (nodes.keys.filter fun other => other ∉ visited).Nodup :=
    nodes.keys_nodup.filter _
  have hfilter : (nodes.keys.filter fun other => other ∉ id :: visited) =
      (nodes.keys.filter fun other => other ∉ visited).erase id := by
    rw [hleft.erase_eq_filter, List.filter_filter]
    refine List.filter_congr fun other _ => ?_
    by_cases hsame : other = id
    · simp [hsame]
    · simp [hsame]
  have hsum : (childrenIn nodes id).length +
      (((nodes.keys.filter fun other => other ∉ visited).erase id).map fun other =>
        (childrenIn nodes other).length).sum =
      ((nodes.keys.filter fun other => other ∉ visited).map fun other =>
        (childrenIn nodes other).length).sum := by
    by_cases hkey : id ∈ nodes.keys
    · exact List.sum_map_erase (fun other => (childrenIn nodes other).length)
        (List.mem_filter.mpr ⟨hkey, by simpa using hfresh⟩)
    · have hnone : nodes.lookup id = none := AList.lookup_eq_none.mpr hkey
      have hnot : id ∉ nodes.keys.filter fun other => other ∉ visited :=
        fun hmem => hkey (List.mem_filter.mp hmem).1
      rw [List.erase_of_not_mem hnot, childrenIn, hnone]
      exact Nat.zero_add _
  rw [visitCost, visitCost, hfilter, ← hsum, List.length_append, List.length_reverse,
    List.length_cons]
  omega

/-- A visit that has enough rounds is a search. -/
theorem visit_search {nodes : Dict UiNodeId UiNode} {rounds : Nat} :
    ∀ {visited pending : List UiNodeId}, visitCost nodes visited pending < rounds →
      Search (childrenIn nodes) visited pending (visit nodes rounds visited pending) := by
  induction rounds with
  | zero => exact fun hrounds => absurd hrounds (Nat.not_lt_zero _)
  | succ rounds ih =>
      intro visited pending hrounds
      cases pending with
      | nil => exact .done visited
      | cons id pending =>
          by_cases hseen : id ∈ visited
          · rw [visit, if_pos (List.contains_iff_mem.mpr hseen)]
            apply Search.seen hseen
            apply ih
            rw [visitCost, List.length_cons] at hrounds
            rw [visitCost]
            omega
          · have hchildren : ((nodes.lookup id).elim [] fun node => node.kind.children.reverse) =
                (childrenIn nodes id).reverse := by
              rw [childrenIn]
              cases nodes.lookup id with
              | none => rfl
              | some node => rfl
            rw [visit, if_neg fun hmem => hseen (List.contains_iff_mem.mp hmem), hchildren]
            apply Search.fresh hseen
            apply ih
            rw [← visitCost_fresh hseen] at hrounds
            exact Nat.lt_of_succ_lt_succ hrounds

/-! ## Validation in any order -/

/-- An order in which maps list their entries. -/
structure MapOrder where
  pairs : Dict UiNodeId UiNode → List (UiNodeId × UiNode)
  perm : ∀ nodes, (pairs nodes).Perm nodes.pairs

namespace MapOrder

variable (order : MapOrder) (nodes : Dict UiNodeId UiNode)

def keys : List UiNodeId :=
  (order.pairs nodes).map fun entry => entry.1

def values : List UiNode :=
  (order.pairs nodes).map fun entry => entry.2

theorem keys_perm : (order.keys nodes).Perm nodes.keys := by
  have h := (order.perm nodes).map fun entry => entry.1
  rw [Dict.pairs, List.map_map] at h
  exact h

theorem values_perm : (order.values nodes).Perm nodes.values := by
  have h := (order.perm nodes).map fun entry => entry.2
  rw [Dict.pairs, List.map_map] at h
  exact h

end MapOrder

/-- Reachability, with the nodes that are not reached listed in some order. -/
def validateReachabilityIn (order : MapOrder) (snapshot : UiSurfaceSnapshot)
    (nodes : Dict UiNodeId UiNode) : Except UiError Unit :=
  let rounds := ((order.values nodes).map fun node => node.kind.children.length).sum + 2
  let visited := visit nodes rounds [] [snapshot.root]
  if visited.length ≠ nodes.entries.length then
    let orphaned := ((order.keys nodes).filter fun id => !visited.contains id).insertionSort
      fun a b => a.asStr ≤ b.asStr
    orphaned.head?.elim (.ok ()) fun orphan => .error (.orphanNode orphan.asStr)
  else .ok ()

/-- Validation, with the entries of the node map listed in some order. -/
def validateSnapshotIn (order : MapOrder) (snapshot : UiSurfaceSnapshot) :
    Except UiError Unit := do
  require (decide (snapshot.nodes.length ≤ defaultMaxSurfaceNodes))
    (.surfaceTooLarge snapshot.nodes.length defaultMaxSurfaceNodes)
  let nodes ← nodeMap snapshot
  require (nodes.lookup snapshot.root).isSome (.rootNotFound snapshot.root.asStr)
  let parentOf ← collectParents nodes (order.values nodes) ∅
  require (parentOf.lookup snapshot.root).isNone (.rootHasParent snapshot.root.asStr)
  detectCycles parentOf (order.keys nodes)
  validateReachabilityIn order snapshot nodes

/-- The order in which the entries are kept. -/
def keptOrder : MapOrder :=
  ⟨fun nodes => nodes.pairs, fun _ => .refl _⟩

theorem keys_keptOrder (nodes : Dict UiNodeId UiNode) : keptOrder.keys nodes = nodes.keys :=
  List.map_map

theorem values_keptOrder (nodes : Dict UiNodeId UiNode) :
    keptOrder.values nodes = nodes.values :=
  List.map_map

theorem validateReachability_eq (snapshot : UiSurfaceSnapshot) (nodes : Dict UiNodeId UiNode) :
    validateReachability snapshot nodes = validateReachabilityIn keptOrder snapshot nodes := by
  rw [validateReachability, validateReachabilityIn, keys_keptOrder, values_keptOrder]
  dsimp only
  apply if_ctx_congr Iff.rfl
  · intro _
    generalize List.insertionSort (fun a b : UiNodeId => a.asStr ≤ b.asStr) _ = orphaned
    cases orphaned with
    | nil => rfl
    | cons orphan rest => rfl
  · exact fun _ => rfl

theorem validateSnapshot_eq (snapshot : UiSurfaceSnapshot) :
    validateSnapshot snapshot = validateSnapshotIn keptOrder snapshot := by
  simp only [validateSnapshot, validateSnapshotIn, validateReachability_eq, keys_keptOrder,
    values_keptOrder]

/-! ## The passes, one by one -/

/-- Nodes with different identifiers are collected. -/
theorem exists_nodeMapFrom :
    ∀ {nodes : Dict UiNodeId UiNode}, (list.map fun node => node.id).Nodup →
      (∀ node ∈ list, nodes.lookup node.id = none) →
      ∃ result, nodeMapFrom nodes list = .ok result := by
  induction list with
  | nil => exact fun _ _ => ⟨_, rfl⟩
  | cons node rest ih =>
      intro nodes hnodup hfresh
      rw [List.map_cons, List.nodup_cons] at hnodup
      have hnone : nodes.lookup node.id = none := hfresh node List.mem_cons_self
      rw [nodeMapFrom, hnone]
      apply ih hnodup.2
      intro other hother
      rw [Dict.lookup_insert_ite, if_neg]
      · exact hfresh other (List.mem_cons_of_mem _ hother)
      · intro hsame
        exact hnodup.1 (hsame ▸ List.mem_map_of_mem hother)

/-- The collected values are the nodes of the list. -/
theorem values_of_nodeMapFrom :
    ∀ {nodes result : Dict UiNodeId UiNode}, nodeMapFrom nodes list = .ok result →
      result.values.Perm (nodes.values ++ list) := by
  induction list with
  | nil =>
      rintro nodes result ⟨⟩
      rw [List.append_nil]
  | cons node rest ih =>
      intro nodes result h
      rw [nodeMapFrom] at h
      split at h
      · cases h
      · next hfresh =>
          have hperm := ih h
          rw [Dict.values_insert (Option.not_isSome_iff_eq_none.mp hfresh)] at hperm
          exact hperm.trans List.perm_middle.symm

/-- Children of one node that are nodes, are listed once and have no parent get theirs. -/
theorem exists_addChildren {nodes : Dict UiNodeId UiNode} (parent : UiNodeId)
    {children : List UiNodeId} :
    ∀ {parentOf : Dict UiNodeId UiNodeId}, (∀ child ∈ children, (nodes.lookup child).isSome) →
      children.Nodup → (∀ child ∈ children, parentOf.lookup child = none) →
      ∃ result, addChildren nodes parent children parentOf = .ok result := by
  induction children with
  | nil => exact fun _ _ _ => ⟨_, rfl⟩
  | cons child rest ih =>
      intro parentOf hnodes hnodup hfresh
      rw [List.nodup_cons] at hnodup
      obtain ⟨hnode, hrest⟩ := List.forall_mem_cons.mp hnodes
      obtain ⟨hnone, hothers⟩ := List.forall_mem_cons.mp hfresh
      have hfound : ¬ (nodes.lookup child).isNone = true := by
        rw [Option.isNone_iff_eq_none]
        exact Option.isSome_iff_ne_none.mp hnode
      have hparentless : ¬ (parentOf.lookup child).isSome = true := by simp [hnone]
      rw [addChildren, if_neg hfound, if_neg hparentless]
      apply ih hrest hnodup.2
      intro other hother
      rw [Dict.lookup_insert_ite, if_neg]
      · exact hothers other hother
      · exact fun hsame => hnodup.1 (hsame ▸ hother)

/-- All the children of some nodes. -/
def childrenOf (list : List UiNode) : List UiNodeId :=
  list.flatMap fun node => node.kind.children

/-- Parents are collected exactly for nodes that meet their constraints, when all children
exist and none comes twice. -/
theorem exists_collectParents_iff {nodes : Dict UiNodeId UiNode} :
    ∀ {parentOf : Dict UiNodeId UiNodeId},
      (∃ result, collectParents nodes list parentOf = .ok result) ↔
        (∀ node ∈ list, KindAllowed node.kind) ∧
        (∀ child ∈ childrenOf list, (nodes.lookup child).isSome) ∧ (childrenOf list).Nodup ∧
        ∀ child ∈ childrenOf list, parentOf.lookup child = none := by
  induction list with
  | nil => simp [collectParents, childrenOf]
  | cons node rest ih =>
      intro parentOf
      have hchildren : childrenOf (node :: rest) = node.kind.children ++ childrenOf rest :=
        List.flatMap_cons
      rw [hchildren, List.nodup_append]
      simp only [List.forall_mem_cons, List.forall_mem_append]
      constructor
      · rintro ⟨result, h⟩
        obtain ⟨⟨⟩, hkind, h⟩ := bind_eq_ok_iff.mp h
        obtain ⟨middle, hadd, hrest⟩ := bind_eq_ok_iff.mp h
        obtain ⟨hnodes, hnodup, hfresh, hlookup⟩ := addChildren_ok hadd
        obtain ⟨hkinds, hothers, hdistinct, hnone⟩ := ih.mp ⟨result, hrest⟩
        have hnew : ∀ child ∈ childrenOf rest,
            child ∉ node.kind.children ∧ parentOf.lookup child = none := by
          intro child hchild
          have h := hnone child hchild
          rw [hlookup] at h
          split at h
          · cases h
          · next hnot => exact ⟨hnot, h⟩
        refine ⟨⟨validateKind_eq_ok_iff.mp hkind, hkinds⟩, ⟨hnodes, hothers⟩,
          ⟨hnodup, hdistinct, ?_⟩, hfresh, fun child hchild => (hnew child hchild).2⟩
        intro child hchild other hother hsame
        rw [hsame] at hchild
        exact (hnew other hother).1 hchild
      · rintro ⟨⟨hkind, hkinds⟩, ⟨hnodes, hothers⟩, ⟨hnodup, hdistinct, hdisjoint⟩, hfresh, hnone⟩
        obtain ⟨middle, hadd⟩ := exists_addChildren node.id hnodes hnodup hfresh
        obtain ⟨-, -, -, hlookup⟩ := addChildren_ok hadd
        obtain ⟨result, hrest⟩ := ih.mpr ⟨hkinds, hothers, hdistinct, fun child hchild => by
          rw [hlookup, if_neg fun hmem => hdisjoint child hmem child hchild rfl]
          exact hnone child hchild⟩
        exact ⟨result, bind_eq_ok_iff.mpr ⟨(), validateKind_eq_ok_iff.mpr hkind,
          bind_eq_ok_iff.mpr ⟨middle, hadd, hrest⟩⟩⟩

/-- Without cycles no ascent finds one. -/
theorem detectCycles_eq_ok
    (hacyclic : ∀ id, ¬ TransGen (fun above below => parentOf.lookup below = some above) id id)
    (keys : List UiNodeId) : detectCycles parentOf keys = .ok () := by
  induction keys with
  | nil => rfl
  | cons start rest ih =>
      obtain ⟨repeated, hascent, hclimb⟩ := climb_ascent start List.nodup_nil
        (fun id hid => absurd hid List.not_mem_nil)
        (Nat.lt_succ_self parentOf.entries.length)
      have hnone : repeated = none :=
        hascent.eq_none hacyclic fun id hid => absurd hid List.not_mem_nil
      rw [detectCycles, hclimb, hnone]
      exact ih

/-- Every snapshot has its rounds: a search needs one for each node that is pending. -/
theorem visit_rounds (order : MapOrder) (nodes : Dict UiNodeId UiNode) (root : UiNodeId) :
    visitCost nodes [] [root] <
      ((order.values nodes).map fun node => node.kind.children.length).sum + 2 := by
  have hvalues : (nodes.keys.map fun id => (childrenIn nodes id).length) =
      nodes.values.map fun node => node.kind.children.length := by
    have hkeys : nodes.keys = nodes.entries.map fun entry => entry.1 := rfl
    rw [hkeys, Dict.values, List.map_map, List.map_map]
    refine List.map_congr_left fun entry hentry => ?_
    have hlookup : nodes.lookup entry.1 = some entry.2 := AList.mem_lookup_iff.mpr hentry
    show (childrenIn nodes entry.1).length = entry.2.kind.children.length
    rw [childrenIn, hlookup]
    rfl
  have hsum : ((order.values nodes).map fun node => node.kind.children.length).sum =
      (nodes.values.map fun node => node.kind.children.length).sum :=
    ((order.values_perm nodes).map _).sum_eq
  have hall : (nodes.keys.filter fun id => id ∉ ([] : List UiNodeId)) = nodes.keys := by
    simp
  rw [visitCost, hall, hvalues, hsum, List.length_singleton]
  omega

/-- Reachability passes exactly when the search visits all keys. A node that was not visited is
listed in the error. -/
theorem validateReachabilityIn_eq_ok_iff {order : MapOrder} {snapshot : UiSurfaceSnapshot}
    {nodes : Dict UiNodeId UiNode} (hroot : snapshot.root ∈ nodes.keys)
    (hchildren : ∀ id, ∀ child ∈ childrenIn nodes id, child ∈ nodes.keys) :
    validateReachabilityIn order snapshot nodes = .ok () ↔ ∀ id ∈ nodes.keys,
      ReflTransGen (fun above below => below ∈ childrenIn nodes above) snapshot.root id := by
  have hsearch := visit_search (visit_rounds order nodes snapshot.root)
  rw [validateReachabilityIn]
  dsimp only
  generalize visit nodes (((order.values nodes).map fun node => node.kind.children.length).sum + 2)
    [] [snapshot.root] = visited at hsearch
  have hwithin : visited ⊆ nodes.keys :=
    hsearch.within (fun id _ => hchildren id)
      (fun id hid => absurd hid List.not_mem_nil) (List.forall_mem_singleton.mpr hroot)
  have hnodup : visited.Nodup := hsearch.nodup List.nodup_nil
  have hlength : visited.length = nodes.entries.length ↔ ∀ id ∈ nodes.keys, id ∈ visited := by
    have hkeys : nodes.keys.length = nodes.entries.length := List.length_map _
    rw [← hkeys]
    constructor
    · intro hsame id hid
      exact ((hnodup.subperm hwithin).perm_of_length_le hsame.ge).mem_iff.mpr hid
    · intro hall
      exact Nat.le_antisymm (hnodup.subperm hwithin).length_le
        (nodes.keys_nodup.subperm hall).length_le
  simp only [← hsearch.mem_iff_reached]
  rw [← hlength]
  by_cases hsame : visited.length = nodes.entries.length
  · simp [hsame]
  · rw [if_pos hsame]
    refine iff_of_false ?_ hsame
    obtain ⟨id, hid⟩ := not_forall.mp fun hall => hsame (hlength.mpr hall)
    obtain ⟨hkey, hnot⟩ := Classical.not_imp.mp hid
    have hmem : id ∈ ((order.keys nodes).filter fun id => !visited.contains id).insertionSort
        fun a b => a.asStr ≤ b.asStr := by
      rw [List.mem_insertionSort, List.mem_filter, (order.keys_perm nodes).mem_iff]
      exact ⟨hkey, by simpa using hnot⟩
    cases hsorted : ((order.keys nodes).filter fun id => !visited.contains id).insertionSort
        fun a b => a.asStr ≤ b.asStr with
    | nil =>
        rw [hsorted] at hmem
        cases hmem
    | cons orphan rest => exact nofun

/-! ## Accepted snapshots -/

/-- The identifiers of the nodes of a snapshot. -/
def nodeIds (snapshot : UiSurfaceSnapshot) : List UiNodeId :=
  snapshot.nodes.map fun node => node.id

/-- A rooted tree of nodes that meet their constraints. -/
structure AcceptedTree (snapshot : UiSurfaceSnapshot) : Prop where
  count : snapshot.nodes.length ≤ defaultMaxSurfaceNodes
  unique : (nodeIds snapshot).Nodup
  root : snapshot.root ∈ nodeIds snapshot
  children : ∀ child ∈ childrenOf snapshot.nodes, child ∈ nodeIds snapshot
  reached : ∀ id ∈ nodeIds snapshot, ReflTransGen (ChildOf snapshot) snapshot.root id
  once : ∀ id ∈ nodeIds snapshot, id ≠ snapshot.root → (childrenOf snapshot.nodes).count id = 1
  rootNever : snapshot.root ∉ childrenOf snapshot.nodes
  kinds : ∀ node ∈ snapshot.nodes, KindAllowed node.kind

variable {snapshot : UiSurfaceSnapshot} {nodes : Dict UiNodeId UiNode}

theorem mem_childrenOf {child : UiNodeId} :
    child ∈ childrenOf list ↔ ∃ node ∈ list, child ∈ node.kind.children :=
  List.mem_flatMap

/-- No child comes twice in an accepted tree. -/
theorem AcceptedTree.nodup (h : AcceptedTree snapshot) : (childrenOf snapshot.nodes).Nodup := by
  rw [List.nodup_iff_count_le_one]
  intro id
  by_cases hchild : id ∈ childrenOf snapshot.nodes
  · have hne : id ≠ snapshot.root := fun hsame => h.rootNever (hsame ▸ hchild)
    exact (h.once id (h.children id hchild) hne).le
  · rw [List.count_eq_zero_of_not_mem hchild]
    exact Nat.zero_le 1

/-- The children in the node map are those of the snapshot. -/
theorem mem_childrenIn_iff (hmap : nodeMap snapshot = .ok nodes) {above below : UiNodeId} :
    below ∈ childrenIn nodes above ↔ ChildOf snapshot above below := by
  obtain ⟨hlookup, -⟩ := nodeMap_ok hmap
  rw [childrenIn]
  constructor
  · intro hbelow
    cases hfound : nodes.lookup above with
    | none =>
        rw [hfound] at hbelow
        cases hbelow
    | some node =>
        rw [hfound] at hbelow
        have hnode := (hlookup above node).mp hfound
        exact ⟨node, hnode.1, hnode.2, hbelow⟩
  · rintro ⟨node, hnode, hid, hbelow⟩
    rw [(hlookup above node).mpr ⟨hnode, hid⟩]
    exact hbelow

theorem mem_keys_iff (hmap : nodeMap snapshot = .ok nodes) {id : UiNodeId} :
    id ∈ nodes.keys ↔ id ∈ nodeIds snapshot := by
  obtain ⟨hlookup, -⟩ := nodeMap_ok hmap
  have hsome : id ∈ nodes.keys ↔ (nodes.lookup id).isSome := AList.lookup_isSome.symm
  rw [hsome, Option.isSome_iff_exists, nodeIds, List.mem_map]
  exact exists_congr fun node => hlookup id node

theorem values_perm_nodes (order : MapOrder) (hmap : nodeMap snapshot = .ok nodes) :
    (order.values nodes).Perm snapshot.nodes :=
  (order.values_perm nodes).trans (values_of_nodeMapFrom hmap)

/-- Parents that were collected are those of the snapshot. -/
theorem lookup_parentOf_iff {order : MapOrder} (hmap : nodeMap snapshot = .ok nodes)
    (hparents : collectParents nodes (order.values nodes) ∅ = .ok parentOf)
    {above below : UiNodeId} :
    parentOf.lookup below = some above ↔ ChildOf snapshot above below := by
  obtain ⟨-, -, hlookup⟩ := collectParents_ok hparents
  rw [hlookup]
  have hnone : ¬ AList.lookup below (∅ : Dict UiNodeId UiNodeId) = some above := nofun
  rw [or_iff_right hnone]
  simp only [ChildOf, (values_perm_nodes order hmap).mem_iff]

/-- Once the nodes are collected, what is left to check does not depend on an order. -/
theorem passes_iff (order : MapOrder) (hmap : nodeMap snapshot = .ok nodes) :
    (∃ parentOf, collectParents nodes (order.values nodes) ∅ = .ok parentOf) ↔
      (∀ node ∈ snapshot.nodes, KindAllowed node.kind) ∧
      (∀ child ∈ childrenOf snapshot.nodes, child ∈ nodeIds snapshot) ∧
      (childrenOf snapshot.nodes).Nodup := by
  have hperm := values_perm_nodes order hmap
  have hchildren : (childrenOf (order.values nodes)).Perm (childrenOf snapshot.nodes) :=
    hperm.flatMap_right _
  have hfound : ∀ child, (nodes.lookup child).isSome = true ↔ child ∈ nodeIds snapshot :=
    fun child => AList.lookup_isSome.trans (mem_keys_iff hmap)
  rw [exists_collectParents_iff, hchildren.nodup_iff]
  simp only [hperm.mem_iff, hchildren.mem_iff, hfound]
  have hnone : ∀ child ∈ childrenOf snapshot.nodes,
      AList.lookup child (∅ : Dict UiNodeId UiNodeId) = none := fun _ _ => rfl
  exact ⟨fun h => ⟨h.1, h.2.1, h.2.2.1⟩, fun h => ⟨h.1, h.2.1, h.2.2, hnone⟩⟩

theorem mem_childrenOf_iff {child : UiNodeId} :
    child ∈ childrenOf snapshot.nodes ↔ ∃ parent, ChildOf snapshot parent child := by
  rw [mem_childrenOf]
  constructor
  · rintro ⟨node, hnode, hchild⟩
    exact ⟨node.id, node, hnode, rfl, hchild⟩
  · rintro ⟨parent, node, hnode, -, hchild⟩
    exact ⟨node, hnode, hchild⟩

/-- What is reached from the root, by the node map and by the snapshot. -/
theorem reached_iff (hmap : nodeMap snapshot = .ok nodes) :
    (∀ id ∈ nodes.keys,
        ReflTransGen (fun above below => below ∈ childrenIn nodes above) snapshot.root id) ↔
      ∀ id ∈ nodeIds snapshot, ReflTransGen (ChildOf snapshot) snapshot.root id := by
  have hchild : (fun above below => below ∈ childrenIn nodes above) = ChildOf snapshot := by
    funext above below
    exact propext (mem_childrenIn_iff hmap)
  simp only [hchild, mem_keys_iff hmap]

/-- In any order, accepted are exactly the trees of nodes that meet their constraints. The last step
of a path to a node comes from its parent. -/
theorem validateSnapshotIn_eq_ok_iff (order : MapOrder) (snapshot : UiSurfaceSnapshot) :
    validateSnapshotIn order snapshot = .ok () ↔ AcceptedTree snapshot := by
  have hclosed : ∀ nodes, nodeMap snapshot = .ok nodes →
      (∀ child ∈ childrenOf snapshot.nodes, child ∈ nodeIds snapshot) →
      ∀ id, ∀ child ∈ childrenIn nodes id, child ∈ nodes.keys := by
    intro nodes hmap hchildren id child hchild
    have hedge := (mem_childrenIn_iff hmap).mp hchild
    exact (mem_keys_iff hmap).mpr (hchildren child (mem_childrenOf_iff.mpr ⟨id, hedge⟩))
  simp only [validateSnapshotIn, bind_eq_ok_iff, require_eq_ok_iff, Option.isNone_iff_eq_none,
    decide_eq_true_eq]
  constructor
  · rintro ⟨_, hcount, nodes, hmap, _, hroot, parentOf, hparents, _, hrootless, _, -, hreach⟩
    have hparent : ∀ {above below}, parentOf.lookup below = some above ↔
        ChildOf snapshot above below := lookup_parentOf_iff hmap hparents
    obtain ⟨hkinds, hchildren, hnodup⟩ := (passes_iff order hmap).mp ⟨parentOf, hparents⟩
    have hkey : snapshot.root ∈ nodes.keys := AList.lookup_isSome.mp hroot
    have hreached := (reached_iff hmap).mp
      ((validateReachabilityIn_eq_ok_iff hkey (hclosed nodes hmap hchildren)).mp hreach)
    constructor
    case count => exact hcount
    case unique => exact (nodeMap_ok hmap).2
    case root => exact (mem_keys_iff hmap).mp hkey
    case children => exact hchildren
    case reached => exact hreached
    case once =>
      intro id hid hne
      cases (hreached id hid).cases_tail with
      | inl hsame => exact absurd hsame hne
      | inr hlast =>
          obtain ⟨parent, -, hedge⟩ := hlast
          exact List.count_eq_one_of_mem hnodup (mem_childrenOf_iff.mpr ⟨parent, hedge⟩)
    case rootNever =>
      intro hmem
      obtain ⟨parent, hedge⟩ := mem_childrenOf_iff.mp hmem
      have hsome := hparent.mpr hedge
      rw [hrootless] at hsome
      cases hsome
    case kinds => exact hkinds
  · intro h
    obtain ⟨nodes, hmap⟩ : ∃ nodes, nodeMap snapshot = .ok nodes :=
      exists_nodeMapFrom h.unique fun _ _ => rfl
    obtain ⟨parentOf, hparents⟩ := (passes_iff order hmap).mpr ⟨h.kinds, h.children, h.nodup⟩
    have hparent : ∀ {above below}, parentOf.lookup below = some above ↔
        ChildOf snapshot above below := lookup_parentOf_iff hmap hparents
    have hkey : snapshot.root ∈ nodes.keys := (mem_keys_iff hmap).mpr h.root
    have hrootless : parentOf.lookup snapshot.root = none := by
      rw [Option.eq_none_iff_forall_ne_some]
      intro parent hsome
      exact h.rootNever (mem_childrenOf_iff.mpr ⟨parent, hparent.mp hsome⟩)
    have htree : IsRootedTree (fun id => id ∈ nodeIds snapshot) (ChildOf snapshot)
        snapshot.root := {
      rooted := h.root
      closed := fun {parent child} hedge => by
        have hchild := h.children child (mem_childrenOf_iff.mpr ⟨parent, hedge⟩)
        obtain ⟨node, hnode, hid, -⟩ := hedge
        exact ⟨hid ▸ List.mem_map_of_mem hnode, hchild⟩
      parentless := fun parent hedge =>
        h.rootNever (mem_childrenOf_iff.mpr ⟨parent, hedge⟩)
      oneParent := fun hedge hother =>
        Option.some.inj ((hparent.mpr hedge).symm.trans (hparent.mpr hother))
      reached := fun hid => h.reached _ hid }
    have hcycles : detectCycles parentOf (order.keys nodes) = .ok () := by
      apply detectCycles_eq_ok
      have hchild : (fun above below => parentOf.lookup below = some above) =
          ChildOf snapshot := by
        funext above below
        exact propext hparent
      rw [hchild]
      exact htree.acyclic
    have hreach : validateReachabilityIn order snapshot nodes = .ok () :=
      (validateReachabilityIn_eq_ok_iff hkey (hclosed nodes hmap h.children)).mpr
        ((reached_iff hmap).mpr h.reached)
    exact ⟨(), h.count, nodes, hmap, (), AList.lookup_isSome.mpr hkey, parentOf, hparents, (),
      hrootless, (), hcycles, hreach⟩

/-- The order of the nodes does not matter for a tree. -/
theorem AcceptedTree.of_perm {other : UiSurfaceSnapshot} (hroot : other.root = snapshot.root)
    (hperm : other.nodes.Perm snapshot.nodes) (h : AcceptedTree snapshot) :
    AcceptedTree other := by
  have hids : (nodeIds other).Perm (nodeIds snapshot) := hperm.map _
  have hchildren : (childrenOf other.nodes).Perm (childrenOf snapshot.nodes) :=
    hperm.flatMap_right _
  have hedges : ChildOf other = ChildOf snapshot := by
    funext parent child
    simp only [ChildOf, hperm.mem_iff]
  constructor
  case count => exact hperm.length_eq.trans_le h.count
  case unique => exact hids.nodup_iff.mpr h.unique
  case root => exact hids.mem_iff.mpr (hroot ▸ h.root)
  case children =>
    intro child hchild
    exact hids.mem_iff.mpr (h.children child (hchildren.mem_iff.mp hchild))
  case reached =>
    intro id hid
    rw [hedges, hroot]
    exact h.reached id (hids.mem_iff.mp hid)
  case once =>
    intro id hid hne
    rw [hroot] at hne
    exact (hchildren.count_eq id).trans (h.once id (hids.mem_iff.mp hid) hne)
  case rootNever =>
    rw [hroot]
    exact fun hmem => h.rootNever (hchildren.mem_iff.mp hmem)
  case kinds => exact fun node hnode => h.kinds node (hperm.mem_iff.mp hnode)

/-- The loops of a validation end on every map, and the rounds that they get are enough. -/
structure LoopsEnd (order : MapOrder) (nodes : Dict UiNodeId UiNode)
    (parentOf : Dict UiNodeId UiNodeId) : Prop where
  ascents : ∀ start, ∃ repeated, Ascent parentOf.lookup [] start repeated ∧
    climb parentOf (parentOf.entries.length + 1) [] start =
      repeated.elim (.ok ()) fun id => .error (.cycleDetected id.asStr)
  searches : ∀ root, Search (childrenIn nodes) [] [root]
    (visit nodes (((order.values nodes).map fun node => node.kind.children.length).sum + 2)
      [] [root])

/-- Accepted are exactly the trees, whatever the order of the nodes and of the node map, and
every validation ends. -/
theorem validate_snapshot_exact (snapshot : UiSurfaceSnapshot) :
    (validateSnapshot snapshot = .ok () ↔ AcceptedTree snapshot) ∧
      (∀ (order : MapOrder) (other : UiSurfaceSnapshot), other.root = snapshot.root →
        other.nodes.Perm snapshot.nodes →
        (validateSnapshotIn order other = .ok () ↔ validateSnapshot snapshot = .ok ())) ∧
      ∀ order nodes parentOf, LoopsEnd order nodes parentOf := by
  have haccepted : validateSnapshot snapshot = .ok () ↔ AcceptedTree snapshot := by
    rw [validateSnapshot_eq]
    exact validateSnapshotIn_eq_ok_iff keptOrder snapshot
  refine ⟨haccepted, ?_, ?_⟩
  · intro order other hroot hperm
    rw [validateSnapshotIn_eq_ok_iff, haccepted]
    constructor
    · exact fun h => h.of_perm hroot.symm hperm.symm
    · exact fun h => h.of_perm hroot hperm
  · intro order nodes parentOf
    constructor
    case ascents =>
      exact fun start => climb_ascent start List.nodup_nil
        (fun id hid => absurd hid List.not_mem_nil) (Nat.lt_succ_self _)
    case searches => exact fun root => visit_search (visit_rounds order nodes root)

end Rintawa.UiRuntime
