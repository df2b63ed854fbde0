/-
# Walks in finite graphs

Loops that end on every finite graph, with cycles too. A search takes what is pending, the
last entry first, and skips what it visited. An ascent follows parents and stops when a node
comes again. A chase does so too, and keeps its path. All are given as relations, so that a
run of one is a derivation.
-/

import Mathlib.Data.List.Basic
import Mathlib.Data.List.Chain
import Mathlib.Data.List.Nodup
import Mathlib.Data.List.Perm.Subperm
import Mathlib.Logic.Relation

namespace Rintawa.Lib

open Relation

universe u

variable {Node : Type u}

/-! ## Search -/

/-- A search from what was visited and what is pending, with all that is visited in the end. -/
inductive Search (next : Node → List Node) : List Node → List Node → List Node → Prop
  | done (visited : List Node) : Search next visited [] visited
  | seen {visited pending result : List Node} {node : Node} (hseen : node ∈ visited)
      (hrest : Search next visited pending result) : Search next visited (node :: pending) result
  | fresh {visited pending result : List Node} {node : Node} (hfresh : node ∉ visited)
      (hrest : Search next (node :: visited) ((next node).reverse ++ pending) result) :
      Search next visited (node :: pending) result

namespace Search

variable {next : Node → List Node} {visited pending result : List Node}

/-- What was visited or is pending is visited in the end, and so is all that follows it. -/
theorem closed (h : Search next visited pending result)
    (hnext : ∀ node ∈ visited, ∀ other ∈ next node, other ∈ visited ∨ other ∈ pending) :
    (∀ node, node ∈ visited ∨ node ∈ pending → node ∈ result) ∧
      ∀ node ∈ result, ∀ other ∈ next node, other ∈ result := by
  induction h with
  | done visited =>
      refine ⟨fun node hnode => hnode.resolve_right List.not_mem_nil, ?_⟩
      exact fun node hnode other hother =>
        (hnext node hnode other hother).resolve_right List.not_mem_nil
  | @seen visited pending result first hseen _ ih =>
      have hdrop : ∀ node, node ∈ visited ∨ node ∈ first :: pending →
          node ∈ visited ∨ node ∈ pending := by
        intro node hnode
        cases hnode with
        | inl hvisited => exact .inl hvisited
        | inr hpending =>
            cases List.mem_cons.mp hpending with
            | inl hsame => exact .inl (hsame ▸ hseen)
            | inr hrest => exact .inr hrest
      obtain ⟨hkept, hclosed⟩ :=
        ih fun node hnode other hother => hdrop other (hnext node hnode other hother)
      exact ⟨fun node hnode => hkept node (hdrop node hnode), hclosed⟩
  | @fresh visited pending result first _ _ ih =>
      have hmove : ∀ node, node ∈ visited ∨ node ∈ first :: pending →
          node ∈ first :: visited ∨ node ∈ (next first).reverse ++ pending := by
        intro node hnode
        cases hnode with
        | inl hvisited => exact .inl (List.mem_cons_of_mem _ hvisited)
        | inr hpending =>
            cases List.mem_cons.mp hpending with
            | inl hsame => exact .inl (hsame ▸ List.mem_cons_self)
            | inr hrest => exact .inr (List.mem_append_right _ hrest)
      obtain ⟨hkept, hclosed⟩ := ih fun node hnode other hother => by
        cases List.mem_cons.mp hnode with
        | inl hsame =>
            rw [hsame] at hother
            exact .inr (List.mem_append_left _ (List.mem_reverse.mpr hother))
        | inr hvisited => exact hmove other (hnext node hvisited other hother)
      exact ⟨fun node hnode => hkept node (hmove node hnode), hclosed⟩

/-- A search stays within what is closed under the next nodes. -/
theorem within (h : Search next visited pending result) {P : Node → Prop}
    (hnext : ∀ node, P node → ∀ other ∈ next node, P other)
    (hvisited : ∀ node ∈ visited, P node) (hpending : ∀ node ∈ pending, P node) :
    ∀ node ∈ result, P node := by
  induction h with
  | done visited => exact hvisited
  | seen _ _ ih => exact ih hvisited (List.forall_mem_cons.mp hpending).2
  | fresh _ _ ih =>
      obtain ⟨hfirst, hrest⟩ := List.forall_mem_cons.mp hpending
      refine ih (List.forall_mem_cons.mpr ⟨hfirst, hvisited⟩) fun node hnode => ?_
      cases List.mem_append.mp hnode with
      | inl hchild => exact hnext _ hfirst node (List.mem_reverse.mp hchild)
      | inr hold => exact hrest node hold

/-- A search visits nothing twice. -/
theorem nodup (h : Search next visited pending result) (hvisited : visited.Nodup) :
    result.Nodup := by
  induction h with
  | done visited => exact hvisited
  | seen _ _ ih => exact ih hvisited
  | fresh hfresh _ ih => exact ih (List.nodup_cons.mpr ⟨hfresh, hvisited⟩)

/-- A search visits exactly what is reached from its start. -/
theorem mem_iff_reached {root : Node} (h : Search next [] [root] result) {node : Node} :
    node ∈ result ↔ ReflTransGen (fun above below => below ∈ next above) root node := by
  constructor
  · refine h.within (fun above habove below hbelow => habove.tail hbelow)
      (fun other hother => absurd hother List.not_mem_nil) (fun other hother => ?_) node
    rw [List.mem_singleton.mp hother]
  · intro hreached
    obtain ⟨hkept, hclosed⟩ :=
      h.closed fun other hother => absurd hother List.not_mem_nil
    induction hreached with
    | refl => exact hkept root (.inr List.mem_cons_self)
    | tail _ hnext ih => exact hclosed _ ih _ hnext

end Search

/-! ## Ascent -/

/-- An ascent from a node over a chain of nodes below it, with the node that came again. -/
inductive Ascent (parent : Node → Option Node) : List Node → Node → Option Node → Prop
  | top {chain : List Node} {current : Node} (htop : parent current = none) :
      Ascent parent chain current none
  | again {chain : List Node} {current above : Node} (habove : parent current = some above)
      (hagain : current ∈ chain) : Ascent parent chain current (some current)
  | up {chain : List Node} {current above : Node} {result : Option Node}
      (habove : parent current = some above) (hnew : current ∉ chain)
      (hrest : Ascent parent (current :: chain) above result) :
      Ascent parent chain current result

/-- Without cycles nothing comes again. -/
theorem Ascent.eq_none {parent : Node → Option Node}
    (hacyclic : ∀ node, ¬ TransGen (fun above below => parent below = some above) node node)
    {chain : List Node} {current : Node} {result : Option Node}
    (h : Ascent parent chain current result)
    (hchain : ∀ node ∈ chain,
      TransGen (fun above below => parent below = some above) current node) : result = none := by
  induction h with
  | top => rfl
  | again _ hagain => exact absurd (hchain _ hagain) (hacyclic _)
  | @up chain current above result habove _ _ ih =>
      apply ih
      intro node hnode
      cases List.mem_cons.mp hnode with
      | inl hsame => exact hsame ▸ .single habove
      | inr hbelow => exact .head habove (hchain node hbelow)

/-! ## Chase -/

/-- A chase of the next node, with the number of nodes it passes. It ends with a closed path
when a node comes again, and with none where nothing is next. -/
inductive Chase (next : Node → Option Node) [DecidableEq Node] :
    List Node → Node → Nat → Option (List Node) → Prop
  | closes {path : List Node} {current : Node} (hagain : current ∈ path) :
      Chase next path current 0 (some (path.drop (path.idxOf current) ++ [current]))
  | strands {path : List Node} {current : Node} (hnew : current ∉ path)
      (hnone : next current = none) : Chase next path current 1 none
  | follows {path : List Node} {current after : Node} {steps : Nat}
      {result : Option (List Node)} (hnew : current ∉ path) (hafter : next current = some after)
      (hrest : Chase next (path ++ [current]) after steps result) :
      Chase next path current (steps + 1) result

/-- A closed path: it comes back to its first node, and passes no node twice before. -/
structure ClosedPath (after : Node → Node → Prop) (closed : List Node) : Prop where
  ends : ∃ first inner, closed = first :: (inner ++ [first]) ∧ (first :: inner).Nodup
  chain : closed.IsChain after

/-- A closed path is one under any map that tells its nodes apart. -/
theorem ClosedPath.map {Other : Type*} {after : Node → Node → Prop} {closed : List Node}
    (h : ClosedPath after closed) {otherAfter : Other → Other → Prop} {f : Node → Other}
    (hafter : ∀ first second, after first second → otherAfter (f first) (f second))
    (hinj : ∀ first ∈ closed, ∀ second ∈ closed, f first = f second → first = second) :
    ClosedPath otherAfter (closed.map f) := by
  obtain ⟨first, inner, hclosed, hnodup⟩ := h.ends
  constructor
  case ends =>
    refine ⟨f first, inner.map f, ?_, ?_⟩
    · rw [hclosed, List.map_cons, List.map_append, List.map_singleton]
    · have hmem : ∀ node ∈ first :: inner, node ∈ closed := by
        intro node hnode
        rw [hclosed, ← List.cons_append]
        exact List.mem_append_left _ hnode
      exact hnodup.map_on fun one hone other hother =>
        hinj one (hmem one hone) other (hmem other hother)
  case chain =>
    rw [List.isChain_map]
    exact h.chain.imp hafter

/-- Where no node is next to itself, a closed path passes two nodes. -/
theorem ClosedPath.exists_ne {after : Node → Node → Prop} {closed : List Node}
    (h : ClosedPath after closed) (hirrefl : ∀ node, ¬ after node node) :
    ∃ first ∈ closed, ∃ second ∈ closed, first ≠ second := by
  obtain ⟨first, inner, hclosed, hnodup⟩ := h.ends
  have hchain := h.chain
  rw [hclosed] at hchain ⊢
  cases inner with
  | nil => exact absurd (List.isChain_cons_cons.mp hchain).1 (hirrefl first)
  | cons second rest =>
      refine ⟨first, by simp, second, by simp, ?_⟩
      intro hsame
      exact (List.nodup_cons.mp hnodup).1 (hsame ▸ List.mem_cons_self)

namespace Chase

variable [DecidableEq Node] {next : Node → Option Node} {path closed : List Node}
  {current : Node} {steps : Nat} {result : Option (List Node)}

/-- There is one chase from a node. -/
theorem unique (h : Chase next path current steps result) :
    ∀ {otherSteps : Nat} {other : Option (List Node)},
      Chase next path current otherSteps other → otherSteps = steps ∧ other = result := by
  induction h with
  | closes hagain =>
      intro otherSteps other hother
      cases hother with
      | closes => exact ⟨rfl, rfl⟩
      | strands hnew => exact absurd hagain hnew
      | follows hnew => exact absurd hagain hnew
  | strands hnew hnone =>
      intro otherSteps other hother
      cases hother with
      | closes hagain => exact absurd hagain hnew
      | strands => exact ⟨rfl, rfl⟩
      | follows _ hafter =>
          rw [hnone] at hafter
          cases hafter
  | follows hnew hafter _ ih =>
      intro otherSteps other hother
      cases hother with
      | closes hagain => exact absurd hagain hnew
      | strands _ hnone =>
          rw [hnone] at hafter
          cases hafter
      | follows _ hafter' hrest =>
          rw [hafter'] at hafter
          cases hafter
          obtain ⟨hsteps, hresult⟩ := ih hrest
          exact ⟨congrArg _ hsteps, hresult⟩

/-- Among finitely many nodes that all have a next one, a chase comes back within a step for each
node: after as many steps all nodes are on the path. -/
theorem exists_closed {nodes : List Node}
    (hnext : ∀ node ∈ nodes, ∃ after ∈ nodes, next node = some after) {room : Nat} :
    ∀ {path : List Node} {current : Node}, path.Nodup → path ⊆ nodes → current ∈ nodes →
      nodes.length ≤ path.length + room →
      ∃ steps ≤ room, ∃ closed, Chase next path current steps (some closed) := by
  induction room with
  | zero =>
      intro path current hnodup hwithin hcurrent hroom
      have hperm : path.Perm nodes := (hnodup.subperm hwithin).perm_of_length_le hroom
      exact ⟨0, Nat.le_refl 0, _, .closes (hperm.mem_iff.mpr hcurrent)⟩
  | succ room ih =>
      intro path current hnodup hwithin hcurrent hroom
      by_cases hagain : current ∈ path
      · exact ⟨0, Nat.zero_le _, _, .closes hagain⟩
      · obtain ⟨after, hmem, hafter⟩ := hnext current hcurrent
        have hlonger : (path ++ [current]).Nodup := by
          rw [← List.concat_eq_append]
          exact hnodup.concat hagain
        have hinside : path ++ [current] ⊆ nodes :=
          List.append_subset.mpr ⟨hwithin, List.cons_subset.mpr ⟨hcurrent, List.nil_subset nodes⟩⟩
        have hleft : nodes.length ≤ (path ++ [current]).length + room := by
          rw [List.length_append, List.length_singleton]
          omega
        obtain ⟨steps, hsteps, closed, hrest⟩ := ih hlonger hinside hmem hleft
        exact ⟨steps + 1, Nat.succ_le_succ hsteps, closed, .follows hagain hafter hrest⟩

/-- A chase stays within what is closed under the next node. -/
theorem within (h : Chase next path current steps result) {P : Node → Prop}
    (hnext : ∀ node after, P node → next node = some after → P after)
    (hpath : ∀ node ∈ path, P node) (hcurrent : P current) :
    ∀ {closed : List Node}, result = some closed → ∀ node ∈ closed, P node := by
  induction h with
  | closes =>
      intro closed hclosed node hnode
      cases hclosed
      cases List.mem_append.mp hnode with
      | inl hpassed => exact hpath node (List.mem_of_mem_drop hpassed)
      | inr hlast => exact List.mem_singleton.mp hlast ▸ hcurrent
  | strands =>
      intro closed hclosed
      cases hclosed
  | follows _ hafter _ ih =>
      refine ih (fun node hnode => ?_) (hnext _ _ hcurrent hafter)
      cases List.mem_append.mp hnode with
      | inl hpassed => exact hpath node hpassed
      | inr hlast => exact List.mem_singleton.mp hlast ▸ hcurrent

/-- The path from where a node was passed to where it comes again. -/
theorem closedPath_of_mem {after : Node → Node → Prop} (hnodup : path.Nodup)
    (hchain : (path ++ [current]).IsChain after) (hagain : current ∈ path) :
    ClosedPath after (path.drop (path.idxOf current) ++ [current]) := by
  have hindex : path.idxOf current < path.length := List.idxOf_lt_length_iff.mpr hagain
  constructor
  case ends =>
    have hdrop : path.drop (path.idxOf current) =
        current :: path.drop (path.idxOf current + 1) := by
      rw [List.drop_eq_getElem_cons hindex, List.getElem_idxOf]
    have hsimple := (List.drop_sublist (path.idxOf current) path).nodup hnodup
    rw [hdrop] at hsimple ⊢
    exact ⟨current, path.drop (path.idxOf current + 1), rfl, hsimple⟩
  case chain =>
    rw [← List.drop_append_of_le_length hindex.le]
    exact hchain.drop _

/-- Where a chase comes back, its end is a closed path. -/
theorem closedPath (h : Chase next path current steps result) (hnodup : path.Nodup)
    (hchain : (path ++ [current]).IsChain fun node after => next node = some after) :
    ∀ {closed : List Node}, result = some closed →
      ClosedPath (fun node after => next node = some after) closed := by
  induction h with
  | closes hagain =>
      intro closed hclosed
      cases hclosed
      exact closedPath_of_mem hnodup hchain hagain
  | strands =>
      intro closed hclosed
      cases hclosed
  | @follows path current after steps result hnew hafter _ ih =>
      apply ih
      · rw [← List.concat_eq_append]
        exact hnodup.concat hnew
      · rw [List.append_assoc]
        exact List.isChain_append_cons_cons.mpr ⟨hchain, hafter, List.isChain_singleton after⟩

end Chase

end Rintawa.Lib
