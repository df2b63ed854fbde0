/-
# Quarantine

A quarantine visits every instance at most once, so it ends on every graph of
dependencies, cyclic ones included. Where the graph has no cycles an instance is only
stopped when nothing that runs depends on it any more.
-/

import Mathlib.Data.Finset.Card
import Rintawa.ExtensionEngine.FailedStarts

namespace Rintawa.ExtensionEngine

open Rintawa.Lib Rintawa.Sdk Rintawa.UiRuntime

/-! ## Termination -/

namespace Engine

/-- The map of the instances has them under their identifiers. -/
def Keyed (engine : Engine) : Prop :=
  ∀ instanceId ext, engine.extensions.lookup instanceId = some ext → ext.instanceId = instanceId

/-- The identifiers of the registered instances. -/
def registeredIds (engine : Engine) : Finset ExtensionInstanceId :=
  engine.extensions.keys.toFinset

variable {instanceId providerId : ExtensionInstanceId} {ext : ManagedExtension}
  {visited : List ExtensionInstanceId} {depth : Nat}

theorem mem_registeredIds {engine : Engine} :
    instanceId ∈ engine.registeredIds ↔
      (engine.extensions.lookup instanceId).isSome = true := by
  unfold registeredIds
  rw [List.mem_toFinset, AList.lookup_isSome]
  exact Iff.rfl

/-- The same instances are registered, under their identifiers. -/
structure SameIds (engine engine' : Engine) : Prop where
  keyed : engine'.Keyed
  ids : engine'.registeredIds = engine.registeredIds

theorem SameIds.trans {engine engine' engine'' : Engine} (h : SameIds engine engine')
    (h' : SameIds engine' engine'') : SameIds engine engine'' :=
  ⟨h'.keyed, h'.ids.trans h.ids⟩

/-- Another state of a registered instance. -/
theorem SameIds.of_insert {engine engine' : Engine} (hkeyed : engine.Keyed) {state : ExtensionState}
    (hfound : engine.extensions.lookup ext.instanceId = some ext)
    (hextensions : engine'.extensions =
      engine.extensions.insert ext.instanceId { ext with state := state }) :
    SameIds engine engine' := by
  constructor
  · intro instanceId found hlookup
    rw [hextensions, Dict.lookup_insert_ite] at hlookup
    split at hlookup
    · next heq =>
        cases hlookup
        exact heq.symm
    · exact hkeyed instanceId found hlookup
  · ext instanceId
    rw [mem_registeredIds, mem_registeredIds, hextensions, Dict.lookup_insert_ite]
    split
    · next heq =>
        subst heq
        simp [hfound]
    · rfl

theorem sameIds_shutDown {engine : Engine} (hkeyed : engine.Keyed)
    (hfound : engine.extensions.lookup ext.instanceId = some ext) (script : InstanceScript) :
    SameIds engine (engine.shutDown ext script).1 := by
  unfold shutDown
  split
  · exact ⟨hkeyed, rfl⟩
  · exact .of_insert hkeyed hfound rfl

theorem sameIds_stopInner {engine : Engine} (hkeyed : engine.Keyed)
    (instanceId : ExtensionInstanceId) (script : InstanceScript) (enforceProviderGuard : Bool) :
    SameIds engine
      (engine.stopExtensionInstanceInner instanceId script enforceProviderGuard).1 := by
  unfold stopExtensionInstanceInner
  split
  · exact ⟨hkeyed, rfl⟩
  · next ext hinstance =>
      have hfound := instanceOf_ok hinstance
      obtain rfl := hkeyed _ _ hfound
      split
      · exact ⟨hkeyed, rfl⟩
      · split
        · split
          · exact ⟨hkeyed, rfl⟩
          · exact sameIds_shutDown hkeyed hfound script
        · exact sameIds_shutDown hkeyed hfound script

/-- A quarantine leaves the registered instances and remembers what it has visited. -/
theorem sameIds_quarantineRecursive (scripts : ExtensionInstanceId → InstanceScript)
    (depth : Nat) {engine : Engine} (hkeyed : engine.Keyed) (visited : List ExtensionInstanceId)
    (instanceId : ExtensionInstanceId) :
    SameIds engine (quarantineRecursive scripts depth (engine, visited) instanceId).1.1 ∧
      visited ⊆ (quarantineRecursive scripts depth (engine, visited) instanceId).1.2 := by
  induction depth generalizing engine visited instanceId with
  | zero => exact ⟨⟨hkeyed, rfl⟩, List.Subset.refl _⟩
  | succ depth ih =>
      have heach : ∀ (dependents : List ExtensionInstanceId) (current : Engine)
          (seen : List ExtensionInstanceId), current.Keyed →
          SameIds current (quarantineEach (quarantineRecursive scripts depth) (current, seen)
              dependents).1.1 ∧
            seen ⊆ (quarantineEach (quarantineRecursive scripts depth) (current, seen)
              dependents).1.2 := by
        intro dependents
        induction dependents with
        | nil => exact fun current seen hcurrent => ⟨⟨hcurrent, rfl⟩, List.Subset.refl _⟩
        | cons dependent rest ihRest =>
            intro current seen hcurrent
            obtain ⟨hsame, hseen⟩ := ih hcurrent seen dependent
            simp only [quarantineEach]
            split
            · next heq =>
                rw [heq] at hsame hseen
                exact ⟨hsame, hseen⟩
            · next state heq =>
                rw [heq] at hsame hseen
                obtain ⟨hsameRest, hseenRest⟩ := ihRest state.1 state.2 hsame.keyed
                exact ⟨hsame.trans hsameRest, List.Subset.trans hseen hseenRest⟩
      obtain ⟨hsame, hseen⟩ := heach (engine.activeDependentsOf instanceId) engine
        (instanceId :: visited) hkeyed
      simp only [quarantineRecursive]
      split
      · exact ⟨⟨hkeyed, rfl⟩, List.Subset.refl _⟩
      · split
        · next heq =>
            rw [heq] at hsame hseen
            exact ⟨hsame, List.Subset.trans (List.subset_cons_self _ _) hseen⟩
        · next current seen heq =>
            rw [heq] at hsame hseen
            have hstopped := sameIds_stopInner hsame.keyed instanceId (scripts instanceId) false
            refine ⟨?_, List.Subset.trans (List.subset_cons_self _ _) hseen⟩
            unfold containStopFailure
            split <;> exact hsame.trans hstopped

theorem dependents_registered {engine : Engine} (hkeyed : engine.Keyed)
    (hmem : instanceId ∈ engine.activeDependentsOf providerId) :
    instanceId ∈ engine.registeredIds := by
  unfold activeDependentsOf executionTargetDependentsOf at hmem
  obtain ⟨hdependent, -⟩ := List.mem_filter.mp hmem
  rw [List.mem_insertionSort, List.mem_dedup, List.mem_map] at hdependent
  obtain ⟨ext, hext, rfl⟩ := hdependent
  obtain ⟨key, hlookup⟩ := Dict.mem_values_iff.mp (List.mem_filter.mp hext).1
  obtain rfl := hkeyed key ext hlookup
  rw [mem_registeredIds, hlookup]
  rfl

/-- How many registered instances a quarantine has not visited. -/
def unvisited (engine : Engine) (visited : List ExtensionInstanceId) : Nat :=
  (engine.registeredIds \ visited.toFinset).card

theorem unvisited_le {engine : Engine} {visited' : List ExtensionInstanceId}
    (h : visited ⊆ visited') : engine.unvisited visited' ≤ engine.unvisited visited := by
  refine Finset.card_le_card (Finset.sdiff_subset_sdiff (Finset.Subset.refl _) ?_)
  intro instanceId hmem
  rw [List.mem_toFinset] at hmem ⊢
  exact h hmem

theorem unvisited_cons_lt {engine : Engine} (hregistered : instanceId ∈ engine.registeredIds)
    (hunvisited : instanceId ∉ visited) :
    engine.unvisited (instanceId :: visited) < engine.unvisited visited := by
  refine Finset.card_lt_card (Finset.ssubset_iff_subset_ne.mpr ⟨?_, ?_⟩)
  · refine Finset.sdiff_subset_sdiff (Finset.Subset.refl _) ?_
    intro other hmem
    rw [List.mem_toFinset] at hmem ⊢
    exact List.mem_cons_of_mem instanceId hmem
  · intro heq
    have hmem : instanceId ∈ engine.registeredIds \ visited.toFinset :=
      Finset.mem_sdiff.mpr ⟨hregistered, by rwa [List.mem_toFinset]⟩
    rw [← heq, Finset.mem_sdiff, List.mem_toFinset] at hmem
    exact hmem.2 List.mem_cons_self

/-- The levels that suffice for an instance: one when it was visited, and otherwise one
for every instance that is then not visited, and two more. -/
def DepthSuffices (engine : Engine) (visited : List ExtensionInstanceId)
    (instanceId : ExtensionInstanceId) (depth : Nat) : Prop :=
  if instanceId ∈ visited then 1 ≤ depth
  else engine.unvisited (instanceId :: visited) + 2 ≤ depth

/-- Every dependent has one level less, and has to visit one instance less. -/
theorem DepthSuffices.dependent {engine current : Engine} {seen : List ExtensionInstanceId}
    {dependent : ExtensionInstanceId} (h : engine.DepthSuffices visited instanceId (depth + 1))
    (hunvisited : instanceId ∉ visited) (hsame : SameIds engine current)
    (hseen : instanceId :: visited ⊆ seen) (hregistered : dependent ∈ engine.registeredIds) :
    current.DepthSuffices seen dependent depth := by
  unfold DepthSuffices at h
  rw [if_neg hunvisited] at h
  have hleft : current.unvisited seen ≤ engine.unvisited (instanceId :: visited) := by
    unfold unvisited
    rw [hsame.ids]
    exact unvisited_le hseen
  unfold DepthSuffices
  split
  · omega
  · next hnew =>
      have hmem : dependent ∈ current.registeredIds := by
        rw [hsame.ids]
        exact hregistered
      have hless := unvisited_cons_lt hmem hnew
      omega

/-- More levels than suffice make no difference, on any graph of dependencies. -/
theorem quarantineRecursive_stable (scripts : ExtensionInstanceId → InstanceScript)
    (depth depth' : Nat) {engine : Engine} (hkeyed : engine.Keyed)
    (visited : List ExtensionInstanceId) (instanceId : ExtensionInstanceId)
    (hdepth : engine.DepthSuffices visited instanceId depth)
    (hdepth' : engine.DepthSuffices visited instanceId depth') :
    quarantineRecursive scripts depth (engine, visited) instanceId =
      quarantineRecursive scripts depth' (engine, visited) instanceId := by
  induction depth generalizing depth' engine visited instanceId with
  | zero =>
      unfold DepthSuffices at hdepth
      split at hdepth <;> omega
  | succ depth ih =>
      cases depth' with
      | zero =>
          unfold DepthSuffices at hdepth'
          split at hdepth' <;> omega
      | succ depth' =>
          simp only [quarantineRecursive]
          by_cases hvisited : instanceId ∈ visited
          · rw [if_pos hvisited, if_pos hvisited]
          · rw [if_neg hvisited, if_neg hvisited]
            have heach : ∀ (dependents : List ExtensionInstanceId) (current : Engine)
                (seen : List ExtensionInstanceId), SameIds engine current →
                instanceId :: visited ⊆ seen →
                (∀ dependent ∈ dependents, dependent ∈ engine.registeredIds) →
                quarantineEach (quarantineRecursive scripts depth) (current, seen) dependents =
                  quarantineEach (quarantineRecursive scripts depth') (current, seen)
                    dependents := by
              intro dependents
              induction dependents with
              | nil => exact fun _ _ _ _ _ => rfl
              | cons dependent rest ihRest =>
                  intro current seen hsame hseen hregistered
                  have hmem := hregistered dependent List.mem_cons_self
                  have hsuffices := hdepth.dependent hvisited hsame hseen hmem
                  have hsuffices' := hdepth'.dependent hvisited hsame hseen hmem
                  have hfirst := ih depth' hsame.keyed seen dependent hsuffices hsuffices'
                  obtain ⟨hsameFirst, hseenFirst⟩ :=
                    sameIds_quarantineRecursive scripts depth' hsame.keyed seen dependent
                  simp only [quarantineEach, hfirst]
                  split
                  · rfl
                  · next state heq =>
                      rw [heq] at hsameFirst hseenFirst
                      exact ihRest state.1 state.2 (hsame.trans hsameFirst)
                        (List.Subset.trans hseen hseenFirst)
                        fun other hother =>
                          hregistered other (List.mem_cons_of_mem dependent hother)
            rw [heach (engine.activeDependentsOf instanceId) engine (instanceId :: visited)
              ⟨hkeyed, rfl⟩ (List.Subset.refl _) fun dependent => dependents_registered hkeyed]

/-- The levels of a quarantine suffice. -/
theorem quarantineDepth_suffices (engine : Engine) (instanceId : ExtensionInstanceId)
    (hdepth : engine.quarantineDepth ≤ depth) : engine.DepthSuffices [] instanceId depth := by
  unfold DepthSuffices unvisited
  rw [if_neg List.not_mem_nil]
  have hcard : (engine.registeredIds \ [instanceId].toFinset).card ≤
      engine.extensions.keys.length :=
    (Finset.card_le_card Finset.sdiff_subset).trans (List.toFinset_card_le _)
  unfold quarantineDepth at hdepth
  omega

/-- A quarantine ends, whatever depends on what. -/
theorem quarantine_terminates {engine : Engine} (hkeyed : engine.Keyed)
    (instanceId : ExtensionInstanceId) (scripts : ExtensionInstanceId → InstanceScript)
    (hdepth : engine.quarantineDepth ≤ depth) :
    quarantineRecursive scripts depth (engine, []) instanceId =
      quarantineRecursive scripts engine.quarantineDepth (engine, []) instanceId :=
  quarantineRecursive_stable scripts depth engine.quarantineDepth hkeyed [] instanceId
    (engine.quarantineDepth_suffices instanceId hdepth)
    (engine.quarantineDepth_suffices instanceId (Nat.le_refl _))

/-! ## Order -/

/-- One registered instance was instantiated through another one. -/
def DependsOn (engine : Engine) (instanceId providerId : ExtensionInstanceId) : Prop :=
  ∃ ext, engine.extensions.lookup instanceId = some ext ∧ ext.dependsOn providerId = true

/-- Instances are shut down one after the other, each of them active, and none while an
active instance depends on it. -/
inductive ShutDowns (scripts : ExtensionInstanceId → InstanceScript) :
    Engine → List ExtensionInstanceId → Engine → Prop
  | nil (engine : Engine) : ShutDowns scripts engine [] engine
  | cons {engine engine' : Engine} {ext : ManagedExtension} {rest : List ExtensionInstanceId}
      (found : engine.extensions.lookup ext.instanceId = some ext)
      (active : ext.state = .active)
      (unused : ∀ other, ActiveIn engine.instances other →
        ¬ engine.DependsOn other ext.instanceId)
      (after : ShutDowns scripts (engine.shutDown ext (scripts ext.instanceId)).1 rest engine') :
      ShutDowns scripts engine (ext.instanceId :: rest) engine'

variable {scripts : ExtensionInstanceId → InstanceScript} {engine engine' : Engine}
  {order : List ExtensionInstanceId}

theorem ShutDowns.append {engine'' : Engine} {order' : List ExtensionInstanceId}
    (h : ShutDowns scripts engine order engine')
    (h' : ShutDowns scripts engine' order' engine'') :
    ShutDowns scripts engine (order ++ order') engine'' := by
  induction h with
  | nil => exact h'
  | cons found active unused _ ih => exact .cons found active unused (ih h')

theorem ShutDowns.split {before after : List ExtensionInstanceId}
    (h : ShutDowns scripts engine (before ++ after) engine') :
    ∃ between, ShutDowns scripts engine before between ∧
      ShutDowns scripts between after engine' := by
  induction before generalizing engine with
  | nil => exact ⟨engine, .nil engine, h⟩
  | cons first rest ih =>
      cases h with
      | cons found active unused after =>
          obtain ⟨between, hrest, hafter⟩ := ih after
          exact ⟨between, .cons found active unused hrest, hafter⟩

/-- What shutdowns do to the instances: those that were shut down are stopped, and all
others, with their dependencies, are as before. -/
structure Stopped (order : List ExtensionInstanceId) (engine engine' : Engine) : Prop where
  consistent : Consistent engine'
  dependsOn : ∀ instanceId providerId,
    engine'.DependsOn instanceId providerId ↔ engine.DependsOn instanceId providerId
  active : ∀ instanceId, ActiveIn engine'.instances instanceId ↔
    ActiveIn engine.instances instanceId ∧ instanceId ∉ order

/-- Another state of an instance leaves its dependencies. -/
theorem dependsOn_withState {state : ExtensionState}
    (hfound : engine.extensions.lookup ext.instanceId = some ext)
    (hextensions : engine'.extensions =
      engine.extensions.insert ext.instanceId { ext with state := state })
    (instanceId providerId : ExtensionInstanceId) :
    engine'.DependsOn instanceId providerId ↔ engine.DependsOn instanceId providerId := by
  unfold DependsOn
  rw [hextensions, Dict.lookup_insert_ite]
  split
  · next heq =>
      rw [heq, hfound]
      constructor
      · rintro ⟨found, hlookup, hdepends⟩
        cases hlookup
        exact ⟨ext, rfl, hdepends⟩
      · rintro ⟨found, hlookup, hdepends⟩
        cases hlookup
        exact ⟨_, rfl, hdepends⟩
  · exact Iff.rfl

theorem stopped_shutDown (h : Consistent engine)
    (hfound : engine.extensions.lookup ext.instanceId = some ext) (script : InstanceScript) :
    Stopped [ext.instanceId] engine (engine.shutDown ext script).1 := by
  obtain ⟨facilities', hshut, -, hsettled⟩ := h.shutDown_cases script hfound
  rw [hshut]
  constructor
  · exact h.withInstance { ext with state := .stopped } rfl rfl rfl hsettled.mirrors
      hsettled.owners hsettled.platform hsettled.preferred
  · exact dependsOn_withState hfound rfl
  · intro instanceId
    unfold ActiveIn instances
    simp only [Dict.lookup_insert_ite, List.mem_singleton]
    split
    · next heq =>
        simp [heq]
    · next hne =>
        simp [hne]

theorem ShutDowns.stopped (h : ShutDowns scripts engine order engine')
    (hconsistent : Consistent engine) : Stopped order engine engine' := by
  induction h with
  | nil => exact ⟨hconsistent, fun _ _ => Iff.rfl, fun _ => by simp⟩
  | @cons engine _ ext _ found active unused after ih =>
      have hfirst := stopped_shutDown hconsistent found (scripts ext.instanceId)
      have hrest := ih hfirst.consistent
      refine ⟨hrest.consistent, fun instanceId providerId =>
        (hrest.dependsOn instanceId providerId).trans (hfirst.dependsOn instanceId providerId), ?_⟩
      intro instanceId
      rw [hrest.active, hfirst.active]
      simp [and_assoc]

/-- What is shut down was active. -/
theorem ShutDowns.active_of_mem (h : ShutDowns scripts engine order engine')
    (hconsistent : Consistent engine) (hmem : instanceId ∈ order) :
    ActiveIn engine.instances instanceId := by
  induction h with
  | nil => cases hmem
  | @cons engine _ ext _ found active unused after ih =>
      rcases List.mem_cons.mp hmem with rfl | hmem
      · exact ⟨_, found, active⟩
      · have hfirst := stopped_shutDown hconsistent found (scripts ext.instanceId)
        exact ((hfirst.active instanceId).mp (ih hfirst.consistent hmem)).1

/-- Nothing is shut down twice. -/
theorem ShutDowns.nodup (h : ShutDowns scripts engine order engine')
    (hconsistent : Consistent engine) : order.Nodup := by
  induction h with
  | nil => exact List.nodup_nil
  | @cons engine _ ext _ found active unused after ih =>
      have hfirst := stopped_shutDown hconsistent found (scripts ext.instanceId)
      refine List.nodup_cons.mpr ⟨?_, ih hfirst.consistent⟩
      intro hmem
      exact ((hfirst.active _).mp (after.active_of_mem hfirst.consistent hmem)).2
        List.mem_cons_self

/-- One active instance depends on another one, perhaps through further active ones. -/
def ActivelyDependsOn (engine : Engine) : ExtensionInstanceId → ExtensionInstanceId → Prop :=
  Relation.TransGen fun instanceId providerId =>
    ActiveIn engine.instances instanceId ∧ engine.DependsOn instanceId providerId

/-- What depends on an instance is shut down before it. The chain of dependencies is followed from
the provider to the dependent. -/
theorem ShutDowns.dependent_before {before after : List ExtensionInstanceId}
    (h : ShutDowns scripts engine (before ++ providerId :: after) engine')
    (hconsistent : Consistent engine) (hdepends : engine.ActivelyDependsOn instanceId providerId) :
    instanceId ∈ before := by
  have hdirect : ∀ {earlier later : List ExtensionInstanceId}
      {dependent stopped : ExtensionInstanceId} {final : Engine},
      ShutDowns scripts engine (earlier ++ stopped :: later) final →
      ActiveIn engine.instances dependent → engine.DependsOn dependent stopped →
      dependent ∈ earlier := by
    intro earlier later dependent stopped final hshut hactive hdepends
    obtain ⟨between, hearlier, hlater⟩ := hshut.split
    have hstopped := hearlier.stopped hconsistent
    by_contra hnot
    cases hlater with
    | cons found active unused _ =>
        exact unused dependent ((hstopped.active dependent).mpr ⟨hactive, hnot⟩)
          ((hstopped.dependsOn _ _).mpr hdepends)
  induction hdepends using Relation.TransGen.head_induction_on with
  | single hlast => exact hdirect h hlast.1 hlast.2
  | head hfirst _ ih =>
      obtain ⟨earlier, later, hbefore⟩ := List.append_of_mem ih
      rw [hbefore, List.append_assoc] at h
      have hmem := hdirect h hfirst.1 hfirst.2
      rw [hbefore]
      exact List.mem_append_left _ hmem

/-- Dependents come first. -/
theorem ShutDowns.pairwise (h : ShutDowns scripts engine order engine')
    (hconsistent : Consistent engine) :
    order.Pairwise fun earlier later => ¬ engine.ActivelyDependsOn later earlier := by
  rw [List.pairwise_iff_forall_sublist]
  intro earlier later hsublist hdepends
  obtain ⟨before, after, horder, hlater⟩ : ∃ before after,
      order = before ++ earlier :: after ∧ later ∈ after := by
    obtain ⟨first, second, rfl, hfirst, hsecond⟩ := List.cons_sublist_iff.mp hsublist
    obtain ⟨before, between, rfl⟩ := List.append_of_mem hfirst
    exact ⟨before, between ++ second, by simp,
      List.mem_append_right between (List.singleton_sublist.mp hsecond)⟩
  have hnodup := h.nodup hconsistent
  rw [horder] at h hnodup
  have hbefore := h.dependent_before hconsistent hdepends
  exact (List.nodup_append.mp hnodup).2.2 later hbefore later
    (List.mem_cons_of_mem earlier hlater) rfl

/-! ## What a quarantine shuts down -/

theorem ShutDowns.sameIds (h : ShutDowns scripts engine order engine')
    (hkeyed : engine.Keyed) : SameIds engine engine' := by
  induction h with
  | nil => exact ⟨hkeyed, rfl⟩
  | @cons engine _ ext _ found active unused after ih =>
      have hfirst := sameIds_shutDown hkeyed found (scripts ext.instanceId)
      exact hfirst.trans (ih hfirst.keyed)

theorem Stopped.activelyDependsOn (h : Stopped order engine engine')
    (hdepends : engine'.ActivelyDependsOn instanceId providerId) :
    engine.ActivelyDependsOn instanceId providerId := by
  refine Relation.TransGen.mono ?_ instanceId providerId hdepends
  intro dependent provider hdirect
  exact ⟨((h.active dependent).mp hdirect.1).1, (h.dependsOn _ _).mp hdirect.2⟩

theorem mem_activeDependentsOf (h : Consistent engine) :
    instanceId ∈ engine.activeDependentsOf providerId ↔
      ActiveIn engine.instances instanceId ∧ instanceId ≠ providerId ∧
        engine.DependsOn instanceId providerId := by
  unfold activeDependentsOf
  rw [List.mem_filter, h.mem_dependents]
  unfold isActive
  constructor
  · rintro ⟨⟨ext, hlookup, hother, hdepends⟩, hactive⟩
    rw [hlookup] at hactive
    exact ⟨⟨ext, hlookup, by simpa using hactive⟩, hother, ext, hlookup, hdepends⟩
  · rintro ⟨⟨ext, hlookup, hactive⟩, hother, hdepends⟩
    obtain ⟨found, hfound, hdepends⟩ := hdepends
    have hsame : some ext = some found := hlookup.symm.trans hfound
    cases hsame
    have hlookup : engine.extensions.lookup instanceId = some ext := hlookup
    refine ⟨⟨ext, hlookup, hother, hdepends⟩, ?_⟩
    rw [hlookup]
    simp [hactive]

/-- Ranks that grow from every instance to those that depend on it. -/
def RankedBy (rank : ExtensionInstanceId → Nat) (engine : Engine) : Prop :=
  ∀ instanceId providerId, engine.DependsOn instanceId providerId →
    rank providerId < rank instanceId

/-- What a part of a quarantine has done since some instances were visited: it has shut
down some that were not, and all that it has visited is inactive. -/
structure Cleared (scripts : ExtensionInstanceId → InstanceScript) (engine : Engine)
    (visited : List ExtensionInstanceId) (order : List ExtensionInstanceId)
    (state : QuarantineState) : Prop where
  shutDowns : ShutDowns scripts engine order state.1
  visited_subset : visited ⊆ state.2
  inactive : ∀ instanceId ∈ state.2, instanceId ∉ visited →
    ¬ ActiveIn state.1.instances instanceId
  order_visited : ∀ instanceId ∈ order, instanceId ∈ state.2 ∧ instanceId ∉ visited

theorem Cleared.refl (engine : Engine) (visited : List ExtensionInstanceId) :
    Cleared scripts engine visited [] (engine, visited) :=
  ⟨.nil engine, List.Subset.refl _, fun _ hmem hnot => absurd hmem hnot, List.forall_mem_nil _⟩

theorem Cleared.trans {order' : List ExtensionInstanceId} {state state' : QuarantineState}
    (hconsistent : Consistent engine) (h : Cleared scripts engine visited order state)
    (h' : Cleared scripts state.1 state.2 order' state') :
    Cleared scripts engine visited (order ++ order') state' where
  shutDowns := h.shutDowns.append h'.shutDowns
  visited_subset := List.Subset.trans h.visited_subset h'.visited_subset
  inactive instanceId hmem hnot hactive := by
    by_cases hearlier : instanceId ∈ state.2
    · have hstopped := h.shutDowns.stopped hconsistent
      have hstopped' := h'.shutDowns.stopped hstopped.consistent
      exact h.inactive instanceId hearlier hnot ((hstopped'.active instanceId).mp hactive).1
    · exact h'.inactive instanceId hmem hearlier hactive
  order_visited instanceId hmem := by
    rcases List.mem_append.mp hmem with hmem | hmem
    · obtain ⟨hvisited, hnot⟩ := h.order_visited instanceId hmem
      exact ⟨h'.visited_subset hvisited, hnot⟩
    · obtain ⟨hvisited, hnot⟩ := h'.order_visited instanceId hmem
      exact ⟨hvisited, fun hearlier => hnot (h.visited_subset hearlier)⟩

variable (scripts) in
/-- An instance can be shut down once its dependents are inactive. -/
theorem quarantine_stop (hconsistent : Consistent engine)
    (hactive : ActiveIn engine.instances instanceId)
    (hunused : ∀ other, ActiveIn engine.instances other → ¬ engine.DependsOn other instanceId) :
    ∃ engine', containStopFailure
        (engine.stopExtensionInstanceInner instanceId (scripts instanceId) false) =
          (engine', .ok ()) ∧
      ShutDowns scripts engine [instanceId] engine' := by
  obtain ⟨ext, hlookup, hstate⟩ := hactive
  have hfound : engine.extensions.lookup instanceId = some ext := hlookup
  obtain rfl := hconsistent.keyed _ _ hfound
  refine ⟨_, ?_, .cons hfound hstate hunused (.nil _)⟩
  have hinstance : engine.instanceOf ext.instanceId = .ok ext := by
    simp [instanceOf, hfound]
  have hstop : engine.stopExtensionInstanceInner ext.instanceId (scripts ext.instanceId) false =
      engine.shutDown ext (scripts ext.instanceId) := by
    simp [stopExtensionInstanceInner, hinstance, hstate]
  rw [hstop]
  obtain ⟨-, -, herror, -⟩ := hconsistent.shutDown_cases (scripts ext.instanceId) hfound
  cases hresult : (engine.shutDown ext (scripts ext.instanceId)).2 with
  | ok value =>
      unfold containStopFailure
      rw [hresult]
      exact Prod.ext rfl hresult
  | error error =>
      obtain ⟨extensionId, failures, rfl⟩ := herror error hresult
      unfold containStopFailure
      rw [hresult]

variable (scripts) in
/-- A quarantine of an active instance, or of one that it has visited, shuts down active instances
that depend on it, dependents first. The dependents are those of the engine at first, although some
are shut down in the meantime. -/
theorem quarantineRecursive_cleared {rank : ExtensionInstanceId → Nat} (depth : Nat)
    (hconsistent : Consistent engine) (hranked : RankedBy rank engine)
    (hvisited : ∀ other ∈ visited, ActiveIn engine.instances other →
      rank other < rank instanceId)
    (hready : instanceId ∈ visited ∨ ActiveIn engine.instances instanceId)
    (hdepth : engine.DepthSuffices visited instanceId depth) :
    ∃ state order,
      quarantineRecursive scripts depth (engine, visited) instanceId = (state, .ok ()) ∧
      Cleared scripts engine visited order state ∧ instanceId ∈ state.2 ∧
      ∀ other ∈ order, other = instanceId ∨ engine.ActivelyDependsOn other instanceId := by
  induction depth generalizing engine visited instanceId with
  | zero =>
      unfold DepthSuffices at hdepth
      split at hdepth <;> omega
  | succ depth ih =>
      simp only [quarantineRecursive]
      by_cases hmem : instanceId ∈ visited
      · rw [if_pos hmem]
        exact ⟨_, [], rfl, .refl engine visited, hmem, List.forall_mem_nil _⟩
      · rw [if_neg hmem]
        have hactive := hready.resolve_left hmem
        have heach : ∀ (dependents : List ExtensionInstanceId) (state : QuarantineState)
            (order : List ExtensionInstanceId),
            Cleared scripts engine (instanceId :: visited) order state →
            (∀ other ∈ order, engine.ActivelyDependsOn other instanceId) →
            (∀ dependent ∈ dependents, dependent ∈ engine.activeDependentsOf instanceId) →
            ∃ state' order',
              quarantineEach (quarantineRecursive scripts depth) state dependents =
                (state', .ok ()) ∧
              Cleared scripts engine (instanceId :: visited) order' state' ∧
              (∀ other ∈ order', engine.ActivelyDependsOn other instanceId) ∧
              state.2 ⊆ state'.2 ∧ ∀ dependent ∈ dependents, dependent ∈ state'.2 := by
          intro dependents
          induction dependents with
          | nil =>
              intro state order hcleared horder _
              exact ⟨state, order, rfl, hcleared, horder, List.Subset.refl _,
                List.forall_mem_nil _⟩
          | cons dependent rest ihRest =>
              intro state order hcleared horder hdependents
              have hdependent := hdependents dependent List.mem_cons_self
              obtain ⟨hdependentActive, -, hdirect⟩ :=
                (mem_activeDependentsOf hconsistent).mp hdependent
              have hstopped := hcleared.shutDowns.stopped hconsistent
              have hbelow := hranked _ _ hdirect
              obtain ⟨state', order', hfirst, hcleared', hdone, horder'⟩ :=
                @ih dependent state.2 state.1 hstopped.consistent
                  (fun _ _ hdepends => hranked _ _ ((hstopped.dependsOn _ _).mp hdepends))
                  (by
                    intro other hother hotherActive
                    by_cases hearlier : other ∈ instanceId :: visited
                    · rcases List.mem_cons.mp hearlier with rfl | hearlier
                      · exact hbelow
                      · have hless := hvisited other hearlier
                          ((hstopped.active other).mp hotherActive).1
                        omega
                    · exact absurd hotherActive (hcleared.inactive other hother hearlier))
                  (by
                    by_cases hshut : dependent ∈ order
                    · exact .inl (hcleared.order_visited dependent hshut).1
                    · exact .inr ((hstopped.active dependent).mpr ⟨hdependentActive, hshut⟩))
                  (hdepth.dependent hmem (hcleared.shutDowns.sameIds hconsistent.keyed)
                    hcleared.visited_subset
                    (dependents_registered hconsistent.keyed hdependent))
              have hdepends : ∀ other ∈ order ++ order',
                  engine.ActivelyDependsOn other instanceId := by
                intro other hother
                rcases List.mem_append.mp hother with hother | hother
                · exact horder other hother
                · have hstep : engine.ActivelyDependsOn dependent instanceId :=
                    Relation.TransGen.single ⟨hdependentActive, hdirect⟩
                  rcases horder' other hother with rfl | hchain
                  · exact hstep
                  · exact Relation.TransGen.trans (hstopped.activelyDependsOn hchain) hstep
              obtain ⟨final, finalOrder, hrest, hfinal, hfinalOrder, hkept, hall⟩ :=
                ihRest state' (order ++ order') (hcleared.trans hconsistent hcleared') hdepends
                  fun other hother => hdependents other (List.mem_cons_of_mem dependent hother)
              refine ⟨final, finalOrder, ?_, hfinal, hfinalOrder,
                List.Subset.trans hcleared'.visited_subset hkept, ?_⟩
              · obtain ⟨current, seen⟩ := state
                simp only [quarantineEach, hfirst]
                exact hrest
              · intro other hother
                rcases List.mem_cons.mp hother with rfl | hother
                · exact hkept hdone
                · exact hall other hother
        obtain ⟨⟨current, seen⟩, order, heach, hcleared, horder, hkept, hall⟩ :=
          heach (engine.activeDependentsOf instanceId) (engine, instanceId :: visited) []
            (.refl engine _) (List.forall_mem_nil _) fun dependent h => h
        rw [heach]
        dsimp only
        have hstopped := hcleared.shutDowns.stopped hconsistent
        have hstill : ActiveIn current.instances instanceId := by
          refine (hstopped.active instanceId).mpr ⟨hactive, fun hshut => ?_⟩
          exact (hcleared.order_visited instanceId hshut).2 List.mem_cons_self
        have hunused : ∀ other, ActiveIn current.instances other →
            ¬ current.DependsOn other instanceId := by
          intro other hother hdepends
          have hdirect := (hstopped.dependsOn _ _).mp hdepends
          have hbelow := hranked _ _ hdirect
          have hotherActive := ((hstopped.active other).mp hother).1
          have hne : other ≠ instanceId := by
            rintro rfl
            omega
          have hseen := hall other
            ((mem_activeDependentsOf hconsistent).mpr ⟨hotherActive, hne, hdirect⟩)
          by_cases hearlier : other ∈ visited
          · have hless := hvisited other hearlier hotherActive
            omega
          · exact hcleared.inactive other hseen (by simp [hne, hearlier]) hother
        obtain ⟨engine', hstop, hshut⟩ := quarantine_stop scripts hstopped.consistent hstill hunused
        have hfinal := hshut.stopped hstopped.consistent
        refine ⟨(engine', seen), order ++ [instanceId], by rw [hstop], ?_,
          hkept List.mem_cons_self, ?_⟩
        · constructor
          · exact hcleared.shutDowns.append hshut
          · exact List.Subset.trans (List.subset_cons_self _ _) hkept
          · intro other hother hnot hotherActive
            obtain ⟨hcurrent, hne⟩ := (hfinal.active other).mp hotherActive
            rw [List.mem_singleton] at hne
            exact hcleared.inactive other hother (by simp [hne, hnot]) hcurrent
          · intro other hother
            rcases List.mem_append.mp hother with hother | hother
            · obtain ⟨hseen, hnot⟩ := hcleared.order_visited other hother
              exact ⟨hseen, fun hearlier => hnot (List.mem_cons_of_mem instanceId hearlier)⟩
            · rw [List.mem_singleton] at hother
              subst hother
              exact ⟨hkept List.mem_cons_self, hmem⟩
        · intro other hother
          rcases List.mem_append.mp hother with hother | hother
          · exact .inr (horder other hother)
          · exact .inl (List.mem_singleton.mp hother)

variable (scripts) in
/-- A quarantine of an active instance shuts down it and the active instances that depend
on it, each of them once and dependents first. -/
theorem quarantine_order {rank : ExtensionInstanceId → Nat} (hconsistent : Consistent engine)
    (hranked : RankedBy rank engine) (hactive : ActiveIn engine.instances instanceId) :
    ∃ engine' order,
      engine.quarantineExtensionInstance instanceId scripts = (engine', .ok ()) ∧
      ShutDowns scripts engine order engine' ∧ order.Nodup ∧
      (∀ other, other ∈ order ↔ other = instanceId ∨ engine.ActivelyDependsOn other instanceId) ∧
      order.Pairwise fun earlier later => ¬ engine.ActivelyDependsOn later earlier := by
  obtain ⟨state, order, hquarantine, hcleared, hdone, horder⟩ :=
    quarantineRecursive_cleared scripts engine.quarantineDepth hconsistent hranked
      (List.forall_mem_nil _) (.inr hactive)
      (engine.quarantineDepth_suffices instanceId (Nat.le_refl _))
  have hstopped := hcleared.shutDowns.stopped hconsistent
  have hshut : instanceId ∈ order := by
    by_contra hnot
    exact hcleared.inactive instanceId hdone List.not_mem_nil
      ((hstopped.active instanceId).mpr ⟨hactive, hnot⟩)
  refine ⟨state.1, order, ?_, hcleared.shutDowns, hcleared.shutDowns.nodup hconsistent, ?_,
    hcleared.shutDowns.pairwise hconsistent⟩
  · unfold quarantineExtensionInstance
    rw [hquarantine]
  · intro other
    refine ⟨horder other, ?_⟩
    rintro (rfl | hdepends)
    · exact hshut
    · obtain ⟨before, after, rfl⟩ := List.append_of_mem hshut
      exact List.mem_append_left _ (hcleared.shutDowns.dependent_before hconsistent hdepends)

end Engine

end Rintawa.ExtensionEngine
