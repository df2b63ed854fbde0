/-
# Live control grants

A grant is live from the mutation that makes it until a later mutation revokes it
or deletes its actor. The grant tables hold exactly the live grants of the log,
although a deletion removes grants without naming them.
-/

import Rintawa.Lib.Lists
import Rintawa.Storage.Integrity

namespace Rintawa.Storage

open Rintawa.Lib Rintawa.Sdk Rintawa.World

/-- A mutation after which a grant is no longer live. -/
def Ends (grant : ControlGrant) : WorldMutation → Prop
  | .revokeControl grantId => grantId = grant.id
  | .deleteEntity entityId => entityId = grant.actorEntity
  | _ => False

/-- A log makes a grant, and nothing after that ends it. -/
def Live (logged : List (Nat × WorldMutation)) (grant : ControlGrant) : Prop :=
  ∃ before position after,
    logged = before ++ (position, .grantControl grant) :: after ∧
      ∀ entry ∈ after, ¬ Ends grant entry.2

/-! ## The list of live grants -/

/-- The effect of one mutation on the list of live grants, each with the position
it was made at. -/
def grantStep (live : List (Nat × ControlGrant)) (entry : Nat × WorldMutation) :
    List (Nat × ControlGrant) :=
  match entry.2 with
  | .grantControl grant => live ++ [(entry.1, grant)]
  | .revokeControl grantId => live.filter fun made => !decide (made.2.id = grantId)
  | .deleteEntity entityId => live.filter fun made => !decide (made.2.actorEntity = entityId)
  | _ => live

/-- The live grants of a log. -/
def liveGrants (logged : List (Nat × WorldMutation)) : List (Nat × ControlGrant) :=
  logged.foldl grantStep []

@[simp]
theorem liveGrants_nil : liveGrants [] = [] :=
  rfl

theorem liveGrants_snoc (logged : List (Nat × WorldMutation)) (entry : Nat × WorldMutation) :
    liveGrants (logged ++ [entry]) = grantStep (liveGrants logged) entry := by
  simp only [liveGrants, List.foldl_append, List.foldl_cons, List.foldl_nil]

variable {entry : Nat × WorldMutation} {logged : List (Nat × WorldMutation)}

/-- One mutation keeps the grants that it does not end, and may add one. -/
theorem mem_grantStep {live : List (Nat × ControlGrant)} {made : Nat × ControlGrant} :
    made ∈ grantStep live entry ↔
      (made ∈ live ∧ ¬ Ends made.2 entry.2) ∨ (made.1, .grantControl made.2) = entry := by
  obtain ⟨position, mutation⟩ := entry
  obtain ⟨madeAt, grant⟩ := made
  cases mutation with
  | grantControl other =>
      simp [grantStep, Ends]
  | revokeControl grantId =>
      simp [grantStep, Ends, @eq_comm _ grantId]
  | deleteEntity entityId =>
      simp [grantStep, Ends, @eq_comm _ entityId]
  | _ => simp [grantStep, Ends]

/-- A grant is live after one more mutation if it was and the mutation does not
end it, or if the mutation makes it. -/
theorem live_snoc {grant : ControlGrant} :
    Live (logged ++ [entry]) grant ↔
      (Live logged grant ∧ ¬ Ends grant entry.2) ∨ entry.2 = .grantControl grant := by
  constructor
  · rintro ⟨before, position, after, hsplit, hkeeps⟩
    rcases List.eq_nil_or_concat' after with rfl | ⟨rest, last, rfl⟩
    · obtain ⟨-, hentry⟩ := List.append_inj' hsplit rfl
      cases hentry
      exact Or.inr rfl
    · rw [← List.cons_append, ← List.append_assoc] at hsplit
      obtain ⟨rfl, hlast⟩ := List.append_inj' hsplit rfl
      cases hlast
      refine Or.inl ⟨⟨before, position, rest, rfl, ?_⟩, hkeeps entry (by simp)⟩
      intro other hother
      exact hkeeps other (List.mem_append_left _ hother)
  · rintro (⟨⟨before, position, after, rfl, hkeeps⟩, hlast⟩ | hmade)
    · refine ⟨before, position, after ++ [entry], by simp, ?_⟩
      intro other hother
      rcases List.mem_append.mp hother with hold | hnew
      · exact hkeeps other hold
      · rw [List.mem_singleton.mp hnew]
        exact hlast
    · obtain ⟨position, mutation⟩ := entry
      cases hmade
      exact ⟨logged, position, [], rfl, by simp⟩

/-- The computed list holds exactly the grants that are live. -/
theorem mem_liveGrants_iff {grant : ControlGrant} :
    (∃ position, (position, grant) ∈ liveGrants logged) ↔ Live logged grant := by
  induction logged using List.reverseRecOn with
  | nil => simp [Live]
  | append_singleton logged entry ih =>
      rw [live_snoc, ← ih, liveGrants_snoc]
      simp only [mem_grantStep]
      constructor
      · rintro ⟨position, ⟨hold, hkeeps⟩ | hmade⟩
        · exact Or.inl ⟨⟨position, hold⟩, hkeeps⟩
        · exact Or.inr (congrArg Prod.snd hmade).symm
      · rintro (⟨⟨position, hold⟩, hkeeps⟩ | hmade)
        · exact ⟨position, Or.inl ⟨hold, hkeeps⟩⟩
        · exact ⟨entry.1, Or.inr (Prod.ext rfl hmade.symm)⟩

/-! ## The grant tables -/

/-- The grant tables hold exactly the given grants. -/
structure HoldsGrants (live : List (Nat × ControlGrant)) (s : StateTables) : Prop where
  grants : s.controlGrants = live.map fun made => grantRow made.2 made.1
  scopes : s.controlGrantSchemas = live.flatMap fun made => grantSchemaRows made.2

namespace HoldsGrants

variable {live : List (Nat × ControlGrant)} {s : StateTables}

theorem empty : HoldsGrants [] .empty :=
  ⟨rfl, rfl⟩

/-- Deleting grants by a property of their rows. Only one grant is made under an identity. -/
theorem deleteGrants (h : HoldsGrants live s) (hids : (live.map fun made => made.2.id).Nodup)
    {doomed : ControlGrantRow → Bool} {keep : Nat × ControlGrant → Bool}
    (hkeep : ∀ made, doomed (grantRow made.2 made.1) = !keep made) :
    HoldsGrants (live.filter keep) (s.deleteGrants doomed) where
  grants := by
    show s.controlGrants.filter (fun grant => !doomed grant) = _
    rw [h.grants, List.filter_map]
    congr 1
    apply List.filter_congr
    intro made _
    simp [hkeep]
  scopes := by
    show s.controlGrantSchemas.filter (fun row => !(s.controlGrants.any fun grant =>
      doomed grant && decide (grant.grantId = row.grantId))) = _
    rw [h.scopes]
    apply filter_flatMap_eq
    intro made hmade row hrow
    obtain ⟨schema, -, rfl⟩ := List.mem_map.mp hrow
    have hsame : ∀ other ∈ live, other.2.id = made.2.id → other = made :=
      fun other hother heq => List.inj_on_of_nodup_map hids hother hmade heq
    have hdoomed : (s.controlGrants.any fun grant =>
        doomed grant && decide (grant.grantId = made.2.id)) = !keep made := by
      rw [h.grants, List.any_map, Bool.eq_iff_iff, List.any_eq_true, ← hkeep made]
      constructor
      · rintro ⟨other, hother, hboth⟩
        simp only [Function.comp_apply, Bool.and_eq_true, decide_eq_true_eq] at hboth
        rw [← hsame other hother hboth.2]
        exact hboth.1
      · intro hmadeDoomed
        refine ⟨made, hmade, ?_⟩
        simp only [Function.comp_apply, hmadeDoomed, Bool.true_and, decide_eq_true_eq]
        rfl
    simp [hdoomed]

/-- The tables follow the list of live grants through every mutation. -/
theorem applies {parents : ParentKeys} {s' : StateTables} (h : HoldsGrants live s)
    (hintegrity : Integrity s) (happly : Applies parents s entry.1 entry.2 s') :
    HoldsGrants (grantStep live entry) s' := by
  have hids : (live.map fun made => made.2.id).Nodup := by
    have hnodup := hintegrity.grantIds
    rw [h.grants, List.map_map] at hnodup
    exact hnodup
  obtain ⟨position, mutation⟩ := entry
  cases mutation with
  | createEntity entity =>
      obtain ⟨_, _, _, rfl⟩ := happly
      exact ⟨h.grants, h.scopes⟩
  | deleteEntity entityId =>
      obtain ⟨_, rfl⟩ := happly
      have hdeleted : HoldsGrants
          (live.filter fun made => !decide (made.2.actorEntity = entityId))
          (s.deleteGrants fun grant => decide (grant.actorEntityId = entityId)) :=
        h.deleteGrants hids fun made => (Bool.not_not _).symm
      exact ⟨hdeleted.grants, hdeleted.scopes⟩
  | createRelation relation =>
      obtain ⟨_, _, _, _, _, rfl⟩ := happly
      exact ⟨h.grants, h.scopes⟩
  | deleteRelation relationId =>
      obtain ⟨_, rfl⟩ := happly
      exact ⟨h.grants, h.scopes⟩
  | setFacet facet =>
      obtain ⟨_, _, _, rfl⟩ := happly
      obtain ⟨target, schema, payload⟩ := facet
      cases target <;> exact ⟨h.grants, h.scopes⟩
  | removeFacet target schema =>
      obtain ⟨_, rfl⟩ := happly
      cases target <;> exact ⟨h.grants, h.scopes⟩
  | grantControl grant =>
      obtain ⟨_, _, _, _, _, _, rfl⟩ := happly
      constructor
      · simp [StateTables.insertGrant, h.grants, grantStep]
      · simp [StateTables.insertGrant, h.scopes, grantStep]
  | revokeControl grantId =>
      obtain ⟨_, rfl⟩ := happly
      exact h.deleteGrants hids fun made => (Bool.not_not _).symm

/-- Replaying a log yields the grant tables of its live grants. -/
theorem replay {parents : ParentKeys} (h : replay parents .empty logged = .ok s) :
    HoldsGrants (liveGrants logged) s := by
  induction logged using List.reverseRecOn generalizing s with
  | nil =>
      cases h
      exact empty
  | append_singleton logged entry ih =>
      obtain ⟨middle, hbefore, hlast⟩ := replay_append_eq_ok_iff.mp h
      obtain ⟨final, happly, hfinal⟩ := replay_cons_eq_ok_iff.mp hlast
      cases hfinal
      rw [liveGrants_snoc]
      exact (ih hbefore).applies (Integrity.empty.replay hbefore)
        (applyMutation_eq_ok_iff.mp happly)

end HoldsGrants

end Rintawa.Storage
