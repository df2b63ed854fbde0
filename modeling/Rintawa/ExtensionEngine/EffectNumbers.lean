/-
# Numbers of runtime effects

The registry of runtime effects is changed by a few operations only, whatever the engine
does. What they keep holds along every run; in particular every identifier that was given
out carries a number below the next one, so a new identifier replaces no other effect.
-/

import Rintawa.ExtensionEngine.FacilitySteps
import Rintawa.ExtensionEngine.ResolutionOrder

namespace Rintawa.ExtensionEngine

open Rintawa.Lib Rintawa.Sdk Rintawa.UiRuntime

/-! ## What the operations keep -/

/-- A property that the operations on the registry keep. -/
structure EffectInvariant (P : RuntimeEffectRegistry → Prop) : Prop where
  register : ∀ registry owner effect, P registry →
    P (RuntimeEffectRegistry.register registry owner effect).1
  revoke : ∀ registry effectId caller, P registry →
    P (RuntimeEffectRegistry.revoke registry effectId caller).1
  revokeInstance : ∀ registry instanceId, P registry →
    P (RuntimeEffectRegistry.revokeInstance registry instanceId)
  revokeComponent : ∀ registry owner, P registry →
    P (RuntimeEffectRegistry.revokeComponent registry owner)

namespace EffectInvariant

variable {P : RuntimeEffectRegistry → Prop} (hP : EffectInvariant P)
include hP

/-- Every step of the registries keeps the property. -/
theorem step {facilities facilities' : EngineFacilities} (h : P facilities.runtimeEffects)
    (hstep : FacilityStep facilities facilities') : P facilities'.runtimeEffects := by
  cases hstep with
  | registerEffect owner effect => exact hP.register _ _ _ h
  | revokeEffect effectId caller => exact hP.revoke _ _ _ h
  | revokeInstanceEffects instanceId => exact hP.revokeInstance _ _ h
  | revokeComponentEffects owner => exact hP.revokeComponent _ _ h
  | callUi call => exact h
  | others sameEffects sameUi => exact sameEffects ▸ h

theorem perform {facilities : EngineFacilities} (h : P facilities.runtimeEffects)
    (secrets : SecretManager) (owner : ComponentRef) (executionActive : Bool)
    (call : ContextCall) :
    P (facilities.perform secrets owner executionActive call).runtimeEffects :=
  FacilitySteps.preserves (fun _ _ => hP.step)
    (steps_perform facilities secrets owner executionActive call) h

theorem runCallback {facilities : EngineFacilities} (h : P facilities.runtimeEffects)
    (secrets : SecretManager) (owner : ComponentRef) (kind : CallbackKind)
    (callback : Callback) :
    P (facilities.runCallback secrets owner kind callback).runtimeEffects :=
  FacilitySteps.preserves (fun _ _ => hP.step)
    (steps_runCallback facilities secrets owner kind callback) h

/-- The property holds along every run when it holds at first. -/
theorem of_reachable (hnew : P .new) {engine : Engine} (h : engineSystem.Reachable engine) :
    P engine.runtimeEffects :=
  facilities_of_reachable (P := fun facilities => P facilities.runtimeEffects) hnew
    (fun _ _ => hP.step) h

end EffectInvariant

/-! ## Numbers -/

/-- An identifier ends in a number that was given out. -/
def Issued (registry : RuntimeEffectRegistry) (effectId : RuntimeEffectId) : Prop :=
  ∃ before number, number < registry.nextEffectSequence ∧
    effectId.asStr.toList = before ++ '.' :: (toString number).toList

/-- An identifier that was given out is not the next one. -/
theorem Issued.ne_nextEffectId {registry : RuntimeEffectRegistry} {effectId : RuntimeEffectId}
    (h : Issued registry effectId) (owner : ComponentRef) :
    effectId ≠ registry.nextEffectId owner := by
  rintro rfl
  obtain ⟨before, number, hnumber, hchars⟩ := h
  have hseparator : ∀ number : Nat, '.' ∉ Nat.toDigits 10 number := not_mem_toDigits (by decide)
  have hnext : (registry.nextEffectId owner).asStr.toList =
      (owner.instanceId.asStr.toList ++ '.' :: owner.componentId.asStr.toList ++
        ".effect".toList) ++ '.' :: Nat.toDigits 10 registry.nextEffectSequence := by
    simp [RuntimeEffectRegistry.nextEffectId]
  rw [hnext, toList_toString] at hchars
  have hsame := (append_cons_inj hchars (hseparator _) (hseparator _)).2
  rw [toDigits_injective hsame] at hnumber
  exact absurd hnumber (Nat.lt_irrefl _)

/-- Every identifier ends in a number that was given out. -/
def Numbered (registry : RuntimeEffectRegistry) : Prop :=
  ∀ effectId owned, registry.effects.lookup effectId = some owned →
    ∃ before number, number < registry.nextEffectSequence ∧
      effectId.asStr.toList = before ++ '.' :: (toString number).toList

/-- The next identifier is new. -/
theorem Numbered.fresh {registry : RuntimeEffectRegistry} (h : Numbered registry)
    (owner : ComponentRef) : registry.effects.lookup (registry.nextEffectId owner) = none := by
  cases hlookup : registry.effects.lookup (registry.nextEffectId owner) with
  | none => rfl
  | some owned =>
      have hissued : Issued registry (registry.nextEffectId owner) := h _ owned hlookup
      exact absurd rfl (hissued.ne_nextEffectId owner)

/-- Numbers are given out once. -/
theorem numbered_invariant : EffectInvariant Numbered where
  register registry owner effect h := by
    unfold RuntimeEffectRegistry.register
    split
    · exact h
    · split
      · intro effectId owned hlookup
        rw [Dict.lookup_insert_ite] at hlookup
        split at hlookup
        · next heq =>
            subst heq
            refine ⟨owner.instanceId.asStr.toList ++ '.' :: owner.componentId.asStr.toList ++
              ".effect".toList, registry.nextEffectSequence, Nat.lt_succ_self _, ?_⟩
            simp [RuntimeEffectRegistry.nextEffectId]
        · obtain ⟨before, number, hnumber, hchars⟩ := h effectId owned hlookup
          exact ⟨before, number, Nat.lt_succ_of_lt hnumber, hchars⟩
      · exact h
  revoke registry effectId caller h := by
    unfold RuntimeEffectRegistry.revoke
    split
    · intro other owned hlookup
      rw [Dict.lookup_erase_ite] at hlookup
      split at hlookup
      · cases hlookup
      · exact h other owned hlookup
    · exact h
  revokeInstance registry instanceId h := by
    intro effectId owned hlookup
    simp only [RuntimeEffectRegistry.revokeInstance, Dict.lookup_retain,
      Option.filter_eq_some_iff] at hlookup
    exact h effectId owned hlookup.1
  revokeComponent registry owner h := by
    intro effectId owned hlookup
    simp only [RuntimeEffectRegistry.revokeComponent, Dict.lookup_retain,
      Option.filter_eq_some_iff] at hlookup
    exact h effectId owned hlookup.1

/-- Effects are numbered in every engine that is reached. -/
theorem numbered_of_reachable {engine : Engine} (h : engineSystem.Reachable engine) :
    Numbered engine.runtimeEffects :=
  numbered_invariant.of_reachable (fun _ _ hlookup => by cases hlookup) h

end Rintawa.ExtensionEngine
