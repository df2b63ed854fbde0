/-
# Agreement of contract definitions

The definitions of one contract in one scope agree on their terms, and no contract is
defined by the platform and by an instance. Both are checked when an instance is registered
and when the platform defines a contract, against active and stopped instances alike.
Therefore nothing that is resolved depends on the order of the instances in their map.
-/

import Rintawa.ExtensionEngine.EngineSteps
import Rintawa.ExtensionEngine.ResolutionOrder

namespace Rintawa.ExtensionEngine

open Rintawa.Lib Rintawa.Sdk

/-! ## The invariant -/

/-- An instance of a scope defines a contract. -/
def Defines (engine : Engine) (scopeId : RuntimeScopeId) (definition : ContractDefinition) :
    Prop :=
  ∃ instanceId ext owned, engine.extensions.lookup instanceId = some ext ∧
    ext.scopeId = scopeId ∧ owned ∈ ext.contractDefinitions ∧ owned.definition = definition

/-- Instances agree on the contracts that they define, and leave those of the platform. -/
structure DefinitionsAgree (engine : Engine) : Prop where
  terms : ∀ scopeId definition other, Defines engine scopeId definition →
    Defines engine scopeId other → definition.contract = other.contract →
    Engine.termsOf definition = Engine.termsOf other
  platform : ∀ scopeId contract definition,
    (engine.platformDefinitionsIn scopeId).lookup contract = some definition →
    definition.contract = contract
  reserved : ∀ scopeId definition, Defines engine scopeId definition →
    (engine.platformDefinitionsIn scopeId).lookup definition.contract = none

variable {scopeId : RuntimeScopeId} {definition : ContractDefinition}

theorem mem_extensionsIn {engine : Engine} {ext : ManagedExtension} :
    ext ∈ engine.extensionsIn scopeId ↔
      (∃ instanceId, engine.extensions.lookup instanceId = some ext) ∧ ext.scopeId = scopeId := by
  rw [Engine.extensionsIn, List.mem_filter, Dict.mem_values_iff, beq_iff_eq]

theorem defines_iff {engine : Engine} :
    Defines engine scopeId definition ↔
      ∃ owned ∈ (engine.extensionsIn scopeId).flatMap fun ext => ext.contractDefinitions,
        owned.definition = definition := by
  simp only [List.mem_flatMap, mem_extensionsIn]
  constructor
  · rintro ⟨instanceId, ext, owned, hlookup, hscope, howned, hdefinition⟩
    exact ⟨owned, ⟨ext, ⟨⟨instanceId, hlookup⟩, hscope⟩, howned⟩, hdefinition⟩
  · rintro ⟨owned, ⟨ext, ⟨⟨instanceId, hlookup⟩, hscope⟩, howned⟩, hdefinition⟩
    exact ⟨instanceId, ext, owned, hlookup, hscope, howned, hdefinition⟩

/-! ## What the checks establish -/

/-- Incoming definitions that pass the check are not defined by the platform, and all of
them agree with the known terms and with each other. -/
theorem checkDefinitions_ok {engine : Engine} {terms : Dict ContractKey Engine.DefinitionTerms}
    {incoming : List OwnedContractDefinition}
    (h : engine.checkDefinitions scopeId terms incoming = .ok ()) :
    ∃ final : Dict ContractKey Engine.DefinitionTerms,
      (∀ contract known, terms.lookup contract = some known →
        final.lookup contract = some known) ∧
      ∀ owned ∈ incoming,
        (engine.platformDefinitionsIn scopeId).lookup owned.definition.contract = none ∧
        final.lookup owned.definition.contract = some (Engine.termsOf owned.definition) := by
  induction incoming generalizing terms with
  | nil => exact ⟨terms, fun _ _ hknown => hknown, fun _ hmem => by cases hmem⟩
  | cons owned rest ih =>
      simp only [Engine.checkDefinitions] at h
      split at h
      · cases h
      · next hfree =>
          have hnone := Option.not_isSome_iff_eq_none.mp hfree
          split at h
          · next existing hexisting =>
              split at h
              · next hsame =>
                  obtain ⟨final, hkept, hrest⟩ := ih h
                  refine ⟨final, hkept, ?_⟩
                  intro other hother
                  rcases List.mem_cons.mp hother with rfl | hother
                  · exact ⟨hnone, hsame ▸ hkept _ _ hexisting⟩
                  · exact hrest other hother
              · cases h
          · next habsent =>
              obtain ⟨final, hkept, hrest⟩ := ih h
              refine ⟨final, ?_, ?_⟩
              · intro contract known hknown
                refine hkept contract known ?_
                rw [Dict.lookup_insert_ite, if_neg]
                · exact hknown
                · rintro rfl
                  rw [habsent] at hknown
                  cases hknown
              · intro other hother
                rcases List.mem_cons.mp hother with rfl | hother
                · exact ⟨hnone, hkept _ _ (AList.lookup_insert _)⟩
                · exact hrest other hother

/-- The last of several agreeing definitions gives the terms of each of them. -/
theorem lookup_foldl_terms {contract : ContractKey} {known : Engine.DefinitionTerms}
    {entries : List OwnedContractDefinition} {terms : Dict ContractKey Engine.DefinitionTerms}
    (hagree : ∀ owned ∈ entries, owned.definition.contract = contract →
      Engine.termsOf owned.definition = known)
    (hthere : (∃ owned ∈ entries, owned.definition.contract = contract) ∨
      terms.lookup contract = some known) :
    AList.lookup contract (entries.foldl
      (fun terms owned => terms.insert owned.definition.contract
        (Engine.termsOf owned.definition)) terms) = some known := by
  induction entries generalizing terms with
  | nil =>
      rcases hthere with ⟨owned, hmem, -⟩ | hknown
      · cases hmem
      · exact hknown
  | cons owned rest ih =>
      refine ih (fun other hother => hagree other (List.mem_cons_of_mem owned hother)) ?_
      rw [Dict.lookup_insert_ite]
      by_cases hcontract : contract = owned.definition.contract
      · rw [if_pos hcontract, hagree owned List.mem_cons_self hcontract.symm]
        exact .inr rfl
      · rw [if_neg hcontract]
        rcases hthere with ⟨other, hmem, hother⟩ | hknown
        · rcases List.mem_cons.mp hmem with rfl | hmem
          · exact absurd hother.symm hcontract
          · exact .inl ⟨other, hmem, hother⟩
        · exact .inr hknown

section Agreement

variable {engine engine' : Engine} (h : DefinitionsAgree engine)
include h

/-- The terms that the engine finds are those of every definition. -/
theorem DefinitionsAgree.definedTerms (hdefines : Defines engine scopeId definition) :
    (engine.definedTerms scopeId).lookup definition.contract =
      some (Engine.termsOf definition) := by
  obtain ⟨owned, howned, rfl⟩ := defines_iff.mp hdefines
  refine lookup_foldl_terms ?_ (.inl ⟨owned, howned, rfl⟩)
  intro other hother hcontract
  exact h.terms scopeId _ _ (defines_iff.mpr ⟨other, hother, rfl⟩) hdefines hcontract

/-- Fewer definitions of instances, and the same ones of the platform. -/
theorem DefinitionsAgree.mono
    (hdefines : ∀ scopeId definition, Defines engine' scopeId definition →
      Defines engine scopeId definition)
    (hplatform : engine'.platformContractDefinitions = engine.platformContractDefinitions) :
    DefinitionsAgree engine' := by
  have hsame : ∀ scopeId, engine'.platformDefinitionsIn scopeId =
      engine.platformDefinitionsIn scopeId := by
    intro scopeId
    unfold Engine.platformDefinitionsIn
    rw [hplatform]
  constructor
  · intro scopeId definition other hdefinition hother
    exact h.terms scopeId definition other (hdefines _ _ hdefinition) (hdefines _ _ hother)
  · intro scopeId
    rw [hsame]
    exact h.platform scopeId
  · intro scopeId definition hdefinition
    rw [hsame]
    exact h.reserved scopeId definition (hdefines _ _ hdefinition)

/-- A new instance whose definitions passed the check keeps the agreement: in its scope, both the
definitions there and its own have the terms that the check ends with. -/
theorem DefinitionsAgree.enroll {ext : ManagedExtension}
    (hvalid : engine.validateContractDefinitions ext.scopeId ext.contractDefinitions = .ok ())
    (hextensions : engine'.extensions = engine.extensions.insert ext.instanceId ext)
    (hplatform : engine'.platformContractDefinitions = engine.platformContractDefinitions) :
    DefinitionsAgree engine' := by
  obtain ⟨final, hkept, hincoming⟩ := checkDefinitions_ok hvalid
  have hsame : ∀ scopeId, engine'.platformDefinitionsIn scopeId =
      engine.platformDefinitionsIn scopeId := by
    intro scopeId
    unfold Engine.platformDefinitionsIn
    rw [hplatform]
  have hdefines : ∀ scopeId definition, Defines engine' scopeId definition →
      Defines engine scopeId definition ∨
        (ext.scopeId = scopeId ∧ ∃ owned ∈ ext.contractDefinitions,
          owned.definition = definition) := by
    rintro scopeId definition ⟨instanceId, other, owned, hlookup, hscope, howned, hdefinition⟩
    rw [hextensions, Dict.lookup_insert_ite] at hlookup
    split at hlookup
    · cases hlookup
      exact .inr ⟨hscope, owned, howned, hdefinition⟩
    · exact .inl ⟨instanceId, other, owned, hlookup, hscope, howned, hdefinition⟩
  have hfinal : ∀ definition, Defines engine' ext.scopeId definition →
      final.lookup definition.contract = some (Engine.termsOf definition) := by
    intro definition hdefinition
    rcases hdefines _ _ hdefinition with hold | ⟨-, owned, howned, rfl⟩
    · exact hkept _ _ (h.definedTerms hold)
    · exact (hincoming owned howned).2
  constructor
  · intro scopeId definition other hdefinition hother hcontract
    by_cases hscope : ext.scopeId = scopeId
    · subst hscope
      have hterms := hfinal definition hdefinition
      rw [hcontract, hfinal other hother] at hterms
      exact (Option.some.inj hterms).symm
    · rcases hdefines _ _ hdefinition with hold | ⟨hnew, -⟩
      · rcases hdefines _ _ hother with hold' | ⟨hnew, -⟩
        · exact h.terms scopeId definition other hold hold' hcontract
        · exact absurd hnew hscope
      · exact absurd hnew hscope
  · intro scopeId
    rw [hsame]
    exact h.platform scopeId
  · intro scopeId definition hdefinition
    rw [hsame]
    rcases hdefines _ _ hdefinition with hold | ⟨rfl, owned, howned, rfl⟩
    · exact h.reserved scopeId definition hold
    · exact (hincoming owned howned).1

/-- A contract of the platform that no instance defines. -/
theorem DefinitionsAgree.definePlatform (hunused : ((engine.extensionsIn scopeId).any fun ext =>
      ext.contractDefinitions.any fun owned =>
        owned.definition.contract == definition.contract) = false)
    (hextensions : engine'.extensions = engine.extensions)
    (hplatform : engine'.platformContractDefinitions =
      engine.platformContractDefinitions.insert scopeId
        ((engine.platformDefinitionsIn scopeId).insert definition.contract definition)) :
    DefinitionsAgree engine' := by
  have hlookup : ∀ other contract, (engine'.platformDefinitionsIn other).lookup contract =
      if other = scopeId ∧ contract = definition.contract then some definition
      else (engine.platformDefinitionsIn other).lookup contract := by
    intro other contract
    rw [Engine.platformDefinitionsIn, hplatform, Dict.inner_insert]
    by_cases hscope : other = scopeId
    · rw [if_pos hscope, Dict.lookup_insert_ite, hscope]
      simp
    · rw [if_neg hscope, if_neg (fun heq => hscope heq.1)]
      rfl
  have hsame : ∀ scopeId definition, Defines engine' scopeId definition ↔
      Defines engine scopeId definition := by
    intro scopeId definition
    unfold Defines
    rw [hextensions]
  constructor
  · intro scopeId
    simp only [hsame]
    exact h.terms scopeId
  · intro other contract found hfound
    rw [hlookup] at hfound
    split at hfound
    · next heq =>
        cases hfound
        exact heq.2.symm
    · exact h.platform other contract found hfound
  · intro other found hfound
    rw [hlookup, if_neg]
    · exact h.reserved other found ((hsame _ _).mp hfound)
    · rintro ⟨rfl, hcontract⟩
      obtain ⟨owned, howned, rfl⟩ := defines_iff.mp ((hsame _ _).mp hfound)
      obtain ⟨ext, hext, hmem⟩ := List.mem_flatMap.mp howned
      have hnone := List.any_eq_false.mp hunused ext hext
      rw [Bool.not_eq_true] at hnone
      have hdiffers := List.any_eq_false.mp hnone owned hmem
      simp [hcontract] at hdiffers

/-- No change breaks the agreement. -/
theorem DefinitionsAgree.change {op : EngineOp} (hchange : Change op engine engine') :
    DefinitionsAgree engine' := by
  have hstate : ∀ (ext : ManagedExtension) (state : ExtensionState),
      engine.extensions.lookup ext.instanceId = some ext →
      ∀ (engine' : Engine), engine'.extensions =
        engine.extensions.insert ext.instanceId { ext with state := state } →
      ∀ scopeId definition, Defines engine' scopeId definition →
        Defines engine scopeId definition := by
    rintro ext state hfound engine' hextensions scopeId definition
      ⟨instanceId, other, owned, hlookup, hscope, howned, hdefinition⟩
    rw [hextensions, Dict.lookup_insert_ite] at hlookup
    split at hlookup
    · cases hlookup
      exact ⟨ext.instanceId, ext, owned, hfound, hscope, howned, hdefinition⟩
    · exact ⟨instanceId, other, owned, hlookup, hscope, howned, hdefinition⟩
  cases hchange with
  | facilities | prefer | grantSecret | grantPermission | revokeSecrets =>
      exact h.mono (fun _ _ hdefines => hdefines) rfl
  | enroll facilities ext _ _ _ _ _ definitions => exact h.enroll definitions rfl rfl
  | activate facilities ext _ found => exact h.mono (hstate ext .active found _ rfl) rfl
  | halt facilities ext found => exact h.mono (hstate ext .stopped found _ rfl) rfl
  | forget ext =>
      refine h.mono ?_ rfl
      rintro scopeId definition ⟨instanceId, other, owned, hlookup, hrest⟩
      refine ⟨instanceId, other, owned, ?_, hrest⟩
      change (engine.extensions.erase ext.instanceId).lookup instanceId = _ at hlookup
      rw [Dict.lookup_erase_ite] at hlookup
      split at hlookup
      · cases hlookup
      · exact hlookup
  | definePlatform facilities scopeId definition unused =>
      exact h.definePlatform unused rfl rfl
  | clearPlatform scopeId =>
      have hlookup : ∀ other contract,
          ((engine.clearPlatformContractDefinitionsInScope scopeId).platformDefinitionsIn
            other).lookup contract =
          if other = scopeId then none
          else (engine.platformDefinitionsIn other).lookup contract :=
        fun other contract => Dict.inner_erase _ scopeId other contract
      constructor
      · exact h.terms
      · intro other contract definition hfound
        rw [hlookup] at hfound
        split at hfound
        · cases hfound
        · exact h.platform other contract definition hfound
      · intro other definition hdefines
        rw [hlookup]
        split
        · rfl
        · exact h.reserved other definition hdefines

end Agreement

/-- The definitions agree in every engine that is reached. -/
theorem definitionsAgree_of_reachable {engine : Engine} (h : engineSystem.Reachable engine) :
    DefinitionsAgree engine := by
  refine reachable_induction ?_ ?_ h
  · constructor
    · rintro scopeId definition other ⟨instanceId, ext, owned, hlookup, -⟩
      cases hlookup
    · intro scopeId contract definition hlookup
      cases hlookup
    · rintro scopeId definition ⟨instanceId, ext, owned, hlookup, -⟩
      cases hlookup
  · intro op engine engine' _ hagree hchange _
    exact hagree.change hchange

end Rintawa.ExtensionEngine
