/-
# Authority of grants

Grants are kept by principal, apart from the manifests that request them. A grant can
only be made while an instance is registered whose manifest requests it, and it goes with
that instance. What a component reads is therefore covered by the manifest that is
registered now and by a grant that was made since it was registered.
-/

import Rintawa.ExtensionEngine.EngineSteps
import Rintawa.Sdk.SecretPatterns

namespace Rintawa.ExtensionEngine

open Rintawa.Lib Rintawa.Sdk

/-! ## Grants of the engine -/

/-- What the host can grant to a component. -/
inductive Grant
  | secretRead (pattern : SecretPathPattern)
  | runtime (permission : RuntimePermission)

/-- A grant that the engine keeps for a component. -/
def Engine.Holds (engine : Engine) (owner : ComponentRef) : Grant → Prop
  | .secretRead pattern =>
      ∃ patterns, engine.secrets.readGrants.lookup owner = some patterns ∧ pattern ∈ patterns
  | .runtime permission =>
      ∃ permissions, engine.runtimePermissions.grants.lookup owner = some permissions ∧
        permission ∈ permissions

/-- A grant that a component requests. -/
def RequestedBy (component : ComponentDescriptor) : Grant → Prop
  | .secretRead pattern =>
      ∃ requested ∈ component.permissions.secretRead, requested.allowsPattern pattern = true
  | .runtime permission => permission ∈ component.permissions.runtime

/-- A grant that a manifest requests for one of its components. -/
def RequestedIn (manifest : ExtensionManifest) (componentId : ComponentId) (grant : Grant) : Prop :=
  ∃ component ∈ manifest.components, component.id = componentId ∧ RequestedBy component grant

/-- The operation that makes a grant. -/
def Grant.op (owner : ComponentRef) : Grant → EngineOp
  | .secretRead pattern =>
      .grantRequestedSecretReadForInstance owner.instanceId owner.componentId pattern
  | .runtime permission =>
      .grantRequestedRuntimePermissionForInstance owner.instanceId owner.componentId permission

/-- The manifest of a registered instance. -/
def Engine.manifestOf (engine : Engine) (instanceId : ExtensionInstanceId) :
    Option ExtensionManifest :=
  (engine.extensions.lookup instanceId).map fun ext => ext.manifest

/-- A grant was made to a component of an instance that was registered then, with its
manifest of now, and that has been registered with it after every operation since. -/
def GrantedSinceRegistration (history : List EngineEvent) (engine : Engine) (owner : ComponentRef)
    (manifest : ExtensionManifest) (grant : Grant) : Prop :=
  ∃ before after granting, history = before ++ ⟨grant.op owner, .ok ()⟩ :: after ∧
    engineSystem.Run .new before granting ∧
    granting.manifestOf owner.instanceId = some manifest ∧
    engineSystem.RunWith
      (fun _ _ _ engine => engine.manifestOf owner.instanceId = some manifest) granting
      (⟨grant.op owner, .ok ()⟩ :: after) engine

/-! ## What a change does to grants -/

variable {owner : ComponentRef}

/-- Making a grant adds nothing but this grant. -/
theorem holds_grantRead {secrets : SecretManager} {other : ComponentRef}
    {pattern granted : SecretPathPattern} {patterns : List SecretPathPattern}
    (hlookup : (secrets.grantRead owner granted).readGrants.lookup other = some patterns)
    (hmem : pattern ∈ patterns) :
    (∃ before, secrets.readGrants.lookup other = some before ∧ pattern ∈ before) ∨
      other = owner ∧ pattern = granted := by
  unfold SecretManager.grantRead at hlookup
  dsimp only at hlookup
  split at hlookup
  · exact .inl ⟨patterns, hlookup, hmem⟩
  · exact Dict.mem_insert_append hlookup hmem

theorem holds_grant {manager : RuntimePermissionManager} {other : ComponentRef}
    {permission granted : RuntimePermission} {permissions : List RuntimePermission}
    (hlookup : (manager.grant owner granted).grants.lookup other = some permissions)
    (hmem : permission ∈ permissions) :
    (∃ before, manager.grants.lookup other = some before ∧ permission ∈ before) ∨
      other = owner ∧ permission = granted := by
  unfold RuntimePermissionManager.grant at hlookup
  dsimp only at hlookup
  split at hlookup
  · exact .inl ⟨permissions, hlookup, hmem⟩
  · exact Dict.mem_insert_append hlookup hmem

/-- Revocation leaves the grants of the others. -/
theorem lookup_revokeComponent (secrets : SecretManager) (owner other : ComponentRef) :
    (secrets.revokeComponent owner).readGrants.lookup other =
      if other = owner then none else secrets.readGrants.lookup other := by
  unfold SecretManager.revokeComponent
  split
  · exact Dict.lookup_erase_ite _ _ _
  · next hnone =>
      split
      · next heq =>
          subst heq
          exact Option.not_isSome_iff_eq_none.mp hnone
      · rfl

theorem lookup_revokeSecrets (owners : List ComponentRef) (secrets : SecretManager)
    (other : ComponentRef) :
    (owners.foldl (fun secrets owner => secrets.revokeComponent owner)
      secrets).readGrants.lookup other =
        if other ∈ owners then none else secrets.readGrants.lookup other := by
  induction owners generalizing secrets with
  | nil => rfl
  | cons owner rest ih =>
      rw [List.foldl_cons, ih, lookup_revokeComponent]
      by_cases hrest : other ∈ rest
      · simp [hrest]
      · by_cases heq : other = owner <;> simp [hrest, heq]

theorem lookup_revokePermissions (owners : List ComponentRef) (manager : RuntimePermissionManager)
    (other : ComponentRef) :
    (owners.foldl (fun manager owner => manager.revokeComponent owner)
      manager).grants.lookup other =
        if other ∈ owners then none else manager.grants.lookup other := by
  induction owners generalizing manager with
  | nil => rfl
  | cons owner rest ih =>
      rw [List.foldl_cons, ih]
      simp only [RuntimePermissionManager.revokeComponent, Dict.lookup_erase_ite]
      by_cases hrest : other ∈ rest
      · simp [hrest]
      · by_cases heq : other = owner <;> simp [hrest, heq]

/-- Every grant belongs to a registered instance whose manifest requests it. -/
def GrantsRequested (engine : Engine) : Prop :=
  ∀ owner grant, engine.Holds owner grant →
    ∃ manifest, engine.manifestOf owner.instanceId = some manifest ∧
      RequestedIn manifest owner.componentId grant

theorem Grant.not_admits (owner : ComponentRef) (grant : Grant)
    (instanceId : ExtensionInstanceId) : ¬ (grant.op owner).Admits instanceId := by
  cases grant <;> exact id

theorem Grant.not_forgets (owner : ComponentRef) (grant : Grant)
    (instanceId : ExtensionInstanceId) : ¬ (grant.op owner).Forgets instanceId := by
  rintro ⟨script, hop⟩
  cases grant <;> cases hop

section Changes

variable {op : EngineOp} {engine engine' : Engine}

/-- Another state of an instance leaves the manifests. -/
theorem manifestOf_update {ext : ManagedExtension} {state : ExtensionState}
    (hfound : engine.extensions.lookup ext.instanceId = some ext)
    (hextensions : engine'.extensions =
      engine.extensions.insert ext.instanceId { ext with state := state })
    (instanceId : ExtensionInstanceId) :
    engine'.manifestOf instanceId = engine.manifestOf instanceId := by
  unfold Engine.manifestOf
  rw [hextensions, Dict.lookup_insert_ite]
  split
  · next heq =>
      subst heq
      simp [hfound]
  · rfl

/-- Manifests stay unless their instance is registered or unregistered. -/
theorem Change.manifestOf (h : Change op engine engine') (instanceId : ExtensionInstanceId) :
    engine'.manifestOf instanceId = engine.manifestOf instanceId ∨
      op.Admits instanceId ∧ engine.manifestOf instanceId = none ∨ op.Forgets instanceId := by
  cases h with
  | facilities | definePlatform | clearPlatform | prefer | grantSecret | grantPermission
  | revokeSecrets => exact .inl rfl
  | activate facilities ext permitted found => exact .inl (manifestOf_update found rfl instanceId)
  | halt facilities ext found => exact .inl (manifestOf_update found rfl instanceId)
  | enroll facilities ext permitted fresh =>
      by_cases heq : instanceId = ext.instanceId
      · subst heq
        exact .inr (.inl ⟨permitted, by simp [Engine.manifestOf, fresh]⟩)
      · refine .inl ?_
        unfold Engine.manifestOf Engine.keep
        rw [AList.lookup_insert_ne heq]
  | forget ext permitted =>
      by_cases heq : instanceId = ext.instanceId
      · subst heq
        exact .inr (.inr permitted)
      · refine .inl ?_
        unfold Engine.manifestOf Engine.forget
        rw [AList.lookup_erase_ne heq]

/-- Unregistration leaves no grant that the manifest requests. -/
theorem holds_forget {ext : ManagedExtension} {grant : Grant}
    (h : (engine.forget ext).Holds owner grant) :
    engine.Holds owner grant ∧ (owner.instanceId = ext.instanceId →
      ∀ component ∈ ext.manifest.components, component.id ≠ owner.componentId) := by
  let owners := ext.manifest.components.map fun component =>
    (⟨ext.instanceId, component.id⟩ : ComponentRef)
  have howners : owner ∉ owners → owner.instanceId = ext.instanceId →
      ∀ component ∈ ext.manifest.components, component.id ≠ owner.componentId := by
    intro habsent hinstance component hcomponent hid
    refine habsent (List.mem_map.mpr ⟨component, hcomponent, ?_⟩)
    cases owner
    cases hinstance
    cases hid
    rfl
  cases grant with
  | secretRead pattern =>
      obtain ⟨patterns, hlookup, hmem⟩ := h
      unfold Engine.forget at hlookup
      dsimp only at hlookup
      rw [lookup_revokeSecrets] at hlookup
      split at hlookup
      · cases hlookup
      · next habsent =>
          exact ⟨⟨patterns, hlookup, hmem⟩,
            howners fun hmem => habsent (List.mem_append_left _ hmem)⟩
  | runtime permission =>
      obtain ⟨permissions, hlookup, hmem⟩ := h
      unfold Engine.forget at hlookup
      dsimp only at hlookup
      rw [lookup_revokePermissions] at hlookup
      split at hlookup
      · cases hlookup
      · next habsent => exact ⟨⟨permissions, hlookup, hmem⟩, howners habsent⟩

/-- A grant after a change was there before or is made by it. Its instance is registered
throughout. -/
theorem Change.holds (h : Change op engine engine') (hrequested : GrantsRequested engine)
    {grant : Grant} (hholds : engine'.Holds owner grant) :
    engine'.manifestOf owner.instanceId = engine.manifestOf owner.instanceId ∧
      (engine.Holds owner grant ∨ op = grant.op owner ∧
        ∃ manifest, engine.manifestOf owner.instanceId = some manifest ∧
          RequestedIn manifest owner.componentId grant) := by
  have hmanifest := h.manifestOf owner.instanceId
  have hkept (hbefore : engine.Holds owner grant) (hforgets : ¬ op.Forgets owner.instanceId) :
      engine'.manifestOf owner.instanceId = engine.manifestOf owner.instanceId := by
    rcases hmanifest with hsame | ⟨-, hnone⟩ | hgone
    · exact hsame
    · obtain ⟨manifest, hfound, -⟩ := hrequested owner grant hbefore
      rw [hnone] at hfound
      cases hfound
    · exact absurd hgone hforgets
  cases h with
  | facilities | definePlatform | clearPlatform | prefer => exact ⟨rfl, .inl hholds⟩
  | activate facilities ext permitted found =>
      exact ⟨manifestOf_update found rfl _, .inl hholds⟩
  | halt facilities ext found => exact ⟨manifestOf_update found rfl _, .inl hholds⟩
  | enroll facilities ext permitted =>
      have hbefore : engine.Holds owner grant := by cases grant <;> exact hholds
      refine ⟨hkept hbefore ?_, .inl hbefore⟩
      rintro ⟨script, rfl⟩
      exact permitted
  | forget ext permitted found =>
      obtain ⟨hbefore, hdescribed⟩ := holds_forget hholds
      refine ⟨?_, .inl hbefore⟩
      have hother : owner.instanceId ≠ ext.instanceId := by
        intro heq
        obtain ⟨manifest, hfound, component, hcomponent, hid, -⟩ := hrequested owner grant hbefore
        unfold Engine.manifestOf at hfound
        rw [heq, found] at hfound
        cases hfound
        exact hdescribed heq component hcomponent hid
      unfold Engine.manifestOf Engine.forget
      rw [AList.lookup_erase_ne hother]
  | grantSecret ext component pattern permitted found described requested =>
      refine ⟨rfl, ?_⟩
      cases grant with
      | runtime permission => exact .inl hholds
      | secretRead pattern' =>
          obtain ⟨patterns, hlookup, hmem⟩ := hholds
          rcases holds_grantRead hlookup hmem with hbefore | ⟨rfl, rfl⟩
          · exact .inl hbefore
          · exact .inr ⟨permitted, ext.manifest, by simp [Engine.manifestOf, found], component,
              described, rfl, requested⟩
  | grantPermission ext component permission permitted found described requested =>
      refine ⟨rfl, ?_⟩
      cases grant with
      | secretRead pattern => exact .inl hholds
      | runtime permission' =>
          obtain ⟨permissions, hlookup, hmem⟩ := hholds
          rcases holds_grant hlookup hmem with hbefore | ⟨rfl, rfl⟩
          · exact .inl hbefore
          · exact .inr ⟨permitted, ext.manifest, by simp [Engine.manifestOf, found], component,
              described, rfl, requested⟩
  | revokeSecrets revoked =>
      refine ⟨rfl, .inl ?_⟩
      cases grant with
      | runtime permission => exact hholds
      | secretRead pattern =>
          obtain ⟨patterns, hlookup, hmem⟩ := hholds
          dsimp only at hlookup
          rw [lookup_revokeComponent] at hlookup
          split at hlookup
          · cases hlookup
          · exact ⟨patterns, hlookup, hmem⟩

/-- The grants after a change are requested when those before it are. -/
theorem Change.grantsRequested (h : Change op engine engine')
    (hrequested : GrantsRequested engine) : GrantsRequested engine' := by
  intro owner grant hholds
  obtain ⟨hsame, hbefore | ⟨-, hnew⟩⟩ := h.holds hrequested hholds
  · rw [hsame]
    exact hrequested owner grant hbefore
  · rw [hsame]
    exact hnew

end Changes

/-! ## What an operation does to grants -/

section Operations

variable {engine engine' : Engine} {event : EngineEvent}

/-- A grant that is refused changes nothing. -/
theorem run_grant_error {grant : Grant} {error : EngineError}
    (h : engine.run (grant.op owner) = (engine', .error error)) : engine' = engine := by
  cases grant with
  | secretRead pattern =>
      simp only [Grant.op, Engine.run, Engine.grantRequestedSecretReadForInstance] at h
      split at h
      · cases h
        rfl
      · split at h
        · cases h
          rfl
        · split at h
          · cases h
          · cases h
            rfl
  | runtime permission =>
      simp only [Grant.op, Engine.run, Engine.grantRequestedRuntimePermissionForInstance] at h
      split at h
      · cases h
        rfl
      · split at h
        · cases h
          rfl
        · split at h
          · cases h
          · cases h
            rfl

/-- A grant after an operation was there before, or was made by it successfully. Its
instance is registered throughout, with the same manifest. -/
theorem holds_of_step (hconsistent : Consistent engine) (hrequested : GrantsRequested engine)
    (hstep : engineSystem.step engine event engine') :
    GrantsRequested engine' ∧ ∀ owner grant, engine'.Holds owner grant →
      engine'.manifestOf owner.instanceId = engine.manifestOf owner.instanceId ∧
        (engine.Holds owner grant ∨ event = ⟨grant.op owner, .ok ()⟩) := by
  let Kept (current : Engine) : Prop :=
    GrantsRequested current ∧
      ((∃ owner grant, event.op = Grant.op owner grant) →
        ∀ instanceId, current.manifestOf instanceId = engine.manifestOf instanceId) ∧
      ∀ owner grant, current.Holds owner grant →
        current.manifestOf owner.instanceId = engine.manifestOf owner.instanceId ∧
          (engine.Holds owner grant ∨ event.op = grant.op owner)
  have hkept : Kept engine' := by
    refine Evolves.preserves (P := Kept) ?_ (evolves_of_step hstep hconsistent) hconsistent
      ⟨hrequested, fun _ _ => rfl, fun _ _ hholds => ⟨rfl, .inl hholds⟩⟩
    rintro current next - ⟨hcurrent, hmanifests, hgrants⟩ hchange -
    refine ⟨hchange.grantsRequested hcurrent, ?_, ?_⟩
    · rintro ⟨owner, grant, hop⟩ instanceId
      rw [← hmanifests ⟨owner, grant, hop⟩ instanceId]
      rcases hchange.manifestOf instanceId with hsame | ⟨hadmits, -⟩ | hforgets
      · exact hsame
      · rw [hop] at hadmits
        exact absurd hadmits (grant.not_admits owner instanceId)
      · rw [hop] at hforgets
        exact absurd hforgets (grant.not_forgets owner instanceId)
    · intro owner grant hholds
      obtain ⟨hsame, hbefore | ⟨hop, -⟩⟩ := hchange.holds hcurrent hholds
      · obtain ⟨hstart, hcases⟩ := hgrants owner grant hbefore
        exact ⟨hsame.trans hstart, hcases⟩
      · exact ⟨hsame.trans (hmanifests ⟨owner, grant, hop⟩ _), .inr hop⟩
  refine ⟨hkept.1, ?_⟩
  intro owner grant hholds
  obtain ⟨hsame, hbefore | hop⟩ := hkept.2.2 owner grant hholds
  · exact ⟨hsame, .inl hbefore⟩
  · refine ⟨hsame, ?_⟩
    obtain ⟨op, result⟩ := event
    dsimp only at hop
    subst hop
    cases result with
    | ok value => exact .inr rfl
    | error error =>
        have hunchanged : engine' = engine := run_grant_error hstep
        rw [hunchanged] at hholds
        exact .inl hholds

end Operations

/-! ## Authority -/

/-- Along every run, what the engine keeps was granted since its instance was registered,
and is requested by the manifest of the instance. -/
theorem holds_granted {history : List EngineEvent} {engine : Engine}
    (hrun : engineSystem.Run .new history engine) :
    GrantsRequested engine ∧ ∀ owner grant, engine.Holds owner grant →
      ∀ manifest, engine.manifestOf owner.instanceId = some manifest →
        GrantedSinceRegistration history engine owner manifest grant := by
  refine Lts.Run.history_induction (P := fun history engine =>
    GrantsRequested engine ∧ ∀ owner grant, engine.Holds owner grant →
      ∀ manifest, engine.manifestOf owner.instanceId = some manifest →
        GrantedSinceRegistration history engine owner manifest grant) ?_ ?_ hrun
  · have hnone (owner : ComponentRef) (grant : Grant) : ¬ Engine.new.Holds owner grant := by
      cases grant <;> rintro ⟨granted, hlookup, -⟩ <;> cases hlookup
    exact ⟨fun owner grant hholds => absurd hholds (hnone owner grant),
      fun owner grant hholds => absurd hholds (hnone owner grant)⟩
  · rintro history engine event engine' hbefore ⟨hrequested, hgranted⟩ hstep
    have hconsistent := consistent_of_reachable ⟨.new, history, rfl, hbefore⟩
    obtain ⟨hrequested', hholds'⟩ := holds_of_step hconsistent hrequested hstep
    refine ⟨hrequested', ?_⟩
    intro owner grant hholds manifest hmanifest
    obtain ⟨hsame, hheld | rfl⟩ := hholds' owner grant hholds
    · obtain ⟨before, after, granting, rfl, hrunBefore, hfirst, hsince⟩ :=
        hgranted owner grant hheld manifest (hsame ▸ hmanifest)
      refine ⟨before, after ++ [event], granting, by simp, hrunBefore, hfirst, ?_⟩
      exact .snoc hsince hstep hmanifest
    · have hsince : engineSystem.RunWith
          (fun _ _ _ engine => engine.manifestOf owner.instanceId = some manifest) engine
          ([] ++ [⟨grant.op owner, .ok ()⟩]) engine' := .snoc .refl hstep hmanifest
      exact ⟨history, [], engine, rfl, hbefore, hsame ▸ hmanifest, hsince⟩

/-- A component reads a secret only while its registered manifest requests a pattern that
covers the path and a pattern that covers it was granted since its registration. It has
a runtime permission only while its registered manifest requests the permission and it
was granted since. -/
theorem grant_authority {history : List EngineEvent} {engine : Engine}
    (hrun : engineSystem.Run .new history engine) :
    (∀ vault owner path value, engine.secrets.readForComponent vault owner path = .ok value →
      ∃ manifest, engine.manifestOf owner.instanceId = some manifest ∧
        (∃ component ∈ manifest.components, component.id = owner.componentId ∧
          ∃ requested ∈ component.permissions.secretRead, requested.matches path = true) ∧
        ∃ pattern, pattern.matches path = true ∧
          GrantedSinceRegistration history engine owner manifest (.secretRead pattern)) ∧
    (∀ owner permission, engine.runtimePermissions.hasGrant owner permission = true →
      ∃ manifest, engine.manifestOf owner.instanceId = some manifest ∧
        (∃ component ∈ manifest.components, component.id = owner.componentId ∧
          permission ∈ component.permissions.runtime) ∧
        GrantedSinceRegistration history engine owner manifest (.runtime permission)) := by
  obtain ⟨hrequested, hgranted⟩ := holds_granted hrun
  constructor
  · intro vault owner path value hread
    have hreadable : engine.secrets.isReadable owner path = true := by
      by_contra hdenied
      rw [SecretManager.readForComponent, if_neg hdenied] at hread
      cases hread
    rw [SecretManager.isReadable, Option.any_eq_true] at hreadable
    obtain ⟨patterns, hlookup, hany⟩ := hreadable
    obtain ⟨pattern, hmem, hmatches⟩ := List.any_eq_true.mp hany
    have hholds : engine.Holds owner (.secretRead pattern) := ⟨patterns, hlookup, hmem⟩
    obtain ⟨manifest, hfound, component, hcomponent, hid, requested, hpattern, hallows⟩ :=
      hrequested owner (.secretRead pattern) hholds
    exact ⟨manifest, hfound,
      ⟨component, hcomponent, hid, requested, hpattern,
        SecretPathPattern.matches_of_allowsPattern hallows hmatches⟩,
      pattern, hmatches, hgranted owner _ hholds manifest hfound⟩
  · intro owner permission hgrant
    rw [RuntimePermissionManager.hasGrant, Option.any_eq_true] at hgrant
    obtain ⟨permissions, hlookup, hcontains⟩ := hgrant
    have hholds : engine.Holds owner (.runtime permission) :=
      ⟨permissions, hlookup, List.contains_iff_mem.mp hcontains⟩
    obtain ⟨manifest, hfound, component, hcomponent, hid, hpermission⟩ :=
      hrequested owner (.runtime permission) hholds
    exact ⟨manifest, hfound, ⟨component, hcomponent, hid, hpermission⟩,
      hgranted owner _ hholds manifest hfound⟩

/-- A component is registered and reads a secret below the pattern that it requests. -/
def vaultOps : List EngineOp :=
  [.registerExtensionInstance ⟨"chat"⟩ ⟨"default"⟩
      ⟨⟨"chat"⟩, [⟨⟨"main"⟩, ⟨wasmComponentTargetV1⟩, true,
        ⟨[.descendants ⟨"ai.api_keys"⟩], [.httpFetch]⟩⟩]⟩ [],
    .grantRequestedSecretReadForInstance ⟨"chat"⟩ ⟨"main"⟩ (.exact ⟨"ai.api_keys.openai"⟩),
    .grantRequestedRuntimePermissionForInstance ⟨"chat"⟩ ⟨"main"⟩ .httpFetch]

theorem grant_authority_chat :
    (∃ manifest, (Engine.new.runAll vaultOps).1.manifestOf ⟨"chat"⟩ = some manifest ∧
      (∃ component ∈ manifest.components, component.id = ⟨"main"⟩ ∧
        ∃ requested ∈ component.permissions.secretRead,
          requested.matches ⟨"ai.api_keys.openai"⟩ = true) ∧
      ∃ pattern, pattern.matches ⟨"ai.api_keys.openai"⟩ = true ∧
        GrantedSinceRegistration (Engine.new.runAll vaultOps).2 (Engine.new.runAll vaultOps).1
          ⟨⟨"chat"⟩, ⟨"main"⟩⟩ manifest (.secretRead pattern)) ∧
    ∃ manifest, (Engine.new.runAll vaultOps).1.manifestOf ⟨"chat"⟩ = some manifest ∧
      (∃ component ∈ manifest.components, component.id = ⟨"main"⟩ ∧
        RuntimePermission.httpFetch ∈ component.permissions.runtime) ∧
      GrantedSinceRegistration (Engine.new.runAll vaultOps).2 (Engine.new.runAll vaultOps).1
        ⟨⟨"chat"⟩, ⟨"main"⟩⟩ manifest (.runtime .httpFetch) :=
  ⟨(grant_authority (Engine.run_runAll .new vaultOps)).1 (fun _ => .ok (some "key"))
      ⟨⟨"chat"⟩, ⟨"main"⟩⟩ ⟨"ai.api_keys.openai"⟩ "key" (by decide +kernel),
    (grant_authority (Engine.run_runAll .new vaultOps)).2 ⟨⟨"chat"⟩, ⟨"main"⟩⟩ .httpFetch
      (by decide +kernel)⟩

end Rintawa.ExtensionEngine
