/-
# Revisions of presentations

A revision should name one presentation of a surface for good. Patches advance it
by one, but a mount takes whatever revision its component supplies, and a surface
can be unmounted and mounted again. Over the history of a run, revisions name
presentations exactly when no mount or activation brings back an old revision with
another content.
-/

import Rintawa.UiRuntime.Capabilities

namespace Rintawa.UiRuntime

open Rintawa.Lib Rintawa.Sdk

/-- The surface that a presentation belongs to. -/
def UiPresentationSurface.key (surface : UiPresentationSurface) : UiSurfaceKey :=
  ⟨surface.owner.instanceId, surface.snapshot.surfaceId⟩

/-- Everything that a history has presented. -/
def exposures (history : List UiLabel) : List UiPresentationSurface :=
  history.flatMap fun label => label.surfaces

/-- A later snapshot does not go back, and is the same if its revision is. -/
def Follows (earlier later : UiSurfaceSnapshot) : Prop :=
  earlier.revision ≤ later.revision ∧ (earlier.revision = later.revision → earlier = later)

/-- What every step should keep: presentations of a surface follow each other, and an
action that is delivered was made for the mounted snapshot. -/
structure KeepsRevisions (history : List UiLabel) (_ : UiRuntimeState) (label : UiLabel)
    (state' : UiRuntimeState) : Prop where
  follows : ∀ earlier ∈ exposures (history ++ [label]), ∀ later ∈ label.surfaces,
    earlier.key = later.key → Follows earlier.snapshot later.snapshot
  delivered : ∀ earlier ∈ exposures (history ++ [label]), ∀ layerOwner event dispatch,
    event.ownerInstanceId = earlier.key.instanceId → event.surfaceId = earlier.key.surfaceId →
    event.surfaceRevision = earlier.snapshot.revision →
    state'.routeAction layerOwner event = .ok dispatch →
    state'.mountedSurfaces.lookup earlier.key = some earlier.snapshot

/-- A snapshot that a mount or an activation shows follows all that its surface has
presented before. -/
structure FreshRevisions (history : List UiLabel) (state : UiRuntimeState) (label : UiLabel)
    (_ : UiRuntimeState) : Prop where
  mount : ∀ owner snapshot inst, label.call = .mountSurface owner snapshot →
    state.checkMount owner snapshot = .ok () →
    state.instances.lookup owner.instanceId = some inst → inst.isActive = true →
    ∀ earlier ∈ exposures history, earlier.key = ⟨owner.instanceId, snapshot.surfaceId⟩ →
      Follows earlier.snapshot snapshot
  activation : ∀ key snapshot registered inst,
    label.call = .setInstanceActive key.instanceId true →
    state.Placed key snapshot registered inst →
    ∀ earlier ∈ exposures history, earlier.key = key → Follows earlier.snapshot snapshot

theorem Follows.refl (snapshot : UiSurfaceSnapshot) : Follows snapshot snapshot :=
  ⟨Nat.le_refl _, fun _ => rfl⟩

/-- A snapshot with the next revision follows whatever its predecessor follows. -/
theorem Follows.next {earlier current next : UiSurfaceSnapshot} (h : Follows earlier current)
    (hnext : next.revision = current.revision + 1) : Follows earlier next := by
  have hle := h.1
  refine ⟨by omega, fun heq => ?_⟩
  omega

variable {label : UiLabel}

theorem mem_exposures_snoc {history : List UiLabel} {surface : UiPresentationSurface} :
    surface ∈ exposures (history ++ [label]) ↔
      surface ∈ exposures history ∨ surface ∈ label.surfaces := by
  simp [exposures]

namespace UiRuntimeState

variable {state state' : UiRuntimeState}

/-! ## Surfaces under their keys -/

/-- Surfaces are mounted and registered under their own identifiers. -/
structure Keyed (state : UiRuntimeState) : Prop where
  mounted : ∀ key snapshot, state.mountedSurfaces.lookup key = some snapshot →
    snapshot.surfaceId = key.surfaceId
  declared : ∀ key registered, state.registeredSurfaces.lookup key = some registered →
    registered.owner.instanceId = key.instanceId

theorem keyed_new : UiRuntimeState.new.Keyed where
  mounted key snapshot h := by cases h
  declared key registered h := by cases h

/-- The presentation of a shown surface. -/
def Shown.surface {key : UiSurfaceKey} {snapshot : UiSurfaceSnapshot}
    {registered : OwnedUiSurfaceContribution} {inst : UiExtensionInstance}
    (_ : state.Shown key snapshot registered inst) : UiPresentationSurface :=
  ⟨registered.owner, none, registered.contribution, snapshot⟩

theorem Shown.mem {key : UiSurfaceKey} {snapshot : UiSurfaceSnapshot}
    {registered : OwnedUiSurfaceContribution} {inst : UiExtensionInstance}
    (h : state.Shown key snapshot registered inst) :
    h.surface ∈ state.presentationSurfaces :=
  mem_collectPresentations.mpr ⟨key, snapshot, registered, inst, none, h, rfl, rfl⟩

theorem Shown.key_eq {key : UiSurfaceKey} {snapshot : UiSurfaceSnapshot}
    {registered : OwnedUiSurfaceContribution} {inst : UiExtensionInstance}
    (h : state.Shown key snapshot registered inst) (hkeyed : state.Keyed) :
    h.surface.key = key := by
  unfold UiPresentationSurface.key Shown.surface
  rw [hkeyed.declared key registered h.declared, hkeyed.mounted key snapshot h.mounted]

/-- The host presents the surfaces that are shown, each under its key. -/
theorem shown_of_presentation (hkeyed : state.Keyed) {surface : UiPresentationSurface}
    (h : surface ∈ state.presentationSurfaces) :
    ∃ registered inst, state.Shown surface.key surface.snapshot registered inst := by
  obtain ⟨key, snapshot, registered, inst, context, hshown, -, rfl⟩ :=
    mem_collectPresentations.mp h
  have hkey := hshown.key_eq hkeyed
  exact ⟨registered, inst, hkey.symm ▸ hshown⟩

/-- Keys survive every accepted call. -/
theorem Keyed.run {call : UiCall} (hkeyed : state.Keyed)
    (h : state.run call = (state', .ok ())) : state'.Keyed := by
  cases call with
  | registerInstance instanceId scopeId surfaces layers =>
      obtain ⟨-, declared, registered, ids, hdeclared, -, rfl⟩ := registerInstance_ok h
      refine ⟨hkeyed.mounted, fun key surface hlookup => ?_⟩
      rcases hdeclared key surface hlookup with hbefore | ⟨hkey, howner, -⟩
      · exact hkeyed.declared key surface hbefore
      · rw [hkey, howner]
  | registerWorldPresentation owned =>
      obtain ⟨_, rfl⟩ := registerWorldPresentation_ok h
      exact ⟨hkeyed.mounted, hkeyed.declared⟩
  | unregisterInstance instanceId =>
      simp only [UiRuntimeState.run, unregisterInstance] at h
      split at h <;> cases h
      · exact hkeyed
      · exact ⟨fun key snapshot hlookup => hkeyed.mounted key snapshot (lookup_of_eraseAll hlookup),
          fun key registered hlookup =>
            hkeyed.declared key registered (lookup_of_eraseAll hlookup)⟩
  | setInstanceActive instanceId isActive =>
      simp only [UiRuntimeState.run, setInstanceActive] at h
      split at h
      · cases h
      · cases isActive <;> cases h
        · exact ⟨fun key snapshot hlookup =>
            hkeyed.mounted key snapshot (lookup_of_eraseAll hlookup), hkeyed.declared⟩
        · exact ⟨hkeyed.mounted, hkeyed.declared⟩
  | mountSurface owner snapshot =>
      obtain ⟨-, rfl⟩ := mountSurface_ok h
      refine ⟨fun key other hlookup => ?_, hkeyed.declared⟩
      simp only [Dict.lookup_insert_ite] at hlookup
      split at hlookup
      · next hsame =>
          cases hlookup
          rw [hsame]
      · exact hkeyed.mounted key other hlookup
  | applyPatches owner batch =>
      obtain ⟨next, hpatched, rfl⟩ := applyPatches_ok h
      obtain ⟨_, current, _, -, hcurrent, -, hname, -⟩ := patchedSnapshot_ok hpatched
      refine ⟨fun key other hlookup => ?_, hkeyed.declared⟩
      simp only [Dict.lookup_insert_ite] at hlookup
      split at hlookup
      · next hsame =>
          cases hlookup
          rw [hname, hsame, hkeyed.mounted _ current hcurrent]
      · exact hkeyed.mounted key other hlookup
  | unmountSurface owner surfaceId =>
      cases unmountSurface_ok h
      refine ⟨fun key snapshot hlookup => ?_, hkeyed.declared⟩
      simp only [Dict.lookup_erase_ite] at hlookup
      split at hlookup
      · cases hlookup
      · exact hkeyed.mounted key snapshot hlookup
  | _ =>
      obtain ⟨hsame, hmounted⟩ := sameSurfaces_of_run h rfl
      exact ⟨hmounted ▸ hkeyed.mounted, hsame.registeredSurfaces ▸ hkeyed.declared⟩

variable {labels : List UiLabel}

/-- Surfaces are under their keys in every run. -/
theorem keyed_run (h : uiSystem.Run .new labels state) : state.Keyed := by
  refine Lts.Run.preserves (P := Keyed) ?_ h keyed_new
  rintro state ⟨call, result, surfaces⟩ state' hkeyed ⟨hrun, -⟩
  cases result with
  | ok value => exact hkeyed.run hrun
  | error error => exact run_error hrun ▸ hkeyed

/-! ## Histories -/

/-- What a history has presented is followed by what is presented now, and contains it. -/
structure Presented (history : List UiLabel) (state : UiRuntimeState) : Prop where
  included : ∀ surface ∈ state.presentationSurfaces, surface ∈ exposures history
  follows : ∀ earlier ∈ exposures history, ∀ later ∈ state.presentationSurfaces,
    earlier.key = later.key → Follows earlier.snapshot later.snapshot

theorem presented_new : Presented [] .new where
  included surface h := by
    obtain ⟨key, snapshot, registered, inst, context, hshown, -⟩ := mem_collectPresentations.mp h
    cases hshown.mounted
  follows earlier h := by cases h

/-- A run that keeps its revisions has presented what it presents now. -/
theorem presented_of_keeps (h : uiSystem.RunWith KeepsRevisions .new labels state) :
    Presented labels state := by
  cases h with
  | refl => exact presented_new
  | @snoc labels label _ _ hbefore hstep hkeeps =>
      have hsurfaces : label.surfaces = state.presentationSurfaces := hstep.2
      refine ⟨fun surface hmem => ?_, fun earlier hearlier later hlater => ?_⟩
      · exact mem_exposures_snoc.mpr (.inr (hsurfaces ▸ hmem))
      · exact hkeeps.follows earlier hearlier later (hsurfaces ▸ hlater)

/-- An action that is delivered was made for the snapshot of its revision. -/
theorem delivered_of_follows {history : List UiLabel} (hkeyed : state.Keyed)
    (hsurfaces : label.surfaces = state.presentationSurfaces)
    (hfollows : ∀ earlier ∈ exposures (history ++ [label]), ∀ later ∈ label.surfaces,
      earlier.key = later.key → Follows earlier.snapshot later.snapshot)
    {earlier : UiPresentationSurface} (hearlier : earlier ∈ exposures (history ++ [label]))
    {layerOwner : ComponentRef} {event : UiActionEvent} {dispatch : UiActionDispatch}
    (hinstance : event.ownerInstanceId = earlier.key.instanceId)
    (hsurface : event.surfaceId = earlier.key.surfaceId)
    (hrevision : event.surfaceRevision = earlier.snapshot.revision)
    (h : state.routeAction layerOwner event = .ok dispatch) :
    state.mountedSurfaces.lookup earlier.key = some earlier.snapshot := by
  simp only [routeAction, bind_eq_ok_iff, found_eq_ok_iff, require_eq_ok_iff,
    decide_eq_true_eq, hinstance, hsurface, hrevision] at h
  obtain ⟨-, -, inst, howned, -, -, -, hactive, registered, hdeclared, snapshot, hmounted, -,
    hsame, -⟩ := h
  have hkey : (⟨event.ownerInstanceId, event.surfaceId⟩ : UiSurfaceKey) = earlier.key := by
    rw [hinstance, hsurface]
  rw [hkey] at hmounted hdeclared
  have hshown : state.Shown earlier.key snapshot registered inst :=
    ⟨⟨hmounted, hdeclared, hinstance ▸ howned⟩, hactive⟩
  have hfollows := hfollows earlier hearlier hshown.surface (hsurfaces ▸ hshown.mem)
    (hshown.key_eq hkeyed).symm
  rw [hmounted, hfollows.2 hsame.symm]
  rfl

/-- One step keeps the revisions exactly when what it newly shows is fresh. What is presented after
it follows the history before the step. -/
theorem keepsRevisions_iff (hrun : uiSystem.Run .new labels state)
    (hpresented : Presented labels state) (hstep : UiStep state label state') :
    KeepsRevisions labels state label state' ↔ FreshRevisions labels state label state' := by
  have hkeyed := keyed_run hrun
  have hkeyed' := keyed_run (hrun.snoc hstep)
  obtain ⟨call, result, surfaces⟩ := label
  obtain ⟨hcall, hsurfaces⟩ := hstep
  change surfaces = _ at hsurfaces
  subst hsurfaces
  constructor
  · intro hkeeps
    have shown_follows : ∀ {key snapshot registered inst},
        state'.Shown key snapshot registered inst → ∀ earlier ∈ exposures labels,
        earlier.key = key → Follows earlier.snapshot snapshot := by
      intro key snapshot registered inst hshown earlier hearlier hkey
      exact hkeeps.follows earlier (mem_exposures_snoc.mpr (.inl hearlier)) hshown.surface
        hshown.mem (hkey.trans (hshown.key_eq hkeyed').symm)
    constructor
    · rintro owner snapshot inst rfl hcheck hinst hactive
      obtain ⟨-, -, registered, inst', hsurface, hinst', -⟩ := checkMount_ok hcheck
      cases hinst.symm.trans hinst'
      simp only [UiRuntimeState.run, mountSurface, hcheck, settle, bind, Except.bind] at hcall
      cases hcall
      refine shown_follows ⟨⟨?_, (ownedSurface_ok hsurface).1, hinst⟩, hactive⟩
      exact AList.lookup_insert state.mountedSurfaces
    · rintro key snapshot registered inst rfl hplaced
      simp only [UiRuntimeState.run, setInstanceActive, hplaced.owned, if_true] at hcall
      cases hcall
      refine @shown_follows key snapshot registered { inst with isActive := true }
        ⟨⟨hplaced.mounted, hplaced.declared, ?_⟩, rfl⟩
      exact AList.lookup_insert state.instances
  · intro hfresh
    have hafter : ∀ earlier ∈ exposures labels, ∀ later ∈ state'.presentationSurfaces,
        earlier.key = later.key → Follows earlier.snapshot later.snapshot := by
      cases result with
      | error error =>
          rw [run_error hcall]
          exact hpresented.follows
      | ok value =>
          intro earlier hearlier later hlater hkey
          obtain ⟨registered, inst, hshown⟩ := shown_of_presentation hkeyed' hlater
          have before_follows : ∀ {snapshot registered inst},
              state.Shown later.key snapshot registered inst →
              Follows earlier.snapshot snapshot := by
            intro snapshot registered inst hbefore
            exact hpresented.follows earlier hearlier hbefore.surface hbefore.mem
              (hkey.trans (hbefore.key_eq hkeyed).symm)
          rw [← hkey] at hshown before_follows
          cases reveals_of_run hcall hshown with
          | kept hbefore => exact before_follows hbefore
          | mounted hplace hcheck hdeclared howned hactive =>
              rw [hplace] at howned
              exact hfresh.mount _ _ inst rfl hcheck howned hactive earlier hearlier hplace
          | patched hplace hcheck hcurrent =>
              obtain ⟨_, current, _, -, hmounted, hnext, -⟩ := patchedSnapshot_ok hcheck
              rw [← hplace, hcurrent.mounted] at hmounted
              cases hmounted
              exact (before_follows hcurrent).next hnext
          | activated hplaced hinst =>
              exact hfresh.activation _ _ _ _ rfl hplaced earlier hearlier rfl
    have hfollows : ∀ earlier ∈ exposures (labels ++ [⟨call, result, state'.presentationSurfaces⟩]),
        ∀ later ∈ state'.presentationSurfaces,
        earlier.key = later.key → Follows earlier.snapshot later.snapshot := by
      intro earlier hearlier later hlater hkey
      rcases mem_exposures_snoc.mp hearlier with hbefore | hnow
      · exact hafter earlier hbefore later hlater hkey
      · obtain ⟨_, _, hfirst⟩ := shown_of_presentation hkeyed' hnow
        obtain ⟨_, _, hsecond⟩ := shown_of_presentation hkeyed' hlater
        rw [hkey] at hfirst
        have hsame := Option.some.inj (hfirst.mounted.symm.trans hsecond.mounted)
        rw [hsame]
        exact Follows.refl _
    refine ⟨hfollows, ?_⟩
    intro earlier hearlier layerOwner event dispatch hinstance hsurface hrevision hroute
    exact delivered_of_follows hkeyed' rfl hfollows hearlier hinstance hsurface hrevision hroute

/-- Revisions name presentations in exactly those runs in which what mounts and
activations show follows all that its surface has presented. -/
theorem ui_revision_identity :
    uiSystem.RunWith KeepsRevisions .new labels state ↔
      uiSystem.RunWith FreshRevisions .new labels state := by
  refine Lts.runWith_congr ?_
  intro labels state label state' hbefore hstep
  exact keepsRevisions_iff hbefore.run (presented_of_keeps hbefore) hstep

/-! ## A surface that is mounted again -/

/-- One button. -/
def buttonSnapshot (label : String) : UiSurfaceSnapshot :=
  ⟨⟨"scene"⟩, 0, ⟨"root"⟩, [⟨⟨"root"⟩, none, [], .button ⟨label, ⟨"confirm"⟩, true, .default⟩⟩]⟩

/-- The surface is unmounted and mounted again under the same revision. -/
def remountCalls : List UiCall :=
  [.registerInstance ⟨"scene"⟩ ⟨"host"⟩ [⟨sceneOwner, sceneContribution⟩] [],
    .registerInstance ⟨"shell"⟩ ⟨"host"⟩ [] [],
    .setInstanceActive ⟨"scene"⟩ true,
    .setInstanceActive ⟨"shell"⟩ true,
    .attachLayer shellOwner ⟨1, [⟨"scene.3d@1"⟩, uiCapabilityButton]⟩,
    .mountSurface sceneOwner (buttonSnapshot "Keep"),
    .unmountSurface sceneOwner ⟨"scene"⟩,
    .mountSurface sceneOwner (buttonSnapshot "Delete")]

/-- The action of the first button. -/
def keepEvent : UiActionEvent :=
  ⟨⟨"scene"⟩, ⟨"scene"⟩, ⟨"root"⟩, ⟨"confirm"⟩, 0, .none⟩

/-- The presentation of a button. -/
def buttonSurface (label : String) : UiPresentationSurface :=
  ⟨sceneOwner, none, sceneContribution, buttonSnapshot label⟩

/-- Two presentations share a revision, and the action made for the first one is
delivered to the second. -/
theorem remount_reuses_revision :
    uiSystem.Run .new (UiRuntimeState.new.runAll remountCalls).2
        (UiRuntimeState.new.runAll remountCalls).1 ∧
      buttonSurface "Keep" ∈ exposures (UiRuntimeState.new.runAll remountCalls).2 ∧
      buttonSurface "Delete" ∈ (UiRuntimeState.new.runAll remountCalls).1.presentationSurfaces ∧
      ¬ Follows (buttonSnapshot "Keep") (buttonSnapshot "Delete") ∧
      (UiRuntimeState.new.runAll remountCalls).1.routeAction shellOwner keepEvent =
        .ok ⟨sceneOwner, keepEvent⟩ := by
  refine ⟨run_runAll .new remountCalls, by decide +kernel, by decide +kernel, ?_, rfl⟩
  intro hfollows
  have hsame := hfollows.2 rfl
  revert hsame
  decide

end UiRuntimeState

end Rintawa.UiRuntime
