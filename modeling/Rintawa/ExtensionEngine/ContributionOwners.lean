/-
# Owners of active contributions

The engine keeps one set of active contributions, without their owners. It is the set of
the contributions of the instances that are not stopped, as long as no stopped instance
is unregistered while another instance has a contribution in common with it.
-/

import Rintawa.ExtensionEngine.EngineSteps

namespace Rintawa.ExtensionEngine

open Rintawa.Lib Rintawa.Sdk

/-! ## The set of active contributions -/

/-- An instance that is not stopped has a contribution. -/
def OwnedBy (engine : Engine) (instanceId : ExtensionInstanceId)
    (key : RuntimeScopeId × ContributionId) : Prop :=
  ∃ ext, engine.extensions.lookup instanceId = some ext ∧ ext.state ≠ .stopped ∧
    key ∈ ext.contributionKeys

/-- The set is exactly what the instances that are not stopped have, and these have no
contribution in common. -/
structure ContributionsOwned (engine : Engine) : Prop where
  exact : ∀ key, key ∈ engine.activeContributions ↔ ∃ instanceId, OwnedBy engine instanceId key
  unique : ∀ instanceId other key, OwnedBy engine instanceId key → OwnedBy engine other key →
    instanceId = other

section Owners

variable {engine engine' : Engine} {ext : ManagedExtension}
  {key : RuntimeScopeId × ContributionId} {other : ExtensionInstanceId}

theorem ownedBy_found (hfound : engine.extensions.lookup ext.instanceId = some ext) :
    OwnedBy engine ext.instanceId key ↔ ext.state ≠ .stopped ∧ key ∈ ext.contributionKeys := by
  unfold OwnedBy
  rw [hfound]
  simp

theorem ownedBy_insert
    (hextensions : engine'.extensions = engine.extensions.insert ext.instanceId ext) :
    OwnedBy engine' other key ↔
      if other = ext.instanceId then ext.state ≠ .stopped ∧ key ∈ ext.contributionKeys
      else OwnedBy engine other key := by
  unfold OwnedBy
  rw [hextensions, Dict.lookup_insert_ite]
  split <;> simp

theorem ownedBy_erase {instanceId : ExtensionInstanceId}
    (hextensions : engine'.extensions = engine.extensions.erase instanceId) :
    OwnedBy engine' other key ↔ other ≠ instanceId ∧ OwnedBy engine other key := by
  unfold OwnedBy
  rw [hextensions, Dict.lookup_erase_ite]
  split <;> simp [*]

variable (h : ContributionsOwned engine)
include h

theorem ContributionsOwned.congr (hextensions : engine'.extensions = engine.extensions)
    (hactive : engine'.activeContributions = engine.activeContributions) :
    ContributionsOwned engine' := by
  have hsame : ∀ instanceId key,
      OwnedBy engine' instanceId key ↔ OwnedBy engine instanceId key := by
    intro instanceId key
    unfold OwnedBy
    rw [hextensions]
  constructor
  · intro key
    simp only [hactive, hsame]
    exact h.exact key
  · intro instanceId other key
    simp only [hsame]
    exact h.unique instanceId other key

/-- An instance claims contributions that nothing else has. -/
theorem ContributionsOwned.claim
    (hunclaimed : Disjoint ext.contributionKeys engine.activeContributions)
    (hrunning : ext.state ≠ .stopped)
    (hunowned : ∀ key, ¬ OwnedBy engine ext.instanceId key)
    (hextensions : engine'.extensions = engine.extensions.insert ext.instanceId ext)
    (hactive : engine'.activeContributions = engine.activeContributions ∪ ext.contributionKeys) :
    ContributionsOwned engine' := by
  have howned := fun other key => @ownedBy_insert engine engine' ext key other hextensions
  have hfree : ∀ other key, key ∈ ext.contributionKeys → ¬ OwnedBy engine other key :=
    fun other key hkey hother =>
      Finset.disjoint_left.mp hunclaimed hkey ((h.exact key).mpr ⟨other, hother⟩)
  constructor
  · intro key
    rw [hactive, Finset.mem_union, h.exact]
    constructor
    · rintro (⟨other, hother⟩ | hkey)
      · refine ⟨other, (howned other key).mpr ?_⟩
        rw [if_neg]
        · exact hother
        · rintro rfl
          exact hunowned key hother
      · exact ⟨ext.instanceId, (howned _ key).mpr (by simp [hrunning, hkey])⟩
    · rintro ⟨other, hother⟩
      rw [howned] at hother
      split at hother
      · exact .inr hother.2
      · exact .inl ⟨other, hother⟩
  · intro first second key hfirst hsecond
    rw [howned] at hfirst hsecond
    split at hfirst
    · next hf =>
        split at hsecond
        · next hs => rw [hf, hs]
        · exact absurd hsecond (hfree second key hfirst.2)
    · split at hsecond
      · exact absurd hfirst (hfree first key hsecond.2)
      · exact h.unique first second key hfirst hsecond

/-- An instance gives up contributions that nothing else has. -/
theorem ContributionsOwned.release {instanceId : ExtensionInstanceId}
    {keys : Finset (RuntimeScopeId × ContributionId)}
    (hown : ∀ key, OwnedBy engine instanceId key → key ∈ keys)
    (hothers : ∀ other key, other ≠ instanceId → key ∈ keys → ¬ OwnedBy engine other key)
    (howned : ∀ other key, OwnedBy engine' other key ↔
      other ≠ instanceId ∧ OwnedBy engine other key)
    (hactive : engine'.activeContributions = engine.activeContributions \ keys) :
    ContributionsOwned engine' := by
  constructor
  · intro key
    rw [hactive, Finset.mem_sdiff, h.exact]
    constructor
    · rintro ⟨⟨other, hother⟩, hkey⟩
      refine ⟨other, (howned other key).mpr ⟨?_, hother⟩⟩
      rintro rfl
      exact hkey (hown key hother)
    · rintro ⟨other, hother⟩
      obtain ⟨hne, hother⟩ := (howned other key).mp hother
      exact ⟨⟨other, hother⟩, fun hkey => hothers other key hne hkey hother⟩
  · intro first second key hfirst hsecond
    exact h.unique first second key ((howned first key).mp hfirst).2
      ((howned second key).mp hsecond).2

/-- A running instance is the only one that has its contributions. -/
theorem ContributionsOwned.unshared
    (hfound : engine.extensions.lookup ext.instanceId = some ext) (hrunning : ext.state ≠ .stopped)
    (hother : other ≠ ext.instanceId) (hkey : key ∈ ext.contributionKeys) :
    ¬ OwnedBy engine other key := fun howned =>
  hother (h.unique _ _ key howned ((ownedBy_found hfound).mpr ⟨hrunning, hkey⟩))

/-- Activating an instance that is not stopped. -/
theorem ContributionsOwned.resume
    (hfound : engine.extensions.lookup ext.instanceId = some ext) (hrunning : ext.state ≠ .stopped)
    (hextensions : engine'.extensions =
      engine.extensions.insert ext.instanceId { ext with state := .active })
    (hactive : engine'.activeContributions = engine.activeContributions) :
    ContributionsOwned engine' := by
  have hsame : ∀ other key, OwnedBy engine' other key ↔ OwnedBy engine other key := by
    intro other key
    rw [@ownedBy_insert engine engine' { ext with state := .active } key other hextensions]
    split
    · next heq =>
        rw [heq, ownedBy_found hfound]
        simp [hrunning, ManagedExtension.contributionKeys]
    · rfl
  constructor
  · intro key
    simp only [hactive, hsame]
    exact h.exact key
  · intro first second key
    simp only [hsame]
    exact h.unique first second key

/-- Stopping a running instance. -/
theorem ContributionsOwned.halt
    (hfound : engine.extensions.lookup ext.instanceId = some ext) (hrunning : ext.state ≠ .stopped)
    (hextensions : engine'.extensions =
      engine.extensions.insert ext.instanceId { ext with state := .stopped })
    (hactive : engine'.activeContributions =
      engine.activeContributions \ ext.contributionKeys) : ContributionsOwned engine' := by
  refine h.release (fun _ howned => ((ownedBy_found hfound).mp howned).2)
    (fun other key hother hkey => h.unshared hfound hrunning hother hkey) ?_ hactive
  intro other key
  rw [@ownedBy_insert engine engine' { ext with state := .stopped } key other hextensions]
  split <;> simp [*]

/-- Unregistering an instance whose contributions no other running instance has. -/
theorem ContributionsOwned.forget
    (hfound : engine.extensions.lookup ext.instanceId = some ext)
    (hothers : ∀ other key, other ≠ ext.instanceId → key ∈ ext.contributionKeys →
      ¬ OwnedBy engine other key) : ContributionsOwned (engine.forget ext) :=
  h.release (fun _ howned => ((ownedBy_found hfound).mp howned).2) hothers
    (fun other key => @ownedBy_erase engine (engine.forget ext) key other ext.instanceId rfl) rfl

/-- Every change but the removal of an instance keeps the owners. -/
theorem ContributionsOwned.change {op : EngineOp} (hchange : Change op engine engine')
    (hkeeps : ∀ instanceId, ¬ op.Forgets instanceId) : ContributionsOwned engine' := by
  cases hchange with
  | facilities | definePlatform | clearPlatform | prefer | grantSecret | grantPermission
  | revokeSecrets => exact h.congr rfl rfl
  | enroll facilities ext _ fresh registered _ unclaimed =>
      refine h.claim unclaimed (by simp [registered]) ?_ rfl rfl
      rintro _ ⟨found, hlookup, -⟩
      rw [fresh] at hlookup
      cases hlookup
  | activate facilities ext _ found inactive unclaimed =>
      let started : ManagedExtension := { ext with state := .active }
      by_cases hstopped : ext.state = .stopped
      · refine @ContributionsOwned.claim engine _ started h (unclaimed hstopped) (by simp [started])
          ?_ rfl (if_pos hstopped)
        exact fun _ howned => ((ownedBy_found found).mp howned).1 hstopped
      · exact h.resume found hstopped rfl (if_neg hstopped)
  | halt facilities ext found running => exact h.halt found running rfl rfl
  | forget ext permitted => exact absurd permitted (hkeeps ext.instanceId)

end Owners

/-! ## Runs that keep the set exact -/

/-- No stopped instance is unregistered that has a contribution in common with one that is
not stopped. -/
def UnregistersOwn (engine : Engine) (op : EngineOp) : Prop :=
  ∀ instanceId script ext, op = .unregisterExtensionInstance instanceId script →
    engine.extensions.lookup instanceId = some ext → ext.state = .stopped →
    engine.ensureExecutionTargetProviderNotInUse instanceId = .ok () →
    ∀ other key, key ∈ ext.contributionKeys → ¬ OwnedBy engine other key

/-- An operation keeps the set exact just in this case. -/
theorem contributionsOwned_run {engine : Engine} (hconsistent : Consistent engine)
    (h : ContributionsOwned engine) (op : EngineOp) :
    ContributionsOwned (engine.run op).1 ↔ UnregistersOwn engine op := by
  by_cases hforgets : ∃ instanceId, op.Forgets instanceId
  · obtain ⟨instanceId, script, rfl⟩ := hforgets
    change ContributionsOwned (engine.unregisterExtensionInstance instanceId script).1 ↔ _
    constructor
    · intro hkept other script' ext hop hfound hstopped hguard owner key hkey howner
      cases hop
      obtain rfl := hconsistent.keyed _ _ hfound
      have hforget : (engine.unregisterExtensionInstance ext.instanceId script).1 =
          engine.forget ext := by
        simp [Engine.unregisterExtensionInstance, hguard, Engine.instanceOf, hfound, hstopped]
      rw [hforget] at hkept
      have hother : owner ≠ ext.instanceId := by
        rintro rfl
        exact ((ownedBy_found hfound).mp howner).1 hstopped
      have hkeptOwner : OwnedBy (engine.forget ext) owner key :=
        (@ownedBy_erase engine _ key owner ext.instanceId rfl).mpr ⟨hother, howner⟩
      have hactive := (hkept.exact key).mpr ⟨owner, hkeptOwner⟩
      exact (Finset.mem_sdiff.mp hactive).2 hkey
    · intro hown
      rcases unregister_cases engine instanceId script with ⟨error, hsame⟩ |
        ⟨ext, hfound, hguard, ⟨hinactive, hforget⟩ | ⟨hactive, hended⟩⟩
      · rwa [hsame]
      · obtain rfl := hconsistent.keyed _ _ hfound
        rw [hforget]
        refine h.forget hfound ?_
        intro other key hother hkey
        by_cases hstopped : ext.state = .stopped
        · exact hown _ script ext rfl hfound hstopped hguard other key hkey
        · exact h.unshared hfound hstopped hother hkey
      · obtain rfl := hconsistent.keyed _ _ hfound
        have hrunning : ext.state ≠ .stopped := by simp [hactive]
        obtain ⟨facilities', hshut, -, -⟩ := hconsistent.shutDown_cases script hfound
        have hhalted : ContributionsOwned (engine.shutDown ext script).1 := by
          rw [hshut]
          exact h.halt hfound hrunning rfl rfl
        rcases hended with ⟨error, hstopped⟩ | hforgot
        · rwa [hstopped]
        · let halted : ManagedExtension := { ext with state := .stopped }
          have hlookup : (engine.shutDown ext script).1.extensions.lookup halted.instanceId =
              some halted := by
            rw [hshut]
            exact AList.lookup_insert _
          rw [hforgot]
          refine @ContributionsOwned.forget _ halted hhalted hlookup ?_
          intro other key hother hkey howned
          rw [hshut, @ownedBy_insert engine _ halted key other rfl, if_neg hother] at howned
          exact h.unshared hfound hrunning hother hkey howned
  · refine iff_of_true ?_ ?_
    · exact (hconsistent.run op).preserves
        (fun _ _ _ howned hchange _ => howned.change hchange (not_exists.mp hforgets))
        hconsistent h
    · rintro instanceId script ext rfl
      exact absurd ⟨instanceId, script, rfl⟩ hforgets

/-- The set stays exact. -/
def KeepsContributions (_ : List EngineEvent) (_ : Engine) (_ : EngineEvent) (engine' : Engine) :
    Prop :=
  ContributionsOwned engine'

/-- Stopped instances are only unregistered while their contributions are theirs alone. -/
def UnregistersOwnOnly (_ : List EngineEvent) (engine : Engine) (event : EngineEvent)
    (_ : Engine) : Prop :=
  UnregistersOwn engine event.op

theorem contributionsOwned_new : ContributionsOwned .new := by
  constructor
  · intro key
    constructor
    · intro hmem
      cases hmem
    · rintro ⟨instanceId, ext, hlookup, -⟩
      cases hlookup
  · rintro instanceId other key ⟨ext, hlookup, -⟩
    cases hlookup

/-- The set of active contributions is exact in exactly those runs in which no stopped
instance is unregistered that has a contribution in common with one that is not stopped. -/
theorem contribution_uniqueness {labels : List EngineEvent} {engine : Engine} :
    engineSystem.RunWith KeepsContributions .new labels engine ↔
      engineSystem.RunWith UnregistersOwnOnly .new labels engine := by
  refine Lts.runWith_congr ?_
  intro labels engine event engine' hbefore hstep
  have hreachable : engineSystem.Reachable engine := ⟨.new, labels, rfl, hbefore.run⟩
  have howned : ContributionsOwned engine := by
    cases hbefore with
    | refl => exact contributionsOwned_new
    | snoc _ _ hkeeps => exact hkeeps
  have hrun : (engine.run event.op).1 = engine' := congrArg Prod.fst hstep
  rw [KeepsContributions, ← hrun]
  exact contributionsOwned_run (consistent_of_reachable hreachable) howned event.op

/-! ## A contribution that loses its owner -/

/-- An extension with one component. -/
def toolManifest : ExtensionManifest :=
  ⟨⟨"tool"⟩, [⟨⟨"main"⟩, ⟨wasmComponentTargetV1⟩, true, ⟨[], []⟩⟩]⟩

/-- The component contributes one command. -/
def toolComponent : Component :=
  ⟨⟨"main"⟩, ⟨none⟩, [.register ⟨⟨"tool.open"⟩, ⟨"command"⟩⟩], none⟩

/-- The first instance is stopped, the second one takes its contribution over and the
first one is unregistered. -/
def takeoverOps : List EngineOp :=
  [.registerExtensionInstance ⟨"first"⟩ ⟨"default"⟩ toolManifest [toolComponent],
    .stopExtensionInstance ⟨"first"⟩ InstanceScript.quiet,
    .registerExtensionInstance ⟨"second"⟩ ⟨"default"⟩ toolManifest [toolComponent],
    .unregisterExtensionInstance ⟨"first"⟩ InstanceScript.quiet]

/-- The engine after these operations. -/
def takeoverEngine : Engine :=
  (Engine.new.runAll takeoverOps).1

/-- The second instance is registered, and its contribution is not active. -/
theorem contribution_lost :
    engineSystem.Run .new (Engine.new.runAll takeoverOps).2 takeoverEngine ∧
      ¬ ContributionsOwned takeoverEngine := by
  refine ⟨Engine.run_runAll .new takeoverOps, ?_⟩
  intro howned
  have hsecond : OwnedBy takeoverEngine ⟨"second"⟩ (⟨"default"⟩, ⟨"tool.open"⟩) := by
    have hthere : ((takeoverEngine.extensions.lookup ⟨"second"⟩).any fun ext =>
        decide (ext.state ≠ .stopped ∧ (⟨"default"⟩, ⟨"tool.open"⟩) ∈ ext.contributionKeys)) =
          true := by
      decide +kernel
    obtain ⟨ext, hlookup, htest⟩ := (Option.any_eq_true _ _).mp hthere
    exact ⟨ext, hlookup, of_decide_eq_true htest⟩
  have hlost : (⟨"default"⟩, ⟨"tool.open"⟩) ∉ takeoverEngine.activeContributions := by
    decide +kernel
  exact hlost ((howned.exact _).mpr ⟨_, hsecond⟩)

end Rintawa.ExtensionEngine
