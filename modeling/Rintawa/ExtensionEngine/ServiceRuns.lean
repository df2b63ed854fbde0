/-
# Runs of the service runtime

Registrations, policy changes and calls of services follow each other in any order.
Routes and handles carry no time in the source. Here every route is stamped with the
number of policy changes when it was resolved, and every handle with that number when
it was issued.
-/

import Rintawa.Lib.Stamps
import Rintawa.Lib.Table
import Rintawa.Lib.Transition
import Rintawa.ExtensionEngine.Services

namespace Rintawa.ExtensionEngine

open Rintawa.Lib Rintawa.Sdk

/-- The service runtime with the secret policy that it shares. -/
structure ServiceRuntime where
  state : ServiceRuntimeState
  secrets : SecretManager

def ServiceRuntime.new : ServiceRuntime :=
  ⟨.new, .new⟩

/-- The operations on topology and policy, and the calls. -/
inductive ServiceOp
  | definePlatformContract (scopeId : RuntimeScopeId) (definition : ContractDefinition)
  | clearPlatformContractsInScope (scopeId : RuntimeScopeId)
  | registerInstance (registration : ServiceInstanceRegistration)
  | unregisterInstance (instanceId : ExtensionInstanceId)
  | activateInstance (instanceId : ExtensionInstanceId)
  | deactivateInstance (instanceId : ExtensionInstanceId)
  | setPreferredProvider (scopeId : RuntimeScopeId) (contract : ContractKey)
      (provider : ComponentRef)
  | clearPreferredProvider (scopeId : RuntimeScopeId) (contract : ContractKey)
  | grantRead (owner : ComponentRef) (pattern : SecretPathPattern)
  | revokeComponent (owner : ComponentRef)
  | call (caller : ComponentRef) (contract : ContractKey) (allowInactiveCaller : Bool)
      (request : ServiceRequest)
  | listProviders (caller : ComponentRef) (contract : ContractKey) (allowInactiveCaller : Bool)
  | callProvider (caller : ComponentRef) (handle : ServiceProviderHandle)
      (allowInactiveCaller : Bool) (request : ServiceRequest)
  | callPlatform (scopeId : RuntimeScopeId) (providerExtensionId : Option ExtensionId)
      (contract : ContractKey) (request : List UInt8) (lock : ComponentLock)

/-- What an operation leaves. One that fails leaves what it found, apart from its cache. -/
def ServiceRuntime.run (runtime : ServiceRuntime) : ServiceOp → ServiceRuntime
  | .definePlatformContract scopeId definition =>
      { runtime with
        state := (runtime.state.definePlatformContract scopeId definition).getD runtime.state }
  | .clearPlatformContractsInScope scopeId =>
      { runtime with state := runtime.state.clearPlatformContractsInScope scopeId }
  | .registerInstance registration =>
      { runtime with
        state := (runtime.state.registerInstance registration).getD runtime.state }
  | .unregisterInstance instanceId =>
      { runtime with state := runtime.state.unregisterInstance instanceId }
  | .activateInstance instanceId =>
      { runtime with state := (runtime.state.activateInstance instanceId).getD runtime.state }
  | .deactivateInstance instanceId =>
      { runtime with state := runtime.state.deactivateInstance instanceId }
  | .setPreferredProvider scopeId contract provider =>
      { runtime with state := runtime.state.setPreferredProvider scopeId contract provider }
  | .clearPreferredProvider scopeId contract =>
      { runtime with state := runtime.state.clearPreferredProvider scopeId contract }
  | .grantRead owner pattern =>
      { runtime with secrets := runtime.secrets.grantRead owner pattern }
  | .revokeComponent owner =>
      { runtime with secrets := runtime.secrets.revokeComponent owner }
  | .call caller contract allowInactiveCaller request =>
      { runtime with
        state := (runtime.state.call runtime.secrets caller contract allowInactiveCaller
          request).1 }
  | .listProviders caller contract allowInactiveCaller =>
      { runtime with
        state := (runtime.state.listProviders runtime.secrets caller contract
          allowInactiveCaller).1 }
  | .callProvider _ _ _ _ => runtime
  | .callPlatform _ _ _ _ _ => runtime

/-- The route that an operation stores. -/
def ServiceRuntime.storedRoute (runtime : ServiceRuntime) : ServiceOp → Option RouteKey
  | .call caller contract allowInactiveCaller request =>
      if request.request.length ≤ defaultMaxServiceMessageBytes ∧
          (runtime.state.cachedRoute runtime.secrets
            ⟨caller, contract, allowInactiveCaller⟩).isNone then
        some ⟨caller, contract, allowInactiveCaller⟩
      else none
  | _ => none

/-- The runtime with the stamps of its routes and its handles. -/
structure StampedRuntime where
  runtime : ServiceRuntime
  routedAt : RouteKey → Nat
  issuedAt : ServiceProviderHandle → Nat

namespace StampedRuntime

def new : StampedRuntime :=
  ⟨.new, fun _ => 0, fun _ => 0⟩

variable (stamped : StampedRuntime)

/-- The stamps of the routes after an operation. A route is stamped when it is stored. -/
def routedAfter (op : ServiceOp) (key : RouteKey) : Nat :=
  if stamped.runtime.storedRoute op = some key then stamped.runtime.secrets.policyChanges
  else stamped.routedAt key

/-- Carry out an operation. A handle is stamped when its number is taken. -/
def perform (op : ServiceOp) : StampedRuntime where
  runtime := stamped.runtime.run op
  routedAt := stamped.routedAfter op
  issuedAt handle :=
    if handle.raw ≤ stamped.runtime.state.nextProviderHandle then stamped.issuedAt handle
    else stamped.runtime.secrets.policyChanges

end StampedRuntime

/-- The transition system of the service runtime. -/
def serviceSystem : Lts StampedRuntime ServiceOp where
  init stamped := stamped = .new
  step stamped op stamped' := stamped' = stamped.perform op

/-! ## Checks -/

theorem orError_eq_ok_iff {α : Type} {value : Option α} {error : ServiceCallError} {result : α} :
    orError value error = .ok result ↔ value = some result := by
  cases value <;> simp [orError]

theorem ensure_eq_ok_iff {condition : Bool} {error : ServiceCallError} {value : Unit} :
    ensure condition error = .ok value ↔ condition = true := by
  cases condition <;> simp [ensure]

theorem exactlyOne_eq_ok_iff {providers : List ComponentRef} {provider : ComponentRef} :
    ServiceRuntimeState.exactlyOne providers = .ok provider ↔ providers = [provider] := by
  unfold ServiceRuntimeState.exactlyOne
  split
  · simp
  · next hother =>
      simp only [reduceCtorEq, false_iff]
      exact fun h => hother provider h

/-! ## What an operation can do -/

/-- The ways in which an operation changes the runtime. -/
inductive ServiceEffect (runtime : ServiceRuntime) : ServiceOp → ServiceRuntime → Prop
  | none {op : ServiceOp} (unstored : runtime.storedRoute op = Option.none) :
      ServiceEffect runtime op runtime
  | topology {op : ServiceOp} (unstored : runtime.storedRoute op = Option.none)
      (changed : ServiceRuntimeState)
      (handles : changed.nextProviderHandle = runtime.state.nextProviderHandle) :
      ServiceEffect runtime op { runtime with state := changed.topologyChanged }
  | policy {op : ServiceOp} (unstored : runtime.storedRoute op = Option.none)
      {secrets : SecretManager}
      (counted : secrets.policyChanges = runtime.secrets.policyChanges + 1) :
      ServiceEffect runtime op { runtime with secrets := secrets }
  | routed {op : ServiceOp} {caller : ComponentRef} {contract : ContractKey}
      {allowInactiveCaller : Bool}
      (stored : runtime.storedRoute op = some ⟨caller, contract, allowInactiveCaller⟩) :
      ServiceEffect runtime op { runtime with
        state := { runtime.state with
          routeCache := runtime.state.routeCache.insert ⟨caller, contract, allowInactiveCaller⟩
            ⟨runtime.state.topologyRevision, runtime.secrets.policyRevision,
              runtime.state.resolveUncached runtime.secrets caller contract
                allowInactiveCaller⟩ } }
  | listed {caller : ComponentRef} {contract : ContractKey} {allowInactiveCaller : Bool} :
      ServiceEffect runtime (.listProviders caller contract allowInactiveCaller)
        { runtime with
          state := (runtime.state.listProviders runtime.secrets caller contract
            allowInactiveCaller).1 }

/-- Every operation changes the runtime in one of these ways. -/
theorem ServiceRuntime.run_effect (runtime : ServiceRuntime) (op : ServiceOp) :
    ServiceEffect runtime op (runtime.run op) := by
  cases op with
  | definePlatformContract scopeId definition =>
      simp only [run, ServiceRuntimeState.definePlatformContract]
      split
      · split <;> exact .none rfl
      · exact .topology rfl _ rfl
  | clearPlatformContractsInScope scopeId =>
      simp only [run, ServiceRuntimeState.clearPlatformContractsInScope]
      split
      · exact .topology rfl _ rfl
      · exact .none rfl
  | registerInstance registration =>
      simp only [run, ServiceRuntimeState.registerInstance]
      split
      · exact .none rfl
      · exact .topology rfl _ rfl
  | unregisterInstance instanceId =>
      simp only [run, ServiceRuntimeState.unregisterInstance]
      split
      · exact .topology rfl _ rfl
      · exact .none rfl
  | activateInstance instanceId =>
      simp only [run, ServiceRuntimeState.activateInstance]
      split
      · exact .none rfl
      · split
        · exact .none rfl
        · exact .topology rfl _ rfl
  | deactivateInstance instanceId =>
      simp only [run, ServiceRuntimeState.deactivateInstance]
      split
      · exact .none rfl
      · split
        · exact .topology rfl _ rfl
        · exact .none rfl
  | setPreferredProvider scopeId contract provider =>
      simp only [run, ServiceRuntimeState.setPreferredProvider]
      split
      · exact .none rfl
      · exact .topology rfl _ rfl
  | clearPreferredProvider scopeId contract =>
      simp only [run, ServiceRuntimeState.clearPreferredProvider]
      split
      · exact .topology rfl _ rfl
      · exact .none rfl
  | grantRead owner pattern =>
      simp only [run]
      rcases runtime.secrets.grantRead_changes owner pattern with hsame | hcounted
      · rw [hsame]
        exact .none rfl
      · exact .policy rfl hcounted
  | revokeComponent owner =>
      simp only [run]
      rcases runtime.secrets.revokeComponent_changes owner with hsame | hcounted
      · rw [hsame]
        exact .none rfl
      · exact .policy rfl hcounted
  | call caller contract allowInactiveCaller request =>
      simp only [run, ServiceRuntimeState.call]
      split
      · next error hrefused =>
          refine .none (if_neg ?_)
          rintro ⟨hfits, -⟩
          have hadmits : ServiceRuntimeState.admitRequest request.request = .ok () :=
            ensure_eq_ok_iff.mpr (by simpa using hfits)
          cases hadmits.symm.trans hrefused
      · next hadmit =>
          have hfits := ensure_eq_ok_iff.mp hadmit
          simp only [ServiceRuntimeState.resolveProvider]
          split
          · next hhit => exact .none (if_neg (by simp [hhit]))
          · next hmissed => exact .routed (if_pos ⟨by simpa using hfits, by simp [hmissed]⟩)
  | listProviders => exact .listed
  | callProvider => exact .none rfl
  | callPlatform => exact .none rfl

/-! ## Endpoints belong to their instances -/

namespace ServiceRuntimeState

variable {state : ServiceRuntimeState} {secrets : SecretManager}

/-- Endpoints of a registered instance belong to components of its own. -/
def InstancesOwned (state : ServiceRuntimeState) : Prop :=
  ∀ instanceId inst, state.instances.lookup instanceId = some inst →
    (∀ entry ∈ inst.providers, entry.owner.instanceId = instanceId ∧
      (inst.components.lookup entry.owner.componentId).isSome = true) ∧
    ∀ entry ∈ inst.consumers, entry.owner.instanceId = instanceId

/-- Putting an instance with owned endpoints into the map. -/
theorem InstancesOwned.insert (h : state.InstancesOwned) {instanceId : ExtensionInstanceId}
    {added : ServiceExtensionInstance}
    (hproviders : ∀ entry ∈ added.providers, entry.owner.instanceId = instanceId ∧
      (added.components.lookup entry.owner.componentId).isSome = true)
    (hconsumers : ∀ entry ∈ added.consumers, entry.owner.instanceId = instanceId)
    {state' : ServiceRuntimeState}
    (hinstances : state'.instances = state.instances.insert instanceId added) :
    state'.InstancesOwned := by
  intro other inst hinst
  rw [hinstances, Dict.lookup_insert_ite] at hinst
  split at hinst
  · next hsame =>
      cases hinst
      subst hsame
      exact ⟨hproviders, hconsumers⟩
  · exact h other inst hinst

variable {state' : ServiceRuntimeState}

/-- Activation and deactivation leave the endpoints of an instance. -/
theorem InstancesOwned.setActive (h : state.InstancesOwned) {instanceId : ExtensionInstanceId}
    {inst : ServiceExtensionInstance} (hinst : state.instances.lookup instanceId = some inst)
    (isActive : Bool) (hinstances : state'.instances =
      state.instances.insert instanceId { inst with isActive := isActive }) :
    state'.InstancesOwned := by
  obtain ⟨hproviders, hconsumers⟩ := h instanceId inst hinst
  exact @insert state h instanceId { inst with isActive := isActive } hproviders hconsumers state'
    hinstances

/-- States with the same composition: what resolution reads besides the grants. -/
structure SameComposition (state state' : ServiceRuntimeState) : Prop where
  instances : state'.instances = state.instances
  platformDefinitions : state'.platformDefinitions = state.platformDefinitions
  preferredProviders : state'.preferredProviders = state.preferredProviders

theorem SameComposition.refl (state : ServiceRuntimeState) : SameComposition state state :=
  ⟨rfl, rfl, rfl⟩

theorem SameComposition.trans {state'' : ServiceRuntimeState} (h : SameComposition state state')
    (h' : SameComposition state' state'') : SameComposition state state'' :=
  ⟨h'.instances.trans h.instances, h'.platformDefinitions.trans h.platformDefinitions,
    h'.preferredProviders.trans h.preferredProviders⟩

/-- Resolution only reads the composition and the grants. -/
theorem SameComposition.resolveBindingUncached (h : SameComposition state state')
    (caller : ComponentRef) (contract : ContractKey) (allowInactiveCaller : Bool) :
    state'.resolveBindingUncached secrets caller contract allowInactiveCaller =
      state.resolveBindingUncached secrets caller contract allowInactiveCaller := by
  unfold ServiceRuntimeState.resolveBindingUncached participants platformDefinitionsOf preferencesOf
  rw [h.instances, h.platformDefinitions, h.preferredProviders]

theorem SameComposition.resolveUncached (h : SameComposition state state') (caller : ComponentRef)
    (contract : ContractKey) (allowInactiveCaller : Bool) :
    state'.resolveUncached secrets caller contract allowInactiveCaller =
      state.resolveUncached secrets caller contract allowInactiveCaller := by
  unfold ServiceRuntimeState.resolveUncached
  rw [h.resolveBindingUncached]

theorem SameComposition.listedProviders (h : SameComposition state state') (caller : ComponentRef)
    (contract : ContractKey) (allowInactiveCaller : Bool) :
    state'.listedProviders secrets caller contract allowInactiveCaller =
      state.listedProviders secrets caller contract allowInactiveCaller := by
  unfold ServiceRuntimeState.listedProviders
  rw [h.resolveBindingUncached]

/-- Operations on handles keep the composition and the routes. -/
structure HandlesOnly (state state' : ServiceRuntimeState) : Prop
    extends SameComposition state state' where
  topologyRevision : state'.topologyRevision = state.topologyRevision
  routeCache : state'.routeCache = state.routeCache

theorem HandlesOnly.trans {state'' : ServiceRuntimeState} (h : HandlesOnly state state')
    (h' : HandlesOnly state' state'') : HandlesOnly state state'' :=
  ⟨h.toSameComposition.trans h'.toSameComposition,
    h'.topologyRevision.trans h.topologyRevision, h'.routeCache.trans h.routeCache⟩

theorem handlesOnly_sync (state : ServiceRuntimeState) (policyRevision : Nat) :
    HandlesOnly state (state.syncProviderHandlePolicy policyRevision) := by
  unfold syncProviderHandlePolicy
  split <;> exact ⟨⟨rfl, rfl, rfl⟩, rfl, rfl⟩

theorem handlesOnly_issue (state : ServiceRuntimeState) (key : ProviderHandleKey) :
    HandlesOnly state (state.issueProviderHandle key).1 := by
  unfold issueProviderHandle
  split
  · exact ⟨⟨rfl, rfl, rfl⟩, rfl, rfl⟩
  · split <;> exact ⟨⟨rfl, rfl, rfl⟩, rfl, rfl⟩

theorem handlesOnly_issueAll (state : ServiceRuntimeState) (caller : ComponentRef)
    (contract : ContractKey) (allowInactiveCaller : Bool) (providers : List ComponentRef) :
    HandlesOnly state
      (issueProviderHandles caller contract allowInactiveCaller state providers).1 := by
  induction providers generalizing state with
  | nil => exact ⟨⟨rfl, rfl, rfl⟩, rfl, rfl⟩
  | cons provider rest ih =>
      have hfirst := handlesOnly_issue state ⟨caller, contract, provider, allowInactiveCaller⟩
      simp only [issueProviderHandles]
      split
      · next next error hissue => rwa [hissue] at hfirst
      · next next handle hissue =>
          rw [hissue] at hfirst
          have hrest := ih next
          split
          · next hissueRest =>
              rw [hissueRest] at hrest
              exact hfirst.trans hrest
          · next hissueRest =>
              rw [hissueRest] at hrest
              exact hfirst.trans hrest

theorem handlesOnly_list (state : ServiceRuntimeState) (secrets : SecretManager)
    (caller : ComponentRef) (contract : ContractKey) (allowInactiveCaller : Bool) :
    HandlesOnly state (state.listProviders secrets caller contract allowInactiveCaller).1 := by
  have hsync := handlesOnly_sync state secrets.policyRevision
  unfold listProviders
  dsimp only
  split
  · exact hsync
  · exact hsync.trans (handlesOnly_issueAll _ _ _ _ _)

end ServiceRuntimeState

/-- Endpoints stay with their instances. -/
theorem ServiceRuntime.owned_run {runtime : ServiceRuntime} (h : runtime.state.InstancesOwned)
    (op : ServiceOp) : (runtime.run op).state.InstancesOwned := by
  cases op with
  | definePlatformContract scopeId definition =>
      simp only [run, ServiceRuntimeState.definePlatformContract]
      split
      · split <;> exact h
      · exact h
  | clearPlatformContractsInScope scopeId =>
      simp only [run, ServiceRuntimeState.clearPlatformContractsInScope]
      split <;> exact h
  | registerInstance registration =>
      simp only [run, ServiceRuntimeState.registerInstance]
      split
      · exact h
      · exact h.insert registration.providers_owned registration.consumers_owned rfl
  | unregisterInstance instanceId =>
      simp only [run, ServiceRuntimeState.unregisterInstance]
      split
      · intro other inst hinst
        simp only [ServiceRuntimeState.topologyChanged, Dict.lookup_erase_ite] at hinst
        split at hinst
        · cases hinst
        · exact h other inst hinst
      · exact h
  | activateInstance instanceId =>
      simp only [run, ServiceRuntimeState.activateInstance]
      split
      · exact h
      · next inst hinst =>
          split
          · exact h
          · exact h.setActive hinst true rfl
  | deactivateInstance instanceId =>
      simp only [run, ServiceRuntimeState.deactivateInstance]
      split
      · exact h
      · next inst hinst =>
          split
          · exact h.setActive hinst false rfl
          · exact h
  | setPreferredProvider scopeId contract provider =>
      simp only [run, ServiceRuntimeState.setPreferredProvider]
      split <;> exact h
  | clearPreferredProvider scopeId contract =>
      simp only [run, ServiceRuntimeState.clearPreferredProvider]
      split <;> exact h
  | grantRead => exact h
  | revokeComponent => exact h
  | call caller contract allowInactiveCaller request =>
      simp only [run, ServiceRuntimeState.call]
      split
      · exact h
      · simp only [ServiceRuntimeState.resolveProvider]
        split <;> exact h
  | listProviders caller contract allowInactiveCaller =>
      have hinstances := (ServiceRuntimeState.handlesOnly_list runtime.state runtime.secrets
        caller contract allowInactiveCaller).instances
      intro other inst hinst
      simp only [run] at hinst
      rw [hinstances] at hinst
      exact h other inst hinst
  | callProvider => exact h
  | callPlatform => exact h

theorem owned_new : ServiceRuntime.new.state.InstancesOwned := by
  intro instanceId inst hinst
  cases hinst

/-- Endpoints belong to their instances in every state of a run. -/
theorem owned_of_run {ops : List ServiceOp} {stamped : StampedRuntime}
    (h : serviceSystem.Run .new ops stamped) : stamped.runtime.state.InstancesOwned :=
  h.preserves (P := fun stamped => stamped.runtime.state.InstancesOwned)
    (fun _ op _ hbefore hstep => hstep ▸ ServiceRuntime.owned_run hbefore op) owned_new

/-! ## Long runs of policy changes -/

namespace StampedRuntime

/-- Carry out operations one after the other. -/
def performAll (stamped : StampedRuntime) : List ServiceOp → StampedRuntime
  | [] => stamped
  | op :: rest => (stamped.perform op).performAll rest

/-- Operations make a run. -/
theorem run_performAll (stamped : StampedRuntime) (ops : List ServiceOp) :
    serviceSystem.Run stamped ops (stamped.performAll ops) := by
  induction ops generalizing stamped with
  | nil => exact .refl stamped
  | cons op rest ih => exact .cons rfl (ih (stamped.perform op))

/-- A component without grants can be granted something and lose it again any number of
times. Nothing is left but the changes that were counted. -/
theorem exists_policyChanges (stamped : StampedRuntime) {owner : ComponentRef}
    (hnone : stamped.runtime.secrets.readGrants.lookup owner = none)
    (pattern : SecretPathPattern) (rounds : Nat) :
    ∃ ops stamped', serviceSystem.Run stamped ops stamped' ∧
      stamped'.runtime = ⟨stamped.runtime.state, stamped.runtime.secrets.readGrants,
        stamped.runtime.secrets.policyChanges + 2 * rounds⟩ := by
  induction rounds with
  | zero => exact ⟨[], stamped, .refl stamped, rfl⟩
  | succ rounds ih =>
      obtain ⟨ops, before, hrun, hbefore⟩ := ih
      have hround : before.performAll [.grantRead owner pattern, .revokeComponent owner] =
          (before.perform (.grantRead owner pattern)).perform (.revokeComponent owner) := rfl
      refine ⟨_, _, hrun.append
        (before.run_performAll [.grantRead owner pattern, .revokeComponent owner]), ?_⟩
      rw [hround]
      simp only [perform, ServiceRuntime.run, hbefore]
      have hrevoke := SecretManager.revokeComponent_grantRead
        ⟨stamped.runtime.secrets.readGrants, stamped.runtime.secrets.policyChanges + 2 * rounds⟩
        pattern hnone
      rw [hrevoke]
      rfl

end StampedRuntime

end Rintawa.ExtensionEngine
