/-
# Scopes and owners of service calls

A call reaches a provider of its own scope only: for components the scope of their
instance, for the platform the scope it names. What the cache and the handles add to
plain resolution is that the grants may have changed since.
-/

import Rintawa.ExtensionEngine.ProviderHandles

namespace Rintawa.ExtensionEngine

open Rintawa.Lib Rintawa.Sdk

namespace ServiceRuntimeState

variable {state : ServiceRuntimeState} {secrets : SecretManager}

variable {contract : ContractKey} {dispatch : ServiceDispatch}

/-- A caller is in one scope. -/
theorem Consumes.scope_unique {first second : RuntimeScopeId} {caller : ComponentRef}
    {allowInactiveCaller : Bool} (h : state.Consumes first caller contract allowInactiveCaller)
    (h' : state.Consumes second caller contract allowInactiveCaller) : first = second := by
  obtain ⟨inst, hinst, rfl, -⟩ := h
  obtain ⟨inst', hinst', rfl, -⟩ := h'
  rw [Option.some.inj (hinst.symm.trans hinst')]

/-- A usable route is stored. -/
theorem cachedRoute_some {key : RouteKey} {result : ServiceCallResult ComponentRef}
    (h : state.cachedRoute secrets key = some result) :
    ∃ cached, state.routeCache.lookup key = some cached ∧ cached.result = result := by
  unfold cachedRoute at h
  split at h
  · cases h
  · next cached hlookup =>
      split at h
      · exact ⟨cached, hlookup, Option.some.inj h⟩
      · cases h

/-- A candidate of a platform call is an active instance of the scope, and of the
extension that the call is pinned to. -/
theorem resolvePlatformProvider_ok (howned : state.InstancesOwned) {scopeId : RuntimeScopeId}
    {pinned : Option ExtensionId} {resolved : ResolvedProvider}
    (h : state.resolvePlatformProvider secrets scopeId pinned contract = .ok resolved) :
    (∃ entry, state.Serves scopeId resolved.provider contract entry ∧
        entry.eligible secrets = true) ∧
      ∀ extensionId, pinned = some extensionId →
        ∃ inst, state.instances.lookup resolved.provider.instanceId = some inst ∧
          inst.extensionId = extensionId := by
  simp only [resolvePlatformProvider, bind_eq_ok_iff, orError_eq_ok_iff, ensure_eq_ok_iff,
    exactlyOne_eq_ok_iff] at h
  obtain ⟨definition, -, _, -, _, hproviders, provider, rfl, hlocate⟩ := h
  cases hselect : resolveContractProviders secrets contract definition.resolution _ _ with
  | error reason =>
      rw [hselect] at hproviders
      cases hproviders
  | ok selected =>
      rw [hselect] at hproviders
      cases hproviders
      obtain ⟨candidate, hcandidate, howner, hcontract, heligible⟩ :=
        eligible_of_resolveContractProviders hselect List.mem_cons_self
      obtain ⟨inst, hinst, hentry⟩ := List.mem_flatMap.mp hcandidate
      rw [List.mem_filter, Dict.mem_values_iff] at hinst
      obtain ⟨⟨instanceId, hlookup⟩, hfilter⟩ := hinst
      simp only [Bool.and_eq_true, beq_iff_eq] at hfilter
      obtain ⟨⟨hactive, hscope⟩, hpinned⟩ := hfilter
      have hprovider := (locate_ok hlocate).1
      have hid := ((howned instanceId inst hlookup).1 candidate hentry).1
      rw [howner, ← hprovider] at hid
      rw [← hid] at hlookup
      refine ⟨⟨candidate, ⟨inst, hlookup, hactive, hscope, hentry, ?_, hcontract⟩, heligible⟩, ?_⟩
      · rw [howner, hprovider]
      · rintro extensionId rfl
        exact ⟨inst, hlookup, by simpa using hpinned⟩

/-- A dispatched call goes to the provider that was resolved. -/
theorem dispatchTo_ok {resolved : ResolvedProvider} {request : List UInt8}
    {callStack : List ComponentRef} {lock : ComponentLock}
    (h : dispatchTo resolved contract request callStack lock = .ok dispatch) :
    dispatch.provider = resolved.provider ∧ dispatch.identity = resolved.identity ∧
      dispatch.contract = contract := by
  simp only [dispatchTo, bind_eq_ok_iff, ensure_eq_ok_iff] at h
  obtain ⟨_, -, _, -, _, -, hdispatch⟩ := h
  cases hdispatch
  exact ⟨rfl, rfl, rfl⟩

theorem call_ok {caller : ComponentRef} {allowInactiveCaller : Bool} {request : ServiceRequest}
    (h : (state.call secrets caller contract allowInactiveCaller request).2 = .ok dispatch) :
    dispatch.contract = contract ∧ ∃ resolved,
      (state.resolveProvider secrets caller contract allowInactiveCaller).2 = .ok resolved ∧
        resolved.provider = dispatch.provider := by
  unfold call at h
  split at h
  · cases h
  · rw [bind_eq_ok_iff] at h
    obtain ⟨resolved, hresolve, hdispatch⟩ := h
    obtain ⟨hprovider, -, hcontract⟩ := dispatchTo_ok hdispatch
    exact ⟨hcontract, resolved, hresolve, hprovider.symm⟩

theorem callPlatform_ok {scopeId : RuntimeScopeId} {pinned : Option ExtensionId}
    {request : List UInt8} {lock : ComponentLock}
    (h : state.callPlatform secrets scopeId pinned contract request lock = .ok dispatch) :
    ∃ resolved, state.resolvePlatformProvider secrets scopeId pinned contract = .ok resolved ∧
      resolved.provider = dispatch.provider := by
  simp only [callPlatform, bind_eq_ok_iff] at h
  obtain ⟨_, -, resolved, hresolve, hdispatch⟩ := h
  exact ⟨resolved, hresolve, (dispatchTo_ok hdispatch).1.symm⟩

/-- A provider of a contract in an active instance of a scope, eligible under a condition. -/
structure Reaches (state : ServiceRuntimeState) (secrets : SecretManager)
    (scopeId : RuntimeScopeId) (provider : ComponentRef) (contract : ContractKey)
    (recent : Prop) : Prop where
  serves : ∃ entry, state.Serves scopeId provider contract entry
  eligible : recent → ∃ entry, state.Serves scopeId provider contract entry ∧
    entry.eligible secrets = true

end ServiceRuntimeState

/-- What a call through the cache resolves to. -/
theorem RoutesSound.resolveProvider_ok {runtime : ServiceRuntime} {routedAt : RouteKey → Nat}
    (h : RoutesSound runtime routedAt) (howned : runtime.state.InstancesOwned)
    {caller : ComponentRef} {contract : ContractKey} {allowInactiveCaller : Bool}
    {resolved : ResolvedProvider}
    (hresolve : (runtime.state.resolveProvider runtime.secrets caller contract
      allowInactiveCaller).2 = .ok resolved) :
    ∃ scopeId, runtime.state.Consumes scopeId caller contract allowInactiveCaller ∧
      runtime.state.Reaches runtime.secrets scopeId resolved.provider contract
        (runtime.state.routeCache.lookup ⟨caller, contract, allowInactiveCaller⟩ ≠ none →
          runtime.secrets.policyChanges <
            routedAt ⟨caller, contract, allowInactiveCaller⟩ + counterLimit) := by
  have fresh : ∀ provider,
      runtime.state.resolveUncached runtime.secrets caller contract allowInactiveCaller =
        .ok provider →
      ∃ scopeId, runtime.state.Consumes scopeId caller contract allowInactiveCaller ∧
        ∃ entry, runtime.state.Serves scopeId provider contract entry ∧
          entry.eligible runtime.secrets = true :=
    fun provider hprovider => ServiceRuntimeState.resolveUncached_ok howned hprovider
  unfold ServiceRuntimeState.resolveProvider at hresolve
  split at hresolve
  · next result hcached =>
      rw [bind_eq_ok_iff] at hresolve
      obtain ⟨provider, rfl, hlocate⟩ := hresolve
      rw [(ServiceRuntimeState.locate_ok hlocate).1]
      obtain ⟨cached, hlookup, hresult⟩ := ServiceRuntimeState.cachedRoute_some hcached
      obtain ⟨scopeId, hconsumes, hserves⟩ := h.declared _ cached provider hlookup hresult
      refine ⟨scopeId, hconsumes, hserves, fun hrecent => ?_⟩
      have huncached := h.cachedRoute_eq hcached (hrecent (by rw [hlookup]; simp))
      obtain ⟨other, hother, entry, hentry⟩ := fresh provider huncached.symm
      rw [hconsumes.scope_unique hother]
      exact ⟨entry, hentry⟩
  · rw [bind_eq_ok_iff] at hresolve
    obtain ⟨provider, hprovider, hlocate⟩ := hresolve
    rw [(ServiceRuntimeState.locate_ok hlocate).1]
    obtain ⟨scopeId, hconsumes, entry, hserves, heligible⟩ := fresh provider hprovider
    exact ⟨scopeId, hconsumes, ⟨entry, hserves⟩, fun _ => ⟨entry, hserves, heligible⟩⟩

/-- What a call through a handle reaches. -/
theorem HandlesSound.callProvider_ok {runtime : ServiceRuntime}
    {issuedAt : ServiceProviderHandle → Nat} (h : HandlesSound runtime issuedAt)
    (howned : runtime.state.InstancesOwned) {caller : ComponentRef}
    {handle : ServiceProviderHandle} {allowInactiveCaller : Bool} {request : ServiceRequest}
    {dispatch : ServiceDispatch}
    (hcall : runtime.state.callProvider runtime.secrets caller handle allowInactiveCaller
      request = .ok dispatch) :
    ∃ scopeId, runtime.state.Consumes scopeId caller dispatch.contract allowInactiveCaller ∧
      runtime.state.Reaches runtime.secrets scopeId dispatch.provider dispatch.contract
        (runtime.secrets.policyChanges < issuedAt handle + counterLimit) := by
  obtain ⟨hrevision, hbinding⟩ := ServiceRuntimeState.callProvider_ok hcall
  obtain ⟨scopeId, hconsumes, hserves⟩ := h.declared handle _ hbinding
  refine ⟨scopeId, hconsumes, hserves, fun hrecent => ?_⟩
  obtain ⟨providers, hlisted, hmem, -⟩ := h.current.valid hbinding
    ((h.revisions handle _ hbinding).symm.trans hrevision) hrecent
  obtain ⟨other, hother, heligible⟩ := ServiceRuntimeState.listedProviders_ok howned hlisted
  rw [ServiceRuntimeState.Consumes.scope_unique hconsumes hother]
  exact heligible _ hmem

/-- In every state that a run reaches, a call of a component, through a contract or a
handle, reaches a provider of an active instance in the scope of the component, which is
declared to consume the contract. A call of the platform reaches such a provider in the
scope it names, and of the extension it is pinned to. The provider is eligible under the
present grants, unless the policy has changed 2^64 times since the route was stored or
the handle was issued. -/
theorem service_isolation {ops : List ServiceOp} {stamped : StampedRuntime}
    (hrun : serviceSystem.Run .new ops stamped) :
    (∀ caller contract allowInactiveCaller request dispatch,
      (stamped.runtime.state.call stamped.runtime.secrets caller contract allowInactiveCaller
        request).2 = .ok dispatch →
      dispatch.contract = contract ∧ ∃ scopeId,
        stamped.runtime.state.Consumes scopeId caller contract allowInactiveCaller ∧
        stamped.runtime.state.Reaches stamped.runtime.secrets scopeId dispatch.provider contract
          (stamped.runtime.state.routeCache.lookup ⟨caller, contract, allowInactiveCaller⟩ ≠
              none →
            stamped.runtime.secrets.policyChanges <
              stamped.routedAt ⟨caller, contract, allowInactiveCaller⟩ + counterLimit)) ∧
    (∀ caller handle allowInactiveCaller request dispatch,
      stamped.runtime.state.callProvider stamped.runtime.secrets caller handle
        allowInactiveCaller request = .ok dispatch →
      ∃ scopeId,
        stamped.runtime.state.Consumes scopeId caller dispatch.contract allowInactiveCaller ∧
        stamped.runtime.state.Reaches stamped.runtime.secrets scopeId dispatch.provider
          dispatch.contract
          (stamped.runtime.secrets.policyChanges < stamped.issuedAt handle + counterLimit)) ∧
    ∀ scopeId pinned contract request lock dispatch,
      stamped.runtime.state.callPlatform stamped.runtime.secrets scopeId pinned contract request
        lock = .ok dispatch →
      (∃ entry, stamped.runtime.state.Serves scopeId dispatch.provider contract entry ∧
        entry.eligible stamped.runtime.secrets = true) ∧
      ∀ extensionId, pinned = some extensionId →
        ∃ inst, stamped.runtime.state.instances.lookup dispatch.provider.instanceId = some inst ∧
          inst.extensionId = extensionId := by
  have howned := owned_of_run hrun
  refine ⟨?_, ?_, ?_⟩
  · intro caller contract allowInactiveCaller request dispatch hcall
    obtain ⟨hcontract, resolved, hresolve, hprovider⟩ := ServiceRuntimeState.call_ok hcall
    rw [← hprovider]
    exact ⟨hcontract, (routesSound_of_run hrun).resolveProvider_ok howned hresolve⟩
  · intro caller handle allowInactiveCaller request dispatch hcall
    exact (handlesSound_of_run hrun).callProvider_ok howned hcall
  · intro scopeId pinned contract request lock dispatch hcall
    obtain ⟨resolved, hresolve, hprovider⟩ := ServiceRuntimeState.callPlatform_ok hcall
    rw [← hprovider]
    exact ServiceRuntimeState.resolvePlatformProvider_ok howned hresolve

/-- A call of the client reaches the server, whose grant is there. -/
theorem service_isolation_search :
    ∃ scopeId,
      searchListed.runtime.state.Consumes scopeId searchClient searchContract false ∧
      ∃ entry, searchListed.runtime.state.Serves scopeId searchServer searchContract entry ∧
        entry.eligible searchListed.runtime.secrets = true := by
  have hisolated := service_isolation (StampedRuntime.run_performAll .new
    (searchSetup .multiple ++ [.listProviders searchClient searchContract false]))
  obtain ⟨scopeId, hconsumes, hreaches⟩ := hisolated.2.1 searchClient ⟨1⟩ false emptyRequest
    ⟨searchServer, ⟨⟨"search.server"⟩, ⟨"server"⟩, ⟨"host"⟩, ⟨"main"⟩⟩, searchContract,
      [searchServer], defaultMaxServiceMessageBytes⟩ rfl
  exact ⟨scopeId, hconsumes, hreaches.eligible (by decide +kernel)⟩

/-- When the policy revision has gone round, a call reaches the server without its grant. -/
theorem dispatches_ineligible_provider :
    ∃ ops stamped dispatch, serviceSystem.Run .new ops stamped ∧
      (stamped.runtime.state.call stamped.runtime.secrets searchClient searchContract false
        emptyRequest).2 = .ok dispatch ∧
      ¬ ∃ scopeId entry,
        stamped.runtime.state.Serves scopeId dispatch.provider searchContract entry ∧
          entry.eligible stamped.runtime.secrets = true := by
  obtain ⟨ops, stamped, hrun, hruntime⟩ := exists_searchWrapped .single
    (.call searchClient searchContract false emptyRequest) rfl rfl
  refine ⟨ops, stamped, ⟨searchServer, ⟨⟨"search.server"⟩, ⟨"server"⟩, ⟨"host"⟩, ⟨"main"⟩⟩,
    searchContract, [searchServer], defaultMaxServiceMessageBytes⟩, hrun, ?_, ?_⟩
  · rw [hruntime]
    rfl
  · rintro ⟨scopeId, entry, ⟨inst, hinst, -, -, hentry, -, -⟩, heligible⟩
    rw [hruntime] at hinst heligible
    cases hinst
    obtain rfl := List.mem_singleton.mp hentry
    revert heligible
    decide +kernel

end Rintawa.ExtensionEngine
