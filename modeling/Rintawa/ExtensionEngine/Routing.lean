/-
# Cached routes

A route is stored under the topology and policy revisions that it was resolved in.
Every change of the topology drops all routes, so a route is right as long as the
policy revision still tells the grants that it was resolved with from all later ones.
The revision has 64 bits; after that many policy changes an old route is used again.
-/

import Rintawa.ExtensionEngine.ServiceRuns

namespace Rintawa.ExtensionEngine

open Rintawa.Lib Rintawa.Sdk

namespace ServiceRuntimeState

variable {state : ServiceRuntimeState} {secrets : SecretManager}

/-! ## What resolution finds -/

/-- A component of a scope is declared to consume a contract and may call now. -/
def Consumes (state : ServiceRuntimeState) (scopeId : RuntimeScopeId) (caller : ComponentRef)
    (contract : ContractKey) (allowInactiveCaller : Bool) : Prop :=
  ∃ inst, state.instances.lookup caller.instanceId = some inst ∧ inst.scopeId = scopeId ∧
    (inst.isActive = true ∨ allowInactiveCaller = true) ∧
    ∃ entry ∈ inst.consumers, entry.owner = caller ∧ entry.consumer.contract = contract

/-- An endpoint of an active instance of a scope provides a contract. -/
def Serves (state : ServiceRuntimeState) (scopeId : RuntimeScopeId) (provider : ComponentRef)
    (contract : ContractKey) (entry : OwnedContractProvider) : Prop :=
  ∃ inst, state.instances.lookup provider.instanceId = some inst ∧ inst.isActive = true ∧
    inst.scopeId = scopeId ∧ entry ∈ inst.providers ∧ entry.owner = provider ∧
    entry.provider.contract = contract

variable {allowInactiveCaller : Bool} {caller provider : ComponentRef} {scopeId : RuntimeScopeId}
  {contract : ContractKey}

/-- The endpoints in the composition of a caller belong to instances of its scope. -/
theorem mem_participants {part : Participation}
    (h : part ∈ state.participants caller scopeId allowInactiveCaller) :
    ∃ instanceId inst, state.instances.lookup instanceId = some inst ∧ inst.scopeId = scopeId ∧
      part = participation caller allowInactiveCaller instanceId inst := by
  obtain ⟨⟨instanceId, inst⟩, hmem, rfl⟩ := List.mem_map.mp h
  obtain ⟨hpair, hscope⟩ := List.mem_filter.mp hmem
  exact ⟨instanceId, inst, Dict.mem_pairs_iff.mp hpair, by simpa using hscope, rfl⟩

/-- Only active instances take part with providers. -/
theorem serves_of_mem_participants (howned : state.InstancesOwned) {entry : OwnedContractProvider}
    (h : entry ∈ (state.participants caller scopeId allowInactiveCaller).flatMap
      fun part => part.providers) :
    state.Serves scopeId entry.owner entry.provider.contract entry := by
  obtain ⟨part, hpart, hentry⟩ := List.mem_flatMap.mp h
  obtain ⟨instanceId, inst, hinst, hscope, rfl⟩ := mem_participants hpart
  unfold participation at hentry
  split at hentry
  · next hactive =>
      have howner := ((howned instanceId inst hinst).1 entry hentry).1
      exact ⟨inst, by rw [howner, hinst], hactive, hscope, hentry, rfl, rfl⟩
  · split at hentry <;> cases hentry

/-- A caller that takes part as a consumer is declared as one. -/
theorem consumes_of_mem_participants (howned : state.InstancesOwned) {entry : OwnedContractConsumer}
    (h : entry ∈ (state.participants caller scopeId allowInactiveCaller).flatMap
      fun part => part.consumers) (howner : entry.owner = caller) :
    state.Consumes scopeId caller entry.consumer.contract allowInactiveCaller := by
  obtain ⟨part, hpart, hentry⟩ := List.mem_flatMap.mp h
  obtain ⟨instanceId, inst, hinst, hscope, rfl⟩ := mem_participants hpart
  unfold participation at hentry
  split at hentry
  · next hactive =>
      have hid := (howned instanceId inst hinst).2 entry hentry
      rw [howner] at hid
      exact ⟨inst, by rw [hid, hinst], hscope, .inl hactive, entry, hentry, howner, rfl⟩
  · split at hentry
    · next hself =>
        rw [Bool.and_eq_true, beq_iff_eq] at hself
        have hmem := (List.mem_filter.mp hentry).1
        exact ⟨inst, by rw [← hself.2, hinst], hscope, .inr hself.1, entry, hmem, howner, rfl⟩
    · cases hentry

/-- A caller is bound to eligible providers of its own scope. -/
theorem resolveBindingUncached_ok (howned : state.InstancesOwned) {binding : ResolvedServiceBinding}
    (h : state.resolveBindingUncached secrets caller contract allowInactiveCaller =
      .ok binding) :
    ∃ scopeId, state.Consumes scopeId caller contract allowInactiveCaller ∧
      ∀ provider ∈ binding.providers, ∃ entry,
        state.Serves scopeId provider contract entry ∧ entry.eligible secrets = true := by
  simp only [resolveBindingUncached, bind_eq_ok_iff, orError_eq_ok_iff, ensure_eq_ok_iff] at h
  obtain ⟨callerInstance, -, _, hconsumer, definition, -, _, -, found, hfound, hbinding⟩ := h
  cases hbinding
  obtain ⟨entry, hentry, hcaller⟩ := List.any_eq_true.mp hconsumer
  rw [Bool.and_eq_true, beq_iff_eq, beq_iff_eq] at hcaller
  refine ⟨callerInstance.scopeId, ?_, fun provider hprovider => ?_⟩
  · have hconsumes := consumes_of_mem_participants howned hentry hcaller.1
    rwa [hcaller.2] at hconsumes
  · have hmatch := List.find?_some hfound
    rw [Bool.and_eq_true, beq_iff_eq, beq_iff_eq] at hmatch
    obtain ⟨owned, -, -, hcontract, -, hresolve⟩ :=
      mem_bindings.mp (List.mem_of_find?_eq_some hfound)
    obtain ⟨candidate, hmem, rfl, hprovides, heligible⟩ :=
      eligible_of_resolveConsumer hresolve hprovider
    have hserves := serves_of_mem_participants howned hmem
    rw [hprovides, ← hcontract, hmatch.2] at hserves
    exact ⟨candidate, hserves, heligible⟩

/-- What is resolved without the cache is an eligible provider in the scope of the caller. -/
theorem resolveUncached_ok (howned : state.InstancesOwned)
    (h : state.resolveUncached secrets caller contract allowInactiveCaller = .ok provider) :
    ∃ scopeId, state.Consumes scopeId caller contract allowInactiveCaller ∧
      ∃ entry, state.Serves scopeId provider contract entry ∧ entry.eligible secrets = true := by
  simp only [resolveUncached, bind_eq_ok_iff, exactlyOne_eq_ok_iff] at h
  obtain ⟨binding, hbinding, hone⟩ := h
  obtain ⟨scopeId, hconsumes, hproviders⟩ := resolveBindingUncached_ok howned hbinding
  exact ⟨scopeId, hconsumes, hproviders provider (by simp [hone])⟩

/-- A provider of an active instance has a component and a principal. -/
theorem locate_of_serves (howned : state.InstancesOwned) {entry : OwnedContractProvider}
    (h : state.Serves scopeId provider contract entry) :
    ∃ resolved, state.locate provider = .ok resolved ∧ resolved.provider = provider := by
  obtain ⟨inst, hinst, -, -, hentry, rfl, -⟩ := h
  obtain ⟨handle, hhandle⟩ :=
    Option.isSome_iff_exists.mp ((howned _ inst hinst).1 entry hentry).2
  refine ⟨⟨entry.owner, handle, inst.extensionId, entry.owner.instanceId, inst.scopeId,
    entry.owner.componentId⟩, ?_, rfl⟩
  simp only [locate, component, componentIdentity, hinst, Option.bind_some, hhandle,
    Option.isSome_some, if_true]
  rfl

/-- What is located is the provider asked for. -/
theorem locate_ok {resolved : ResolvedProvider} (h : state.locate provider = .ok resolved) :
    resolved.provider = provider ∧
      ∃ inst, state.instances.lookup provider.instanceId = some inst ∧
        resolved.identity =
          ⟨inst.extensionId, provider.instanceId, inst.scopeId, provider.componentId⟩ := by
  simp only [locate, bind_eq_ok_iff, orError_eq_ok_iff, componentIdentity,
    Option.bind_eq_some_iff] at h
  obtain ⟨component, -, identity, ⟨inst, hinst, hidentity⟩, hresolved⟩ := h
  cases hresolved
  split at hidentity
  · cases hidentity
    exact ⟨rfl, inst, hinst, rfl⟩
  · cases hidentity

end ServiceRuntimeState

/-! ## Stored routes -/

/-- What holds of the stored routes: they carry the present topology revision and the
policy revision of their stamps, they lead to providers in the scope of the caller, and
those that are stamped now are what resolution finds now. -/
structure RoutesSound (runtime : ServiceRuntime) (routedAt : RouteKey → Nat) : Prop where
  revisions : ∀ key cached, runtime.state.routeCache.lookup key = some cached →
    cached.topologyRevision = runtime.state.topologyRevision ∧
      cached.policyRevision = routedAt key % counterLimit
  declared : ∀ key cached provider, runtime.state.routeCache.lookup key = some cached →
    cached.result = .ok provider →
    ∃ scopeId, runtime.state.Consumes scopeId key.caller key.contract key.allowInactiveCaller ∧
      ∃ entry, runtime.state.Serves scopeId provider key.contract entry
  current : Stamped
    (fun key cached => cached.result = runtime.state.resolveUncached runtime.secrets key.caller
      key.contract key.allowInactiveCaller)
    runtime.secrets.policyChanges routedAt (fun key => runtime.state.routeCache.lookup key)

namespace RoutesSound

variable {runtime runtime' : ServiceRuntime} {routedAt : RouteKey → Nat}

/-- Without routes nothing is claimed. -/
theorem of_empty (hempty : runtime.state.routeCache = ∅) : RoutesSound runtime routedAt := by
  have hnone : ∀ key, runtime.state.routeCache.lookup key = none := by
    intro key
    rw [hempty]
    rfl
  constructor
  · intro key cached hcached
    cases (hnone key).symm.trans hcached
  · intro key cached provider hcached
    cases (hnone key).symm.trans hcached
  · exact .empty hnone

/-- A change of the policy leaves the routes with their revisions. -/
theorem policy (h : RoutesSound runtime routedAt) {secrets : SecretManager}
    (hcounted : secrets.policyChanges = runtime.secrets.policyChanges + 1) :
    RoutesSound { runtime with secrets := secrets } routedAt where
  revisions := h.revisions
  declared := h.declared
  current := by
    rw [hcounted]
    exact h.current.change

/-- Operations on handles leave the routes. -/
theorem handlesOnly (h : RoutesSound runtime routedAt) {state : ServiceRuntimeState}
    (hsame : runtime.state.HandlesOnly state) :
    RoutesSound { runtime with state := state } routedAt where
  revisions := by
    rw [hsame.routeCache, hsame.topologyRevision]
    exact h.revisions
  declared := by
    unfold ServiceRuntimeState.Consumes ServiceRuntimeState.Serves
    rw [hsame.routeCache, hsame.instances]
    exact h.declared
  current := by
    rw [hsame.routeCache]
    refine h.current.mono fun key cached hcurrent => ?_
    rw [hcurrent, hsame.resolveUncached]

/-- A route that is stored is what resolution finds now. -/
theorem store (h : RoutesSound runtime routedAt) (howned : runtime.state.InstancesOwned)
    (caller : ComponentRef) (contract : ContractKey) (allowInactiveCaller : Bool) :
    RoutesSound { runtime with
      state := { runtime.state with
        routeCache := runtime.state.routeCache.insert ⟨caller, contract, allowInactiveCaller⟩
          ⟨runtime.state.topologyRevision, runtime.secrets.policyRevision,
            runtime.state.resolveUncached runtime.secrets caller contract
              allowInactiveCaller⟩ } }
      (fun key => if some (RouteKey.mk caller contract allowInactiveCaller) = some key then
        runtime.secrets.policyChanges else routedAt key) where
  revisions key cached hcached := by
    simp only [Dict.lookup_insert_ite] at hcached
    split at hcached
    · next hsame =>
        cases hcached
        rw [hsame, if_pos rfl]
        exact ⟨rfl, rfl⟩
    · next hne =>
        rw [if_neg fun heq => hne (Option.some.inj heq).symm]
        exact h.revisions key cached hcached
  declared key cached provider hcached hresult := by
    simp only [Dict.lookup_insert_ite] at hcached
    split at hcached
    · next hsame =>
        cases hcached
        subst hsame
        obtain ⟨scopeId, hconsumes, entry, hserves, -⟩ :=
          ServiceRuntimeState.resolveUncached_ok howned hresult
        exact ⟨scopeId, hconsumes, entry, hserves⟩
    · exact h.declared key cached provider hcached hresult
  current := by
    refine h.current.extend fun key cached hcached => ?_
    rw [Dict.lookup_insert_ite] at hcached
    split at hcached
    · next hsame =>
        cases hcached
        subst hsame
        exact .inr ⟨rfl, if_pos rfl⟩
    · next hne => exact .inl ⟨hcached, if_neg fun heq => hne (Option.some.inj heq).symm⟩

/-- Every operation keeps the routes sound. -/
theorem effect (h : RoutesSound runtime routedAt) (howned : runtime.state.InstancesOwned)
    {op : ServiceOp} (heffect : ServiceEffect runtime op runtime') :
    RoutesSound runtime' fun key =>
      if runtime.storedRoute op = some key then runtime.secrets.policyChanges
      else routedAt key := by
  cases heffect with
  | none hunstored =>
      simp only [hunstored, reduceCtorEq, if_false]
      exact h
  | topology hunstored changed => exact .of_empty rfl
  | policy hunstored hcounted =>
      simp only [hunstored, reduceCtorEq, if_false]
      exact h.policy hcounted
  | @routed _ caller contract allowInactiveCaller hstored =>
      rw [hstored]
      exact h.store howned caller contract allowInactiveCaller
  | listed =>
      simp only [ServiceRuntime.storedRoute, reduceCtorEq, if_false]
      exact h.handlesOnly (ServiceRuntimeState.handlesOnly_list _ _ _ _ _)

end RoutesSound

/-- Routes are sound in every state of a run. -/
theorem routesSound_of_run {ops : List ServiceOp} {stamped : StampedRuntime}
    (h : serviceSystem.Run .new ops stamped) : RoutesSound stamped.runtime stamped.routedAt := by
  have hsound := h.preserves (P := fun stamped => stamped.runtime.state.InstancesOwned ∧
      RoutesSound stamped.runtime stamped.routedAt) ?_ ⟨owned_new, .of_empty rfl⟩
  · exact hsound.2
  · rintro before op _ ⟨howned, hroutes⟩ rfl
    exact ⟨ServiceRuntime.owned_run howned op,
      hroutes.effect howned (before.runtime.run_effect op)⟩

/-! ## Cached and uncached resolution -/

/-- A usable route that was stored before the policy revision went round is what
resolution finds now. -/
theorem RoutesSound.cachedRoute_eq {runtime : ServiceRuntime} {routedAt : RouteKey → Nat}
    (h : RoutesSound runtime routedAt) {key : RouteKey} {result : ServiceCallResult ComponentRef}
    (hcached : runtime.state.cachedRoute runtime.secrets key = some result)
    (hrecent : runtime.secrets.policyChanges < routedAt key + counterLimit) :
    result = runtime.state.resolveUncached runtime.secrets key.caller key.contract
      key.allowInactiveCaller := by
  unfold ServiceRuntimeState.cachedRoute at hcached
  split at hcached
  · cases hcached
  · next cached hlookup =>
      split at hcached
      · next hrevisions =>
          cases hcached
          refine h.current.valid hlookup ?_ hrecent
          exact (h.revisions key cached hlookup).2.symm.trans hrevisions.2
      · cases hcached

/-- The providers of located results are the results. -/
theorem map_locate {state : ServiceRuntimeState} {result : ServiceCallResult ComponentRef}
    (hlocated : ∀ provider, result = .ok provider →
      ∃ resolved, state.locate provider = .ok resolved ∧ resolved.provider = provider) :
    (result >>= state.locate).map (fun resolved => resolved.provider) = result := by
  cases result with
  | error error => rfl
  | ok provider =>
      obtain ⟨resolved, hlocate, hprovider⟩ := hlocated provider rfl
      change (state.locate provider).map _ = _
      rw [hlocate, ← hprovider]
      rfl

/-- In every state that a run reaches, resolving through the cache gives the provider or
the error that resolving without it gives, unless the policy has changed 2^64 times since
the route was stored. -/
theorem cached_routing {ops : List ServiceOp} {stamped : StampedRuntime}
    (hrun : serviceSystem.Run .new ops stamped) (caller : ComponentRef) (contract : ContractKey)
    (allowInactiveCaller : Bool)
    (hrecent : stamped.runtime.state.routeCache.lookup ⟨caller, contract, allowInactiveCaller⟩ ≠
        none →
      stamped.runtime.secrets.policyChanges <
        stamped.routedAt ⟨caller, contract, allowInactiveCaller⟩ + counterLimit) :
    (stamped.runtime.state.resolveProvider stamped.runtime.secrets caller contract
        allowInactiveCaller).2.map (fun resolved => resolved.provider) =
      stamped.runtime.state.resolveUncached stamped.runtime.secrets caller contract
        allowInactiveCaller := by
  have howned := owned_of_run hrun
  have hlocated : ∀ provider,
      stamped.runtime.state.resolveUncached stamped.runtime.secrets caller contract
        allowInactiveCaller = .ok provider →
      ∃ resolved, stamped.runtime.state.locate provider = .ok resolved ∧
        resolved.provider = provider := by
    intro provider hprovider
    obtain ⟨_, -, _, hserves, -⟩ := ServiceRuntimeState.resolveUncached_ok howned hprovider
    exact ServiceRuntimeState.locate_of_serves howned hserves
  unfold ServiceRuntimeState.resolveProvider
  cases hcached : stamped.runtime.state.cachedRoute stamped.runtime.secrets
      ⟨caller, contract, allowInactiveCaller⟩ with
  | none => exact map_locate hlocated
  | some result =>
      have hstored : stamped.runtime.state.routeCache.lookup
          ⟨caller, contract, allowInactiveCaller⟩ ≠ none := by
        intro hnone
        simp [ServiceRuntimeState.cachedRoute, hnone] at hcached
      have hresult := (routesSound_of_run hrun).cachedRoute_eq hcached (hrecent hstored)
      dsimp only at hresult ⊢
      rw [hresult]
      exact map_locate hlocated

/-! ## A route that outlives 2^64 policy changes -/

/-- The contract of a search service. -/
def searchContract : ContractKey := ⟨⟨"search"⟩, 1⟩

/-- The secret that the search server needs. -/
def searchKey : SecretPathPattern := .exact ⟨"keys.search"⟩

/-- The component that serves searches. -/
def searchServer : ComponentRef := ⟨⟨"server"⟩, ⟨"main"⟩⟩

/-- The component that asks for searches. -/
def searchClient : ComponentRef := ⟨⟨"client"⟩, ⟨"main"⟩⟩

/-- The registration of the server. -/
def searchServerRegistration : ServiceInstanceRegistration where
  instanceId := ⟨"server"⟩
  extensionId := ⟨"search.server"⟩
  scopeId := ⟨"host"⟩
  definitions := []
  providers := [⟨searchServer, searchContract, [.secretRead searchKey]⟩]
  consumers := []
  components := (∅ : Dict ComponentId ServiceComponent).insert ⟨"main"⟩ ⟨none⟩
  providers_owned := by decide
  consumers_owned := by simp

/-- The registration of the client. -/
def searchClientRegistration : ServiceInstanceRegistration where
  instanceId := ⟨"client"⟩
  extensionId := ⟨"search.client"⟩
  scopeId := ⟨"host"⟩
  definitions := []
  providers := []
  consumers := [⟨searchClient, searchContract, true, []⟩]
  components := (∅ : Dict ComponentId ServiceComponent).insert ⟨"main"⟩ ⟨none⟩
  providers_owned := by simp
  consumers_owned := by decide

/-- Both are active, and the server holds its grant. -/
def searchSetup (resolution : ContractResolutionPolicy) : List ServiceOp :=
  [.definePlatformContract ⟨"host"⟩ ⟨searchContract, resolution, .service⟩,
    .registerInstance searchServerRegistration,
    .registerInstance searchClientRegistration,
    .activateInstance ⟨"server"⟩,
    .activateInstance ⟨"client"⟩,
    .grantRead searchServer searchKey]

/-- An empty request to a free provider. -/
def emptyRequest : ServiceRequest := ⟨[], [], .free⟩

/-- The server loses its grant, and the policy changes once more. -/
def searchRevocation : List ServiceOp :=
  [.revokeComponent searchServer, .grantRead searchClient searchKey]

/-- The server is used once and then loses its grant. -/
def searchRevoked (resolution : ContractResolutionPolicy) (use : ServiceOp) : StampedRuntime :=
  StampedRuntime.new.performAll (searchSetup resolution ++ use :: searchRevocation)

/-- The runtime when the policy revision is again that of the use. -/
def searchWrapped (resolution : ContractResolutionPolicy) (use : ServiceOp) : ServiceRuntime :=
  ⟨(searchRevoked resolution use).runtime.state,
    (searchRevoked resolution use).runtime.secrets.readGrants, 2 ^ 64 + 1⟩

/-- The policy revision comes back to that of the use. -/
theorem exists_searchWrapped (resolution : ContractResolutionPolicy) (use : ServiceOp)
    (hnone : (searchRevoked resolution use).runtime.secrets.readGrants.lookup
      ⟨⟨"auditor"⟩, ⟨"main"⟩⟩ = none)
    (hchanges : (searchRevoked resolution use).runtime.secrets.policyChanges = 3) :
    ∃ ops stamped, serviceSystem.Run .new ops stamped ∧
      stamped.runtime = searchWrapped resolution use := by
  obtain ⟨ops, stamped, hrun, hruntime⟩ :=
    (searchRevoked resolution use).exists_policyChanges hnone searchKey (2 ^ 63 - 1)
  refine ⟨_, stamped, (StampedRuntime.run_performAll .new _).append hrun, ?_⟩
  rw [hruntime, hchanges]
  rfl

/-- The cached route still leads to the server, which resolution rejects. -/
theorem stale_route_after_wrap :
    ∃ ops stamped, serviceSystem.Run .new ops stamped ∧
      (stamped.runtime.state.resolveProvider stamped.runtime.secrets searchClient searchContract
        false).2.map (fun resolved => resolved.provider) = .ok searchServer ∧
      stamped.runtime.state.resolveUncached stamped.runtime.secrets searchClient searchContract
        false = .error .unavailable := by
  obtain ⟨ops, stamped, hrun, hruntime⟩ := exists_searchWrapped .single
    (.call searchClient searchContract false emptyRequest) rfl rfl
  refine ⟨ops, stamped, hrun, ?_, ?_⟩
  · rw [hruntime]
    rfl
  · rw [hruntime]
    rfl

/-- Resolution through the cache right after the route was stored. -/
theorem cached_routing_search :
    ((StampedRuntime.new.performAll (searchSetup .single ++
        [.call searchClient searchContract false emptyRequest])).runtime.state.resolveProvider
      (StampedRuntime.new.performAll (searchSetup .single ++
        [.call searchClient searchContract false emptyRequest])).runtime.secrets
      searchClient searchContract false).2.map (fun resolved => resolved.provider) =
    (StampedRuntime.new.performAll (searchSetup .single ++
        [.call searchClient searchContract false emptyRequest])).runtime.state.resolveUncached
      (StampedRuntime.new.performAll (searchSetup .single ++
        [.call searchClient searchContract false emptyRequest])).runtime.secrets
      searchClient searchContract false :=
  cached_routing (StampedRuntime.run_performAll .new _) searchClient searchContract false
    fun _ => by decide +kernel

end Rintawa.ExtensionEngine
