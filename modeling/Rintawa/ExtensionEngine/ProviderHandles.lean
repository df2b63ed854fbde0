/-
# Provider handles

A handle is a number for one caller, contract, provider and mode. Numbers are only
taken upwards, and the table of handles is dropped whenever the topology changes or
another policy revision is met. So a handle in the table is one that was issued for the
very key it has, and listing providers again finds it, until the policy revision goes
round or the numbers run out.
-/

import Rintawa.ExtensionEngine.Routing

namespace Rintawa.ExtensionEngine

open Rintawa.Lib Rintawa.Sdk

namespace ServiceRuntimeState

/-! ## The table of handles -/

/-- The handles and their cache are inverse to each other, and no number is above the
last one that was taken. -/
structure HandleTable (state : ServiceRuntimeState) : Prop where
  numbered : ∀ handle binding, state.providerHandles.lookup handle = some binding →
    handle.raw ≤ state.nextProviderHandle
  cached : ∀ handle binding, state.providerHandles.lookup handle = some binding →
    state.providerHandleCache.lookup binding.key = some handle
  bound : ∀ key handle, state.providerHandleCache.lookup key = some handle →
    state.providerHandles.lookup handle = some ⟨key⟩

variable {state state' : ServiceRuntimeState} {fresh : ProviderHandleKey → Prop}

/-- A table without handles. -/
theorem HandleTable.of_empty (hhandles : state.providerHandles = ∅)
    (hcache : state.providerHandleCache = ∅) : state.HandleTable where
  numbered handle binding h := by
    rw [hhandles] at h
    cases h
  cached handle binding h := by
    rw [hhandles] at h
    cases h
  bound key handle h := by
    rw [hcache] at h
    cases h

/-- Handles of some keys were issued: known handles stay, and new ones have new numbers. -/
structure Issued (fresh : ProviderHandleKey → Prop) (state state' : ServiceRuntimeState) :
    Prop extends HandlesOnly state state' where
  policyRevision : state'.providerHandlePolicyRevision = state.providerHandlePolicyRevision
  next : state.nextProviderHandle ≤ state'.nextProviderHandle
  table : state'.HandleTable
  keeps : ∀ key handle, state.providerHandleCache.lookup key = some handle →
    state'.providerHandleCache.lookup key = some handle
  adds : ∀ handle binding, state'.providerHandles.lookup handle = some binding →
    state.providerHandles.lookup handle = some binding ∨
      (state.nextProviderHandle < handle.raw ∧ fresh binding.key)

theorem Issued.refl (h : state.HandleTable) : Issued fresh state state where
  toHandlesOnly := ⟨.refl state, rfl, rfl⟩
  policyRevision := rfl
  next := Nat.le_refl _
  table := h
  keeps _ _ hkey := hkey
  adds _ _ hhandle := .inl hhandle

theorem Issued.trans {state'' : ServiceRuntimeState} (h : Issued fresh state state')
    (h' : Issued fresh state' state'') : Issued fresh state state'' where
  toHandlesOnly := h.toHandlesOnly.trans h'.toHandlesOnly
  policyRevision := h'.policyRevision.trans h.policyRevision
  next := h.next.trans h'.next
  table := h'.table
  keeps key handle hkey := h'.keeps key handle (h.keeps key handle hkey)
  adds handle binding hhandle := by
    rcases h'.adds handle binding hhandle with hbefore | ⟨hnew, hfresh⟩
    · exact h.adds handle binding hbefore
    · exact .inr ⟨h.next.trans_lt hnew, hfresh⟩

/-- Issuing one handle. -/
theorem HandleTable.issue (h : state.HandleTable) {key : ProviderHandleKey} (hfresh : fresh key) :
    Issued fresh state (state.issueProviderHandle key).1 := by
  have hframe := handlesOnly_issue state key
  unfold issueProviderHandle at hframe ⊢
  split
  · exact .refl h
  · next hnone =>
      split
      · have hnew : state.providerHandles.lookup ⟨state.nextProviderHandle + 1⟩ = none := by
          cases hlookup : state.providerHandles.lookup ⟨state.nextProviderHandle + 1⟩ with
          | none => rfl
          | some binding => exact absurd (h.numbered _ binding hlookup) (Nat.not_succ_le_self _)
        refine ⟨⟨⟨rfl, rfl, rfl⟩, rfl, rfl⟩, rfl, Nat.le_succ _, ⟨?_, ?_, ?_⟩, ?_, ?_⟩
        · intro handle binding hhandle
          rw [Dict.lookup_insert_ite] at hhandle
          split at hhandle
          · next hsame => exact Nat.le_of_eq (congrArg ServiceProviderHandle.raw hsame)
          · exact Nat.le_succ_of_le (h.numbered handle binding hhandle)
        · intro handle binding hhandle
          rw [Dict.lookup_insert_ite] at hhandle
          split at hhandle
          · next hsame =>
              cases hhandle
              rw [hsame, AList.lookup_insert]
          · have hcached := h.cached handle binding hhandle
            rw [AList.lookup_insert_ne, hcached]
            rintro rfl
            cases hnone.symm.trans hcached
        · intro other handle hcached
          rw [Dict.lookup_insert_ite] at hcached
          split at hcached
          · next hsame =>
              cases hcached
              rw [hsame, AList.lookup_insert]
          · have hhandle := h.bound other handle hcached
            rw [AList.lookup_insert_ne, hhandle]
            rintro rfl
            cases hnew.symm.trans hhandle
        · intro other handle hcached
          rw [AList.lookup_insert_ne, hcached]
          rintro rfl
          cases hnone.symm.trans hcached
        · intro handle binding hhandle
          rw [Dict.lookup_insert_ite] at hhandle
          split at hhandle
          · next hsame =>
              cases hhandle
              refine .inr ⟨?_, hfresh⟩
              rw [hsame]
              exact Nat.lt_succ_self _
          · exact .inl hhandle
      · exact .refl h

/-- No number is left for another handle. -/
def Exhausted (state : ServiceRuntimeState) : Prop :=
  counterLimit ≤ state.nextProviderHandle + 1

/-- Dropping the handles of another policy revision takes no number. -/
theorem next_sync (state : ServiceRuntimeState) (policyRevision : Nat) :
    (state.syncProviderHandlePolicy policyRevision).nextProviderHandle =
      state.nextProviderHandle := by
  unfold syncProviderHandlePolicy
  split <;> rfl

theorem revision_sync (state : ServiceRuntimeState) (policyRevision : Nat) :
    (state.syncProviderHandlePolicy policyRevision).providerHandlePolicyRevision =
      policyRevision := by
  unfold syncProviderHandlePolicy
  split
  · next hsame => exact hsame
  · rfl

/-- Dropping handles adds none. -/
theorem handles_sync (state : ServiceRuntimeState) (policyRevision : Nat)
    (handle : ServiceProviderHandle) (binding : ProviderHandleBinding)
    (h : (state.syncProviderHandlePolicy policyRevision).providerHandles.lookup handle =
      some binding) : state.providerHandles.lookup handle = some binding := by
  unfold syncProviderHandlePolicy at h
  split at h
  · exact h
  · cases h

theorem HandleTable.sync (h : state.HandleTable) (policyRevision : Nat) :
    (state.syncProviderHandlePolicy policyRevision).HandleTable := by
  unfold syncProviderHandlePolicy
  split
  · exact h
  · exact .of_empty rfl rfl

/-- What issuing leaves and returns: it fails only for want of numbers. -/
def Returns {α : Type} (Good : α → Prop) (state : ServiceRuntimeState) :
    ServiceCallResult α → Prop
  | .ok value => Good value
  | .error error => error = .unavailable ∧ state.Exhausted

/-- A handle that is issued is in the cache. -/
theorem issueProviderHandle_returns (state : ServiceRuntimeState) (key : ProviderHandleKey) :
    Returns (fun handle =>
        (state.issueProviderHandle key).1.providerHandleCache.lookup key = some handle)
      (state.issueProviderHandle key).1 (state.issueProviderHandle key).2 := by
  unfold issueProviderHandle
  cases hcached : state.providerHandleCache.lookup key with
  | some handle => exact hcached
  | none =>
      by_cases hleft : state.nextProviderHandle + 1 < counterLimit
      · simp only [if_pos hleft]
        exact AList.lookup_insert _
      · simp only [if_neg hleft]
        exact ⟨rfl, Nat.le_of_not_lt hleft⟩

/-- Issuing handles for several providers. -/
theorem HandleTable.issueAll (h : state.HandleTable) {caller : ComponentRef}
    {contract : ContractKey} {allowInactiveCaller : Bool} {providers : List ComponentRef}
    (hfresh : ∀ provider ∈ providers, fresh ⟨caller, contract, provider, allowInactiveCaller⟩) :
    Issued fresh state
        (issueProviderHandles caller contract allowInactiveCaller state providers).1 ∧
      Returns (List.Forall₂ (fun provider handle =>
          (issueProviderHandles caller contract allowInactiveCaller state
            providers).1.providerHandleCache.lookup
              ⟨caller, contract, provider, allowInactiveCaller⟩ = some handle) providers)
        (issueProviderHandles caller contract allowInactiveCaller state providers).1
        (issueProviderHandles caller contract allowInactiveCaller state providers).2 := by
  induction providers generalizing state with
  | nil => exact ⟨.refl h, .nil⟩
  | cons provider rest ih =>
      have hfirst := h.issue (hfresh provider List.mem_cons_self)
      have hresult := issueProviderHandle_returns state
        ⟨caller, contract, provider, allowInactiveCaller⟩
      simp only [issueProviderHandles]
      split
      · next next error hissue =>
          rw [hissue] at hfirst hresult
          exact ⟨hfirst, hresult⟩
      · next next handle hissue =>
          rw [hissue] at hfirst hresult
          obtain ⟨hrest, hhandles⟩ := ih hfirst.table
            fun other hmem => hfresh other (List.mem_cons_of_mem _ hmem)
          split
          · next final error hissueRest =>
              rw [hissueRest] at hrest hhandles
              exact ⟨hfirst.trans hrest, hhandles⟩
          · next final handles hissueRest =>
              rw [hissueRest] at hrest hhandles
              exact ⟨hfirst.trans hrest, .cons (hrest.keeps _ _ hresult) hhandles⟩

/-- The providers that a caller may choose from are eligible and in its scope. -/
theorem listedProviders_ok {secrets : SecretManager} (howned : state.InstancesOwned)
    {caller : ComponentRef} {contract : ContractKey} {allowInactiveCaller : Bool}
    {providers : List ComponentRef}
    (h : state.listedProviders secrets caller contract allowInactiveCaller = .ok providers) :
    ∃ scopeId, state.Consumes scopeId caller contract allowInactiveCaller ∧
      ∀ provider ∈ providers, ∃ entry,
        state.Serves scopeId provider contract entry ∧ entry.eligible secrets = true := by
  simp only [listedProviders, bind_eq_ok_iff, ensure_eq_ok_iff] at h
  obtain ⟨binding, hbinding, _, -, _, -, hproviders⟩ := h
  cases hproviders
  exact resolveBindingUncached_ok howned hbinding

/-- Providers whose handles are all known are listed without a change. -/
theorem issueAll_cached {caller : ComponentRef} {contract : ContractKey}
    {allowInactiveCaller : Bool} {providers : List ComponentRef}
    (hcached : ∀ provider ∈ providers, (state.providerHandleCache.lookup
      ⟨caller, contract, provider, allowInactiveCaller⟩).isSome = true) :
    ∃ handles, issueProviderHandles caller contract allowInactiveCaller state providers =
      (state, .ok handles) := by
  induction providers with
  | nil => exact ⟨[], rfl⟩
  | cons provider rest ih =>
      obtain ⟨handle, hhandle⟩ :=
        Option.isSome_iff_exists.mp (hcached provider List.mem_cons_self)
      obtain ⟨handles, hrest⟩ := ih fun other hmem => hcached other (List.mem_cons_of_mem _ hmem)
      exact ⟨handle :: handles, by simp [issueProviderHandles, issueProviderHandle, hhandle, hrest]⟩

end ServiceRuntimeState

/-! ## Handles that are still listed -/

/-- Listing the providers of a key finds its provider. Their handles are all known,
unless the numbers ran out. -/
def ServiceRuntime.Lists (runtime : ServiceRuntime) (key : ProviderHandleKey) : Prop :=
  ∃ providers, runtime.state.listedProviders runtime.secrets key.caller key.contract
      key.allowInactiveCaller = .ok providers ∧
    key.provider ∈ providers ∧
    ((∀ provider ∈ providers, (runtime.state.providerHandleCache.lookup
        ⟨key.caller, key.contract, provider, key.allowInactiveCaller⟩).isSome = true) ∨
      runtime.state.Exhausted)

/-- The keys of the providers that one listing finds. -/
def ProviderHandleKey.OfListing (caller : ComponentRef) (contract : ContractKey)
    (allowInactiveCaller : Bool) (providers : List ComponentRef) (key : ProviderHandleKey) :
    Prop :=
  ∃ provider ∈ providers, key = ⟨caller, contract, provider, allowInactiveCaller⟩

/-- A listing that finds a provider finds it after more handles were issued. -/
theorem ServiceRuntime.Lists.issued {runtime : ServiceRuntime} {key : ProviderHandleKey}
    (h : runtime.Lists key) {fresh : ProviderHandleKey → Prop} {state : ServiceRuntimeState}
    (hissued : runtime.state.Issued fresh state) :
    ServiceRuntime.Lists { runtime with state := state } key := by
  obtain ⟨providers, hlisted, hmem, hcached | hfull⟩ := h
  · refine ⟨providers, by rw [hissued.listedProviders, hlisted], hmem, .inl ?_⟩
    intro provider hprovider
    obtain ⟨handle, hhandle⟩ := Option.isSome_iff_exists.mp (hcached provider hprovider)
    rw [hissued.keeps _ handle hhandle]
    rfl
  · refine ⟨providers, by rw [hissued.listedProviders, hlisted], hmem, .inr ?_⟩
    exact hfull.trans (Nat.succ_le_succ hissued.next)

variable {allowInactiveCaller : Bool} {caller : ComponentRef} {ops : List ServiceOp}
  {stamped : StampedRuntime}

/-- Once the handles of a listing are issued, it lists every provider that it finds. -/
theorem ServiceRuntime.lists_of_issueAll {runtime : ServiceRuntime} {contract : ContractKey}
    {providers : List ComponentRef}
    (hlisted : runtime.state.listedProviders runtime.secrets caller contract
      allowInactiveCaller = .ok providers) {state : ServiceRuntimeState}
    {result : ServiceCallResult (List ServiceProviderHandle)} (hissued : runtime.state.Issued
      (ProviderHandleKey.OfListing caller contract allowInactiveCaller providers) state)
    (hreturns : ServiceRuntimeState.Returns (List.Forall₂ (fun provider handle =>
      state.providerHandleCache.lookup ⟨caller, contract, provider, allowInactiveCaller⟩ =
        some handle) providers) state result) {key : ProviderHandleKey}
    (hkey : key.OfListing caller contract allowInactiveCaller providers) :
    ServiceRuntime.Lists { runtime with state := state } key := by
  obtain ⟨provider, hmem, rfl⟩ := hkey
  refine ⟨providers, by rw [hissued.listedProviders, hlisted], hmem, ?_⟩
  cases result with
  | ok handles =>
      refine .inl fun other hother => ?_
      obtain ⟨handle, -, hhandle⟩ := exists_mem_of_forall₂ hreturns hother
      rw [hhandle]
      rfl
  | error error => exact .inr hreturns.2

/-- What holds of the handles: they form a table, they carry the policy revision of their
stamps, they lead to providers in the scopes of their callers, and those that are stamped
now are listed now. -/
structure HandlesSound (runtime : ServiceRuntime) (issuedAt : ServiceProviderHandle → Nat) :
    Prop where
  table : runtime.state.HandleTable
  revisions : ∀ handle binding, runtime.state.providerHandles.lookup handle = some binding →
    runtime.state.providerHandlePolicyRevision = issuedAt handle % counterLimit
  declared : ∀ handle binding, runtime.state.providerHandles.lookup handle = some binding →
    ∃ scopeId, runtime.state.Consumes scopeId binding.key.caller binding.key.contract
        binding.key.allowInactiveCaller ∧
      ∃ entry, runtime.state.Serves scopeId binding.key.provider binding.key.contract entry
  current : Stamped (fun _ binding => runtime.Lists binding.key)
    runtime.secrets.policyChanges issuedAt
    (fun handle => runtime.state.providerHandles.lookup handle)

namespace HandlesSound

variable {runtime runtime' : ServiceRuntime} {issuedAt : ServiceProviderHandle → Nat}

/-- Without handles nothing is claimed. -/
theorem of_empty (hhandles : runtime.state.providerHandles = ∅)
    (hcache : runtime.state.providerHandleCache = ∅) : HandlesSound runtime issuedAt := by
  have hnone : ∀ handle, runtime.state.providerHandles.lookup handle = none := by
    intro handle
    rw [hhandles]
    rfl
  constructor
  · exact .of_empty hhandles hcache
  · intro handle binding hhandle
    cases (hnone handle).symm.trans hhandle
  · intro handle binding hhandle
    cases (hnone handle).symm.trans hhandle
  · exact .empty hnone

/-- The stamps of numbers that were not taken do not matter. -/
theorem restamp (h : HandlesSound runtime issuedAt) {issuedAt' : ServiceProviderHandle → Nat}
    (hstamps : ∀ handle, handle.raw ≤ runtime.state.nextProviderHandle →
      issuedAt' handle = issuedAt handle) : HandlesSound runtime issuedAt' where
  table := h.table
  revisions handle binding hhandle := by
    rw [hstamps handle (h.table.numbered handle binding hhandle)]
    exact h.revisions handle binding hhandle
  declared := h.declared
  current := by
    refine h.current.extend fun handle binding hhandle => ?_
    exact .inl ⟨hhandle, hstamps handle (h.table.numbered handle binding hhandle)⟩

/-- A change of the policy leaves the handles with their revision. -/
theorem policy (h : HandlesSound runtime issuedAt) {secrets : SecretManager}
    (hcounted : secrets.policyChanges = runtime.secrets.policyChanges + 1) :
    HandlesSound { runtime with secrets := secrets } issuedAt where
  table := h.table
  revisions := h.revisions
  declared := h.declared
  current := by
    rw [hcounted]
    exact h.current.change

/-- The handles that belong to another policy revision are dropped. -/
theorem sync (h : HandlesSound runtime issuedAt) :
    HandlesSound { runtime with
      state := runtime.state.syncProviderHandlePolicy runtime.secrets.policyRevision }
      issuedAt := by
  unfold ServiceRuntimeState.syncProviderHandlePolicy
  split
  · exact h
  · exact .of_empty rfl rfl

/-- Handles that are issued for listed providers are sound. -/
theorem issue (h : HandlesSound runtime issuedAt) (howned : runtime.state.InstancesOwned)
    (hrevision : runtime.state.providerHandlePolicyRevision = runtime.secrets.policyRevision)
    {contract : ContractKey} {providers : List ComponentRef}
    (hlisted : runtime.state.listedProviders runtime.secrets caller contract
      allowInactiveCaller = .ok providers) :
    HandlesSound { runtime with
      state := (ServiceRuntimeState.issueProviderHandles caller contract allowInactiveCaller
        runtime.state providers).1 }
      (fun handle => if handle.raw ≤ runtime.state.nextProviderHandle then issuedAt handle
        else runtime.secrets.policyChanges) := by
  have hall : runtime.state.Issued
      (ProviderHandleKey.OfListing caller contract allowInactiveCaller providers) _ ∧ _ :=
    h.table.issueAll fun provider hmem => ⟨provider, hmem, rfl⟩
  obtain ⟨hissued, hreturns⟩ := hall
  generalize ServiceRuntimeState.issueProviderHandles caller contract allowInactiveCaller
    runtime.state providers = outcome at hissued hreturns
  obtain ⟨state, result⟩ := outcome
  dsimp only at hissued hreturns ⊢
  have hold : ∀ handle binding,
      runtime.state.providerHandles.lookup handle = some binding →
      (if handle.raw ≤ runtime.state.nextProviderHandle then issuedAt handle
        else runtime.secrets.policyChanges) = issuedAt handle :=
    fun handle binding hbefore => if_pos (h.table.numbered handle binding hbefore)
  have hnew : ∀ handle : ServiceProviderHandle,
      runtime.state.nextProviderHandle < handle.raw →
      (if handle.raw ≤ runtime.state.nextProviderHandle then issuedAt handle
        else runtime.secrets.policyChanges) = runtime.secrets.policyChanges :=
    fun handle hlt => if_neg (Nat.not_le_of_lt hlt)
  constructor
  · exact hissued.table
  · intro handle binding hhandle
    dsimp only at hhandle ⊢
    rw [hissued.policyRevision]
    rcases hissued.adds handle binding hhandle with hbefore | ⟨hlt, -⟩
    · rw [hold handle binding hbefore]
      exact h.revisions handle binding hbefore
    · rw [hnew handle hlt]
      exact hrevision
  · intro handle binding hhandle
    unfold ServiceRuntimeState.Consumes ServiceRuntimeState.Serves
    dsimp only at hhandle ⊢
    rw [hissued.instances]
    rcases hissued.adds handle binding hhandle with hbefore | ⟨-, provider, hmem, hkey⟩
    · exact h.declared handle binding hbefore
    · rw [hkey]
      obtain ⟨scopeId, hconsumes, hserves⟩ :=
        ServiceRuntimeState.listedProviders_ok howned hlisted
      obtain ⟨entry, hentry, -⟩ := hserves provider hmem
      exact ⟨scopeId, hconsumes, entry, hentry⟩
  · refine (h.current.mono fun _ _ hlists => hlists.issued hissued).extend ?_
    intro handle binding hhandle
    rcases hissued.adds handle binding hhandle with hbefore | ⟨hlt, hkey⟩
    · exact .inl ⟨hbefore, hold handle binding hbefore⟩
    · exact .inr ⟨ServiceRuntime.lists_of_issueAll hlisted hissued hreturns hkey, hnew handle hlt⟩

/-- Storing a route leaves the handles. -/
theorem routes (h : HandlesSound runtime issuedAt) (routeCache : Dict RouteKey CachedRoute) :
    HandlesSound { runtime with state := { runtime.state with routeCache := routeCache } }
      issuedAt where
  table := ⟨h.table.numbered, h.table.cached, h.table.bound⟩
  revisions := h.revisions
  declared := h.declared
  current := h.current

/-- Listing issues handles for what it finds, under the present policy revision. -/
theorem list (h : HandlesSound runtime issuedAt) (howned : runtime.state.InstancesOwned)
    (caller : ComponentRef) (contract : ContractKey) (allowInactiveCaller : Bool) :
    HandlesSound { runtime with
      state := (runtime.state.listProviders runtime.secrets caller contract
        allowInactiveCaller).1 }
      (fun handle => if handle.raw ≤ runtime.state.nextProviderHandle then issuedAt handle
        else runtime.secrets.policyChanges) := by
  have hsync := h.sync
  have hsame := ServiceRuntimeState.handlesOnly_sync runtime.state runtime.secrets.policyRevision
  have hnext := ServiceRuntimeState.next_sync runtime.state runtime.secrets.policyRevision
  have hownedSync : (runtime.state.syncProviderHandlePolicy
      runtime.secrets.policyRevision).InstancesOwned := by
    intro instanceId inst hinst
    rw [hsame.instances] at hinst
    exact howned instanceId inst hinst
  rw [← hnext]
  unfold ServiceRuntimeState.listProviders
  dsimp only
  split
  · exact hsync.restamp fun handle hle => if_pos hle
  · next providers hlisted =>
      exact hsync.issue hownedSync (ServiceRuntimeState.revision_sync _ _) hlisted

/-- Every operation keeps the handles sound. -/
theorem effect (h : HandlesSound runtime issuedAt) (howned : runtime.state.InstancesOwned)
    {op : ServiceOp} (heffect : ServiceEffect runtime op runtime') :
    HandlesSound runtime' fun handle =>
      if handle.raw ≤ runtime.state.nextProviderHandle then issuedAt handle
      else runtime.secrets.policyChanges := by
  cases heffect with
  | none => exact h.restamp fun handle hle => if_pos hle
  | topology => exact .of_empty rfl rfl
  | policy _ hcounted => exact (h.policy hcounted).restamp fun handle hle => if_pos hle
  | routed => exact (h.routes _).restamp fun handle hle => if_pos hle
  | listed => exact h.list howned _ _ _

end HandlesSound

/-- Handles are sound in every state of a run. -/
theorem handlesSound_of_run (h : serviceSystem.Run .new ops stamped) :
    HandlesSound stamped.runtime stamped.issuedAt := by
  have hsound := h.preserves (P := fun stamped => stamped.runtime.state.InstancesOwned ∧
      HandlesSound stamped.runtime stamped.issuedAt) ?_ ⟨owned_new, .of_empty rfl rfl⟩
  · exact hsound.2
  · rintro before op _ ⟨howned, hhandles⟩ rfl
    exact ⟨ServiceRuntime.owned_run howned op,
      hhandles.effect howned (before.runtime.run_effect op)⟩

/-! ## Numbers are never used again -/

/-- The handles of a listing: known ones, or new ones for what it finds. -/
theorem ServiceRuntimeState.HandleTable.list {state : ServiceRuntimeState}
    (h : state.HandleTable) (secrets : SecretManager) (caller : ComponentRef)
    (contract : ContractKey) (allowInactiveCaller : Bool) :
    state.nextProviderHandle ≤
        (state.listProviders secrets caller contract allowInactiveCaller).1.nextProviderHandle ∧
      ∀ handle binding,
        (state.listProviders secrets caller contract allowInactiveCaller).1.providerHandles.lookup
            handle = some binding →
        state.providerHandles.lookup handle = some binding ∨
          (state.nextProviderHandle < handle.raw ∧ binding.key.caller = caller ∧
            binding.key.contract = contract ∧
            binding.key.allowInactiveCaller = allowInactiveCaller) := by
  have hsync := h.sync secrets.policyRevision
  have hnext := next_sync state secrets.policyRevision
  have hkept := handles_sync state secrets.policyRevision
  unfold listProviders
  dsimp only
  split
  · exact ⟨Nat.le_of_eq hnext.symm, fun handle binding hhandle =>
      .inl (hkept handle binding hhandle)⟩
  · next providers hlisted =>
      have hall : Issued (ProviderHandleKey.OfListing caller contract allowInactiveCaller
          providers) _ _ ∧ _ := hsync.issueAll fun provider hmem => ⟨provider, hmem, rfl⟩
      have hissued := hall.1
      refine ⟨hnext ▸ hissued.next, fun handle binding hhandle => ?_⟩
      rcases hissued.adds handle binding hhandle with hbefore | ⟨hlt, provider, -, hkey⟩
      · exact .inl (hkept handle binding hbefore)
      · rw [hkey]
        exact .inr ⟨hnext ▸ hlt, rfl, rfl, rfl⟩

/-- A handle after an operation was there before, or it has a new number and the operation
listed the providers of its contract for its caller. -/
theorem ServiceEffect.handles {runtime runtime' : ServiceRuntime} {op : ServiceOp}
    (heffect : ServiceEffect runtime op runtime') (htable : runtime.state.HandleTable) :
    runtime.state.nextProviderHandle ≤ runtime'.state.nextProviderHandle ∧
      ∀ handle binding, runtime'.state.providerHandles.lookup handle = some binding →
        runtime.state.providerHandles.lookup handle = some binding ∨
          (runtime.state.nextProviderHandle < handle.raw ∧
            op = .listProviders binding.key.caller binding.key.contract
              binding.key.allowInactiveCaller) := by
  cases heffect with
  | none => exact ⟨Nat.le_refl _, fun _ _ h => .inl h⟩
  | topology _ changed hsame => exact ⟨Nat.le_of_eq hsame.symm, fun _ _ h => by cases h⟩
  | policy => exact ⟨Nat.le_refl _, fun _ _ h => .inl h⟩
  | routed => exact ⟨Nat.le_refl _, fun _ _ h => .inl h⟩
  | @listed caller contract allowInactiveCaller =>
      obtain ⟨hnext, hhandles⟩ := htable.list runtime.secrets caller contract allowInactiveCaller
      refine ⟨hnext, fun handle binding hhandle => ?_⟩
      rcases hhandles handle binding hhandle with hbefore | ⟨hlt, rfl, rfl, rfl⟩
      · exact .inl hbefore
      · exact .inr ⟨hlt, rfl⟩

/-- A number that was taken has at most one binding, now and ever after. -/
theorem binding_unique (hrun : serviceSystem.Run .new ops stamped) {later : List ServiceOp}
    {next : StampedRuntime} (hlater : serviceSystem.Run stamped later next) :
    stamped.runtime.state.nextProviderHandle ≤ next.runtime.state.nextProviderHandle ∧
      ∀ handle binding, handle.raw ≤ stamped.runtime.state.nextProviderHandle →
        next.runtime.state.providerHandles.lookup handle = some binding →
        stamped.runtime.state.providerHandles.lookup handle = some binding := by
  have hkept := hlater.preserves (P := fun next =>
      (∃ ops, serviceSystem.Run .new ops next) ∧
      stamped.runtime.state.nextProviderHandle ≤ next.runtime.state.nextProviderHandle ∧
      ∀ handle binding, handle.raw ≤ stamped.runtime.state.nextProviderHandle →
        next.runtime.state.providerHandles.lookup handle = some binding →
        stamped.runtime.state.providerHandles.lookup handle = some binding) ?_
    ⟨⟨ops, hrun⟩, Nat.le_refl _, fun _ _ _ h => h⟩
  · exact hkept.2
  · rintro before op _ ⟨⟨history, hbefore⟩, hnext, hbindings⟩ rfl
    obtain ⟨hle, hhandles⟩ :=
      (before.runtime.run_effect op).handles (handlesSound_of_run hbefore).table
    refine ⟨⟨_, hbefore.snoc rfl⟩, hnext.trans hle, fun handle binding htaken hhandle => ?_⟩
    rcases hhandles handle binding hhandle with hold | ⟨hlt, -⟩
    · exact hbindings handle binding htaken hold
    · exact absurd (htaken.trans hnext) (Nat.not_le_of_lt hlt)

/-- A handle was issued by a listing of its caller: at some step of the run it came into
the table, for its caller, its contract and its mode, and for its provider. -/
def IssuedIn (ops : List ServiceOp) (stamped : StampedRuntime) (handle : ServiceProviderHandle)
    (binding : ProviderHandleBinding) : Prop :=
  ∃ before after source,
    ops = before ++ .listProviders binding.key.caller binding.key.contract
      binding.key.allowInactiveCaller :: after ∧
    serviceSystem.Run .new before source ∧
    source.runtime.state.providerHandles.lookup handle = none ∧
    (source.perform (.listProviders binding.key.caller binding.key.contract
      binding.key.allowInactiveCaller)).runtime.state.providerHandles.lookup handle =
        some binding ∧
    serviceSystem.Run (source.perform (.listProviders binding.key.caller binding.key.contract
      binding.key.allowInactiveCaller)) after stamped

/-- Every handle was issued in the run. -/
theorem issuedIn_of_run (hrun : serviceSystem.Run .new ops stamped) :
    ∀ handle binding, stamped.runtime.state.providerHandles.lookup handle = some binding →
      IssuedIn ops stamped handle binding := by
  refine hrun.history_induction (P := fun ops stamped => ∀ handle binding,
    stamped.runtime.state.providerHandles.lookup handle = some binding →
      IssuedIn ops stamped handle binding) (fun _ _ h => by cases h) ?_
  rintro history before op _ hbefore ih rfl handle binding hhandle
  have htable := (handlesSound_of_run hbefore).table
  rcases ((before.runtime.run_effect op).handles htable).2 handle binding hhandle with
    hold | ⟨hlt, rfl⟩
  · obtain ⟨first, after, source, rfl, hfirst, hnone, hissued, hafter⟩ := ih handle binding hold
    exact ⟨first, after ++ [op], source, by simp, hfirst, hnone, hissued, hafter.snoc rfl⟩
  · refine ⟨history, [], before, rfl, hbefore, ?_, hhandle, .refl _⟩
    cases hlookup : before.runtime.state.providerHandles.lookup handle with
    | none => rfl
    | some other => exact absurd (htable.numbered handle other hlookup) (Nat.not_le_of_lt hlt)

/-! ## Calls through handles -/

/-- A call through a handle goes to its provider, for the caller that it belongs to and
under the policy revision that it was issued in. -/
theorem ServiceRuntimeState.callProvider_ok {state : ServiceRuntimeState} {secrets : SecretManager}
    {handle : ServiceProviderHandle} {request : ServiceRequest} {dispatch : ServiceDispatch}
    (h : state.callProvider secrets caller handle allowInactiveCaller request = .ok dispatch) :
    state.providerHandlePolicyRevision = secrets.policyRevision ∧
      state.providerHandles.lookup handle =
        some ⟨⟨caller, dispatch.contract, dispatch.provider, allowInactiveCaller⟩⟩ := by
  simp only [callProvider, resolveProviderHandle, dispatchTo, bind_eq_ok_iff, ensure_eq_ok_iff,
    orError_eq_ok_iff, Bool.and_eq_true, beq_iff_eq] at h
  obtain ⟨_, -, ⟨contract, resolved⟩, ⟨_, hrevision, binding, hbinding, _, ⟨rfl, rfl⟩, located,
    hlocate, hcontract⟩, _, -, _, -, _, -, hdispatch⟩ := h
  cases hcontract
  cases hdispatch
  rw [(locate_ok hlocate).1]
  exact ⟨hrevision, hbinding⟩

/-- Listing now would return a handle; without numbers it may fail although it finds the
provider. -/
def ServiceRuntime.StillListed (runtime : ServiceRuntime) (key : ProviderHandleKey)
    (handle : ServiceProviderHandle) : Prop :=
  ∃ providers, runtime.state.listedProviders runtime.secrets key.caller key.contract
      key.allowInactiveCaller = .ok providers ∧
    key.provider ∈ providers ∧
    ((∃ handles, (runtime.state.listProviders runtime.secrets key.caller key.contract
        key.allowInactiveCaller).2 = .ok handles ∧ handle ∈ handles) ∨
      ((runtime.state.listProviders runtime.secrets key.caller key.contract
          key.allowInactiveCaller).2 = .error .unavailable ∧ runtime.state.Exhausted))

/-- A handle of the present policy revision whose provider is listed is returned. -/
theorem ServiceRuntime.Lists.stillListed {runtime : ServiceRuntime}
    (htable : runtime.state.HandleTable)
    (hrevision : runtime.state.providerHandlePolicyRevision = runtime.secrets.policyRevision)
    {handle : ServiceProviderHandle} {binding : ProviderHandleBinding}
    (hbinding : runtime.state.providerHandles.lookup handle = some binding)
    (h : runtime.Lists binding.key) : runtime.StillListed binding.key handle := by
  obtain ⟨providers, hlisted, hmem, hknown⟩ := h
  refine ⟨providers, hlisted, hmem, ?_⟩
  have hlist : runtime.state.listProviders runtime.secrets binding.key.caller
      binding.key.contract binding.key.allowInactiveCaller =
      ServiceRuntimeState.issueProviderHandles binding.key.caller binding.key.contract
        binding.key.allowInactiveCaller runtime.state providers := by
    unfold ServiceRuntimeState.listProviders ServiceRuntimeState.syncProviderHandlePolicy
    rw [if_pos hrevision]
    dsimp only
    rw [hlisted]
  have hall : runtime.state.Issued (fun _ => True) _ ∧ _ :=
    @ServiceRuntimeState.HandleTable.issueAll _ _ htable binding.key.caller binding.key.contract
      binding.key.allowInactiveCaller providers fun _ _ => trivial
  obtain ⟨hissued, hreturns⟩ := hall
  rw [hlist]
  cases hresult : (ServiceRuntimeState.issueProviderHandles binding.key.caller
      binding.key.contract binding.key.allowInactiveCaller runtime.state providers).2 with
  | ok handles =>
      rw [hresult] at hreturns
      obtain ⟨other, hother, hlookup⟩ := exists_mem_of_forall₂ hreturns hmem
      have hsame := hissued.keeps _ handle (htable.cached handle binding hbinding)
      cases hsame.symm.trans hlookup
      exact .inl ⟨handles, rfl, hother⟩
  | error error =>
      rw [hresult] at hreturns
      refine .inr ⟨congrArg _ hreturns.1, ?_⟩
      rcases hknown with hcached | hfull
      · obtain ⟨handles, hissue⟩ := ServiceRuntimeState.issueAll_cached hcached
        rw [hissue] at hresult
        cases hresult
      · exact hfull

/-- In every state that a run reaches, a call through a handle only goes to the provider
of the contract and the mode that the handle was issued for, only for the component that
it was issued to and, unless the policy has changed 2^64 times since, only while listing
would find that provider. A handle never comes to stand for anything else. -/
theorem provider_handle_soundness (hrun : serviceSystem.Run .new ops stamped) :
    (∀ caller handle allowInactiveCaller request dispatch,
      stamped.runtime.state.callProvider stamped.runtime.secrets caller handle
        allowInactiveCaller request = .ok dispatch →
      IssuedIn ops stamped handle
          ⟨⟨caller, dispatch.contract, dispatch.provider, allowInactiveCaller⟩⟩ ∧
        (stamped.runtime.secrets.policyChanges < stamped.issuedAt handle + counterLimit →
          stamped.runtime.StillListed
            ⟨caller, dispatch.contract, dispatch.provider, allowInactiveCaller⟩ handle)) ∧
      ∀ handle binding, stamped.runtime.state.providerHandles.lookup handle = some binding →
        ∀ later next, serviceSystem.Run stamped later next →
        ∀ other, next.runtime.state.providerHandles.lookup handle = some other →
        other = binding := by
  have hsound := handlesSound_of_run hrun
  constructor
  · intro caller handle allowInactiveCaller request dispatch hcall
    obtain ⟨hrevision, hbinding⟩ := ServiceRuntimeState.callProvider_ok hcall
    refine ⟨issuedIn_of_run hrun handle _ hbinding, fun hrecent => ?_⟩
    have hlists := hsound.current.valid hbinding
      ((hsound.revisions handle _ hbinding).symm.trans hrevision) hrecent
    exact hlists.stillListed hsound.table hrevision hbinding
  · intro handle binding hbinding later next hlater other hother
    have hbefore := (binding_unique hrun hlater).2 handle other
      (hsound.table.numbered handle binding hbinding) hother
    exact Option.some.inj (hbefore.symm.trans hbinding)

/-- The server has been listed for the client. -/
def searchListed : StampedRuntime :=
  StampedRuntime.new.performAll
    (searchSetup .multiple ++ [.listProviders searchClient searchContract false])

/-- The first handle, right after it was issued. -/
theorem provider_handle_soundness_search :
    IssuedIn (searchSetup .multiple ++ [.listProviders searchClient searchContract false])
        searchListed ⟨1⟩ ⟨⟨searchClient, searchContract, searchServer, false⟩⟩ ∧
      searchListed.runtime.StillListed ⟨searchClient, searchContract, searchServer, false⟩ ⟨1⟩ := by
  have hsound := provider_handle_soundness (StampedRuntime.run_performAll .new
    (searchSetup .multiple ++ [.listProviders searchClient searchContract false]))
  obtain ⟨hissued, hlisted⟩ := hsound.1 searchClient ⟨1⟩ false emptyRequest
    ⟨searchServer, ⟨⟨"search.server"⟩, ⟨"server"⟩, ⟨"host"⟩, ⟨"main"⟩⟩, searchContract,
      [searchServer], defaultMaxServiceMessageBytes⟩ rfl
  exact ⟨hissued, hlisted (by decide +kernel)⟩

/-! ## A handle that outlives 2^64 policy changes, and numbers that run out -/

/-- A second component of the server. -/
def searchBackup : ComponentRef := ⟨⟨"server"⟩, ⟨"backup"⟩⟩

/-- The server consumes nothing. -/
theorem searchServer_consumes_nothing : ∀ entry ∈ ([] : List OwnedContractConsumer),
    entry.owner.instanceId = (⟨"server"⟩ : ExtensionInstanceId) := by
  simp

/-- The registration of a server with two components that need no grant. -/
def searchPairRegistration : ServiceInstanceRegistration where
  instanceId := ⟨"server"⟩
  extensionId := ⟨"search.server"⟩
  scopeId := ⟨"host"⟩
  definitions := []
  providers := [⟨searchServer, searchContract, []⟩, ⟨searchBackup, searchContract, []⟩]
  consumers := []
  components := ((∅ : Dict ComponentId ServiceComponent).insert ⟨"main"⟩ ⟨none⟩).insert
    ⟨"backup"⟩ ⟨none⟩
  providers_owned := by decide
  consumers_owned := searchServer_consumes_nothing

/-- Two providers may be chosen from. -/
def searchPairSetup : List ServiceOp :=
  [.definePlatformContract ⟨"host"⟩ ⟨searchContract, .multiple, .service⟩,
    .registerInstance searchPairRegistration,
    .registerInstance searchClientRegistration,
    .activateInstance ⟨"server"⟩,
    .activateInstance ⟨"client"⟩]

/-- The runtime with two providers. -/
def searchPair : ServiceRuntime :=
  (StampedRuntime.new.performAll searchPairSetup).runtime

/-- List the two providers. -/
def listPair : ServiceOp := .listProviders searchClient searchContract false

/-- A change of the topology that is taken back. -/
def topologyDetour : List ServiceOp :=
  [.setPreferredProvider ⟨"host"⟩ ⟨⟨"index"⟩, 1⟩ searchServer,
    .clearPreferredProvider ⟨"host"⟩ ⟨⟨"index"⟩, 1⟩]

/-- What is left of the detour are two changes of the topology. -/
theorem ServiceRuntimeState.topologyDetour_eq {state : ServiceRuntimeState}
    (hnone : state.preferredProviders = ∅) (scopeId : RuntimeScopeId) (contract : ContractKey)
    (provider : ComponentRef) :
    (state.setPreferredProvider scopeId contract provider).clearPreferredProvider scopeId
      contract = state.topologyChanged.topologyChanged := by
  obtain ⟨_, _, preferred, _, _, _, _, _, _⟩ := state
  subst hnone
  have hscope := Dict.erase_insert (d := (∅ : Dict RuntimeScopeId (Dict ContractKey ComponentRef)))
    (k := scopeId) rfl
  have hcontract := Dict.erase_insert (d := (∅ : Dict ContractKey ComponentRef)) (k := contract) rfl
  simp [setPreferredProvider, clearPreferredProvider, preferencesOf, topologyChanged, hscope,
    hcontract, -AList.insert_empty]

theorem foldl_topologyDetour {runtime : ServiceRuntime}
    (hnone : runtime.state.preferredProviders = ∅) :
    topologyDetour.foldl ServiceRuntime.run runtime =
      ⟨runtime.state.topologyChanged.topologyChanged, runtime.secrets⟩ := by
  rw [← ServiceRuntimeState.topologyDetour_eq hnone ⟨"host"⟩ ⟨⟨"index"⟩, 1⟩ searchServer]
  rfl

theorem searchServer_ne_searchBackup :
    (⟨searchClient, searchContract, searchServer, false⟩ : ProviderHandleKey) ≠
      ⟨searchClient, searchContract, searchBackup, false⟩ := by
  decide

/-- A state in which the first provider has got the last number. -/
def lastNumberTaken (state : ServiceRuntimeState) : ServiceRuntimeState :=
  { state with
    nextProviderHandle := 2 ^ 64 - 1
    providerHandles := (∅ : Dict ServiceProviderHandle ProviderHandleBinding).insert
      ⟨2 ^ 64 - 1⟩ ⟨⟨searchClient, searchContract, searchBackup, false⟩⟩
    providerHandleCache := (∅ : Dict ProviderHandleKey ServiceProviderHandle).insert
      ⟨searchClient, searchContract, searchBackup, false⟩ ⟨2 ^ 64 - 1⟩ }

/-- The runtime with two providers, after some numbers were taken and dropped. -/
structure PairAt (taken : Nat) (runtime : ServiceRuntime) : Prop where
  composition : searchPair.state.SameComposition runtime.state
  handles : runtime.state.providerHandles = ∅
  cache : runtime.state.providerHandleCache = ∅
  next : runtime.state.nextProviderHandle = taken
  revision : runtime.state.providerHandlePolicyRevision = 0
  secrets : runtime.secrets = .new

/-- Listing finds both providers. -/
theorem listProviders_pair {runtime : ServiceRuntime}
    (hcomposition : searchPair.state.SameComposition runtime.state)
    (hrevision : runtime.state.providerHandlePolicyRevision = 0)
    (hsecrets : runtime.secrets = .new) :
    runtime.state.listProviders runtime.secrets searchClient searchContract false =
      ServiceRuntimeState.issueProviderHandles searchClient searchContract false runtime.state
        [searchBackup, searchServer] := by
  have hlisted : runtime.state.listedProviders runtime.secrets searchClient searchContract false =
      .ok [searchBackup, searchServer] := by
    rw [hsecrets, hcomposition.listedProviders]
    decide +kernel
  unfold ServiceRuntimeState.listProviders ServiceRuntimeState.syncProviderHandlePolicy
  rw [if_pos (by rw [hrevision, hsecrets]; rfl)]
  dsimp only
  rw [hlisted]

theorem pairAt_searchPair : PairAt 0 searchPair :=
  ⟨.refl _, rfl, rfl, rfl, rfl, rfl⟩

namespace PairAt

variable {taken : Nat} {runtime : ServiceRuntime}

/-- Listing takes two numbers, if they are left, and keeps the policy revision. -/
theorem after_list (h : PairAt taken runtime) (hleft : taken + 2 < counterLimit) :
    (runtime.run listPair).state.nextProviderHandle = taken + 2 ∧
      (runtime.run listPair).state.providerHandlePolicyRevision = 0 := by
  have hone : taken + 1 < counterLimit := Nat.lt_of_succ_lt hleft
  simp only [listPair, ServiceRuntime.run,
    listProviders_pair h.composition h.revision h.secrets]
  simp [ServiceRuntimeState.issueProviderHandles, ServiceRuntimeState.issueProviderHandle, h.cache,
    h.next, h.revision, hone, hleft, AList.lookup_insert_ne searchServer_ne_searchBackup,
    -AList.insert_empty]

/-- One round takes two numbers and drops their handles. -/
theorem round (h : PairAt taken runtime) (hleft : taken + 2 < counterLimit) :
    PairAt (taken + 2) (topologyDetour.foldl ServiceRuntime.run (runtime.run listPair)) := by
  have hsame : searchPair.state.SameComposition (runtime.run listPair).state :=
    h.composition.trans (ServiceRuntimeState.handlesOnly_list runtime.state runtime.secrets
      searchClient searchContract false).toSameComposition
  have hsecrets : (runtime.run listPair).secrets = .new := h.secrets
  obtain ⟨hnext, hrevision⟩ := h.after_list hleft
  generalize runtime.run listPair = listed at hsame hsecrets hnext hrevision ⊢
  rw [foldl_topologyDetour hsame.preferredProviders]
  exact ⟨⟨hsame.instances, hsame.platformDefinitions, hsame.preferredProviders⟩, rfl, rfl,
    hnext, hrevision, hsecrets⟩

/-- With one number left only the first provider gets its handle. -/
theorem list_last (h : PairAt (2 ^ 64 - 2) runtime) :
    runtime.run listPair = ⟨lastNumberTaken runtime.state, runtime.secrets⟩ := by
  simp only [listPair, ServiceRuntime.run,
    listProviders_pair h.composition h.revision h.secrets]
  simp [ServiceRuntimeState.issueProviderHandles, ServiceRuntimeState.issueProviderHandle, h.cache,
    h.handles, h.next, counterLimit, lastNumberTaken,
    AList.lookup_insert_ne searchServer_ne_searchBackup, -AList.insert_empty]

/-- The last handle leads to its provider. -/
theorem callProvider_last (h : PairAt (2 ^ 64 - 2) runtime) :
    ((lastNumberTaken runtime.state).callProvider runtime.secrets searchClient ⟨2 ^ 64 - 1⟩ false
      emptyRequest).map (fun dispatch => dispatch.provider) = .ok searchBackup := by
  unfold ServiceRuntimeState.callProvider ServiceRuntimeState.resolveProviderHandle
    ServiceRuntimeState.locate ServiceRuntimeState.component
    ServiceRuntimeState.componentIdentity lastNumberTaken
  dsimp only
  rw [h.composition.instances, h.revision, h.secrets]
  rfl

/-- Without a number for the second provider listing fails. -/
theorem listProviders_last (h : PairAt (2 ^ 64 - 2) runtime) :
    ((lastNumberTaken runtime.state).listProviders runtime.secrets searchClient searchContract
      false).2 = .error .unavailable := by
  have hlist := @listProviders_pair ⟨lastNumberTaken runtime.state, runtime.secrets⟩
    ⟨h.composition.instances, h.composition.platformDefinitions,
      h.composition.preferredProviders⟩ h.revision h.secrets
  dsimp only at hlist
  rw [hlist]
  simp [ServiceRuntimeState.issueProviderHandles, ServiceRuntimeState.issueProviderHandle,
    counterLimit, lastNumberTaken, AList.lookup_insert_ne searchServer_ne_searchBackup,
    -AList.insert_empty]

end PairAt

/-- Two numbers are taken in each of any number of rounds. -/
theorem exists_pairAt (rounds : Nat) (hleft : 2 * rounds < counterLimit) :
    ∃ ops stamped, serviceSystem.Run .new ops stamped ∧ PairAt (2 * rounds) stamped.runtime := by
  induction rounds with
  | zero => exact ⟨_, _, StampedRuntime.run_performAll .new searchPairSetup, pairAt_searchPair⟩
  | succ rounds ih =>
      obtain ⟨ops, stamped, hrun, hpair⟩ := ih (Nat.lt_of_succ_lt (Nat.lt_of_succ_lt hleft))
      exact ⟨_, _, hrun.append (stamped.run_performAll (listPair :: topologyDetour)),
        hpair.round hleft⟩

/-- A handle still leads to the server when the policy revision has gone round, and the
last handle leads to its provider, while listing fails both times. -/
theorem dispatches_unlisted_provider :
    (∃ ops stamped, serviceSystem.Run .new ops stamped ∧
      (stamped.runtime.state.callProvider stamped.runtime.secrets searchClient ⟨1⟩ false
        emptyRequest).map (fun dispatch => dispatch.provider) = .ok searchServer ∧
      (stamped.runtime.state.listProviders stamped.runtime.secrets searchClient searchContract
        false).2 = .error .unavailable) ∧
    ∃ ops stamped, serviceSystem.Run .new ops stamped ∧
      (stamped.runtime.state.callProvider stamped.runtime.secrets searchClient ⟨2 ^ 64 - 1⟩ false
        emptyRequest).map (fun dispatch => dispatch.provider) = .ok searchBackup ∧
      (stamped.runtime.state.listProviders stamped.runtime.secrets searchClient searchContract
        false).2 = .error .unavailable := by
  constructor
  · obtain ⟨ops, stamped, hrun, hruntime⟩ := exists_searchWrapped .multiple
      (.listProviders searchClient searchContract false) rfl rfl
    refine ⟨ops, stamped, hrun, ?_, ?_⟩
    · rw [hruntime]
      rfl
    · rw [hruntime]
      rfl
  · obtain ⟨ops, stamped, hrun, hpair⟩ := exists_pairAt (2 ^ 63 - 1) (by decide)
    have hlast : (stamped.perform listPair).runtime = _ := PairAt.list_last hpair
    refine ⟨_, stamped.perform listPair, hrun.snoc rfl, ?_, ?_⟩
    · rw [hlast]
      exact PairAt.callProvider_last hpair
    · rw [hlast]
      exact PairAt.listProviders_last hpair

end Rintawa.ExtensionEngine
