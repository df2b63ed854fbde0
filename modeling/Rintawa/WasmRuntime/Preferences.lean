/-
# Preferences of hosted components

Preferences are kept by runtime scope and component. A store uses the scope in which its
own component was registered, also while it acts for a component that it hosts. That is
the scope of the hosted component as long as both are registered in one scope.
-/

import Rintawa.ExtensionEngine.EngineSteps
import Rintawa.WasmRuntime.Gate

namespace Rintawa.WasmRuntime

open Rintawa.Lib Rintawa.Sdk Rintawa.ExtensionEngine

/-! ## What is isolated -/

/-- The bytes that are counted for a call that uses preferences. -/
def CapabilityCall.preferenceBytes : CapabilityCall → Option Nat
  | .getPreference key => some key.utf8ByteSize
  | .setPreference key value => some (key.utf8ByteSize + value.utf8ByteSize)
  | .deletePreference key => some key.utf8ByteSize
  | _ => none

/-- Callbacks of components that are hosted, including their tasks. -/
def GuestCallback.isDelegated : GuestCallback → Bool
  | .runtimeTask context taskOwner _ _ => decide (taskOwner ≠ context.owner)
  | callback => callback.isHosted

/-- A use of preferences addresses the scope in which the component that is executed is
registered, and that component. The runtime context names the same scope. -/
def AddressesPrincipal (session : WasmSession) (host : WasmHostState) (env : HostEnvironment)
    (call : CapabilityCall) : Prop :=
  ∀ request ∈ (host.perform env call).requests, ∃ owner scopeId,
    host.executionOwner = some owner ∧
    session.services.componentScopeId owner = some scopeId ∧
    request = ⟨call, some owner, some scopeId⟩ ∧
    host.perform env .currentContext = host.forward env ⟨.currentContext, none, some scopeId⟩

/-- Every use of preferences in a step is isolated. -/
def PreferencesIsolated (_ : List SessionLabel) (session : WasmSession) (label : SessionLabel)
    (_ : WasmSession) : Prop :=
  ∀ owner env call result host, label = .call owner env call result →
    session.hostState = some host → call.preferenceBytes.isSome = true →
    AddressesPrincipal session host env call

/-- A hosted component that uses preferences is registered in the scope in which its host
is. Calls that are too large or without access do not count. -/
def HostedInOneScope (_ : List SessionLabel) (session : WasmSession) (label : SessionLabel)
    (_ : WasmSession) : Prop :=
  ∀ owner env call result callback host bytes scopeId,
    label = .call (some owner) env call result → session.current = some callback →
    session.hostState = some host → callback.isDelegated = true →
    host.hostAccessActive = true → call.preferenceBytes = some bytes →
    bytes ≤ host.budget.maxHostMessageBytes → host.scopeId = some scopeId →
    session.services.componentScopeId owner = some scopeId

/-! ## Own callbacks -/

namespace WasmSession

variable {session : WasmSession}

/-- A callback that the component runs for itself has a context with the scope of the
store, in which the component is registered. A service callback has no access to
preferences, and the engine goes on in the meantime, so nothing is said of it. -/
def OwnScope (session : WasmSession) : Prop :=
  ∀ callback context host, session.current = some callback → callback.isDelegated = false →
    callback.isService = false →
    callback.runtimeContext = some context → callback.executionOwner.isSome = true →
    session.hostState = some host →
      host.scopeId = some context.scopeId ∧
      callback.executionOwner = some context.owner ∧
      session.services.componentScopeId context.owner = some context.scopeId

/-- A context is accepted only in the scope of the store. -/
theorem scopeId_of_validate {host : WasmHostState} {context : ComponentIdentity}
    (h : host.validateExecutionOwner context = .ok ()) : host.scopeId = some context.scopeId := by
  unfold WasmHostState.validateExecutionOwner at h
  split at h
  · next extensionId instanceId scopeId hextension hinstance hscope =>
      split at h
      · next hsame => rw [hscope, hsame]
      · cases h
  · cases h

/-- A callback of a registered component begins in the scope of the store, which is where the engine
has registered it. -/
theorem ownScope_asRegistered {context : ComponentIdentity} {callback : GuestCallback}
    {opened : WasmHostState → WasmHostState} (hidle : session.current = none)
    (hcontext : callback.runtimeContext = some context)
    (hscope : session.services.componentScopeId context.owner = some context.scopeId)
    (howner : callback.isDelegated = false → callback.executionOwner = some context.owner)
    (hopened : ∀ host, (opened host).scopeId = host.scopeId) :
    (session.asRegistered context callback opened).OwnScope := by
  unfold asRegistered withInstance
  split
  · next host hfailed hstore =>
      dsimp only
      split
      · intro _ _ _ hcurrent
        cases hidle.symm.trans hcurrent
      · next hvalid =>
          intro other otherContext otherHost hcurrent hown _ hotherContext _ hotherStore
          cases hcurrent
          cases hotherStore
          cases hcontext.symm.trans hotherContext
          exact ⟨(hopened host).trans (scopeId_of_validate hvalid), howner hown, hscope⟩
  · intro _ _ _ hcurrent
    cases hidle.symm.trans hcurrent

/-- Nothing is said of callbacks that no component is executed for, of callbacks of
components that are hosted and of service callbacks. -/
theorem ownScope_of_current
    (h : ∀ callback, session.current = some callback →
      callback.isDelegated = true ∨ callback.executionOwner = none ∨
        callback.isService = true) : session.OwnScope := by
  intro callback context host hcurrent hown hordinary _ hexecutes _
  rcases h callback hcurrent with hdelegated | hnobody | hservice
  · cases hown.symm.trans hdelegated
  · rw [hnobody] at hexecutes
    cases hexecutes
  · cases hordinary.symm.trans hservice

/-- Every callback that the engine passes on begins in the own scope. -/
theorem ownScope_begin (hidle : session.current = none) {callback : GuestCallback}
    (hpasses : session.Passes callback) : (session.begin callback).OwnScope := by
  have hother : callback.isDelegated = true ∨ callback.executionOwner = none ∨
      callback.isService = true → (session.begin callback).OwnScope := by
    intro hcallback
    refine ownScope_of_current fun other hcurrent => ?_
    rcases session.begin_current callback with hsame | hopened
    · cases (hsame.trans hidle).symm.trans hcurrent
    · cases hopened.symm.trans hcurrent
      exact hcallback
  cases callback with
  | start context =>
      exact @ownScope_asRegistered { session with active := false } context (.start context) _
        hidle rfl (hpasses.scope context rfl) (fun _ => rfl) fun _ => rfl
  | event context =>
      unfold WasmSession.begin beginEvent
      dsimp only
      split
      · exact ownScope_asRegistered hidle rfl (hpasses.scope context rfl)
          (fun _ => rfl) fun _ => rfl
      · exact ownScope_of_current fun _ hcurrent => by cases hidle.symm.trans hcurrent
  | runtimeTask context taskOwner handle now =>
      unfold WasmSession.begin beginTask withInstance
      dsimp only
      have hnone : session.OwnScope :=
        ownScope_of_current fun _ hcurrent => by cases hidle.symm.trans hcurrent
      split
      · split
        · exact hnone
        · split
          · refine ownScope_asRegistered hidle rfl (hpasses.scope context rfl) ?_ ?_
            · intro hown
              exact congrArg some (of_not_not (of_decide_eq_false hown))
            · intro host
              split
              · rfl
              · rfl
          · exact hnone
      · exact hnone
  | uiAction context =>
      exact ownScope_asRegistered hidle rfl (hpasses.scope context rfl) (fun _ => rfl) fun _ => rfl
  | service context => exact hother (.inr (.inr rfl))
  | instantiate | register | stop | targetLoad | targetRegister | targetStop | targetDrop =>
      exact hother (.inr (.inl rfl))
  | targetStart | targetEvent | targetUiAction | targetService => exact hother (.inl rfl)

/-- The own scope is kept in every run, as no call changes the scope of a store. -/
theorem ownScope_of_reachable (h : wasmSystem.Reachable session) : session.OwnScope := by
  refine h.induction ?_ ?_
  · rintro session ⟨componentId, budget, tasks, targets, registry, published, services, rfl⟩
    exact ownScope_of_current fun _ hcurrent => by cases hcurrent
  · intro session label session' hreachable hown hstep
    cases hstep with
    | begin callback idle passes => exact ownScope_begin idle passes
    | @call _ host env call running store scopes =>
        intro callback context host' hcurrent hdelegated hordinary hcontext hexecutes hstore
        cases hstore
        obtain ⟨hscope, howner, hregistered⟩ :=
          hown callback context _ hcurrent hdelegated hordinary hcontext hexecutes store
        have hsame := (WasmHostState.performs host env call).sameComponent
        exact ⟨hsame.scopeId.trans hscope, howner, hregistered⟩
    | finish exit now running store mayLeave =>
        obtain ⟨host, hstore, hserves⟩ := (guarded_of_reachable hreachable).running _ running
        cases store.symm.trans hstore
        refine ownScope_of_current fun _ hcurrent => ?_
        cases (finish_current hserves exit now).symm.trans hcurrent
    | busy callback held concurrent apart passes =>
        unfold OwnScope
        rw [refuseBusy_current, refuseBusy_hostState, refuseBusy_services]
        exact hown
    | engine registry targets services free =>
        exact ownScope_of_current fun callback hcurrent => .inr (.inr (free callback hcurrent))

end WasmSession

/-! ## Runs -/

/-- A callback that executes a component has a context. -/
theorem GuestCallback.exists_runtimeContext {callback : GuestCallback}
    (h : callback.executionOwner.isSome = true) :
    ∃ context, callback.runtimeContext = some context := by
  cases callback with
  | start context | event context | runtimeTask context | uiAction context | service context
  | targetStart context | targetEvent context | targetUiAction context | targetService context =>
      exact ⟨context, rfl⟩
  | instantiate | register | stop | targetLoad | targetRegister | targetStop | targetDrop => cases h

/-- What a call that uses preferences asks the host for. -/
theorem mem_preferenceRequests {host : WasmHostState} {env : HostEnvironment}
    {call : CapabilityCall} {bytes : Nat} (hbytes : call.preferenceBytes = some bytes)
    (request : HostRequest) :
    request ∈ (host.perform env call).requests ↔
      host.hostAccessActive = true ∧ bytes ≤ host.budget.maxHostMessageBytes ∧
        ∃ owner scopeId, host.executionOwner = some owner ∧ host.scopeId = some scopeId ∧
          request = ⟨call, some owner, some scopeId⟩ := by
  have huses : host.perform env call = host.usePreferences env bytes call := by
    cases call with
    | getPreference | setPreference | deletePreference =>
        cases hbytes
        rfl
    | _ => cases hbytes
  rw [huses]
  unfold WasmHostState.usePreferences WasmHostState.preferenceOwner WasmHostState.whileOn
    WasmHostState.asOwner WasmHostState.within
  cases hactive : host.hostAccessActive with
  | false => simp [WasmHostState.refuse]
  | true =>
      cases hscope : host.scopeId with
      | none => simp [WasmHostState.refuse]
      | some scopeId =>
          cases howner : host.executionOwner with
          | none => simp [WasmHostState.refuse]
          | some owner =>
              by_cases hlarge : host.budget.maxHostMessageBytes < bytes
              · simp [WasmHostState.refuse, hlarge]
              · simp [WasmHostState.forward, hlarge, Nat.le_of_not_lt hlarge]

/-- The current context has the scope in which the engine knows the component. -/
theorem currentContext_eq {host : WasmHostState} {env : HostEnvironment} {owner : ComponentRef}
    {scopeId : RuntimeScopeId} (howner : host.executionOwner = some owner)
    (hscope : env.componentScopeId owner = some scopeId) :
    host.perform env .currentContext = host.forward env ⟨.currentContext, none, some scopeId⟩ := by
  change host.currentContext env = _
  unfold WasmHostState.currentContext WasmHostState.asOwner
  rw [howner]
  dsimp only
  rw [hscope]

/-- A step isolates preferences exactly when the hosted component that uses them, if any,
is registered in the scope of its host. -/
theorem preferencesIsolated_iff {session session' : WasmSession} {labels : List SessionLabel}
    {label : SessionLabel} (h : wasmSystem.Reachable session)
    (hstep : wasmSystem.step session label session') :
    PreferencesIsolated labels session label session' ↔
      HostedInOneScope labels session label session' := by
  have hguarded := WasmSession.guarded_of_reachable h
  have hown := WasmSession.ownScope_of_reachable h
  cases hstep with
  | begin | finish | busy | engine =>
      constructor
      · intro _ _ _ _ _ _ _ _ _ hlabel
        cases hlabel
      · intro _ _ _ _ _ _ hlabel
        cases hlabel
  | @call callback host env call running store scopes =>
      obtain ⟨other, hother, hserves⟩ := hguarded.running callback running
      cases store.symm.trans hother
      constructor
      · intro hisolated owner env' call' result callback' host' bytes scopeId hlabel _ hstore _
          hactive hbytes hfits hscope
        cases store.symm.trans hstore
        injection hlabel with howner henv hcall _
        subst henv
        subst hcall
        obtain ⟨principal, registered, hprincipal, hregistered, hrequest, -⟩ :=
          hisolated _ env call _ host rfl store (by rw [hbytes]; rfl) _
            ((mem_preferenceRequests hbytes _).mpr
              ⟨hactive, hfits, owner, scopeId, howner, hscope, rfl⟩)
        injection hrequest with _ howner' hscope'
        cases howner'
        cases hscope'
        exact hregistered
      · intro hsame owner env' call' result host' hlabel hstore hpreference request hrequest
        cases store.symm.trans hstore
        cases hlabel
        obtain ⟨bytes, hbytes⟩ := Option.isSome_iff_exists.mp hpreference
        obtain ⟨hactive, hfits, owner, scopeId, howner, hscope, rfl⟩ :=
          (mem_preferenceRequests hbytes request).mp hrequest
        have hregistered : session.services.componentScopeId owner = some scopeId := by
          cases hdelegated : callback.isDelegated with
          | true =>
              exact hsame owner env call _ callback host bytes scopeId (by rw [howner]) running
                store hdelegated hactive hbytes hfits hscope
          | false =>
              have hexecutes : callback.executionOwner.isSome = true := by
                rw [← hserves.owner, howner]
                rfl
              obtain ⟨context, hcontext⟩ := GuestCallback.exists_runtimeContext hexecutes
              have hordinary : callback.isService = false := by
                refine Bool.eq_false_iff.mpr fun hservice => ?_
                cases hactive.symm.trans (hserves.hostAccess_of_isService hservice)
              obtain ⟨hstoreScope, hcontextOwner, hregistered⟩ :=
                hown callback context host running hdelegated hordinary hcontext hexecutes store
              cases hscope.symm.trans hstoreScope
              cases (howner.symm.trans hserves.owner).trans hcontextOwner
              exact hregistered
        refine ⟨owner, scopeId, howner, hregistered, rfl, currentContext_eq howner ?_⟩
        rw [scopes]
        exact hregistered

/-- The runs in which every use of preferences addresses the registered scope of the
component that is executed are those in which every hosted component that uses preferences
is registered in the scope of its host. -/
theorem preferences_follow_principal {start session : WasmSession} {labels : List SessionLabel}
    (hinit : wasmSystem.init start) :
    wasmSystem.RunWith PreferencesIsolated start labels session ↔
      wasmSystem.RunWith HostedInOneScope start labels session :=
  Lts.runWith_congr fun _ _ _ _ hbefore hstep =>
    preferencesIsolated_iff ⟨start, _, hinit, hbefore.run⟩ hstep

/-- A host that grants everything and answers every request. -/
def answeringEnvironment (services : ServiceRuntimeState) : HostEnvironment where
  now := 0
  hasGrant _ _ := .ok true
  componentScopeId := services.componentScopeId
  answer _ := .ok .done

/-- A script in the scope of the provider that hosts it. -/
def localScript : ComponentIdentity :=
  { scriptContext with scopeId := providerContext.scopeId }

/-- The service runtime once the script was registered in that scope. -/
def localServices : ServiceRuntimeState :=
  { hostingServices with
    instances := hostingServices.instances.insert localScript.instanceId
      (serviceInstanceOf localScript) }

/-- The provider once the script was registered so. -/
def movedProvider : WasmSession :=
  { providerSession with
    registry := .new
    executionTargets := .new
    services := localServices }

/-- A step in which nobody calls keeps hosted components in the scopes of their hosts. -/
theorem hostedInOneScope_of_label {history : List SessionLabel} {session session' : WasmSession}
    {label : SessionLabel} (h : ∀ owner env call result, label ≠ .call owner env call result) :
    HostedInOneScope history session label session' :=
  fun owner env call result _ _ _ _ hlabel => absurd hlabel (h (some owner) env call result)

/-- The provider sets a preference for itself. And a script that the engine has registered in the
scope of the provider sets one. -/
theorem preferences_follow_principal_provider :
    (∃ session, wasmSystem.RunWith PreferencesIsolated loadedProvider
      (registration ++ [.begin (.uiAction providerContext)] ++
        [.call (some providerContext.owner) (answeringEnvironment hostingServices)
          (.setPreference "theme" "dark") (.ok .done)]) session) ∧
    ∃ session, wasmSystem.RunWith PreferencesIsolated loadedProvider
      (registration ++ [.engine .new .new localServices] ++ [.begin (.targetEvent localScript)] ++
        [.call (some localScript.owner) (answeringEnvironment localServices)
          (.setPreference "theme" "dark") (.ok .done)]) session := by
  have hregistered : wasmSystem.RunWith HostedInOneScope loadedProvider registration
      providerSession := by
    refine run_registration.runWith_of_labels fun _ _ label _ hlabel _ _ =>
      hostedInOneScope_of_label ?_
    rintro owner env call result rfl
    simp [registration] at hlabel
  constructor
  · have haction := hregistered.snoc (.begin (.uiAction providerContext) rfl
      (passes_hosted rfl (fun _ h => by cases h; exact .inl rfl) fun _ h => by cases h))
      (hostedInOneScope_of_label fun _ _ _ _ h => by cases h)
    have hcalled := haction.snoc (.call (answeringEnvironment hostingServices)
      (.setPreference "theme" "dark") rfl rfl rfl) (by
        intro owner env call result callback host bytes scopeId _ hcurrent _ hdelegated
        cases hcurrent
        cases hdelegated)
    exact ⟨_, (preferences_follow_principal init_loadedProvider).mpr hcalled⟩
  · have hidle : ∀ callback, providerSession.current = some callback →
        callback.isService = true := by
      intro callback hcurrent
      cases hcurrent
    have hsilent : ∀ (services : ServiceRuntimeState) (session : WasmSession),
        HostedInOneScope registration providerSession (.engine .new .new services) session :=
      fun _ _ => hostedInOneScope_of_label fun _ _ _ _ h => by cases h
    have hmoved : wasmSystem.RunWith HostedInOneScope loadedProvider
        (registration ++ [.engine .new .new localServices]) movedProvider :=
      hregistered.snoc (.engine .new .new localServices hidle) (hsilent _ _)
    have hpasses : movedProvider.Passes (.targetEvent localScript) := by
      refine ⟨fun context hcontext => ?_, fun _ _ hstop => by cases hstop⟩
      cases hcontext
      decide +kernel
    have hevent := hmoved.snoc (.begin (.targetEvent localScript) rfl hpasses)
      (hostedInOneScope_of_label fun _ _ _ _ h => by cases h)
    have hcalled := hevent.snoc (.call (answeringEnvironment localServices)
      (.setPreference "theme" "dark") rfl rfl rfl) (by
        intro owner env call result callback host bytes scopeId hlabel _ hstore _ _ _ _ hscope
        cases hlabel
        cases hstore
        cases hscope
        decide +kernel)
    exact ⟨_, (preferences_follow_principal init_loadedProvider).mpr hcalled⟩

/-- A script that is registered in the scope of a world writes a preference into the default
scope, where the component that hosts it is registered. -/
theorem script_writes_into_default_scope : ∃ session host request,
    wasmSystem.Reachable session ∧ session.current = some (.targetEvent scriptContext) ∧
      session.hostState = some host ∧
      request ∈ (host.perform (answeringEnvironment session.services)
        (.setPreference "theme" "dark")).requests ∧
      request.scopeId = some ⟨"default"⟩ ∧
      session.services.componentScopeId scriptContext.owner = some ⟨"world-1"⟩ := by
  have hpasses : providerSession.Passes (.targetEvent scriptContext) := by
    refine ⟨fun context hcontext => ?_, fun _ _ hstop => by cases hstop⟩
    cases hcontext
    decide +kernel
  have hevent := reachable_providerSession.step (.begin (.targetEvent scriptContext) rfl hpasses)
  refine ⟨_, _, ⟨.setPreference "theme" "dark", some scriptContext.owner, some ⟨"default"⟩⟩,
    hevent, rfl, rfl, ?_, rfl, ?_⟩
  · exact (mem_preferenceRequests rfl _).mpr ⟨rfl, by decide +kernel, _, _, rfl, rfl, rfl⟩
  · decide +kernel

end Rintawa.WasmRuntime
