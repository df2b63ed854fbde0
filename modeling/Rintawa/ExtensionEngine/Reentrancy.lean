/-
# No callback is reentered

The lock of a component is held as long as one of its callbacks runs, and so is the runtime of
a guest. A call that reaches an executing component is therefore refused, whichever call stack
came with it, and chains are bounded by the number of components.
-/

import Mathlib.Data.List.Nodup
import Rintawa.ExtensionEngine.ServiceChains

namespace Rintawa.ExtensionEngine

open Rintawa.Lib Rintawa.Sdk

/-! ## Locks of callbacks -/

variable {lock : ChainLock} {error : ServiceCallError}

theorem setLocks_of_mem {Thread : Type} {locks : ChainLock → LockState Thread}
    {keys : List ChainLock} {value : LockState Thread} (h : lock ∈ keys) :
    setLocks locks keys value lock = value :=
  if_pos h

theorem setLocks_of_not_mem {Thread : Type} {locks : ChainLock → LockState Thread}
    {keys : List ChainLock} {value : LockState Thread} (h : lock ∉ keys) :
    setLocks locks keys value lock = locks lock :=
  if_neg h

theorem ChainFrame.mem_locks {frame : ChainFrame} :
    lock ∈ frame.locks ↔ lock = .component frame.owner ∨
      ∃ runtime, frame.runtime = some runtime ∧ lock = .runtime runtime := by
  simp [ChainFrame.locks, eq_comm]

/-- A callback takes no lock twice. -/
theorem ChainFrame.nodup_locks (frame : ChainFrame) : frame.locks.Nodup := by
  unfold ChainFrame.locks
  cases frame.runtime <;> simp

/-- What holds of the locks. A lock is held by a thread exactly when one callback of its chain
holds it, and the engine waits only outside of chains. -/
structure ChainInvariant {Thread : Type} (components : Dict ComponentRef ChainComponent)
    (state : ChainState Thread) : Prop where
  held : ∀ thread, ∀ frame ∈ state.chains thread, ∀ lock ∈ frame.locks,
    state.locks lock = .held thread
  owned : ∀ thread lock, state.locks lock = .held thread →
    ∃ frame ∈ state.chains thread, lock ∈ frame.locks
  distinct : ∀ thread, ((state.chains thread).flatMap ChainFrame.locks).Nodup
  registered : ∀ thread, ∀ frame ∈ state.chains thread,
    (components.lookup frame.owner).isSome = true
  idle : ∀ thread owner, state.waiting thread = some owner → state.chains thread = []

namespace ChainInvariant

variable {Thread : Type} [DecidableEq Thread] {components : Dict ComponentRef ChainComponent}
  {state : ChainState Thread} {thread : Thread} {frame : ChainFrame}

theorem wait (h : ChainInvariant components state) {owner : Option ComponentRef}
    (hidle : owner.isSome = true → state.chains thread = []) :
    ChainInvariant components (state.wait thread owner) where
  held := h.held
  owned := h.owned
  distinct := h.distinct
  registered := h.registered
  idle other waited hwaits := by
    by_cases hother : other = thread
    · subst hother
      simp only [ChainState.wait, Function.update_self] at hwaits
      exact hidle (by rw [hwaits]; rfl)
    · simp only [ChainState.wait, Function.update_of_ne hother] at hwaits
      exact h.idle other waited hwaits

/-- A callback that takes free locks begins. -/
theorem push (h : ChainInvariant components state)
    (hfree : ∀ lock ∈ frame.locks, state.locks lock = .free)
    (hregistered : (components.lookup frame.owner).isSome = true) :
    ChainInvariant components (state.push thread frame) where
  held other current hcurrent lock hlock := by
    have hbefore : current ∈ state.chains other →
        setLocks state.locks frame.locks (.held thread) lock = .held other := by
      intro hmem
      have hheld := h.held other current hmem lock hlock
      have hnew : lock ∉ frame.locks := by
        intro htaken
        rw [hfree lock htaken] at hheld
        cases hheld
      rw [setLocks_of_not_mem hnew]
      exact hheld
    by_cases hother : other = thread
    · subst hother
      simp only [ChainState.push, Function.update_self] at hcurrent
      cases List.mem_cons.mp hcurrent with
      | inl hsame =>
          subst hsame
          exact setLocks_of_mem hlock
      | inr hmem => exact hbefore hmem
    · simp only [ChainState.push, Function.update_of_ne hother] at hcurrent
      exact hbefore hcurrent
  owned other lock hheld := by
    simp only [ChainState.push] at hheld ⊢
    by_cases hlock : lock ∈ frame.locks
    · rw [setLocks_of_mem hlock] at hheld
      cases hheld
      exact ⟨frame, by rw [Function.update_self]; exact List.mem_cons_self, hlock⟩
    · rw [setLocks_of_not_mem hlock] at hheld
      obtain ⟨current, hcurrent, hmem⟩ := h.owned other lock hheld
      refine ⟨current, ?_, hmem⟩
      by_cases hother : other = thread
      · subst hother
        rw [Function.update_self]
        exact List.mem_cons_of_mem _ hcurrent
      · rw [Function.update_of_ne hother]
        exact hcurrent
  distinct other := by
    by_cases hother : other = thread
    · subst hother
      simp only [ChainState.push, Function.update_self, List.flatMap_cons]
      refine List.nodup_append'.mpr ⟨frame.nodup_locks, h.distinct other, ?_⟩
      intro lock hlock hbefore
      obtain ⟨current, hcurrent, hmem⟩ := List.mem_flatMap.mp hbefore
      have hheld := h.held other current hcurrent lock hmem
      rw [hfree lock hlock] at hheld
      cases hheld
    · simp only [ChainState.push, Function.update_of_ne hother]
      exact h.distinct other
  registered other current hcurrent := by
    by_cases hother : other = thread
    · subst hother
      simp only [ChainState.push, Function.update_self] at hcurrent
      cases List.mem_cons.mp hcurrent with
      | inl hsame => exact hsame ▸ hregistered
      | inr hmem => exact h.registered other current hmem
    · simp only [ChainState.push, Function.update_of_ne hother] at hcurrent
      exact h.registered other current hcurrent
  idle other owner hwaits := by
    by_cases hother : other = thread
    · subst hother
      simp only [ChainState.push, Function.update_self] at hwaits
      cases hwaits
    · simp only [ChainState.push, Function.update_of_ne hother] at hwaits ⊢
      exact h.idle other owner hwaits

/-- The innermost callback of a thread ends. The locks that it leaves are not those of another
callback. -/
theorem pop (h : ChainInvariant components state) {rest : List ChainFrame}
    (hchain : state.chains thread = frame :: rest) {left : LockState Thread}
    (hleft : ∀ other, left ≠ .held other) :
    ChainInvariant components (state.pop thread frame rest left) := by
  have hdistinct := h.distinct thread
  rw [hchain, List.flatMap_cons] at hdistinct
  obtain ⟨-, hrest, hdisjoint⟩ := List.nodup_append'.mp hdistinct
  have hsub : ∀ other current, current ∈ Function.update state.chains thread rest other →
      current ∈ state.chains other := by
    intro other current hcurrent
    by_cases hother : other = thread
    · subst hother
      rw [Function.update_self] at hcurrent
      rw [hchain]
      exact List.mem_cons_of_mem _ hcurrent
    · rwa [Function.update_of_ne hother] at hcurrent
  have hkept : ∀ other current, current ∈ Function.update state.chains thread rest other →
      ∀ lock ∈ current.locks, lock ∉ frame.locks := by
    intro other current hcurrent lock hlock hleaves
    have hheld := h.held other current (hsub other current hcurrent) lock hlock
    have hframe := h.held thread frame (by rw [hchain]; exact List.mem_cons_self) lock hleaves
    rw [hframe] at hheld
    cases hheld
    rw [Function.update_self] at hcurrent
    exact hdisjoint hleaves (List.mem_flatMap.mpr ⟨current, hcurrent, hlock⟩)
  refine ⟨fun other current hcurrent lock hlock => ?_, fun other lock hheld => ?_,
    fun other => ?_, fun other current hcurrent =>
      h.registered other current (hsub other current hcurrent), fun other owner hwaits => ?_⟩
  · simp only [ChainState.pop, setLocks_of_not_mem (hkept other current hcurrent lock hlock)]
    exact h.held other current (hsub other current hcurrent) lock hlock
  · simp only [ChainState.pop] at hheld ⊢
    by_cases hleaves : lock ∈ frame.locks
    · rw [setLocks_of_mem hleaves] at hheld
      exact absurd hheld (hleft other)
    · rw [setLocks_of_not_mem hleaves] at hheld
      obtain ⟨current, hcurrent, hlock⟩ := h.owned other lock hheld
      refine ⟨current, ?_, hlock⟩
      by_cases hother : other = thread
      · subst hother
        rw [Function.update_self]
        rw [hchain] at hcurrent
        cases List.mem_cons.mp hcurrent with
        | inl hsame => exact absurd (hsame ▸ hlock) hleaves
        | inr hmem => exact hmem
      · rw [Function.update_of_ne hother]
        exact hcurrent
  · simp only [ChainState.pop]
    by_cases hother : other = thread
    · subst hother
      rw [Function.update_self]
      exact hrest
    · rw [Function.update_of_ne hother]
      exact h.distinct other
  · have hempty := h.idle other owner hwaits
    have hother : other ≠ thread := by
      rintro rfl
      rw [hchain] at hempty
      cases hempty
    simp only [ChainState.pop, Function.update_of_ne hother]
    exact hempty

end ChainInvariant

/-! ## Calls -/

theorem ensure_eq_error_iff {condition : Bool} {error' : ServiceCallError} :
    ensure condition error = .error error' ↔ condition = false ∧ error' = error := by
  cases condition <;> simp [ensure, eq_comm]

section Calls

variable {Thread : Type} {locks : ChainLock → LockState Thread}

theorem LockState.found_free {lock : LockState Thread} (h : lock.found = .free) :
    lock = .free := by
  cases lock with
  | free => rfl
  | held thread => cases h
  | poisoned => cases h

variable {taken : Option WasmRuntimeId} {code : ComponentCode}

theorem runtimeForCallback_ok {runtime : WasmRuntimeId}
    (h : runtimeForCallback locks runtime = .ok taken) :
    taken = some runtime ∧ locks (.runtime runtime) = .free := by
  unfold runtimeForCallback at h
  split at h
  · next hfree =>
      cases h
      exact ⟨rfl, LockState.found_free hfree⟩
  · cases h
  · cases h

/-- A guest is entered with its runtime, and native code without one. -/
theorem enterCallback_ok (h : enterCallback locks code = .ok taken) :
    taken = code.runtime ∧ ∀ runtime, taken = some runtime → locks (.runtime runtime) = .free := by
  have hguest : ∀ runtime, runtimeForCallback locks runtime = .ok taken →
      taken = some runtime ∧ ∀ other, taken = some other → locks (.runtime other) = .free := by
    intro runtime htaken
    obtain ⟨rfl, hfree⟩ := runtimeForCallback_ok htaken
    exact ⟨rfl, fun other hother => Option.some.inj hother ▸ hfree⟩
  unfold enterCallback at h
  split at h
  · cases h
    exact ⟨rfl, fun runtime hnone => by cases hnone⟩
  · exact hguest _ h
  · exact hguest _ h

theorem enterService_ok {contract : ContractKey}
    (h : enterService locks code contract = .ok taken) :
    enterCallback locks code = .ok taken := by
  unfold enterService at h
  split at h
  · split at h
    · cases h
    · exact h
  · exact h
  · exact h

theorem enterService_error {contract : ContractKey}
    (h : enterService locks code contract = .error error) : error = .providerFailed := by
  have hruntime : ∀ runtime, runtimeForCallback locks runtime = .error error →
      error = .providerFailed := by
    intro runtime herror
    unfold runtimeForCallback at herror
    split at herror
    · cases herror
    · exact (Except.error.inj herror).symm
    · exact (Except.error.inj herror).symm
  have hcallback : enterCallback locks code = .error error → error = .providerFailed := by
    intro herror
    unfold enterCallback at herror
    split at herror
    · cases herror
    · exact hruntime _ herror
    · exact hruntime _ herror
  unfold enterService at h
  split at h
  · split at h
    · exact (Except.error.inj h).symm
    · exact hcallback h
  · exact hcallback h
  · exact hcallback h

variable {provider : ComponentRef} {registered : ChainComponent} {contract : ContractKey}
  {request : List UInt8} {callStack : List ComponentRef}

/-- A provider is invoked with free locks. -/
theorem invokeProvider_ok {frame : ChainFrame}
    (h : invokeProvider locks provider registered contract request callStack = .ok frame) :
    frame.owner = provider ∧ frame.runtime = registered.code.runtime ∧
      ∀ lock ∈ frame.locks, locks lock = .free := by
  simp only [invokeProvider, dispatchTo, bind_eq_ok_iff, ensure_eq_ok_iff] at h
  obtain ⟨_, -, _, ⟨_, -, _, hlock, -⟩, runtime, henter, hframe⟩ := h
  cases hframe
  obtain ⟨hruntime, hfree⟩ := enterCallback_ok (enterService_ok henter)
  have hcomponent : locks (.component provider) = .free := by
    refine LockState.found_free ?_
    cases hfound : (locks (.component provider)).found with
    | free => rfl
    | busy =>
        rw [hfound] at hlock
        cases hlock
    | poisoned =>
        rw [hfound] at hlock
        cases hlock
  refine ⟨rfl, hruntime, fun lock hmem => ?_⟩
  rcases ChainFrame.mem_locks.mp hmem with rfl | ⟨other, hother, rfl⟩
  · exact hcomponent
  · exact hfree other hother

/-- The errors of a call that was routed to a component. -/
def RefusesCall (registered : ChainComponent) (request : List UInt8)
    (error : ServiceCallError) : Prop :=
  error = .cyclicCall ∨ error = .providerBusy ∨ error = .providerFailed ∨
    error = .requestTooLarge ∧ registered.component.messageLimit < request.length

theorem invokeProvider_error
    (h : invokeProvider locks provider registered contract request callStack = .error error) :
    RefusesCall registered request error := by
  have hlimit : registered.component.messageLimit ≤ defaultMaxServiceMessageBytes :=
    Nat.min_le_right _ _
  unfold invokeProvider at h
  rcases bind_eq_error_iff.mp h with hadmit | ⟨_, -, h⟩
  · obtain ⟨hlong, rfl⟩ := ensure_eq_error_iff.mp hadmit
    have hlong : defaultMaxServiceMessageBytes < request.length := by simpa using hlong
    exact .inr (.inr (.inr ⟨rfl, by omega⟩))
  rcases bind_eq_error_iff.mp h with hdispatch | ⟨_, -, h⟩
  · unfold dispatchTo at hdispatch
    rcases bind_eq_error_iff.mp hdispatch with hcyclic | ⟨_, -, hdispatch⟩
    · exact .inl (ensure_eq_error_iff.mp hcyclic).2
    rcases bind_eq_error_iff.mp hdispatch with hlock | ⟨_, -, hdispatch⟩
    · cases hfound : (locks (.component provider)).found with
      | free =>
          rw [hfound] at hlock
          cases hlock
      | busy =>
          rw [hfound] at hlock
          exact .inr (.inl (Except.error.inj hlock).symm)
      | poisoned =>
          rw [hfound] at hlock
          exact .inr (.inr (.inl (Except.error.inj hlock).symm))
    rcases bind_eq_error_iff.mp hdispatch with hchecked | ⟨_, -, hdispatch⟩
    · obtain ⟨hlong, rfl⟩ := ensure_eq_error_iff.mp hchecked
      exact .inr (.inr (.inr ⟨rfl, by simpa using hlong⟩))
    · cases hdispatch
  rcases bind_eq_error_iff.mp h with henter | ⟨_, -, h⟩
  · exact .inr (.inr (.inl (enterService_error henter)))
  · cases h

end Calls

/-! ## Runs -/

section Runs

variable {Thread : Type} [DecidableEq Thread] {components : Dict ComponentRef ChainComponent}

omit [DecidableEq Thread] in
theorem ChainInvariant.initial :
    @ChainInvariant Thread components ⟨fun _ => .free, fun _ => [], fun _ => none⟩ where
  held thread frame hframe := by cases hframe
  owned thread lock hheld := by cases hheld
  distinct thread := List.nodup_nil
  registered thread frame hframe := by cases hframe
  idle thread owner _ := rfl

/-- One step keeps the locks with the callbacks. -/
theorem ChainInvariant.step {state state' : ChainState Thread} {label : ChainLabel Thread}
    (h : ChainInvariant components state) (hstep : ChainStep components state label state') :
    ChainInvariant components state' := by
  cases hstep with
  | awaits hempty _ _ => exact h.wait fun _ => hempty
  | callback hwaits hcomponent hfree henter =>
      obtain ⟨-, hruntime⟩ := enterCallback_ok henter
      refine h.push (fun lock hlock => ?_) (by rw [hcomponent]; rfl)
      rcases ChainFrame.mem_locks.mp hlock with rfl | ⟨runtime, htaken, rfl⟩
      · exact hfree
      · exact hruntime runtime htaken
  | skipped _ _ => exact h.wait fun hnone => by cases hnone
  | refused _ _ _ => exact h
  | invoked _ hcomponent hinvoked =>
      obtain ⟨rfl, -, hfree⟩ := invokeProvider_ok hinvoked
      exact h.push hfree (by rw [hcomponent]; rfl)
  | answered _ hchain => exact h.pop hchain fun _ hheld => by cases hheld
  | panicked hchain => exact h.pop hchain fun _ hheld => by cases hheld

theorem chainInvariant_of_reachable {state : ChainState Thread}
    (h : (chainSystem components Thread).Reachable state) :
    ChainInvariant components state := by
  refine Lts.Reachable.induction ?_ (fun _ _ _ _ hbefore hstep => hbefore.step hstep) h
  rintro _ rfl
  exact .initial

/-- A component is executing on a thread when one of its callbacks runs there, or another one
in its runtime. -/
def Executing (components : Dict ComponentRef ChainComponent) (state : ChainState Thread)
    (thread : Thread) (owner : ComponentRef) : Prop :=
  ∃ frame ∈ state.chains thread, frame.owner = owner ∨
    ∃ component runtime, components.lookup owner = some component ∧
      component.code.runtime = some runtime ∧ frame.runtime = some runtime

omit [DecidableEq Thread] in
/-- The locks of an executing component are not free. -/
theorem ChainInvariant.held_of_executing {state : ChainState Thread}
    (h : ChainInvariant components state) {thread : Thread} {owner : ComponentRef}
    {component : ChainComponent} (hlookup : components.lookup owner = some component)
    (hexecuting : Executing components state thread owner) :
    state.locks (.component owner) = .held thread ∨
      ∃ runtime, component.code.runtime = some runtime ∧
        state.locks (.runtime runtime) = .held thread := by
  obtain ⟨frame, hframe, hsame | ⟨other, runtime, hother, hruntime, hruns⟩⟩ := hexecuting
  · exact .inl (h.held thread frame hframe _ (ChainFrame.mem_locks.mpr (.inl (by rw [hsame]))))
  · rw [hlookup] at hother
    cases hother
    exact .inr ⟨runtime, hruntime,
      h.held thread frame hframe _ (ChainFrame.mem_locks.mpr (.inr ⟨runtime, hruns, rfl⟩))⟩

/-- Code runs only with free locks. -/
theorem ChainStep.free_of_runs {state state' : ChainState Thread} {thread : Thread}
    {owner : ComponentRef} (h : ChainStep components state (.runs thread owner) state') :
    ∃ component, components.lookup owner = some component ∧
      state.locks (.component owner) = .free ∧
      ∀ runtime, component.code.runtime = some runtime →
        state.locks (.runtime runtime) = .free := by
  cases h with
  | callback _ hcomponent hfree henter =>
      obtain ⟨rfl, hruntime⟩ := enterCallback_ok henter
      exact ⟨_, hcomponent, hfree, hruntime⟩
  | invoked _ hcomponent hinvoked =>
      obtain ⟨rfl, hruntime, hfree⟩ := invokeProvider_ok hinvoked
      refine ⟨_, hcomponent, hfree _ (ChainFrame.mem_locks.mpr (.inl rfl)), fun runtime hcode => ?_⟩
      exact hfree _ (ChainFrame.mem_locks.mpr (.inr ⟨runtime, hruntime.trans hcode, rfl⟩))

/-- What holds of chains. The code of an executing component does not run again on its chain,
and a call that is routed to it is refused. A chain is no longer than there are components, and
a thread waits for no lock that it holds. -/
structure NeverReentered (components : Dict ComponentRef ChainComponent)
    (state : ChainState Thread) : Prop where
  runs : ∀ thread owner state', ChainStep components state (.runs thread owner) state' →
    ¬ Executing components state thread owner
  refuses : ∀ thread owner component, components.lookup owner = some component →
    Executing components state thread owner → ∀ contract request callStack, ∃ error,
      invokeProvider state.locks owner component contract request callStack = .error error ∧
        RefusesCall component request error
  depth : ∀ thread, (state.chains thread).length ≤ components.keys.length
  waits : ∀ thread owner, state.waiting thread = some owner →
    state.locks (.component owner) ≠ .held thread

/-- Components are never reentered, whatever they do. -/
theorem never_reentered {state : ChainState Thread}
    (hreachable : (chainSystem components Thread).Reachable state) :
    NeverReentered components state := by
  have h := chainInvariant_of_reachable hreachable
  refine ⟨fun thread owner state' hruns hexecuting => ?_,
    fun thread owner component hlookup hexecuting contract request callStack => ?_,
    fun thread => ?_, fun thread owner hwaits hheld => ?_⟩
  · obtain ⟨component, hlookup, hfree, hruntimes⟩ := hruns.free_of_runs
    rcases h.held_of_executing hlookup hexecuting with hheld | ⟨runtime, hcode, hheld⟩
    · rw [hfree] at hheld
      cases hheld
    · rw [hruntimes runtime hcode] at hheld
      cases hheld
  · cases hinvoked : invokeProvider state.locks owner component contract request callStack with
    | error error => exact ⟨error, rfl, invokeProvider_error hinvoked⟩
    | ok frame =>
        obtain ⟨rfl, hruntime, hfree⟩ := invokeProvider_ok hinvoked
        rcases h.held_of_executing hlookup hexecuting with hheld | ⟨runtime, hcode, hheld⟩
        · rw [hfree _ (ChainFrame.mem_locks.mpr (.inl rfl))] at hheld
          cases hheld
        · rw [hfree _ (ChainFrame.mem_locks.mpr
            (.inr ⟨runtime, hruntime.trans hcode, rfl⟩))] at hheld
          cases hheld
  · have howners : ((state.chains thread).map ChainFrame.owner).Nodup := by
      have hcomponents := h.distinct thread
      rw [List.nodup_flatMap] at hcomponents
      refine List.Pairwise.map _ (fun first second hdisjoint hsame => ?_) hcomponents.2
      exact hdisjoint (ChainFrame.mem_locks.mpr (.inl rfl))
        (ChainFrame.mem_locks.mpr (.inl (by rw [hsame])))
    have hkeys : (state.chains thread).map ChainFrame.owner ⊆ components.keys := by
      intro owner howner
      obtain ⟨frame, hframe, rfl⟩ := List.mem_map.mp howner
      exact AList.mem_keys.mpr (AList.lookup_isSome.mp (h.registered thread frame hframe))
    have hlength := (howners.subperm hkeys).length_le
    rwa [List.length_map] at hlength
  · obtain ⟨frame, hframe, -⟩ := h.owned thread _ hheld
    rw [h.idle thread owner hwaits] at hframe
    cases hframe

end Runs

/-! ## A guest that calls a component it hosts -/

/-- The provider of an execution target, and a component that it hosts with a limit of two
bytes. -/
def scriptHost : ComponentRef := ⟨⟨"scripts"⟩, ⟨"host"⟩⟩
def hostedScript : ComponentRef := ⟨⟨"dice"⟩, ⟨"script"⟩⟩

def scriptComponents : Dict ComponentRef ChainComponent :=
  (AList.insert scriptHost
    ⟨⟨⟨"example.scripts"⟩, ⟨"scripts"⟩, ⟨"host"⟩, ⟨"host"⟩⟩, ⟨none⟩, .wasm ⟨0⟩ 1024⟩ ∅).insert
    hostedScript ⟨⟨⟨"example.dice"⟩, ⟨"dice"⟩, ⟨"host"⟩, ⟨"script"⟩⟩, ⟨some 2⟩, .hosted ⟨0⟩⟩

/-- A callback of the provider runs. -/
theorem scriptHost_runs : ∃ state : ChainState Unit,
    (chainSystem scriptComponents Unit).Reachable state ∧
      Executing scriptComponents state () hostedScript ∧
      ChainStep scriptComponents state (.refused () hostedScript .requestTooLarge) state := by
  refine ⟨_, ⟨_, [.awaits () scriptHost, .runs () scriptHost], rfl,
    .cons (.awaits rfl rfl rfl) <| .single (.callback rfl rfl rfl rfl)⟩,
    ⟨_, List.mem_singleton_self _, .inr ⟨_, ⟨0⟩, rfl, rfl, rfl⟩⟩, ?_⟩
  exact @ChainStep.refused _ _ _ _ _ _ _ ⟨⟨"example.dice.roll"⟩, 1⟩ [1, 2, 3] [] _
    (.inl rfl) rfl rfl

/-- A request over the limit is refused for its length, though the runtime is busy. -/
theorem oversized_call_refused : ∃ state : ChainState Unit,
    (chainSystem scriptComponents Unit).Reachable state ∧
      Executing scriptComponents state () hostedScript ∧
      ∃ error, ChainStep scriptComponents state (.refused () hostedScript error) state ∧
        error ≠ .cyclicCall ∧ error ≠ .providerBusy ∧ error ≠ .providerFailed := by
  obtain ⟨state, hreachable, hexecuting, hrefused⟩ := scriptHost_runs
  exact ⟨state, hreachable, hexecuting, _, hrefused, by decide, by decide, by decide⟩

/-- The hosted component is not entered while its provider runs. -/
theorem never_reentered_hosted : ∃ state : ChainState Unit,
    Executing scriptComponents state () hostedScript ∧ NeverReentered scriptComponents state := by
  obtain ⟨state, hreachable, hexecuting, -⟩ := scriptHost_runs
  exact ⟨state, hexecuting, never_reentered hreachable⟩

end Rintawa.ExtensionEngine
