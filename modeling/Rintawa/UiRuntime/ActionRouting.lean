/-
# Routing of actions

An action reaches a component exactly when a layer sees the surface, the surface is mounted
at the revision of the event, and the node takes the action with its payload. What a node
takes is stated once for each role of a control, next to the three tests of the source.
-/

import Rintawa.UiRuntime.ExactTrees
import Rintawa.UiRuntime.Registrations

namespace Rintawa.UiRuntime

open Rintawa.Lib Rintawa.Sdk

/-! ## What controls take -/

/-- The actions that a node takes, each with its payloads. Controls that are disabled take
none, and a text control may use one action in both of its roles. -/
inductive Takes : UiNodeKind → UiActionId → UiActionPayload → Prop
  | button {node : UiButtonNode} (enabled : node.isEnabled = true) :
      Takes (.button node) node.action .none
  | checkbox {node : UiCheckboxNode} (enabled : node.isEnabled = true) (value : Bool) :
      Takes (.checkbox node) node.changeAction (.boolean value)
  | select {node : UiSelectNode} (enabled : node.isEnabled = true) {option : UiSelectOption}
      (offered : option ∈ node.options) :
      Takes (.select node) node.changeAction (.text option.value)
  | textInput {node : UiTextInputNode} (enabled : node.isEnabled = true) {action : UiActionId}
      (bound : node.changeAction = some action ∨ node.submitAction = some action)
      (value : String) : Takes (.textInput node) action (.text value)
  | textArea {node : UiTextAreaNode} (enabled : node.isEnabled = true) {action : UiActionId}
      (bound : node.changeAction = some action ∨ node.submitAction = some action)
      (value : String) : Takes (.textArea node) action (.text value)
  | assetPicker {node : UiAssetPickerNode} (enabled : node.isEnabled = true)
      {asset : UiActionAssetRef} (size : 0 < asset.size ∧ asset.size ≤ node.maxBytes)
      (mediaType : asset.mediaType ∈ node.acceptedMediaTypes) :
      Takes (.assetPicker node) node.changeAction (.asset asset)
  | resourcePicker {node : UiResourcePickerNode} (enabled : node.isEnabled = true)
      {resource : UiActionUserResourceRef} (id : resource.id ≠ "")
      (size : 0 < resource.size ∧ resource.size ≤ node.maxBytes)
      (type : resource.mediaType ∈ node.acceptedMediaTypes ∨
        ∃ name, resource.name = some name ∧ ∃ suffix ∈ node.acceptedExtensions,
          suffix.toList <:+ (toAsciiLowercase name).toList) :
      Takes (.resourcePicker node) node.changeAction (.resource resource)
  | row {node : UiDataGridNode} {action : UiActionId} (bound : node.rowAction = some action)
      {key : String} (listed : key ∈ node.rowKeys) : Takes (.dataGrid node) action (.text key)
  | sort {node : UiDataGridNode} {column : UiDataGridColumn} (listed : column ∈ node.columns)
      {action : UiActionId} (bound : column.sortAction = some action) {key : String}
      (named : column.key = some key) : Takes (.dataGrid node) action (.text key)

/-- The three tests of a node together. -/
def passesTests (kind : UiNodeKind) (action : UiActionId) (payload : UiActionPayload) : Bool :=
  kind.hasAction action && kind.isActionEnabled action &&
    kind.acceptsActionPayload action payload

section Tests

variable {action : UiActionId} {payload : UiActionPayload}

-- On a node of a known kind, the tests are what the source writes for that kind.
attribute [local simp] passesTests UiNodeKind.hasAction UiNodeKind.isActionEnabled
  UiNodeKind.acceptsActionPayload

theorem button_takes_iff {node : UiButtonNode} :
    passesTests (.button node) action payload = true ↔ Takes (.button node) action payload := by
  simp only [passesTests, UiNodeKind.hasAction, UiNodeKind.isActionEnabled,
    UiNodeKind.acceptsActionPayload, Bool.and_eq_true, beq_iff_eq]
  constructor
  · rintro ⟨⟨rfl, -, henabled⟩, -, rfl⟩
    exact .button henabled
  · intro h
    cases h with
    | button henabled => exact ⟨⟨rfl, rfl, henabled⟩, rfl, rfl⟩

theorem checkbox_takes_iff {node : UiCheckboxNode} :
    passesTests (.checkbox node) action payload = true ↔
      Takes (.checkbox node) action payload := by
  simp only [passesTests, UiNodeKind.hasAction, UiNodeKind.isActionEnabled,
    UiNodeKind.acceptsActionPayload, Bool.and_eq_true, beq_iff_eq]
  constructor
  · rintro ⟨⟨rfl, -, henabled⟩, -, hpayload⟩
    cases payload with
    | boolean value => exact .checkbox henabled value
    | none | text | asset | resource => cases hpayload
  · intro h
    cases h with
    | checkbox henabled value => exact ⟨⟨rfl, rfl, henabled⟩, rfl, rfl⟩

theorem select_takes_iff {node : UiSelectNode} :
    passesTests (.select node) action payload = true ↔ Takes (.select node) action payload := by
  simp only [passesTests, UiNodeKind.hasAction, UiNodeKind.isActionEnabled,
    UiNodeKind.acceptsActionPayload, Bool.and_eq_true, beq_iff_eq]
  constructor
  · rintro ⟨⟨rfl, -, henabled⟩, -, hpayload⟩
    cases payload with
    | text value =>
        obtain ⟨option, hoption, hvalue⟩ := List.any_eq_true.mp hpayload
        rw [← eq_of_beq hvalue]
        exact .select henabled hoption
    | none | boolean | asset | resource => cases hpayload
  · intro h
    cases h with
    | select henabled hoption =>
        refine ⟨⟨rfl, rfl, henabled⟩, rfl, List.any_eq_true.mpr ⟨_, hoption, ?_⟩⟩
        exact beq_self_eq_true _

theorem textInput_takes_iff {node : UiTextInputNode} :
    passesTests (.textInput node) action payload = true ↔
      Takes (.textInput node) action payload := by
  simp only [passesTests, UiNodeKind.hasAction, UiNodeKind.isActionEnabled,
    UiNodeKind.acceptsActionPayload, Bool.and_eq_true, Bool.or_eq_true, beq_iff_eq]
  constructor
  · rintro ⟨⟨hbound, -, henabled⟩, -, hpayload⟩
    cases payload with
    | text value => exact .textInput henabled hbound value
    | none | boolean | asset | resource => cases hpayload
  · intro h
    cases h with
    | textInput henabled hbound value => exact ⟨⟨hbound, hbound, henabled⟩, hbound, rfl⟩

theorem textArea_takes_iff {node : UiTextAreaNode} :
    passesTests (.textArea node) action payload = true ↔
      Takes (.textArea node) action payload := by
  simp only [passesTests, UiNodeKind.hasAction, UiNodeKind.isActionEnabled,
    UiNodeKind.acceptsActionPayload, Bool.and_eq_true, Bool.or_eq_true, beq_iff_eq]
  constructor
  · rintro ⟨⟨hbound, -, henabled⟩, -, hpayload⟩
    cases payload with
    | text value => exact .textArea henabled hbound value
    | none | boolean | asset | resource => cases hpayload
  · intro h
    cases h with
    | textArea henabled hbound value => exact ⟨⟨hbound, hbound, henabled⟩, hbound, rfl⟩

theorem assetPicker_takes_iff {node : UiAssetPickerNode} :
    passesTests (.assetPicker node) action payload = true ↔
      Takes (.assetPicker node) action payload := by
  simp only [passesTests, UiNodeKind.hasAction, UiNodeKind.isActionEnabled,
    UiNodeKind.acceptsActionPayload, Bool.and_eq_true, beq_iff_eq]
  constructor
  · rintro ⟨⟨rfl, -, henabled⟩, -, hpayload⟩
    cases payload with
    | asset asset =>
        simp only [Bool.and_eq_true, decide_eq_true_eq, List.any_beq'] at hpayload
        exact .assetPicker henabled hpayload.1 (List.contains_iff_mem.mp hpayload.2)
    | none | boolean | text | resource => cases hpayload
  · intro h
    cases h with
    | assetPicker henabled hsize hmedia =>
        refine ⟨⟨rfl, rfl, henabled⟩, rfl, ?_⟩
        simp only [Bool.and_eq_true, decide_eq_true_eq, List.any_beq']
        exact ⟨hsize, List.contains_iff_mem.mpr hmedia⟩

/-- A resource has an allowed media type, or a name with an allowed extension. -/
theorem resourceType_iff {node : UiResourcePickerNode} {resource : UiActionUserResourceRef} :
    ((node.acceptedMediaTypes.any fun mediaType => mediaType == resource.mediaType) ||
      resource.name.any fun name => node.acceptedExtensions.any fun suffix =>
        suffix.toList.isSuffixOf (toAsciiLowercase name).toList) = true ↔
      resource.mediaType ∈ node.acceptedMediaTypes ∨
        ∃ name, resource.name = some name ∧ ∃ suffix ∈ node.acceptedExtensions,
          suffix.toList <:+ (toAsciiLowercase name).toList := by
  rw [Bool.or_eq_true, List.any_beq', List.contains_iff_mem]
  apply or_congr_right
  cases resource.name with
  | none => simp
  | some name => simp [List.any_eq_true]

theorem resourcePicker_takes_iff {node : UiResourcePickerNode} :
    passesTests (.resourcePicker node) action payload = true ↔
      Takes (.resourcePicker node) action payload := by
  simp only [passesTests, UiNodeKind.hasAction, UiNodeKind.isActionEnabled,
    UiNodeKind.acceptsActionPayload, Bool.and_eq_true, beq_iff_eq]
  constructor
  · rintro ⟨⟨rfl, -, henabled⟩, -, hpayload⟩
    cases payload with
    | resource resource =>
        simp only [Bool.and_eq_true, Bool.not_eq_true', decide_eq_true_eq, resourceType_iff,
          String.isEmpty_eq_false_iff] at hpayload
        exact .resourcePicker henabled hpayload.1.1.1 ⟨hpayload.1.1.2, hpayload.1.2⟩ hpayload.2
    | none | boolean | text | asset => cases hpayload
  · intro h
    cases h with
    | resourcePicker henabled hid hsize htype =>
        refine ⟨⟨rfl, rfl, henabled⟩, rfl, ?_⟩
        simp only [Bool.and_eq_true, Bool.not_eq_true', decide_eq_true_eq, resourceType_iff,
          String.isEmpty_eq_false_iff]
        exact ⟨⟨⟨hid, hsize.1⟩, hsize.2⟩, htype⟩

/-- A grid takes keys of rows and of columns, each for its own action. -/
theorem dataGrid_takes_iff {node : UiDataGridNode} :
    passesTests (.dataGrid node) action payload = true ↔
      Takes (.dataGrid node) action payload := by
  simp only [passesTests, UiNodeKind.hasAction, UiNodeKind.isActionEnabled,
    UiNodeKind.acceptsActionPayload, Bool.and_eq_true, Bool.or_eq_true, beq_iff_eq,
    List.any_eq_true]
  constructor
  · rintro ⟨-, hpayload⟩
    cases payload with
    | text value =>
        simp only [Bool.or_eq_true, Bool.and_eq_true, beq_iff_eq, List.any_beq',
          List.any_eq_true, List.contains_iff_mem] at hpayload
        cases hpayload with
        | inl hrow => exact .row hrow.1 hrow.2
        | inr hsort =>
            obtain ⟨column, hcolumn, hbound, hkey⟩ := hsort
            exact .sort hcolumn hbound hkey
    | none | boolean | asset | resource => cases hpayload
  · intro h
    cases h with
    | row hbound hkey =>
        refine ⟨⟨.inl hbound, .inl hbound⟩, ?_⟩
        simp only [Bool.or_eq_true, Bool.and_eq_true, beq_iff_eq, List.any_beq',
          List.contains_iff_mem]
        exact .inl ⟨hbound, hkey⟩
    | sort hcolumn hbound hkey =>
        have hsorts : ∃ column ∈ node.columns, column.sortAction = some action :=
          ⟨_, hcolumn, hbound⟩
        refine ⟨⟨.inr hsorts, .inr hsorts⟩, ?_⟩
        simp only [Bool.or_eq_true, Bool.and_eq_true, beq_iff_eq, List.any_eq_true]
        exact .inr ⟨_, hcolumn, hbound, hkey⟩

/-- The three tests agree on what a node takes. -/
theorem passesTests_iff {kind : UiNodeKind} :
    passesTests kind action payload = true ↔ Takes kind action payload := by
  cases kind with
  | button node => exact button_takes_iff
  | checkbox node => exact checkbox_takes_iff
  | select node => exact select_takes_iff
  | textInput node => exact textInput_takes_iff
  | textArea node => exact textArea_takes_iff
  | assetPicker node => exact assetPicker_takes_iff
  | resourcePicker node => exact resourcePicker_takes_iff
  | dataGrid node => exact dataGrid_takes_iff
  | text | markdown | icon | image | assetImage | split | row | column | list =>
      exact iff_of_false Bool.false_ne_true nofun

end Tests

namespace UiRuntimeState

variable {state state' : UiRuntimeState}

/-! ## Who registered a surface -/

/-- The registration of a surface in a history: an accepted call for its instance lists it, and
the instance was not unregistered since. -/
def Registration (history : List UiLabel) (key : UiSurfaceKey)
    (registered : OwnedUiSurfaceContribution) : Prop :=
  ∃ before label after scopeId surfaces layers, history = before ++ label :: after ∧
    label.call = .registerInstance key.instanceId scopeId surfaces layers ∧
    label.result = .ok () ∧ registered ∈ surfaces ∧ registered.contribution.id = key.surfaceId ∧
    ∀ later ∈ after, later.call ≠ .unregisterInstance key.instanceId

/-- Another call does not end a registration. -/
theorem Registration.snoc {history : List UiLabel} {key : UiSurfaceKey}
    {registered : OwnedUiSurfaceContribution} (h : Registration history key registered)
    {label : UiLabel} (hcall : label.call ≠ .unregisterInstance key.instanceId) :
    Registration (history ++ [label]) key registered := by
  obtain ⟨before, first, after, scopeId, surfaces, layers, rfl, hfirst, hok, hmem, hid, hafter⟩ := h
  refine ⟨before, first, after ++ [label], scopeId, surfaces, layers, by simp, hfirst, hok, hmem,
    hid, fun later hlater => ?_⟩
  cases List.mem_append.mp hlater with
  | inl hold => exact hafter later hold
  | inr hnew =>
      rw [List.mem_singleton.mp hnew]
      exact hcall

/-- What is declared was declared before, or is one of the surfaces. -/
theorem mem_of_declared {instanceId : ExtensionInstanceId}
    {surfaces : List OwnedUiSurfaceContribution} :
    ∀ {declared : Dict UiSurfaceKey OwnedUiSurfaceContribution} {key : UiSurfaceKey}
      {registered : OwnedUiSurfaceContribution},
      AList.lookup key (surfaces.foldl (fun declared owned =>
        declared.insert ⟨instanceId, owned.contribution.id⟩ owned) declared) = some registered →
      declared.lookup key = some registered ∨
        (key.instanceId = instanceId ∧ registered ∈ surfaces ∧
          registered.contribution.id = key.surfaceId) := by
  induction surfaces with
  | nil => exact fun h => .inl h
  | cons owned rest ih =>
      intro declared key registered h
      cases ih h with
      | inl hinserted =>
          rw [Dict.lookup_insert_ite] at hinserted
          split at hinserted
          · next hsame =>
              cases hinserted
              rw [hsame]
              exact .inr ⟨rfl, List.mem_cons_self, rfl⟩
          · exact .inl hinserted
      | inr hlater => exact .inr ⟨hlater.1, List.mem_cons_of_mem _ hlater.2.1, hlater.2.2⟩

/-- Calls that change which surfaces are registered. -/
def changesRegistrations : UiCall → Bool
  | .registerInstance .. | .unregisterInstance _ => true
  | _ => false

/-- All other calls leave the registered surfaces alone. -/
theorem registeredSurfaces_of_run {call : UiCall} (h : state.run call = (state', .ok ()))
    (hcall : changesRegistrations call = false) :
    state'.registeredSurfaces = state.registeredSurfaces := by
  cases hpresents : call.isPresentation with
  | true =>
      have hsame := sameRegistrations_run state call hpresents
      rw [h] at hsame
      exact hsame.registeredSurfaces
  | false =>
      cases call with
      | registerInstance | unregisterInstance => cases hcall
      | registerWorldPresentation owned =>
          obtain ⟨_, rfl⟩ := registerWorldPresentation_ok h
          rfl
      | setInstanceActive instanceId isActive =>
          simp only [run, setInstanceActive] at h
          split at h
          · cases h
          · cases isActive with
            | true | false =>
                cases h
                rfl
      | _ => cases hpresents

/-- A surface that is registered after an accepted call was registered before, by an instance
that the call does not unregister, or is listed by the call. -/
theorem registered_of_run (hsurfaced : state.Surfaced) {call : UiCall}
    (h : state.run call = (state', .ok ())) {key : UiSurfaceKey}
    {registered : OwnedUiSurfaceContribution}
    (hregistered : state'.registeredSurfaces.lookup key = some registered) :
    (state.registeredSurfaces.lookup key = some registered ∧
        call ≠ .unregisterInstance key.instanceId) ∨
      ∃ scopeId surfaces layers,
        call = .registerInstance key.instanceId scopeId surfaces layers ∧
        registered ∈ surfaces ∧ registered.contribution.id = key.surfaceId := by
  cases hcall : changesRegistrations call with
  | false =>
      rw [registeredSurfaces_of_run h hcall] at hregistered
      refine .inl ⟨hregistered, fun hsame => ?_⟩
      rw [hsame] at hcall
      cases hcall
  | true =>
      cases call with
      | registerInstance instanceId scopeId surfaces layers =>
          have hnext := settle_ok_iff.mp h
          simp only [bind_eq_ok_iff] at hnext
          obtain ⟨-, -, ids, -, -, -, hstate⟩ := hnext
          cases hstate
          cases mem_of_declared hregistered with
          | inl hbefore => exact .inl ⟨hbefore, nofun⟩
          | inr hlisted =>
              obtain ⟨rfl, hmem, hid⟩ := hlisted
              exact .inr ⟨scopeId, surfaces, layers, rfl, hmem, hid⟩
      | unregisterInstance instanceId =>
          simp only [run, unregisterInstance] at h
          split at h
          · next hnone =>
              cases h
              obtain ⟨inst, hinst, -⟩ := hsurfaced.declared key registered hregistered
              refine .inl ⟨hregistered, fun hsame => ?_⟩
              cases hsame
              rw [hnone] at hinst
              cases hinst
          · next inst hinst =>
              cases h
              rw [Dict.lookup_eraseAll] at hregistered
              split at hregistered
              · cases hregistered
              · next hkey =>
                  have hne := hsurfaced.instanceId_ne hinst hkey hregistered
                  refine .inl ⟨hregistered, fun hsame => ?_⟩
                  cases hsame
                  exact hne rfl
      | _ => cases hcall

/-- Every registered surface has its registration in the history. Unregistering is never rejected.
-/
theorem registration_run {labels : List UiLabel} (h : uiSystem.Run .new labels state) :
    ∀ key registered, state.registeredSurfaces.lookup key = some registered →
      Registration labels key registered := by
  refine Lts.Run.history_induction (P := fun labels state => ∀ key registered,
    state.registeredSurfaces.lookup key = some registered →
      Registration labels key registered) ?_ ?_ h
  · intro key registered hregistered
    cases hregistered
  · intro history state label state' hbefore ih hstep key registered hregistered
    have hsurfaced : state.Surfaced := preserved_run surfaced_new Surfaced.run hbefore
    obtain ⟨hrun, -⟩ := hstep
    cases hresult : label.result with
    | error error =>
        rw [hresult] at hrun
        rw [run_error hrun] at hregistered
        refine (ih key registered hregistered).snoc fun hcall => ?_
        rw [hcall] at hrun
        simp only [run, unregisterInstance] at hrun
        split at hrun
        · cases hrun
        · cases hrun
    | ok value =>
        rw [hresult] at hrun
        cases registered_of_run hsurfaced hrun hregistered with
        | inl hkept => exact (ih key registered hkept.1).snoc hkept.2
        | inr hlisted =>
            obtain ⟨scopeId, surfaces, layers, hcall, hmem, hid⟩ := hlisted
            exact ⟨history, label, [], scopeId, surfaces, layers, rfl, hcall, hresult, hmem, hid,
              fun later hlater => absurd hlater List.not_mem_nil⟩

/-! ## Routing -/

/-- What an event needs to be routed: a layer of the caller that sees the active instance of
the event, and a surface at the event's revision with a node that takes the action. -/
structure Routable (state : UiRuntimeState) (layerOwner : ComponentRef) (event : UiActionEvent)
    (layerScope : RuntimeScopeId) (layer : ActiveUiLayer) (target : UiExtensionInstance)
    (snapshot : UiSurfaceSnapshot) (node : UiNode) : Prop where
  attached : state.layers.lookup layerScope = some layer
  owned : layer.owner = layerOwner
  registered : state.instances.lookup event.ownerInstanceId = some target
  active : target.isActive = true
  visible : target.scopeId = layerScope ∨
    ∃ focused, layer.focusedScope = some focused ∧ focused.scopeId = target.scopeId
  mounted : state.mountedSurfaces.lookup ⟨event.ownerInstanceId, event.surfaceId⟩ = some snapshot
  revision : snapshot.revision = event.surfaceRevision
  node_mem : node ∈ snapshot.nodes
  node_id : node.id = event.nodeId
  takes : Takes node.kind event.actionId event.payload

theorem sees_iff {layerScope scopeId : RuntimeScopeId} {layer : ActiveUiLayer} :
    layer.sees layerScope scopeId = true ↔ scopeId = layerScope ∨
      ∃ focused, layer.focusedScope = some focused ∧ focused.scopeId = scopeId := by
  rw [ActiveUiLayer.sees, Bool.or_eq_true, decide_eq_true_eq, eq_comm]
  apply or_congr_right
  cases layer.focusedScope with
  | none => simp
  | some focused => simp

/-- The node with an identifier in a snapshot whose nodes have different ones. -/
theorem find?_node_iff {snapshot : UiSurfaceSnapshot} (hunique : (nodeIds snapshot).Nodup)
    {nodeId : UiNodeId} {node : UiNode} :
    (snapshot.nodes.find? fun node => node.id == nodeId) = some node ↔
      node ∈ snapshot.nodes ∧ node.id = nodeId := by
  constructor
  · intro hfound
    exact ⟨List.mem_of_find?_eq_some hfound, by simpa using List.find?_some hfound⟩
  · rintro ⟨hnode, hid⟩
    have hsome : (snapshot.nodes.find? fun node => node.id == nodeId).isSome = true :=
      List.find?_isSome.mpr ⟨node, hnode, by simpa using hid⟩
    obtain ⟨other, hother⟩ := Option.isSome_iff_exists.mp hsome
    have hmem := List.mem_of_find?_eq_some hother
    have hotherId : other.id = nodeId := by simpa using List.find?_some hother
    rw [hother, List.inj_on_of_nodup_map hunique hmem hnode (hotherId.trans hid.symm)]

/-- In a structured state, an event is routed exactly when there is all that it needs, and the
owner is the one that is registered for the surface. -/
theorem Structured.routeAction_eq_ok_iff (hstructured : state.Structured)
    (howned : state.LayersOwned) {layerOwner : ComponentRef} {event : UiActionEvent}
    {dispatch : UiActionDispatch} :
    state.routeAction layerOwner event = .ok dispatch ↔
      (∃ layerScope layer target snapshot node,
        Routable state layerOwner event layerScope layer target snapshot node) ∧
      ∃ registered, state.registeredSurfaces.lookup ⟨event.ownerInstanceId, event.surfaceId⟩ =
          some registered ∧ dispatch = ⟨registered.owner, event⟩ := by
  simp only [routeAction, bind_eq_ok_iff, found_eq_ok_iff, require_eq_ok_iff, decide_eq_true_eq]
  constructor
  · rintro ⟨⟨layerScope, layer⟩, hlayer, target, htarget, -, hsees, -, hactive, registered,
      hregistered, snapshot, hmounted, -, hrevision, node, hnode, -, hbound, -, henabled, -,
      haccepts, hdispatch⟩
    cases hdispatch
    obtain ⟨hattached, howner⟩ := findLayer_some hlayer
    have htests : passesTests node.kind event.actionId event.payload = true := by
      rw [passesTests, hbound, henabled, haccepts]
      rfl
    refine ⟨⟨layerScope, layer, target, snapshot, node, ?_⟩, registered, hregistered, rfl⟩
    constructor
    case attached => exact hattached
    case owned => exact howner
    case registered => exact htarget
    case active => exact hactive
    case visible => exact sees_iff.mp hsees
    case mounted => exact hmounted
    case revision => exact hrevision
    case node_mem => exact List.mem_of_find?_eq_some hnode
    case node_id => simpa using List.find?_some hnode
    case takes => exact passesTests_iff.mp htests
  · rintro ⟨⟨layerScope, layer, target, snapshot, node, h⟩, registered, hregistered, rfl⟩
    have hlayer : state.findLayer layerOwner = some (layerScope, layer) := by
      rw [← h.owned]
      exact howned.findLayer_eq h.attached
    have hunique : (nodeIds snapshot).Nodup :=
      (hstructured.mounted _ snapshot h.mounted).2.1.unique
    have htests := passesTests_iff.mpr h.takes
    simp only [passesTests, Bool.and_eq_true] at htests
    exact ⟨(layerScope, layer), hlayer, target, h.registered, (), sees_iff.mpr h.visible, (),
      h.active, registered, hregistered, snapshot, h.mounted, (), h.revision, node,
      (find?_node_iff hunique).mpr ⟨h.node_mem, h.node_id⟩, (), htests.1.1, (), htests.1.2, (),
      htests.2, rfl⟩

/-- In every state that is reached, exactly the events that have all they need are routed, and they
go to the component that registered the surface, since a mounted surface is a registered one. -/
theorem action_routing {labels : List UiLabel} (h : uiSystem.Run .new labels state)
    (layerOwner : ComponentRef) (event : UiActionEvent) :
    ((∃ dispatch, state.routeAction layerOwner event = .ok dispatch) ↔
        ∃ layerScope layer target snapshot node,
          Routable state layerOwner event layerScope layer target snapshot node) ∧
      ∀ dispatch, state.routeAction layerOwner event = .ok dispatch →
        dispatch.event = event ∧
          ∃ registered, Registration labels ⟨event.ownerInstanceId, event.surfaceId⟩ registered ∧
            dispatch.owner = registered.owner := by
  have hstructured : state.Structured := structured_run h
  have howned : state.LayersOwned := LayersMeet.owned hstructured.layers
  constructor
  · constructor
    · rintro ⟨dispatch, hroute⟩
      exact ((hstructured.routeAction_eq_ok_iff howned).mp hroute).1
    · rintro ⟨layerScope, layer, target, snapshot, node, hroutable⟩
      obtain ⟨-, -, -, registered, _, hplaced, -⟩ :=
        hstructured.mounted _ snapshot hroutable.mounted
      exact ⟨⟨registered.owner, event⟩, (hstructured.routeAction_eq_ok_iff howned).mpr
        ⟨⟨layerScope, layer, target, snapshot, node, hroutable⟩, registered, hplaced.declared,
          rfl⟩⟩
  · intro dispatch hroute
    obtain ⟨-, registered, hregistered, rfl⟩ :=
      (hstructured.routeAction_eq_ok_iff howned).mp hroute
    exact ⟨rfl, registered, registration_run h _ registered hregistered, rfl⟩

/-- The button of a scene that was mounted again is routed to the scene. -/
theorem action_routing_scene :
    ((∃ dispatch, (UiRuntimeState.new.runAll remountCalls).1.routeAction shellOwner keepEvent =
          .ok dispatch) ↔
        ∃ layerScope layer target snapshot node,
          Routable (UiRuntimeState.new.runAll remountCalls).1 shellOwner keepEvent layerScope
            layer target snapshot node) ∧
      ∀ dispatch, (UiRuntimeState.new.runAll remountCalls).1.routeAction shellOwner keepEvent =
          .ok dispatch →
        dispatch.event = keepEvent ∧
          ∃ registered, Registration (UiRuntimeState.new.runAll remountCalls).2
              ⟨keepEvent.ownerInstanceId, keepEvent.surfaceId⟩ registered ∧
            dispatch.owner = registered.owner :=
  action_routing (run_runAll .new remountCalls) shellOwner keepEvent

end UiRuntimeState

end Rintawa.UiRuntime
