/-
# Nodes of portable surfaces

A surface is a flat table of nodes. Seventeen kinds of node exist; containers
refer to their children by identifier, controls bind semantic actions and accept
payloads of one shape.
-/

import Rintawa.Sdk.Contracts

namespace Rintawa.Sdk

/-! ## Identifiers -/

/-- The kinds of textual identifier of the portable UI. -/
inductive UiStringIdKind
  | surface | activity | iconSlot | surfaceTrait | node | nodeSemanticTrait | action | capability
  deriving DecidableEq, Repr

/-- A textual identifier of the portable UI. -/
structure UiStringId (kind : UiStringIdKind) where
  asStr : String
  deriving DecidableEq, Repr

abbrev UiSurfaceId := UiStringId .surface
abbrev UiActivityId := UiStringId .activity
abbrev UiIconSlotId := UiStringId .iconSlot
abbrev UiSurfaceTraitId := UiStringId .surfaceTrait
abbrev UiNodeId := UiStringId .node
abbrev UiNodeSemanticTraitId := UiStringId .nodeSemanticTrait
abbrev UiActionId := UiStringId .action
abbrev UiCapabilityId := UiStringId .capability

def uiCapabilityText : UiCapabilityId := ⟨"rintawa.ui.text@1"⟩
def uiCapabilityMarkdown : UiCapabilityId := ⟨"rintawa.ui.markdown@1"⟩
def uiCapabilityButton : UiCapabilityId := ⟨"rintawa.ui.button@1"⟩
def uiCapabilityIcon : UiCapabilityId := ⟨"rintawa.ui.icon@1"⟩
def uiCapabilityImage : UiCapabilityId := ⟨"rintawa.ui.image@1"⟩
def uiCapabilityAssetImage : UiCapabilityId := ⟨"rintawa.ui.asset-image@1"⟩
def uiCapabilityCheckbox : UiCapabilityId := ⟨"rintawa.ui.input.checkbox@1"⟩
def uiCapabilitySelect : UiCapabilityId := ⟨"rintawa.ui.input.select@1"⟩
def uiCapabilityTextInput : UiCapabilityId := ⟨"rintawa.ui.input.text@1"⟩
def uiCapabilityTextArea : UiCapabilityId := ⟨"rintawa.ui.input.text-area@1"⟩
def uiCapabilityAssetPicker : UiCapabilityId := ⟨"rintawa.ui.input.asset@1"⟩
def uiCapabilityResourcePicker : UiCapabilityId := ⟨"rintawa.ui.input.resource@1"⟩
def uiCapabilitySplit : UiCapabilityId := ⟨"rintawa.ui.layout.split@1"⟩
def uiCapabilityRow : UiCapabilityId := ⟨"rintawa.ui.layout.row@1"⟩
def uiCapabilityColumn : UiCapabilityId := ⟨"rintawa.ui.layout.column@1"⟩
def uiCapabilityList : UiCapabilityId := ⟨"rintawa.ui.list@1"⟩
def uiCapabilityDataGrid : UiCapabilityId := ⟨"rintawa.ui.data-grid@1"⟩

/-! ## Action payloads -/

/-- An immutable asset selected through an asset picker. -/
structure UiActionAssetRef where
  digest : String
  size : Nat
  mediaType : String
  name : Option String
  deriving DecidableEq, Repr

/-- An ephemeral resource selected through a resource picker. -/
structure UiActionUserResourceRef where
  id : String
  size : Nat
  mediaType : String
  name : Option String
  deriving DecidableEq, Repr

/-- Typed payload carried by an action. -/
inductive UiActionPayload
  | none
  | text (value : String)
  | boolean (value : Bool)
  | asset (asset : UiActionAssetRef)
  | resource (resource : UiActionUserResourceRef)
  deriving DecidableEq, Repr

/-! ## Node data -/

structure UiTextNode where
  text : String
  deriving DecidableEq, Repr

structure UiMarkdownNode where
  source : String
  deriving DecidableEq, Repr

inductive UiButtonAppearance
  | default | primary | subtle | danger
  deriving DecidableEq, Repr

structure UiButtonNode where
  label : String
  action : UiActionId
  isEnabled : Bool
  appearance : UiButtonAppearance
  deriving DecidableEq, Repr

structure UiIconNode where
  slot : UiIconSlotId
  label : Option String
  size : Option Nat
  deriving DecidableEq, Repr

structure UiImageNode where
  mediaType : String
  dataBase64 : String
  alt : String
  width : Option Nat
  height : Option Nat
  deriving DecidableEq, Repr

structure UiAssetImageNode where
  digest : String
  size : Nat
  mediaType : String
  alt : String
  width : Option Nat
  height : Option Nat
  deriving DecidableEq, Repr

structure UiCheckboxNode where
  label : String
  checked : Bool
  changeAction : UiActionId
  isEnabled : Bool
  deriving DecidableEq, Repr

structure UiSelectOption where
  value : String
  label : String
  deriving DecidableEq, Repr

structure UiSelectNode where
  value : String
  options : List UiSelectOption
  changeAction : UiActionId
  isEnabled : Bool
  deriving DecidableEq, Repr

structure UiTextInputNode where
  value : String
  placeholder : Option String
  changeAction : Option UiActionId
  submitAction : Option UiActionId
  submitLabel : Option String
  isEnabled : Bool
  deriving DecidableEq, Repr

structure UiTextAreaNode where
  value : String
  placeholder : Option String
  changeAction : Option UiActionId
  submitAction : Option UiActionId
  submitLabel : Option String
  isEnabled : Bool
  deriving DecidableEq, Repr

inductive UiSplitAxis
  | horizontal | vertical
  deriving DecidableEq, Repr

structure UiAssetPickerNode where
  label : String
  acceptedMediaTypes : List String
  maxBytes : Nat
  changeAction : UiActionId
  isEnabled : Bool
  deriving DecidableEq, Repr

structure UiResourcePickerNode where
  label : String
  acceptedMediaTypes : List String
  acceptedExtensions : List String
  maxBytes : Nat
  changeAction : UiActionId
  isEnabled : Bool
  deriving DecidableEq, Repr

structure UiSplitNode where
  children : List UiNodeId
  weights : List Nat
  axis : UiSplitAxis
  deriving DecidableEq, Repr

inductive UiDataGridSortDirection
  | ascending | descending
  deriving DecidableEq, Repr

structure UiDataGridColumn where
  key : Option String
  label : String
  weight : Nat
  sortAction : Option UiActionId
  sortDirection : Option UiDataGridSortDirection
  deriving DecidableEq, Repr

structure UiDataGridNode where
  columns : List UiDataGridColumn
  cells : List UiNodeId
  selectedRows : List Nat
  rowKeys : List String
  rowAction : Option UiActionId
  deriving DecidableEq, Repr

structure UiContainerNode where
  children : List UiNodeId
  deriving DecidableEq, Repr

/-- The renderer-neutral node variants. -/
inductive UiNodeKind
  | text (node : UiTextNode)
  | markdown (node : UiMarkdownNode)
  | button (node : UiButtonNode)
  | icon (node : UiIconNode)
  | image (node : UiImageNode)
  | assetImage (node : UiAssetImageNode)
  | checkbox (node : UiCheckboxNode)
  | select (node : UiSelectNode)
  | textInput (node : UiTextInputNode)
  | textArea (node : UiTextAreaNode)
  | assetPicker (node : UiAssetPickerNode)
  | resourcePicker (node : UiResourcePickerNode)
  | split (node : UiSplitNode)
  | row (node : UiContainerNode)
  | column (node : UiContainerNode)
  | list (node : UiContainerNode)
  | dataGrid (node : UiDataGridNode)
  deriving DecidableEq, Repr

/-- One node of a surface. -/
structure UiNode where
  id : UiNodeId
  semantic : Option ContractKey
  traits : List UiNodeSemanticTraitId
  kind : UiNodeKind
  deriving DecidableEq, Repr

/-! ## What a node kind needs, contains and accepts -/

/-- ASCII letters in lower case, all other characters as they are. -/
def toAsciiLowercase (value : String) : String :=
  String.ofList (value.toList.map Char.toLower)

namespace UiNodeKind

/-- The capability required to render this node kind. -/
def requiredCapability : UiNodeKind → UiCapabilityId
  | .text _ => uiCapabilityText
  | .markdown _ => uiCapabilityMarkdown
  | .button _ => uiCapabilityButton
  | .icon _ => uiCapabilityIcon
  | .image _ => uiCapabilityImage
  | .assetImage _ => uiCapabilityAssetImage
  | .checkbox _ => uiCapabilityCheckbox
  | .select _ => uiCapabilitySelect
  | .textInput _ => uiCapabilityTextInput
  | .textArea _ => uiCapabilityTextArea
  | .assetPicker _ => uiCapabilityAssetPicker
  | .resourcePicker _ => uiCapabilityResourcePicker
  | .split _ => uiCapabilitySplit
  | .row _ => uiCapabilityRow
  | .column _ => uiCapabilityColumn
  | .list _ => uiCapabilityList
  | .dataGrid _ => uiCapabilityDataGrid

/-- The children of a container node. -/
def children : UiNodeKind → List UiNodeId
  | .split node => node.children
  | .row node => node.children
  | .column node => node.children
  | .list node => node.children
  | .dataGrid node => node.cells
  | _ => []

/-- Whether the node can contain children. -/
def isContainer : UiNodeKind → Bool
  | .split _ | .row _ | .column _ | .list _ | .dataGrid _ => true
  | _ => false

/-- A container with its children replaced. -/
def withChildren (kind : UiNodeKind) (children : List UiNodeId) : UiNodeKind :=
  match kind with
  | .split node => .split { node with children := children }
  | .row _ => .row ⟨children⟩
  | .column _ => .column ⟨children⟩
  | .list _ => .list ⟨children⟩
  | .dataGrid node => .dataGrid { node with cells := children }
  | kind => kind

/-- Whether the node exposes an action. -/
def hasAction (kind : UiNodeKind) (action : UiActionId) : Bool :=
  match kind with
  | .button node => node.action == action
  | .checkbox node => node.changeAction == action
  | .select node => node.changeAction == action
  | .textInput node => node.changeAction == some action || node.submitAction == some action
  | .textArea node => node.changeAction == some action || node.submitAction == some action
  | .assetPicker node => node.changeAction == action
  | .resourcePicker node => node.changeAction == action
  | .dataGrid node =>
      node.rowAction == some action ||
        node.columns.any fun column => column.sortAction == some action
  | _ => false

/-- Whether an action is currently enabled. -/
def isActionEnabled (kind : UiNodeKind) (action : UiActionId) : Bool :=
  match kind with
  | .button node => node.action == action && node.isEnabled
  | .checkbox node => node.changeAction == action && node.isEnabled
  | .select node => node.changeAction == action && node.isEnabled
  | .textInput node => (textInput node).hasAction action && node.isEnabled
  | .textArea node => (textArea node).hasAction action && node.isEnabled
  | .assetPicker node => node.changeAction == action && node.isEnabled
  | .resourcePicker node => node.changeAction == action && node.isEnabled
  | .dataGrid node => (dataGrid node).hasAction action
  | _ => false

/-- Whether the shape of a payload matches an action. -/
def acceptsActionPayload (kind : UiNodeKind) (action : UiActionId)
    (payload : UiActionPayload) : Bool :=
  match kind with
  | .button node => node.action == action && payload == .none
  | .checkbox node =>
      node.changeAction == action &&
        match payload with
        | .boolean _ => true
        | _ => false
  | .select node =>
      node.changeAction == action &&
        match payload with
        | .text value => node.options.any fun option => option.value == value
        | _ => false
  | .textInput node =>
      (textInput node).hasAction action &&
        match payload with
        | .text _ => true
        | _ => false
  | .textArea node =>
      (textArea node).hasAction action &&
        match payload with
        | .text _ => true
        | _ => false
  | .assetPicker node =>
      node.changeAction == action &&
        match payload with
        | .asset asset =>
            decide (0 < asset.size) && decide (asset.size ≤ node.maxBytes) &&
              node.acceptedMediaTypes.any fun mediaType => mediaType == asset.mediaType
        | _ => false
  | .resourcePicker node =>
      node.changeAction == action &&
        match payload with
        | .resource resource =>
            let extensionMatches := resource.name.any fun name =>
              node.acceptedExtensions.any fun suffix =>
                suffix.toList.isSuffixOf (toAsciiLowercase name).toList
            let mediaMatches :=
              node.acceptedMediaTypes.any fun mediaType => mediaType == resource.mediaType
            !resource.id.isEmpty && decide (0 < resource.size) &&
              decide (resource.size ≤ node.maxBytes) && (mediaMatches || extensionMatches)
        | _ => false
  | .dataGrid node =>
      match payload with
      | .text value =>
          (node.rowAction == some action && node.rowKeys.any fun key => key == value) ||
            node.columns.any fun column =>
              column.sortAction == some action && column.key == some value
      | _ => false
  | _ => false

end UiNodeKind

end Rintawa.Sdk
