/-
# Validation of snapshots

A snapshot is accepted when its nodes form a tree below the root and every node
meets the constraints of its kind. Passes over the node map follow the order in
which the map lists its entries.
-/

import Mathlib.Algebra.GroupWithZero.Nat
import Rintawa.Lib.Dict
import Rintawa.Sdk.Ui

namespace Rintawa.UiRuntime

open Rintawa.Lib Rintawa.Sdk

def maxLayoutWeight : Nat := 10000
def maxIconSize : Nat := 256
def maxImageDimension : Nat := 4096
def maxImageBase64Bytes : Nat := 1024 * 1024
def maxAssetImageBytes : Nat := 32 * 1024 * 1024
def maxAssetPickerBytes : Nat := 32 * 1024 * 1024
def maxAssetPickerMediaTypes : Nat := 16
def maxAssetPickerMediaTypeBytes : Nat := 128
def maxResourcePickerBytes : Nat := 8 * 1024 * 1024
def maxResourcePickerMediaTypes : Nat := 16
def maxResourcePickerExtensions : Nat := 32
def maxResourcePickerExtensionBytes : Nat := 32
def maxSelectOptions : Nat := 256
def maxDataGridColumns : Nat := 64

def defaultMaxSurfaceNodes : Nat := 4096
def defaultMaxPatchOperations : Nat := 1024

/-! ## Constraints of the node kinds -/

/-- The error about the layout of one node. -/
def invalidNode (kind : String) (nodeId : UiNodeId) (reason : String) : UiError :=
  .invalidLayout (kind ++ " node '" ++ nodeId.asStr ++ "' " ++ reason)

/-- Fail unless a condition holds. -/
def require (condition : Bool) (error : UiError) : Except UiError Unit :=
  if condition then .ok () else .error error

/-- A requested size, when given, is within its range. -/
def sizeWithin (maximum : Nat) (size : Option Nat) : Bool :=
  size.all fun size => decide (0 < size) && decide (size ≤ maximum)

/-- Check the size of an icon. -/
def validateIcon (nodeId : UiNodeId) (icon : UiIconNode) : Except UiError Unit :=
  require (sizeWithin maxIconSize icon.size)
    (invalidNode "icon" nodeId s!"requires requested size in 1..={maxIconSize}")

/-- Check the type, the size and the dimensions of an image. -/
def validateImage (nodeId : UiNodeId) (image : UiImageNode) : Except UiError Unit := do
  require (image.mediaType == "image/png" || image.mediaType == "image/webp")
    (invalidNode "image" nodeId "requires PNG or WebP media")
  require (decide (image.dataBase64.utf8ByteSize ≤ maxImageBase64Bytes))
    (invalidNode "image" nodeId s!"exceeds {maxImageBase64Bytes} encoded bytes")
  require (sizeWithin maxImageDimension image.width && sizeWithin maxImageDimension image.height)
    (invalidNode "image" nodeId s!"requires requested dimensions in 1..={maxImageDimension}")

/-- A canonical SHA-256 digest with its scheme. -/
def isCanonicalDigest (digest : String) : Bool :=
  match digest.toList.dropPrefix? "sha256:".toList with
  | some hex =>
      hex.length == 64 && hex.all fun c => c.isDigit || (decide ('a' ≤ c) && decide (c ≤ 'f'))
  | none => false

/-- Check an image that is an asset. -/
def validateAssetImage (nodeId : UiNodeId) (image : UiAssetImageNode) :
    Except UiError Unit := do
  require (isCanonicalDigest image.digest)
    (invalidNode "asset-image" nodeId "requires canonical sha256 digest")
  require (decide (0 < image.size) && decide (image.size ≤ maxAssetImageBytes))
    (invalidNode "asset-image" nodeId s!"requires asset size in 1..={maxAssetImageBytes}")
  require (image.mediaType == "image/png" || image.mediaType == "image/webp" ||
      image.mediaType == "image/jpeg")
    (invalidNode "asset-image" nodeId "requires PNG, WebP, or JPEG media")
  require (sizeWithin maxImageDimension image.width && sizeWithin maxImageDimension image.height)
    (invalidNode "asset-image" nodeId
      s!"requires requested dimensions in 1..={maxImageDimension}")

/-- Media types are canonical, in lower case and not repeated. -/
def canonicalMediaTypes : List String → List String → Bool
  | _, [] => true
  | seen, mediaType :: rest =>
      !mediaType.isEmpty && decide (mediaType.utf8ByteSize ≤ maxAssetPickerMediaTypeBytes) &&
        mediaType == toAsciiLowercase mediaType && mediaType.toList.contains '/' &&
        !seen.contains mediaType && canonicalMediaTypes (mediaType :: seen) rest

/-- Check what an asset picker accepts. -/
def validateAssetPicker (nodeId : UiNodeId) (picker : UiAssetPickerNode) :
    Except UiError Unit := do
  require (decide (0 < picker.maxBytes) && decide (picker.maxBytes ≤ maxAssetPickerBytes))
    (invalidNode "asset-picker" nodeId s!"requires max-bytes in 1..={maxAssetPickerBytes}")
  require (!picker.acceptedMediaTypes.isEmpty &&
      decide (picker.acceptedMediaTypes.length ≤ maxAssetPickerMediaTypes))
    (invalidNode "asset-picker" nodeId s!"requires 1..={maxAssetPickerMediaTypes} media types")
  require (canonicalMediaTypes [] picker.acceptedMediaTypes)
    (invalidNode "asset-picker" nodeId "requires unique canonical lowercase media types")

/-- File extensions start with a dot, are in lower case and not repeated. -/
def canonicalExtensions : List String → List String → Bool
  | _, [] => true
  | seen, suffix :: rest =>
      decide (2 ≤ suffix.utf8ByteSize) &&
        decide (suffix.utf8ByteSize ≤ maxResourcePickerExtensionBytes) &&
        suffix.toList.head? == some '.' && suffix == toAsciiLowercase suffix &&
        (suffix.toList.drop 1).all (fun c => c.isAlphanum || c == '-' || c == '_') &&
        !seen.contains suffix && canonicalExtensions (suffix :: seen) rest

/-- Check what a resource picker accepts. -/
def validateResourcePicker (nodeId : UiNodeId) (picker : UiResourcePickerNode) :
    Except UiError Unit := do
  require (decide (0 < picker.maxBytes) && decide (picker.maxBytes ≤ maxResourcePickerBytes))
    (invalidNode "resource-picker" nodeId s!"requires max-bytes in 1..={maxResourcePickerBytes}")
  require (decide (picker.acceptedMediaTypes.length ≤ maxResourcePickerMediaTypes) &&
      decide (picker.acceptedExtensions.length ≤ maxResourcePickerExtensions) &&
      !(picker.acceptedMediaTypes.isEmpty && picker.acceptedExtensions.isEmpty))
    (invalidNode "resource-picker" nodeId
      "requires at least one bounded media type or extension")
  require (canonicalMediaTypes [] picker.acceptedMediaTypes)
    (invalidNode "resource-picker" nodeId "requires unique canonical lowercase media types")
  require (canonicalExtensions [] picker.acceptedExtensions)
    (invalidNode "resource-picker" nodeId "requires unique lowercase file extensions")

/-- Check the options of a selection. -/
def validateSelect (nodeId : UiNodeId) (select : UiSelectNode) : Except UiError Unit :=
  require (decide (select.options.length ≤ maxSelectOptions))
    (invalidNode "select" nodeId s!"exceeds {maxSelectOptions} options")

/-- Layout weights are positive and bounded. -/
def weightWithin (weight : Nat) : Bool :=
  decide (0 < weight) && decide (weight ≤ maxLayoutWeight)

/-- Check the weights of a split. -/
def validateSplitLayout (nodeId : UiNodeId) (split : UiSplitNode) : Except UiError Unit := do
  require (decide (split.children.length = split.weights.length))
    (invalidNode "split" nodeId
      s!"has {split.children.length} children but {split.weights.length} weights")
  require (split.weights.all weightWithin)
    (invalidNode "split" nodeId s!"requires weights in 1..={maxLayoutWeight}")

/-- Columns have unique keys, and sorting needs a key and an action. -/
def validateDataGridColumns (nodeId : UiNodeId) :
    List String → List UiDataGridColumn → Except UiError Unit
  | _, [] => .ok ()
  | seen, column :: rest => do
      require (column.key.all fun key => !key.isEmpty && !seen.contains key)
        (invalidNode "data-grid" nodeId "requires non-empty unique column keys")
      require (column.sortAction.isNone || column.key.isSome)
        (invalidNode "data-grid" nodeId "requires a column key for sortable columns")
      require (column.sortDirection.isNone || column.sortAction.isSome)
        (invalidNode "data-grid" nodeId
          "cannot advertise sort direction without a sort action")
      validateDataGridColumns nodeId (column.key.toList ++ seen) rest

/-- Row keys are not empty and not repeated. -/
def uniqueRowKeys : List String → List String → Bool
  | _, [] => true
  | seen, key :: rest => !key.isEmpty && !seen.contains key && uniqueRowKeys (key :: seen) rest

/-- Selected rows exist and are not repeated. -/
def validateSelectedRows (nodeId : UiNodeId) (rowCount : Nat) :
    List Nat → List Nat → Except UiError Unit
  | _, [] => .ok ()
  | seen, row :: rest => do
      require (decide (row < rowCount) && !seen.contains row)
        (invalidNode "data-grid" nodeId s!"contains invalid selected row {row}")
      validateSelectedRows nodeId rowCount (row :: seen) rest

/-- Check the columns and rows of a grid. -/
def validateDataGridLayout (nodeId : UiNodeId) (grid : UiDataGridNode) :
    Except UiError Unit := do
  require (!grid.columns.isEmpty && decide (grid.columns.length ≤ maxDataGridColumns))
    (invalidNode "data-grid" nodeId s!"requires 1..={maxDataGridColumns} columns")
  require (grid.columns.all fun column => weightWithin column.weight)
    (invalidNode "data-grid" nodeId s!"requires column weights in 1..={maxLayoutWeight}")
  validateDataGridColumns nodeId [] grid.columns
  require (decide (grid.cells.length % grid.columns.length = 0))
    (invalidNode "data-grid" nodeId
      s!"has {grid.cells.length} cells for {grid.columns.length} columns")
  let rowCount := grid.cells.length / grid.columns.length
  require (grid.rowAction.isNone || decide (grid.rowKeys.length = rowCount))
    (invalidNode "data-grid" nodeId
      "requires one row key per row when row activation is enabled")
  require (grid.rowKeys.isEmpty || decide (grid.rowKeys.length = rowCount))
    (invalidNode "data-grid" nodeId s!"has {grid.rowKeys.length} row keys for {rowCount} rows")
  require (uniqueRowKeys [] grid.rowKeys)
    (invalidNode "data-grid" nodeId "requires non-empty unique row keys")
  validateSelectedRows nodeId rowCount [] grid.selectedRows

/-- The constraints of a node's kind. -/
def validateKind (node : UiNode) : Except UiError Unit :=
  match node.kind with
  | .icon icon => validateIcon node.id icon
  | .image image => validateImage node.id image
  | .assetImage image => validateAssetImage node.id image
  | .assetPicker picker => validateAssetPicker node.id picker
  | .resourcePicker picker => validateResourcePicker node.id picker
  | .select select => validateSelect node.id select
  | .split split => validateSplitLayout node.id split
  | .dataGrid grid => validateDataGridLayout node.id grid
  | _ => .ok ()

/-! ## The tree -/

/-- Collect nodes by identifier. -/
def nodeMapFrom : Dict UiNodeId UiNode → List UiNode → Except UiError (Dict UiNodeId UiNode)
  | nodes, [] => .ok nodes
  | nodes, node :: rest =>
      if (nodes.lookup node.id).isSome then .error (.duplicateNode node.id.asStr)
      else nodeMapFrom (nodes.insert node.id node) rest

/-- The nodes of a snapshot by identifier. -/
def nodeMap (snapshot : UiSurfaceSnapshot) : Except UiError (Dict UiNodeId UiNode) :=
  nodeMapFrom ∅ snapshot.nodes

/-- The capabilities that the nodes of a snapshot need. -/
def requiredCapabilities (snapshot : UiSurfaceSnapshot) : List UiCapabilityId :=
  snapshot.nodes.map fun node => node.kind.requiredCapability

/-- Record the parent of each child of one node. -/
def addChildren (nodes : Dict UiNodeId UiNode) (parent : UiNodeId) :
    List UiNodeId → Dict UiNodeId UiNodeId → Except UiError (Dict UiNodeId UiNodeId)
  | [], parentOf => .ok parentOf
  | child :: rest, parentOf =>
      if (nodes.lookup child).isNone then .error (.nodeNotFound child.asStr)
      else if (parentOf.lookup child).isSome then .error (.multipleParents child.asStr)
      else addChildren nodes parent rest (parentOf.insert child parent)

/-- Check every node's kind and record the parents of all children. -/
def collectParents (nodes : Dict UiNodeId UiNode) :
    List UiNode → Dict UiNodeId UiNodeId → Except UiError (Dict UiNodeId UiNodeId)
  | [], parentOf => .ok parentOf
  | node :: rest, parentOf => do
      validateKind node
      let parentOf ← addChildren nodes node.id node.kind.children parentOf
      collectParents nodes rest parentOf

/-- Follow the parents from a node. Each round extends the chain by a node that has a
parent, so one more round than there are such nodes is enough. -/
def climb (parentOf : Dict UiNodeId UiNodeId) :
    Nat → List UiNodeId → UiNodeId → Except UiError Unit
  | 0, _, _ => .ok ()
  | rounds + 1, chain, current =>
      match parentOf.lookup current with
      | none => .ok ()
      | some parent =>
          if chain.contains current then .error (.cycleDetected current.asStr)
          else climb parentOf rounds (current :: chain) parent

/-- Climb from every node. -/
def detectCycles (parentOf : Dict UiNodeId UiNodeId) : List UiNodeId → Except UiError Unit
  | [] => .ok ()
  | start :: rest => do
      climb parentOf (parentOf.entries.length + 1) [] start
      detectCycles parentOf rest

/-- Visit what is pending, the last entry first; the head of the list is the last entry.
Each round takes one entry, and only a node that is new adds its children. -/
def visit (nodes : Dict UiNodeId UiNode) :
    Nat → List UiNodeId → List UiNodeId → List UiNodeId
  | 0, visited, _ => visited
  | _ + 1, visited, [] => visited
  | rounds + 1, visited, nodeId :: pending =>
      if visited.contains nodeId then visit nodes rounds visited pending
      else
        visit nodes rounds (nodeId :: visited)
          (((nodes.lookup nodeId).elim [] fun node => node.kind.children.reverse) ++ pending)

/-- Every node is reached from the root. -/
def validateReachability (snapshot : UiSurfaceSnapshot) (nodes : Dict UiNodeId UiNode) :
    Except UiError Unit :=
  let rounds := (nodes.values.map fun node => node.kind.children.length).sum + 2
  let visited := visit nodes rounds [] [snapshot.root]
  if visited.length ≠ nodes.entries.length then
    let orphaned := (nodes.keys.filter fun id => !visited.contains id).insertionSort
      fun a b => a.asStr ≤ b.asStr
    match orphaned with
    | orphan :: _ => .error (.orphanNode orphan.asStr)
    | [] => .ok ()
  else .ok ()

/-- Whether a snapshot is a tree of acceptable nodes. -/
def validateSnapshot (snapshot : UiSurfaceSnapshot) : Except UiError Unit := do
  require (decide (snapshot.nodes.length ≤ defaultMaxSurfaceNodes))
    (.surfaceTooLarge snapshot.nodes.length defaultMaxSurfaceNodes)
  let nodes ← nodeMap snapshot
  require (nodes.lookup snapshot.root).isSome (.rootNotFound snapshot.root.asStr)
  let parentOf ← collectParents nodes nodes.values ∅
  require (parentOf.lookup snapshot.root).isNone (.rootHasParent snapshot.root.asStr)
  detectCycles parentOf nodes.keys
  validateReachability snapshot nodes

end Rintawa.UiRuntime
