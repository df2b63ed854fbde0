/-
# Constraints of nodes

What each kind of node has to meet, stated without the order of the checks: sizes and
weights within their ranges, lists without repetitions, and grids whose cells, row keys and
selected rows fit their columns.
-/

import Rintawa.UiRuntime.SnapshotTrees

namespace Rintawa.UiRuntime

open Rintawa.Lib Rintawa.Sdk

/-! ## Images and pickers -/

/-- A size that is requested is positive and bounded. -/
def SizeAllowed (maximum : Nat) (size : Option Nat) : Prop :=
  ∀ value, size = some value → 0 < value ∧ value ≤ maximum

/-- What is asked of an image. -/
structure ImageAllowed (image : UiImageNode) : Prop where
  media : image.mediaType = "image/png" ∨ image.mediaType = "image/webp"
  bytes : image.dataBase64.utf8ByteSize ≤ maxImageBase64Bytes
  width : SizeAllowed maxImageDimension image.width
  height : SizeAllowed maxImageDimension image.height

/-- A digest with its scheme, in 64 lower-case hexadecimal digits. -/
def DigestAllowed (digest : String) : Prop :=
  ∃ hex : List Char, digest.toList = "sha256:".toList ++ hex ∧ hex.length = 64 ∧
    ∀ c ∈ hex, c.isDigit = true ∨ ('a' ≤ c ∧ c ≤ 'f')

/-- What is asked of an image that is an asset. -/
structure AssetImageAllowed (image : UiAssetImageNode) : Prop where
  digest : DigestAllowed image.digest
  size : 0 < image.size ∧ image.size ≤ maxAssetImageBytes
  media : image.mediaType = "image/png" ∨ image.mediaType = "image/webp" ∨
    image.mediaType = "image/jpeg"
  width : SizeAllowed maxImageDimension image.width
  height : SizeAllowed maxImageDimension image.height

/-- A media type in lower case, with a slash. -/
structure MediaTypeAllowed (mediaType : String) : Prop where
  nonempty : mediaType ≠ ""
  bytes : mediaType.utf8ByteSize ≤ maxAssetPickerMediaTypeBytes
  lowercase : mediaType = toAsciiLowercase mediaType
  slash : '/' ∈ mediaType.toList

/-- Media types that are allowed and listed once. -/
def MediaTypesAllowed (mediaTypes : List String) : Prop :=
  mediaTypes.Nodup ∧ ∀ mediaType ∈ mediaTypes, MediaTypeAllowed mediaType

/-- What is asked of an asset picker. -/
structure AssetPickerAllowed (picker : UiAssetPickerNode) : Prop where
  maxBytes : 0 < picker.maxBytes ∧ picker.maxBytes ≤ maxAssetPickerBytes
  count : picker.acceptedMediaTypes ≠ [] ∧
    picker.acceptedMediaTypes.length ≤ maxAssetPickerMediaTypes
  mediaTypes : MediaTypesAllowed picker.acceptedMediaTypes

/-- A file extension in lower case, with its dot. -/
structure ExtensionAllowed (suffix : String) : Prop where
  bytes : 2 ≤ suffix.utf8ByteSize ∧ suffix.utf8ByteSize ≤ maxResourcePickerExtensionBytes
  lowercase : suffix = toAsciiLowercase suffix
  characters : ∃ rest, suffix.toList = '.' :: rest ∧
    ∀ c ∈ rest, c.isAlphanum = true ∨ c = '-' ∨ c = '_'

/-- What is asked of a resource picker. -/
structure ResourcePickerAllowed (picker : UiResourcePickerNode) : Prop where
  maxBytes : 0 < picker.maxBytes ∧ picker.maxBytes ≤ maxResourcePickerBytes
  mediaTypeCount : picker.acceptedMediaTypes.length ≤ maxResourcePickerMediaTypes
  extensionCount : picker.acceptedExtensions.length ≤ maxResourcePickerExtensions
  nonempty : picker.acceptedMediaTypes ≠ [] ∨ picker.acceptedExtensions ≠ []
  mediaTypes : MediaTypesAllowed picker.acceptedMediaTypes
  extensions : picker.acceptedExtensions.Nodup ∧
    ∀ suffix ∈ picker.acceptedExtensions, ExtensionAllowed suffix

/-! ## Layouts -/

/-- What is asked of a weight. -/
def WeightAllowed (weight : Nat) : Prop :=
  0 < weight ∧ weight ≤ maxLayoutWeight

/-- What is asked of a split. -/
structure SplitAllowed (split : UiSplitNode) : Prop where
  count : split.children.length = split.weights.length
  weights : ∀ weight ∈ split.weights, WeightAllowed weight

/-- The rows of a grid. -/
def rowCount (grid : UiDataGridNode) : Nat :=
  grid.cells.length / grid.columns.length

/-- Sorting needs a key and an action. -/
structure ColumnAllowed (column : UiDataGridColumn) : Prop where
  weight : WeightAllowed column.weight
  key : column.key ≠ some ""
  sortKey : column.sortAction ≠ none → column.key ≠ none
  sortAction : column.sortDirection ≠ none → column.sortAction ≠ none

/-- What is asked of a grid. -/
structure GridAllowed (grid : UiDataGridNode) : Prop where
  count : grid.columns ≠ [] ∧ grid.columns.length ≤ maxDataGridColumns
  columns : ∀ column ∈ grid.columns, ColumnAllowed column
  columnKeys : (grid.columns.filterMap fun column => column.key).Nodup
  cells : grid.columns.length ∣ grid.cells.length
  rowAction : grid.rowAction ≠ none → grid.rowKeys.length = rowCount grid
  rowKeyCount : grid.rowKeys ≠ [] → grid.rowKeys.length = rowCount grid
  rowKeys : grid.rowKeys.Nodup ∧ "" ∉ grid.rowKeys
  selectedRows : grid.selectedRows.Nodup ∧ ∀ row ∈ grid.selectedRows, row < rowCount grid

/-- The constraints of a kind of node. -/
def KindAllowed : UiNodeKind → Prop
  | .icon icon => SizeAllowed maxIconSize icon.size
  | .image image => ImageAllowed image
  | .assetImage image => AssetImageAllowed image
  | .assetPicker picker => AssetPickerAllowed picker
  | .resourcePicker picker => ResourcePickerAllowed picker
  | .select select => select.options.length ≤ maxSelectOptions
  | .split split => SplitAllowed split
  | .dataGrid grid => GridAllowed grid
  | _ => True

/-! ## The checks decide them -/

theorem sizeWithin_iff {maximum : Nat} {size : Option Nat} :
    sizeWithin maximum size = true ↔ SizeAllowed maximum size := by
  cases size with
  | none => simp [sizeWithin, SizeAllowed]
  | some value => simp [sizeWithin, SizeAllowed]

theorem isCanonicalDigest_iff {digest : String} :
    isCanonicalDigest digest = true ↔ DigestAllowed digest := by
  have hcharacters : ∀ hex : List Char,
      ((hex.length == 64 && hex.all fun c => c.isDigit || (decide ('a' ≤ c) && decide (c ≤ 'f'))) =
          true) ↔
        hex.length = 64 ∧ ∀ c ∈ hex, c.isDigit = true ∨ ('a' ≤ c ∧ c ≤ 'f') := by
    intro hex
    simp
  rw [isCanonicalDigest]
  cases hfound : digest.toList.dropPrefix? "sha256:".toList with
  | some hex =>
      obtain ⟨scheme, hdigest, hscheme⟩ := List.dropPrefix?_eq_some_iff.mp hfound
      rw [eq_of_beq hscheme] at hdigest
      rw [hcharacters, DigestAllowed]
      constructor
      · exact fun hhex => ⟨hex, hdigest, hhex⟩
      · rintro ⟨other, hother, hhex⟩
        rw [List.append_cancel_left (hdigest.symm.trans hother)]
        exact hhex
  | none =>
      refine iff_of_false Bool.false_ne_true ?_
      rintro ⟨hex, hdigest, -⟩
      have hsome := List.dropPrefix?_eq_some_iff.mpr
        ⟨"sha256:".toList, hdigest, beq_self_eq_true _⟩
      rw [hfound] at hsome
      cases hsome

/-- Entries that are new and differ are those that are new one after another. -/
theorem forall_notMem_cons_iff {α : Type} {first : α} {seen rest : List α} :
    (∀ other ∈ rest, other ∉ first :: seen) ↔ first ∉ rest ∧ ∀ other ∈ rest, other ∉ seen := by
  simp only [List.mem_cons, not_or]
  constructor
  · intro h
    exact ⟨fun hmem => (h first hmem).1 rfl, fun other hother => (h other hother).2⟩
  · rintro ⟨hfirst, hrest⟩ other hother
    exact ⟨fun hsame => hfirst (hsame ▸ hother), hrest other hother⟩

variable {seen : List String} {nodeId : UiNodeId}

theorem canonicalMediaTypes_iff {mediaTypes : List String} :
    canonicalMediaTypes seen mediaTypes = true ↔
      MediaTypesAllowed mediaTypes ∧ ∀ mediaType ∈ mediaTypes, mediaType ∉ seen := by
  induction mediaTypes generalizing seen with
  | nil => simp [canonicalMediaTypes, MediaTypesAllowed]
  | cons mediaType rest ih =>
      have hallowed : MediaTypeAllowed mediaType ↔ mediaType ≠ "" ∧
          mediaType.utf8ByteSize ≤ maxAssetPickerMediaTypeBytes ∧
          mediaType = toAsciiLowercase mediaType ∧ '/' ∈ mediaType.toList :=
        ⟨fun h => ⟨h.nonempty, h.bytes, h.lowercase, h.slash⟩,
          fun h => ⟨h.1, h.2.1, h.2.2.1, h.2.2.2⟩⟩
      simp only [canonicalMediaTypes, Bool.and_eq_true, Bool.not_eq_true', decide_eq_true_eq,
        beq_iff_eq, List.contains_iff_mem, String.isEmpty_eq_false_iff, ih,
        forall_notMem_cons_iff, MediaTypesAllowed, List.nodup_cons, List.forall_mem_cons, hallowed]
      simp only [← Bool.not_eq_true, List.contains_iff_mem]
      constructor
      · rintro ⟨⟨⟨⟨⟨hnonempty, hbytes⟩, hlowercase⟩, hslash⟩, hnew⟩, ⟨hnodup, hrest⟩, hfirst,
          hothers⟩
        exact ⟨⟨⟨hfirst, hnodup⟩, ⟨hnonempty, hbytes, hlowercase, hslash⟩, hrest⟩, hnew, hothers⟩
      · rintro ⟨⟨⟨hfirst, hnodup⟩, ⟨hnonempty, hbytes, hlowercase, hslash⟩, hrest⟩, hnew, hothers⟩
        exact ⟨⟨⟨⟨⟨hnonempty, hbytes⟩, hlowercase⟩, hslash⟩, hnew⟩, ⟨hnodup, hrest⟩, hfirst,
          hothers⟩

theorem canonicalExtensions_iff {suffixes : List String} :
    canonicalExtensions seen suffixes = true ↔
      (suffixes.Nodup ∧ ∀ suffix ∈ suffixes, ExtensionAllowed suffix) ∧
        ∀ suffix ∈ suffixes, suffix ∉ seen := by
  induction suffixes generalizing seen with
  | nil => simp [canonicalExtensions]
  | cons suffix rest ih =>
      have hallowed : ExtensionAllowed suffix ↔ (2 ≤ suffix.utf8ByteSize ∧
          suffix.utf8ByteSize ≤ maxResourcePickerExtensionBytes) ∧
          suffix = toAsciiLowercase suffix ∧ suffix.toList.head? = some '.' ∧
          ∀ c ∈ suffix.toList.drop 1, c.isAlphanum = true ∨ c = '-' ∨ c = '_' := by
        constructor
        · intro h
          obtain ⟨characters, htext, hcharacters⟩ := h.characters
          rw [htext]
          exact ⟨h.bytes, h.lowercase, rfl, hcharacters⟩
        · rintro ⟨hbytes, hlowercase, hdot, hcharacters⟩
          cases htext : suffix.toList with
          | nil =>
              rw [htext] at hdot
              cases hdot
          | cons c characters =>
              rw [htext] at hdot hcharacters
              cases hdot
              exact ⟨hbytes, hlowercase, characters, htext, hcharacters⟩
      simp only [canonicalExtensions, Bool.and_eq_true, Bool.not_eq_true', decide_eq_true_eq,
        beq_iff_eq, List.all_eq_true, Bool.or_eq_true, ih,
        forall_notMem_cons_iff, List.nodup_cons, List.forall_mem_cons, hallowed]
      simp only [← Bool.not_eq_true, List.contains_iff_mem, or_assoc]
      tauto

theorem uniqueRowKeys_iff {keys : List String} :
    uniqueRowKeys seen keys = true ↔
      (keys.Nodup ∧ "" ∉ keys) ∧ ∀ key ∈ keys, key ∉ seen := by
  induction keys generalizing seen with
  | nil => simp [uniqueRowKeys]
  | cons key rest ih =>
      simp only [uniqueRowKeys, Bool.and_eq_true, Bool.not_eq_true', String.isEmpty_eq_false_iff,
        ih, forall_notMem_cons_iff, List.nodup_cons, List.forall_mem_cons]
      simp only [← Bool.not_eq_true, List.contains_iff_mem, List.mem_cons, not_or,
        ne_comm (a := "")]
      tauto

theorem validateSelectedRows_eq_ok_iff {count : Nat} {seen rows : List Nat} :
    validateSelectedRows nodeId count seen rows = .ok () ↔
      (rows.Nodup ∧ ∀ row ∈ rows, row < count) ∧ ∀ row ∈ rows, row ∉ seen := by
  induction rows generalizing seen with
  | nil => simp [validateSelectedRows]
  | cons row rest ih =>
      simp only [validateSelectedRows, bind_eq_ok_iff, require_eq_ok_iff, Bool.and_eq_true,
        decide_eq_true_eq, Bool.not_eq_true', ih, forall_notMem_cons_iff, List.nodup_cons,
        List.forall_mem_cons]
      simp only [← Bool.not_eq_true, List.contains_iff_mem]
      constructor
      · rintro ⟨-, hrow, hrest⟩
        tauto
      · intro h
        exact ⟨(), by tauto, by tauto⟩

theorem weightWithin_iff {weight : Nat} : weightWithin weight = true ↔ WeightAllowed weight := by
  simp [weightWithin, WeightAllowed]

/-- Columns are checked one after another, with the keys before them. -/
theorem validateDataGridColumns_eq_ok_iff {columns : List UiDataGridColumn} {value : Unit} :
    validateDataGridColumns nodeId seen columns = .ok value ↔
      (∀ column ∈ columns, column.key ≠ some "" ∧
        (column.sortAction ≠ none → column.key ≠ none) ∧
        (column.sortDirection ≠ none → column.sortAction ≠ none)) ∧
      (columns.filterMap fun column => column.key).Nodup ∧
      ∀ key ∈ columns.filterMap fun column => column.key, key ∉ seen := by
  cases value
  induction columns generalizing seen with
  | nil => simp [validateDataGridColumns]
  | cons column rest ih =>
      have hsort : (column.sortAction.isNone || column.key.isSome) = true ↔
          (column.sortAction ≠ none → column.key ≠ none) := by
        cases column.sortAction <;> cases column.key <;> simp
      have hdirection : (column.sortDirection.isNone || column.sortAction.isSome) = true ↔
          (column.sortDirection ≠ none → column.sortAction ≠ none) := by
        cases column.sortDirection <;> cases column.sortAction <;> simp
      simp only [validateDataGridColumns, bind_eq_ok_iff, require_eq_ok_iff, hsort, hdirection, ih,
        List.forall_mem_cons, exists_const]
      cases hkey : column.key with
      | none =>
          rw [List.filterMap_cons_none hkey]
          simp only [Option.all_none, Option.toList_none, List.nil_append]
          simp [and_assoc]
      | some key =>
          rw [List.filterMap_cons_some hkey]
          simp only [Option.all_some, Option.toList_some, List.singleton_append, List.nodup_cons,
            forall_notMem_cons_iff, List.forall_mem_cons, Bool.and_eq_true, Bool.not_eq_true',
            String.isEmpty_eq_false_iff]
          simp only [← Bool.not_eq_true, List.contains_iff_mem, ne_eq, Option.some.injEq]
          tauto

theorem validateDataGridLayout_eq_ok_iff {grid : UiDataGridNode} :
    validateDataGridLayout nodeId grid = .ok () ↔ GridAllowed grid := by
  have hrowAction : (grid.rowAction.isNone || decide (grid.rowKeys.length = rowCount grid)) =
      true ↔ (grid.rowAction ≠ none → grid.rowKeys.length = rowCount grid) := by
    cases grid.rowAction <;> simp
  have hrowKeys : (grid.rowKeys.isEmpty || decide (grid.rowKeys.length = rowCount grid)) =
      true ↔ (grid.rowKeys ≠ [] → grid.rowKeys.length = rowCount grid) := by
    cases grid.rowKeys <;> simp
  have hcount : grid.cells.length / grid.columns.length = rowCount grid := rfl
  simp only [validateDataGridLayout, bind_eq_ok_iff, require_eq_ok_iff, exists_const, hcount,
    Bool.and_eq_true, Bool.not_eq_true', List.isEmpty_eq_false_iff, decide_eq_true_eq,
    List.all_eq_true, weightWithin_iff, validateDataGridColumns_eq_ok_iff, hrowAction, hrowKeys,
    ← Nat.dvd_iff_mod_eq_zero, uniqueRowKeys_iff, validateSelectedRows_eq_ok_iff,
    List.not_mem_nil, not_false_eq_true, implies_true, and_true]
  constructor
  · rintro ⟨hcolumns, hweights, ⟨hkeys, hunique⟩, hcells, haction, hrows, hrowUnique, hselected⟩
    constructor
    case count => exact hcolumns
    case columns =>
      intro column hcolumn
      obtain ⟨hkey, hsort, hdirection⟩ := hkeys column hcolumn
      exact ⟨hweights column hcolumn, hkey, hsort, hdirection⟩
    case columnKeys => exact hunique
    case cells => exact hcells
    case rowAction => exact haction
    case rowKeyCount => exact hrows
    case rowKeys => exact hrowUnique
    case selectedRows => exact hselected
  · intro h
    refine ⟨h.count, fun column hcolumn => (h.columns column hcolumn).weight,
      ⟨fun column hcolumn => ?_, h.columnKeys⟩, h.cells, h.rowAction, h.rowKeyCount, h.rowKeys,
      h.selectedRows⟩
    have hcolumn := h.columns column hcolumn
    exact ⟨hcolumn.key, hcolumn.sortKey, hcolumn.sortAction⟩

theorem validateSplitLayout_eq_ok_iff {split : UiSplitNode} :
    validateSplitLayout nodeId split = .ok () ↔ SplitAllowed split := by
  simp only [validateSplitLayout, bind_eq_ok_iff, require_eq_ok_iff, decide_eq_true_eq,
    List.all_eq_true, weightWithin_iff, exists_const]
  exact ⟨fun h => ⟨h.1, h.2⟩, fun h => ⟨h.count, h.weights⟩⟩

theorem validateImage_eq_ok_iff {image : UiImageNode} :
    validateImage nodeId image = .ok () ↔ ImageAllowed image := by
  simp only [validateImage, bind_eq_ok_iff, require_eq_ok_iff, decide_eq_true_eq, Bool.or_eq_true,
    Bool.and_eq_true, beq_iff_eq, sizeWithin_iff, exists_const]
  exact ⟨fun h => ⟨h.1, h.2.1, h.2.2.1, h.2.2.2⟩, fun h => ⟨h.media, h.bytes, h.width, h.height⟩⟩

theorem validateAssetImage_eq_ok_iff {image : UiAssetImageNode} :
    validateAssetImage nodeId image = .ok () ↔ AssetImageAllowed image := by
  simp only [validateAssetImage, bind_eq_ok_iff, require_eq_ok_iff, decide_eq_true_eq,
    Bool.or_eq_true, Bool.and_eq_true, beq_iff_eq, sizeWithin_iff, isCanonicalDigest_iff,
    exists_const, or_assoc]
  exact ⟨fun h => ⟨h.1, h.2.1, h.2.2.1, h.2.2.2.1, h.2.2.2.2⟩,
    fun h => ⟨h.digest, h.size, h.media, h.width, h.height⟩⟩

theorem validateAssetPicker_eq_ok_iff {picker : UiAssetPickerNode} :
    validateAssetPicker nodeId picker = .ok () ↔ AssetPickerAllowed picker := by
  simp only [validateAssetPicker, bind_eq_ok_iff, require_eq_ok_iff, decide_eq_true_eq,
    Bool.and_eq_true, Bool.not_eq_true', List.isEmpty_eq_false_iff, canonicalMediaTypes_iff,
    exists_const, List.not_mem_nil, not_false_eq_true, implies_true, and_true]
  exact ⟨fun h => ⟨h.1, h.2.1, h.2.2⟩, fun h => ⟨h.maxBytes, h.count, h.mediaTypes⟩⟩

theorem validateResourcePicker_eq_ok_iff {picker : UiResourcePickerNode} :
    validateResourcePicker nodeId picker = .ok () ↔ ResourcePickerAllowed picker := by
  have hnonempty : (!(picker.acceptedMediaTypes.isEmpty && picker.acceptedExtensions.isEmpty)) =
      true ↔ picker.acceptedMediaTypes ≠ [] ∨ picker.acceptedExtensions ≠ [] := by
    cases picker.acceptedMediaTypes <;> cases picker.acceptedExtensions <;> simp
  simp only [validateResourcePicker, bind_eq_ok_iff, require_eq_ok_iff, decide_eq_true_eq,
    Bool.and_eq_true, hnonempty, canonicalMediaTypes_iff, canonicalExtensions_iff, exists_const,
    List.not_mem_nil, not_false_eq_true, implies_true, and_true]
  exact ⟨fun h => ⟨h.1, h.2.1.1.1, h.2.1.1.2, h.2.1.2, h.2.2.1, h.2.2.2⟩,
    fun h => ⟨h.maxBytes, ⟨⟨h.mediaTypeCount, h.extensionCount⟩, h.nonempty⟩, h.mediaTypes,
      h.extensions⟩⟩

/-- The checks of a node's kind pass exactly when its constraints are met. -/
theorem validateKind_eq_ok_iff {node : UiNode} :
    validateKind node = .ok () ↔ KindAllowed node.kind := by
  unfold validateKind
  cases node.kind with
  | icon icon => exact require_eq_ok_iff.trans sizeWithin_iff
  | image image => exact validateImage_eq_ok_iff
  | assetImage image => exact validateAssetImage_eq_ok_iff
  | assetPicker picker => exact validateAssetPicker_eq_ok_iff
  | resourcePicker picker => exact validateResourcePicker_eq_ok_iff
  | select select => exact require_eq_ok_iff.trans decide_eq_true_iff
  | split split => exact validateSplitLayout_eq_ok_iff
  | dataGrid grid => exact validateDataGridLayout_eq_ok_iff
  | text | markdown | button | checkbox | textInput | textArea | row | column | list =>
      exact iff_of_true rfl trivial

end Rintawa.UiRuntime
