/-
# What an archive may contain

The rule for the entries of an archive, without the order in which they are checked: names
are canonical relative paths, sizes and kinds are allowed, and no file is where another
entry needs a directory. The names that the checks let pass are compared with the canonical
ones. The two differ, because the name of a directory may end with a second slash.
-/

import Mathlib.Algebra.GroupWithZero.Nat
import Rintawa.Artifacts.Archive

namespace Rintawa.Artifacts

open Rintawa.Lib

/-! ## Names -/

/-- The path of an entry: its name, for a directory without the slash at the end. -/
def entryPath (name : String) (isDirectory : Bool) : String :=
  if isDirectory then stripSlash name else name

/-- A relative path without segments that are empty or point elsewhere, and without
characters that some systems treat as separators. -/
structure PlainSegments (name : String) (isDirectory : Bool) : Prop where
  relative : name.toList.head? ≠ some '/'
  portable : ∀ c ∈ name.toList, c ≠ '\\' ∧ c ≠ ':' ∧ isControl c = false
  segments : ∀ segment ∈ splitSlash (entryPath name isDirectory),
    segment ≠ "" ∧ segment ≠ "." ∧ segment ≠ ".."

/-- The name of an entry, which ends with a slash exactly for a directory. -/
structure CanonicalName (name : String) (isDirectory : Bool) : Prop
    extends PlainSegments name isDirectory where
  trailing : endsWithSlash name = isDirectory

/-- A canonical name, or one of a directory with a slash behind it. -/
def ToleratedName (name : String) (isDirectory : Bool) : Prop :=
  CanonicalName name isDirectory ∨
    (isDirectory = true ∧ endsWithSlash name = true ∧ CanonicalName (stripSlash name) true)

variable {value name : String} {isDirectory : Bool}

theorem endsWithSlash_iff :
    endsWithSlash value = true ↔ ∃ front, value = String.ofList (front ++ ['/']) := by
  simp only [endsWithSlash, beq_iff_eq]
  constructor
  · intro h
    obtain ⟨front, hfront⟩ := List.getLast?_eq_some_iff.mp h
    exact ⟨front, by rw [← hfront, String.ofList_toList]⟩
  · rintro ⟨front, rfl⟩
    simp

/-- A slash at the end is taken away. -/
theorem stripSlash_of_ends (h : endsWithSlash value = true) :
    value.toList = (stripSlash value).toList ++ ['/'] := by
  rw [stripSlash, if_pos h]
  obtain ⟨front, rfl⟩ := endsWithSlash_iff.mp h
  simp

/-- Nothing is taken away without a slash at the end. -/
theorem stripSlash_of_not_ends (h : endsWithSlash value = false) : stripSlash value = value := by
  rw [stripSlash, h]
  rfl

/-- Behind a slash at the end stands an empty segment. -/
theorem not_endsWithSlash_of_segments (h : ∀ segment ∈ splitSlash value, segment ≠ "") :
    endsWithSlash value = false := by
  by_contra hends
  obtain ⟨front, rfl⟩ := endsWithSlash_iff.mp (by simpa using hends)
  refine h "" ?_ rfl
  simp [splitSlash, List.splitOn_append_cons_self]

/-- A path with a segment is not empty. -/
theorem ne_empty_of_segments (h : ∀ segment ∈ splitSlash value, segment ≠ "") : value ≠ "" := by
  rintro rfl
  exact h "" (by simp [splitSlash]) rfl

/-- Segments are accepted if they are plain. -/
theorem validateSegments_eq_ok_iff :
    validateSegments value isDirectory = .ok () ↔ PlainSegments value isDirectory := by
  simp only [validateSegments, bind_eq_ok_iff, require_eq_ok_iff, bne_iff_ne, ne_eq,
    Bool.not_eq_true', List.contains_eq_mem, decide_eq_false_iff_not, List.any_eq_false,
    beq_iff_eq, Bool.or_eq_true, not_or, exists_const]
  constructor
  · rintro ⟨-, hrelative, hbackslash, hcolon, hcontrol, -, hempty, hdots⟩
    refine ⟨hrelative, fun c hc => ⟨?_, ?_, by simpa using hcontrol c hc⟩, ?_⟩
    · rintro rfl
      exact hbackslash hc
    · rintro rfl
      exact hcolon hc
    · exact fun segment hsegment => ⟨hempty segment hsegment, hdots segment hsegment⟩
  · intro h
    have hempty : ∀ segment ∈ splitSlash (entryPath value isDirectory), segment ≠ "" :=
      fun segment hsegment => (h.segments segment hsegment).1
    have hpath : entryPath value isDirectory ≠ "" := ne_empty_of_segments hempty
    refine ⟨?_, h.relative, fun hc => (h.portable _ hc).1 rfl, fun hc => (h.portable _ hc).2.1 rfl,
      fun c hc => by simp [(h.portable c hc).2.2], hpath, hempty,
      fun segment hsegment => (h.segments segment hsegment).2⟩
    rintro rfl
    cases isDirectory <;> exact hpath rfl

/-- The name of a directory is checked behind its slash, where another slash may follow. -/
theorem validateArchiveName_eq_ok_iff {path : String} :
    validateArchiveName name isDirectory = .ok path ↔
      ToleratedName name isDirectory ∧ path = entryPath name isDirectory := by
  have hcheck : validateArchiveName name isDirectory = .ok path ↔
      PlainSegments (entryPath name isDirectory) isDirectory ∧
        endsWithSlash name = isDirectory ∧ path = entryPath name isDirectory := by
    rw [← validateSegments_eq_ok_iff, eq_comm (a := path)]
    simp only [validateArchiveName, bind_eq_ok_iff, require_eq_ok_iff, Except.ok.injEq,
      Unique.exists_iff, PUnit.default_eq_unit]
    cases isDirectory with
    | false => simp [entryPath]
    | true => simp [entryPath]
  rw [hcheck, ← and_assoc]
  refine and_congr_left fun _ => ?_
  cases isDirectory with
  | false =>
      have hnames : ToleratedName name false ↔
          PlainSegments name false ∧ endsWithSlash name = false := by
        constructor
        · rintro (h | ⟨hfalse, -, -⟩)
          · exact ⟨h.toPlainSegments, h.trailing⟩
          · cases hfalse
        · rintro ⟨hplain, htrailing⟩
          exact Or.inl ⟨hplain, htrailing⟩
      exact hnames.symm
  | true =>
      have hnames : ToleratedName name true ↔
          PlainSegments (stripSlash name) true ∧ endsWithSlash name = true := by
        constructor
        · rintro (h | ⟨-, hends, h⟩)
          · have hlist := stripSlash_of_ends h.trailing
            have hsegments : ∀ segment ∈ splitSlash (stripSlash name),
                segment ≠ "" ∧ segment ≠ "." ∧ segment ≠ ".." := h.segments
            have hends : endsWithSlash (stripSlash name) = false :=
              not_endsWithSlash_of_segments fun segment hsegment => (hsegments segment hsegment).1
            refine ⟨⟨?_, fun c hc => h.portable c ?_, ?_⟩, h.trailing⟩
            · intro hhead
              refine h.relative ?_
              rw [hlist, List.head?_append, hhead]
              rfl
            · rw [hlist]
              exact List.mem_append_left _ hc
            · rw [entryPath, if_pos rfl, stripSlash_of_not_ends hends]
              exact hsegments
          · exact ⟨h.toPlainSegments, hends⟩
        · rintro ⟨hplain, hends⟩
          have hlist := stripSlash_of_ends hends
          cases hagain : endsWithSlash (stripSlash name) with
          | true => exact Or.inr ⟨rfl, hends, hplain, hagain⟩
          | false =>
              have hsegments := hplain.segments
              rw [entryPath, if_pos rfl, stripSlash_of_not_ends hagain] at hsegments
              refine Or.inl ⟨⟨?_, ?_, hsegments⟩, hends⟩
              · intro hhead
                rw [hlist, List.head?_append] at hhead
                cases hfirst : (stripSlash name).toList.head? with
                | none =>
                    have hempty := ne_empty_of_segments fun segment hsegment =>
                      (hsegments segment hsegment).1
                    rw [List.head?_eq_none_iff] at hfirst
                    exact hempty (String.toList_eq_nil_iff.mp hfirst)
                | some c =>
                    rw [hfirst] at hhead
                    exact hplain.relative (hfirst.trans hhead)
              · intro c hc
                rw [hlist, List.mem_append, List.mem_singleton] at hc
                rcases hc with hc | rfl
                · exact hplain.portable c hc
                · decide
      exact hnames.symm

/-- The only names let pass that are not canonical end with two slashes. -/
theorem ToleratedName.canonical (h : ToleratedName name isDirectory)
    (hsingle : isDirectory = true → endsWithSlash (stripSlash name) = false) :
    CanonicalName name isDirectory := by
  rcases h with h | ⟨hdirectory, -, h⟩
  · exact h
  · have hends := hsingle hdirectory
    rw [h.trailing] at hends
    cases hends

/-- The name of a directory ends with one slash. -/
theorem CanonicalName.single (h : CanonicalName name isDirectory)
    (hdirectory : isDirectory = true) :
    endsWithSlash (stripSlash name) = false := by
  subst hdirectory
  exact not_endsWithSlash_of_segments fun segment hsegment => (h.segments segment hsegment).1

/-! ## Ancestors -/

/-- A path is a directory above another one. -/
def IsAncestor (parent path : String) : Prop :=
  ∃ rest, path.toList = parent.toList ++ '/' :: rest

/-- The parents of a path end before one of its slashes. -/
theorem mem_beforeSlashes {text : List Char} :
    ∀ {chars read : List Char}, text ∈ beforeSlashes read chars ↔
      ∃ front rest, chars = front ++ '/' :: rest ∧ text = read ++ front
  | [], read => by simp [beforeSlashes]
  | c :: chars, read => by
      have hrest : text ∈ beforeSlashes (read ++ [c]) chars ↔
          ∃ front rest, chars = front ++ '/' :: rest ∧ text = read ++ c :: front := by
        rw [mem_beforeSlashes]
        simp
      have hsplit : (∃ front rest, c :: chars = front ++ '/' :: rest ∧ text = read ++ front) ↔
          (c = '/' ∧ text = read) ∨
            ∃ front rest, chars = front ++ '/' :: rest ∧ text = read ++ c :: front := by
        constructor
        · rintro ⟨front, rest, hchars, htext⟩
          cases front with
          | nil =>
              cases hchars
              exact Or.inl ⟨rfl, by simpa using htext⟩
          | cons first front =>
              cases hchars
              exact Or.inr ⟨front, rest, rfl, htext⟩
        · rintro (⟨rfl, rfl⟩ | ⟨front, rest, rfl, htext⟩)
          · exact ⟨[], chars, rfl, by simp⟩
          · exact ⟨c :: front, rest, rfl, htext⟩
      rw [beforeSlashes, hsplit]
      by_cases hslash : c = '/'
      · rw [if_pos hslash, List.mem_cons, hrest]
        simp only [hslash, true_and]
      · rw [if_neg hslash, hrest]
        simp only [hslash, false_and, false_or]

/-- The parents that are recorded are the ancestors of the path. -/
theorem mem_parentPaths {parent path : String} :
    parent ∈ parentPaths path ↔ IsAncestor parent path := by
  simp only [parentPaths, List.mem_map, mem_beforeSlashes, List.nil_append, IsAncestor]
  constructor
  · rintro ⟨_, ⟨front, rest, hpath, rfl⟩, rfl⟩
    exact ⟨rest, by simpa using hpath⟩
  · rintro ⟨rest, hpath⟩
    exact ⟨parent.toList, ⟨parent.toList, rest, hpath, rfl⟩, String.ofList_toList⟩

/-! ## Below a root -/

/-- Systems differ in what separates the parts of a path. -/
inductive PathStyle
  | unix
  | windows
  deriving DecidableEq

def PathStyle.isSeparator : PathStyle → Char → Bool
  | .unix, c => c == '/'
  | .windows, c => c == '/' || c == '\\'

/-- A path that replaces the root that it is joined to. -/
def PathStyle.replacesRoot (style : PathStyle) (path : String) : Bool :=
  path.toList.head?.any style.isSeparator ||
    (decide (style = .windows) && path.toList.contains ':')

/-- The parts of a path that say where to go. -/
def PathStyle.components (style : PathStyle) (path : String) : List String :=
  ((path.toList.splitOnP style.isSeparator).map String.ofList).filter fun part =>
    part != "" && part != "."

/-- Follow the parts of a path from a place. -/
def descend (place : List String) : List String → List String
  | [] => place
  | part :: parts => if part = ".." then descend place.dropLast parts
      else descend (place ++ [part]) parts

/-- Joined to any root, a path stays below it at every part. -/
def StaysBelow (path : String) : Prop :=
  ∀ style : PathStyle, style.replacesRoot path = false ∧
    ∀ root n, root <+: descend root ((style.components path).take n)

/-- Without parent segments, a path stays below where it starts. -/
theorem prefix_descend {parts : List String} (h : ∀ part ∈ parts, part ≠ "..") :
    ∀ place : List String, place <+: descend place parts := by
  induction parts with
  | nil => exact fun place => List.prefix_refl place
  | cons part parts ih =>
      intro place
      rw [descend, if_neg (h part (by simp))]
      have hrest := ih (fun other hother => h other (by simp [hother])) (place ++ [part])
      exact (List.prefix_append place [part]).trans hrest

/-- In a portable text only slashes separate. -/
theorem PlainSegments.isSeparator (h : PlainSegments name isDirectory) (style : PathStyle) :
    ∀ c ∈ name.toList, style.isSeparator c = (c == '/') := by
  intro c hc
  cases style with
  | unix => rfl
  | windows =>
      have hbackslash := (h.portable c hc).1
      simp [PathStyle.isSeparator, hbackslash]

theorem splitOnP_congr {p q : Char → Bool} {chars : List Char} (h : ∀ c ∈ chars, p c = q c) :
    chars.splitOnP p = chars.splitOnP q := by
  induction chars with
  | nil => simp
  | cons c chars ih =>
      have hrest := ih fun d hd => h d (by simp [hd])
      rw [List.splitOnP_cons_eq_if_modifyHead, List.splitOnP_cons_eq_if_modifyHead,
        h c (by simp), hrest]

/-- A plain path of a file leads below every root. -/
theorem PlainSegments.staysBelow {path : String} (h : PlainSegments path false) :
    StaysBelow path := by
  intro style
  have hseparator := h.isSeparator style
  constructor
  · have hcolon : path.toList.contains ':' = false := by
      rw [List.contains_eq_mem, decide_eq_false_iff_not]
      exact fun hc => (h.portable _ hc).2.1 rfl
    have hhead : path.toList.head?.any style.isSeparator = false := by
      cases hfirst : path.toList.head? with
      | none => rfl
      | some c =>
          have hrelative := h.relative
          rw [hfirst] at hrelative
          have hmem : c ∈ path.toList := List.mem_of_head? hfirst
          rw [Option.any_some, hseparator c hmem, beq_eq_false_iff_ne]
          exact fun heq => hrelative (by rw [heq])
    rw [PathStyle.replacesRoot, hhead, hcolon, Bool.and_false, Bool.or_false]
  · intro root n
    refine prefix_descend (fun part hpart => ?_) root
    have hmem := (List.mem_filter.mp (List.mem_of_mem_take hpart)).1
    rw [splitOnP_congr hseparator] at hmem
    exact (h.segments part hmem).2.2

/-! ## The entries of an archive -/

namespace ZipFile

def path (file : ZipFile) : String := entryPath file.name file.isDir

/-- A regular file or a directory, as it is marked, that can be read. -/
structure AllowedKind (file : ZipFile) : Prop where
  noLink : file.isSymlink = false
  type : ∀ mode, file.unixMode = some mode → mode &&& fileTypeMask = 0 ∨
    mode &&& fileTypeMask = if file.isDir then 0o040000 else 0o100000
  compression : file.compression = .stored ∨ file.compression = .deflated
  plain : file.encrypted = false

end ZipFile

/-- The declared sizes together, as far as they can be counted. -/
def declaredTotal (files : List ZipFile) : Nat := min (files.map ZipFile.size).sum u64Max

/-- What each entry must fulfil, and what entries must fulfil among each other as far as
their paths are the same. -/
structure EntriesChecked (named : String → Bool → Prop) (limits : RtwLimits)
    (files : List ZipFile) : Prop where
  encoded : ∀ file ∈ files, file.nameRaw = utf8 file.name
  names : ∀ file ∈ files, named file.name file.isDir
  kinds : ∀ file ∈ files, file.AllowedKind
  sizes : ∀ file ∈ files, file.isDir = false → file.size ≤ limits.maxEntryBytes
  total : declaredTotal files ≤ limits.maxUncompressedBytes
  distinct : (files.map ZipFile.path).Nodup

/-- The entries that an archive may have under a rule for names. -/
structure EntriesAllowed (named : String → Bool → Prop) (limits : RtwLimits)
    (files : List ZipFile) : Prop extends EntriesChecked named limits files where
  count : files.length ≤ limits.maxEntries
  noConflict : ∀ file ∈ files, file.isDir = false →
    ∀ other ∈ files, ¬ IsAncestor file.path other.path
  manifest : ∃ file ∈ files, file.isDir = false ∧ file.path = rtwManifestPath

end Rintawa.Artifacts
