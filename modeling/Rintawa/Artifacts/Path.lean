/-
# Canonical paths inside artifacts

A path is relative, uses slashes between its segments, and has neither empty segments nor
segments that point elsewhere. A name in an archive is checked in the same way, where the
name of a directory ends with a slash.
-/

import Rintawa.Artifacts.Error
import Rintawa.Lib.Table

namespace Rintawa.Artifacts

open Rintawa.Lib

/-! ## Checks -/

/-- Control characters. -/
def isControl (c : Char) : Bool := c.toNat < 0x20 || (0x7F ≤ c.toNat && c.toNat < 0xA0)

def endsWithSlash (value : String) : Bool := value.toList.getLast? == some '/'

/-- The text without a slash at its end. -/
def stripSlash (value : String) : String :=
  if endsWithSlash value then String.ofList value.toList.dropLast else value

/-- The parts between slashes. -/
def splitSlash (value : String) : List String :=
  (value.toList.splitOn '/').map String.ofList

def invalidPath (path reason : String) : RtwError := .invalidPath path reason

/-- Check the segments of a path. -/
def validateSegments (value : String) (isDirectory : Bool) : RtwResult Unit := do
  require (value != "") (invalidPath value "path cannot be empty")
  require (value.toList.head? != some '/') (invalidPath value "absolute paths are not allowed")
  require (!value.toList.contains '\\') (invalidPath value "backslashes are not allowed")
  require (!value.toList.contains ':')
    (invalidPath value "colon is not allowed in portable artifact paths")
  require (!value.toList.any isControl)
    (invalidPath value "control characters are not allowed")
  let normalized := if isDirectory then stripSlash value else value
  require (normalized != "") (invalidPath value "root directory entries are not allowed")
  require (!(splitSlash normalized).any (· == ""))
    (invalidPath value "empty path segments are not allowed")
  require (!(splitSlash normalized).any fun segment => segment == "." || segment == "..")
    (invalidPath value "`.` and `..` path segments are not allowed")

/-- Check the path of a file. -/
def validateFilePath (value : String) : RtwResult Unit := do
  validateSegments value false
  require (!endsWithSlash value) (invalidPath value "file paths cannot end with `/`")

/-- Check the name of an entry and take the slash of a directory away. -/
def validateArchiveName (value : String) (isDirectory : Bool) : RtwResult String := do
  let candidate := if isDirectory then stripSlash value else value
  validateSegments candidate isDirectory
  require (isDirectory || !endsWithSlash value)
    (invalidPath value "regular files cannot end with `/`")
  require (!isDirectory || endsWithSlash value)
    (invalidPath value "directory entries must end with `/`")
  .ok candidate

/-! ## Paths -/

/-- A canonical relative path of a file. -/
structure ArtifactPath where
  value : String
  valid : validateFilePath value = .ok ()
  deriving DecidableEq

namespace ArtifactPath

/-- Parse a path. -/
def parse (value : String) : RtwResult ArtifactPath :=
  match hvalid : validateFilePath value with
  | .ok () => .ok ⟨value, hvalid⟩
  | .error error => .error error

/-- A path is parsed again from its own text. -/
@[simp]
theorem parse_value (path : ArtifactPath) : parse path.value = .ok path := by
  unfold parse
  split
  · rfl
  · next error herror =>
      rw [path.valid] at herror
      cases herror

/-- A parsed path is the text it was parsed from. -/
theorem value_of_parse {value : String} {path : ArtifactPath} (h : parse value = .ok path) :
    path.value = value := by
  unfold parse at h
  split at h
  · cases h
    rfl
  · cases h

/-- The text of a path determines it. -/
theorem value_injective {left right : ArtifactPath} (h : left.value = right.value) :
    left = right := by
  cases left
  cases right
  cases h
  rfl

/-- Paths are compared by their texts. -/
def le (left right : ArtifactPath) : Prop := left.value ≤ right.value

instance : DecidableRel le := fun left right =>
  inferInstanceAs (Decidable (left.value ≤ right.value))

instance : Std.Total le := ⟨fun left right => le_total left.value right.value⟩

instance : IsTrans ArtifactPath le := ⟨fun _ _ _ => le_trans (α := String)⟩

instance : Std.Antisymm le := ⟨fun _ _ hle hge => value_injective (le_antisymm hle hge)⟩

end ArtifactPath

/-- A path of a file is the name of a regular file in an archive. -/
theorem validateArchiveName_path (path : ArtifactPath) :
    validateArchiveName path.value false = .ok path.value := by
  have hvalid := path.valid
  simp only [validateFilePath, bind_eq_ok_iff, require_eq_ok_iff] at hvalid
  obtain ⟨checked, hsegments, hend⟩ := hvalid
  have hsegments : validateSegments path.value false = .ok () := hsegments
  simp [validateArchiveName, bind_eq_ok_iff, hsegments, hend]

/-! ## Parents -/

/-- The beginnings of a text that a slash follows, behind what was already read. -/
def beforeSlashes (read : List Char) : List Char → List (List Char)
  | [] => []
  | c :: rest =>
      if c = '/' then read :: beforeSlashes (read ++ [c]) rest
      else beforeSlashes (read ++ [c]) rest

/-- The directories above a path. -/
def parentPaths (path : String) : List String :=
  (beforeSlashes [] path.toList).map String.ofList

/-- The root manifest is at a path of its own. -/
def rtwManifestPath : String := "rtw.toml"

def manifestPath : ArtifactPath := ⟨rtwManifestPath, by decide +kernel⟩

end Rintawa.Artifacts
