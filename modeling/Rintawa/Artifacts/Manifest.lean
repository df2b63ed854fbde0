/-
# Root manifests

Every artifact has a manifest at its root. It names the version of the format, the type of
the content with its major version, and the file where the content starts.
-/

import Rintawa.Artifacts.Path

namespace Rintawa.Artifacts

open Rintawa.Lib

/-! ## Content types -/

def isLowercaseOrDigit (c : Char) : Bool :=
  ('a' ≤ c && c ≤ 'z') || ('0' ≤ c && c ≤ '9')

/-- The letters and digits that a segment starts and ends with. -/
def isAsciiAlphanumeric (c : Char) : Bool :=
  isLowercaseOrDigit c || ('A' ≤ c && c ≤ 'Z')

/-- Check one segment of an identifier. -/
def validateIdSegment (segment : List Char) : Except String Unit :=
  if segment == [] then .error "namespace segments cannot be empty"
  else if !segment.all fun c => isLowercaseOrDigit c || c == '-' || c == '_' then
    .error "identifier uses characters outside `[a-z0-9_-]` and `.` separators"
  else if !segment.head?.any isAsciiAlphanumeric || !segment.getLast?.any isAsciiAlphanumeric then
    .error "namespace segments must start and end with an ASCII letter or digit"
  else .ok ()

/-- Check an identifier of a kind of content. -/
def validateContentId (value : String) : Except String Unit :=
  if 128 < value.utf8ByteSize then .error "identifier must not exceed 128 bytes"
  else
    let segments := value.toList.splitOn '.'
    if segments.length < 2 then
      .error "identifier must contain at least one namespace separator `.`"
    else segments.forM validateIdSegment

/-- A namespaced type of content with its major version. -/
structure ContentType where
  id : String
  major : UInt32
  valid : validateContentId id = .ok ()
  deriving DecidableEq

/-! ## Manifests -/

def rtwFormatVersion : UInt32 := 1

/-- The manifest of an archive. -/
structure RtwManifest where
  format : UInt32
  content : ContentType
  entry : ArtifactPath
  deriving DecidableEq

/-- Check the format of a manifest. -/
def RtwManifest.validate (manifest : RtwManifest) : RtwResult Unit :=
  require (manifest.format == rtwFormatVersion)
    (.unsupportedFormat manifest.format rtwFormatVersion)

/-! ## Documents -/

/-- The library that writes manifests as documents and reads them back. -/
structure TomlCrate where
  toString : RtwManifest → Except TomlError Text
  fromStr : String → Except TomlError RtwManifest

/-- A manifest is read back from the document that was written for it. -/
def TomlCrate.RoundTrips (toml : TomlCrate) : Prop :=
  ∀ manifest text, toml.toString manifest = .ok text → toml.fromStr text.value = .ok manifest

end Rintawa.Artifacts
