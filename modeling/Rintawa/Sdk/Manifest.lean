/-
# Extension manifests

A manifest names the components of an extension with their execution targets and the
permissions that they request. A request grants nothing by itself.
-/

import Rintawa.Sdk.Contracts

namespace Rintawa.Sdk

/-! ## Execution targets -/

/-- The execution target of WebAssembly components. -/
def wasmComponentTargetV1 : String := "rintawa.runtime.wasm-component@1"

/-- A rejected execution target with the rule it violates. -/
structure ComponentTargetValidationError where
  value : String
  reason : String
  deriving DecidableEq, Repr

/-- The displayed error. -/
def ComponentTargetValidationError.display (error : ComponentTargetValidationError) : String :=
  "invalid component target `" ++ error.value ++ "`: " ++ error.reason

/-- Split a text at the last separator. -/
def rsplitOnce (separator : Char) (text : List Char) : Option (List Char × List Char) :=
  let tail := text.reverse.takeWhile fun c => c != separator
  match text.reverse.dropWhile fun c => c != separator with
  | [] => none
  | _ :: head => some (head.reverse, tail.reverse)

def isTargetChar (c : Char) : Bool :=
  c.isLower || c.isDigit || c == '-' || c == '_'

/-- Check one namespace segment of a target. -/
def checkTargetSegment (segment : List Char) : Except String Unit :=
  if segment.isEmpty then .error "namespace segments cannot be empty"
  else if !segment.all isTargetChar then
    .error "identifier uses characters outside `[a-z0-9_-]` and `.` separators"
  else if !(segment.head?.any Char.isAlphanum && segment.getLast?.any Char.isAlphanum) then
    .error "namespace segments must start and end with an ASCII letter or digit"
  else .ok ()

/-- The number that decimal digits stand for. -/
def decimalValue (digits : List Char) : Nat :=
  digits.foldl (fun value digit => 10 * value + (digit.toNat - '0'.toNat)) 0

/-- Check the major version of a target. -/
def checkTargetMajor (major : List Char) : Except String Unit :=
  if major.isEmpty || !major.all Char.isDigit then
    .error "major version must contain only ASCII decimal digits"
  else if 1 < major.length && major.head? == some '0' then
    .error "major version must use canonical decimal notation"
  else if 2 ^ 32 ≤ decimalValue major then
    .error "major version must fit in an unsigned 32-bit integer"
  else .ok ()

/-- Check the canonical form of an execution target. -/
def checkComponentTarget (value : String) : Except String Unit :=
  match rsplitOnce '@' value.toList with
  | none => .error "expected `<namespace>.<name>@<major>`"
  | some (id, major) =>
      if 128 < (String.ofList id).utf8ByteSize then
        .error "identifier must not exceed 128 bytes"
      else if (id.splitOn '.').length < 2 then
        .error "identifier must contain at least one namespace separator `.`"
      else do
        (id.splitOn '.').forM checkTargetSegment
        checkTargetMajor major

/-- Validate an execution target. -/
def validateComponentTarget (value : String) : Except ComponentTargetValidationError Unit :=
  match checkComponentTarget value with
  | .ok () => .ok ()
  | .error reason => .error ⟨value, reason⟩

/-- The built-in target is canonical. -/
example : validateComponentTarget wasmComponentTargetV1 = .ok () := by decide +kernel

/-! ## Permissions -/

/-- Coarse runtime capabilities that a component may request. -/
inductive RuntimePermission
  | backgroundTask | loopbackListen | loopbackConnect | httpFetch | artifactImport | assetImport
  | userResourceImport | userResourceRead | userContentRead | userContentWrite
  | worldSessionRead | worldSessionWrite | worldCommandSubmit | worldProjectionRead
  | compositionRead | compositionWrite | runtimePolicyRead | runtimePolicyWrite
  deriving DecidableEq, Repr

/-- The displayed permission. -/
def RuntimePermission.display : RuntimePermission → String
  | .backgroundTask => "background-task"
  | .loopbackListen => "loopback-listen"
  | .loopbackConnect => "loopback-connect"
  | .httpFetch => "http-fetch"
  | .artifactImport => "artifact-import"
  | .assetImport => "asset-import"
  | .userResourceImport => "user-resource-import"
  | .userResourceRead => "user-resource-read"
  | .userContentRead => "user-content-read"
  | .userContentWrite => "user-content-write"
  | .worldSessionRead => "world-session-read"
  | .worldSessionWrite => "world-session-write"
  | .worldCommandSubmit => "world-command-submit"
  | .worldProjectionRead => "world-projection-read"
  | .compositionRead => "composition-read"
  | .compositionWrite => "composition-write"
  | .runtimePolicyRead => "runtime-policy-read"
  | .runtimePolicyWrite => "runtime-policy-write"

/-- What a component requests from the host. -/
structure ComponentPermissions where
  secretRead : List SecretPathPattern
  runtime : List RuntimePermission
  deriving DecidableEq

/-! ## Manifests -/

/-- A component that a manifest declares. -/
structure ComponentDescriptor where
  id : ComponentId
  target : ComponentTarget
  required : Bool
  permissions : ComponentPermissions
  deriving DecidableEq

/-- What an extension declares. -/
structure ExtensionManifest where
  id : ExtensionId
  components : List ComponentDescriptor
  deriving DecidableEq

/-- What can be wrong with a manifest. -/
inductive ManifestValidationError
  | duplicateComponentId (extensionId : ExtensionId) (componentId : ComponentId)
  | invalidComponentTarget (extensionId : ExtensionId) (componentId : ComponentId)
      (source : ComponentTargetValidationError)
  deriving DecidableEq

/-- The displayed error. -/
def ManifestValidationError.display : ManifestValidationError → String
  | .duplicateComponentId extensionId componentId =>
      "duplicate component ID `" ++ componentId.asStr ++ "` in extension `" ++
        extensionId.asStr ++ "`"
  | .invalidComponentTarget extensionId componentId source =>
      "component `" ++ componentId.asStr ++ "` in extension `" ++ extensionId.asStr ++ "` has " ++
        source.display

namespace ExtensionManifest

variable (manifest : ExtensionManifest)

/-- Check components after those with the identifiers seen. -/
def validateComponents (seen : List ComponentId) :
    List ComponentDescriptor → Except ManifestValidationError Unit
  | [] => .ok ()
  | component :: rest =>
      if component.id ∈ seen then .error (.duplicateComponentId manifest.id component.id)
      else
        match validateComponentTarget component.target.asStr with
        | .error source => .error (.invalidComponentTarget manifest.id component.id source)
        | .ok () => validateComponents (component.id :: seen) rest

/-- Component identifiers are unique and execution targets are canonical. -/
def validate : Except ManifestValidationError Unit :=
  manifest.validateComponents [] manifest.components

end ExtensionManifest

end Rintawa.Sdk
