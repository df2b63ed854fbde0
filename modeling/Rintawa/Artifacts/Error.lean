/-
# Errors of artifacts

Sizes are unsigned 64-bit numbers. A vector of bytes in memory is never longer than the
largest signed size.
-/

import Mathlib.Data.String.Basic

namespace Rintawa.Artifacts

/-! ## Sizes and bytes -/

/-- The largest unsigned 64-bit number. -/
def u64Max : Nat := 2 ^ 64 - 1

/-- The most bytes of one allocation. -/
def isizeMax : Nat := 2 ^ 63 - 1

/-- Addition up to the largest number of the type. -/
def saturatingAdd (left right : Nat) : Nat := min (left + right) u64Max

/-- The length of a sequence of bytes as a size. -/
def sizeOfBytes (bytes : List UInt8) : Nat := min bytes.length u64Max

/-- A vector of bytes in memory. -/
structure ByteVec where
  bytes : List UInt8
  fits : bytes.length ≤ isizeMax
  deriving DecidableEq

/-- A text in memory. -/
structure Text where
  value : String
  fits : value.utf8ByteSize ≤ isizeMax
  deriving DecidableEq

theorem ByteVec.sizeOfBytes_eq (vec : ByteVec) : sizeOfBytes vec.bytes = vec.bytes.length := by
  have hfits := vec.fits
  simp only [sizeOfBytes, isizeMax, u64Max] at *
  omega

/-! ## Encoded texts -/

/-- The bytes of a text. -/
def utf8 (text : String) : List UInt8 := text.toByteArray.data.toList

/-- The text of bytes that encode one. -/
def fromUtf8 (bytes : List UInt8) : Option String := String.fromUTF8? ⟨bytes.toArray⟩

/-- A text is read back from its bytes. -/
@[simp]
theorem fromUtf8_utf8 (text : String) : fromUtf8 (utf8 text) = some text := by
  have hvalid : (⟨text.toByteArray.data.toList.toArray⟩ : ByteArray) = text.toByteArray := rfl
  rw [fromUtf8, utf8, hvalid, String.fromUTF8?, dif_pos text.isValidUTF8]
  rfl

theorem length_utf8 (text : String) : (utf8 text).length = text.utf8ByteSize := by
  rw [utf8, Array.length_toList]
  rfl

def Text.intoBytes (text : Text) : ByteVec :=
  ⟨utf8 text.value, by rw [length_utf8]; exact text.fits⟩

/-! ## Errors -/

/-- The kinds of errors of the operating system that are told apart. -/
inductive IoError
  | notFound
  | alreadyExists
  | crossesDevices
  | invalidData
  | other (message : String)
  deriving DecidableEq

/-- Errors of the library for ZIP files. -/
structure ZipError where
  message : String
  deriving DecidableEq

/-- Errors of the library for TOML documents. -/
structure TomlError where
  message : String
  deriving DecidableEq

/-- What is wrong with an archive. -/
inductive RtwError
  | io (error : IoError)
  | zip (error : ZipError)
  | manifestParse (error : TomlError)
  | manifestEncode (error : TomlError)
  | unsupportedFormat (found supported : UInt32)
  | invalidPath (path reason : String)
  | archiveTooLarge (actual maximum : Nat)
  | tooManyEntries (actual maximum : Nat)
  | entryTooLarge (path : String) (actual maximum : Nat)
  | uncompressedArchiveTooLarge (actual maximum : Nat)
  | encryptedEntry (path : String)
  | unsupportedCompression (path : String)
  | unsupportedEntryType (path : String)
  | duplicateEntry (path : String)
  | pathConflict (path : String)
  | missingManifest
  | manifestTooLarge (actual maximum : Nat)
  | invalidManifestEncoding
  | entryNotFound (path : String)
  | missingContentEntry (path : String)
  | sourceNotDirectory (path : String)
  | unsupportedSourceEntry (path : String)
  | outputAlreadyExists (path : String)
  | outputInsideSource (path : String)
  | invalidDigest (value : String)
  | storedArtifactNotFound (digest : String)
  | storeCorruption (digest : String)
  | invalidStoreEntry (path reason : String)
  deriving DecidableEq

abbrev RtwResult (α : Type) := Except RtwError α

/-- Report an error of a library as an error of artifacts. -/
def orError {ε α : Type} (wrap : ε → RtwError) : Except ε α → RtwResult α
  | .ok value => .ok value
  | .error error => .error (wrap error)

@[simp]
theorem orError_eq_ok_iff {ε α : Type} {wrap : ε → RtwError} {result : Except ε α} {value : α} :
    orError wrap result = .ok value ↔ result = .ok value := by
  cases result with
  | ok => simp [orError]
  | error => simp [orError]

/-- Refuse with an error unless a condition holds. -/
def require (condition : Bool) (error : RtwError) : RtwResult Unit :=
  if condition then .ok () else .error error

@[simp]
theorem require_eq_ok_iff {condition : Bool} {error : RtwError} {value : Unit} :
    require condition error = .ok value ↔ condition = true := by
  cases condition with
  | true => simp [require]
  | false => simp [require]

end Rintawa.Artifacts
