/-
# Canonical texts

Content types and digests are parsed from texts. A digest is accepted in one form only. The
parser of content types rejects leading zeros of the major version, but takes a plus sign.
-/

import Mathlib.Data.List.Induction
import Rintawa.Artifacts.Objects
import Rintawa.Sdk.VersionedTexts

namespace Rintawa.Artifacts

open Rintawa.Lib Rintawa.Sdk

/-! ## Content types -/

/-- A rejected content type with the rule it violates. -/
structure InvalidContentType where
  value : String
  reason : String
  deriving DecidableEq

namespace ContentType

/-- The displayed content type. -/
def display (content : ContentType) : String :=
  content.id ++ "@" ++ toString content.major.toNat

/-- Parse the major version of a content type. -/
def parseMajor (major : List Char) : Except String UInt32 :=
  if 1 < major.length && major.head? == some '0' then
    .error "major version must use canonical decimal notation"
  else
    match parseUnsigned versionLimit major with
    | none => .error "major version must be an unsigned integer"
    | some number => .ok (UInt32.ofNat number)

/-- Parse a namespaced content type with its major version. -/
def parse (value : String) : Except InvalidContentType ContentType :=
  match rsplitOnce '@' value.toList with
  | none => .error ⟨value, "expected `<namespace>.<name>@<major>`"⟩
  | some (id, major) =>
      match hvalid : validateContentId (String.ofList id) with
      | .error reason => .error ⟨value, reason⟩
      | .ok () =>
          match parseMajor major with
          | .error reason => .error ⟨value, reason⟩
          | .ok major => .ok ⟨String.ofList id, major, hvalid⟩

/-- A major version has no zero in front and fits into its type. -/
theorem parseMajor_eq_ok_iff {major : List Char} {number : UInt32} :
    parseMajor major = .ok number ↔
      (1 < major.length → major.head? ≠ some '0') ∧
        parseUnsigned versionLimit major = some number.toNat := by
  rw [parseMajor]
  constructor
  · intro h
    split at h
    · cases h
    · next hlead =>
        simp only [Bool.and_eq_true, decide_eq_true_eq, beq_iff_eq, not_and] at hlead
        split at h
        · cases h
        · next parsed hparsed =>
            cases h
            have hfits : parsed < versionLimit := (parseUnsigned_eq_some_iff.mp hparsed).2.2
            rw [UInt32.toNat_ofNat_of_lt' hfits]
            exact ⟨hlead, hparsed⟩
  · intro h
    have hlead : ¬ (decide (1 < major.length) && major.head? == some '0') = true := by
      rw [Bool.and_eq_true, decide_eq_true_eq, beq_iff_eq, not_and]
      exact h.1
    rw [if_neg hlead, h.2]
    dsimp only
    rw [UInt32.ofNat_toNat]

/-- What is accepted as a content type. -/
theorem parse_eq_ok_iff {value : String} {content : ContentType} :
    parse value = .ok content ↔
      ∃ major, value = versionedText content.id.toList major ∧
        (1 < major.length → major.head? ≠ some '0') ∧
        parseUnsigned versionLimit major = some content.major.toNat := by
  rw [parse]
  constructor
  · intro h
    split at h
    · cases h
    · next id major hsplit =>
        rw [rsplitOnce_eq_some_iff] at hsplit
        obtain ⟨hvalue, -⟩ := hsplit
        split at h
        · cases h
        · split at h
          · cases h
          · next number hnumber =>
              cases h
              refine ⟨major, ?_, parseMajor_eq_ok_iff.mp hnumber⟩
              rw [versionedText, String.toList_ofList, ← hvalue, String.ofList_toList]
  · intro h
    obtain ⟨major, hvalue, hmajor⟩ := h
    have hsplit : rsplitOnce '@' value.toList = some (content.id.toList, major) := by
      rw [hvalue, versionedText, String.toList_ofList,
        rsplitOnce_append _ (not_mem_of_parseUnsigned (by decide) (by decide) hmajor.2)]
    split
    · next hnone =>
        rw [hsplit] at hnone
        cases hnone
    · next id major' hparts =>
        rw [hsplit] at hparts
        cases hparts
        split
        · next reason hinvalid =>
            rw [String.ofList_toList, content.valid] at hinvalid
            cases hinvalid
        · rw [parseMajor_eq_ok_iff.mpr hmajor]
          simp only [String.ofList_toList]

end ContentType

/-- Texts whose major version has no sign, if they name a content type at all. -/
def PlainContentText (value : String) : Prop :=
  ∀ id major number, value = versionedText id major →
    validateContentId (String.ofList id) = .ok () →
    parseUnsigned versionLimit major = some number → major.head? ≠ some '+'

variable {value : String}

/-- A displayed content type is the text that it was parsed from exactly when there was no
sign. -/
theorem ContentType.display_eq_iff :
    (∀ content, ContentType.parse value = .ok content → content.display = value) ↔
      PlainContentText value := by
  constructor
  · intro h id major number hvalue hvalid hmajor hplus
    have hfits : number < versionLimit := (parseUnsigned_eq_some_iff.mp hmajor).2.2
    have hnumber : (UInt32.ofNat number).toNat = number := UInt32.toNat_ofNat_of_lt' hfits
    have hcontent : ContentType.parse value =
        .ok ⟨String.ofList id, UInt32.ofNat number, hvalid⟩ := by
      rw [ContentType.parse_eq_ok_iff]
      refine ⟨major, ?_, ?_, ?_⟩
      · rw [hvalue, String.toList_ofList]
      · intro _ hzero
        rw [hplus] at hzero
        cases hzero
      · rw [hnumber]
        exact hmajor
    have hdisplay := congrArg String.toList (h _ hcontent)
    rw [ContentType.display, toList_append_version, hvalue, versionedText, String.toList_ofList,
      String.toList_ofList, hnumber] at hdisplay
    have hplain : Nat.toDigits 10 number = major := by
      simpa using hdisplay
    exact ((toDigits_of_parseUnsigned hmajor).mp hplain).1 hplus
  · intro h content hcontent
    rw [ContentType.parse_eq_ok_iff] at hcontent
    obtain ⟨major, hvalue, hlead, hmajor⟩ := hcontent
    have hplus := h content.id.toList major content.major.toNat hvalue
      (by rw [String.ofList_toList, content.valid]) hmajor
    rw [← String.toList_inj, ContentType.display, toList_append_version, hvalue, versionedText,
      String.toList_ofList, (toDigits_of_parseUnsigned hmajor).mpr ⟨hplus, hlead⟩]

/-- A displayed content type is parsed again. -/
theorem ContentType.parse_display (content : ContentType) :
    ContentType.parse content.display = .ok content := by
  rw [ContentType.parse_eq_ok_iff]
  refine ⟨Nat.toDigits 10 content.major.toNat, ?_, (plainVersion_toDigits _).2,
    parseUnsigned_toDigits content.major.toNat_lt⟩
  rw [← String.toList_inj, ContentType.display, toList_append_version, versionedText,
    String.toList_ofList]

/-! ## Digests -/

/-- The digits of digests. -/
def isLowerHex (c : Char) : Bool := c.isDigit || (decide ('a' ≤ c) && decide (c ≤ 'f'))

/-- The number that hexadecimal digits stand for. -/
def hexNumber (hex : List Char) : Nat :=
  hex.foldl (fun number c => 16 * number + hexValue c) 0

def sha256Prefix : String := "sha256:"

/-- Parse a digest. -/
def ArtifactDigest.parse (value : String) : RtwResult ArtifactDigest :=
  match value.toList.dropPrefix? sha256Prefix.toList with
  | none => .error (.invalidDigest value)
  | some hex =>
      if hex.length == 64 && hex.all isLowerHex then .ok ⟨BitVec.ofNat 256 (hexNumber hex)⟩
      else .error (.invalidDigest value)

theorem isLowerHex_hexChar : ∀ digit < 16, isLowerHex (hexChar digit) = true := by
  decide

theorem hexValue_lt {c : Char} (h : isLowerHex c = true) :
    hexValue c < 16 ∧ hexChar (hexValue c) = c := by
  have hdigit : ∀ code, 48 ≤ code → code ≤ 57 →
      hexValue (Char.ofNat code) < 16 ∧ hexChar (hexValue (Char.ofNat code)) = Char.ofNat code := by
    intro code hle hge
    interval_cases code <;> decide
  have hletter : ∀ code, 97 ≤ code → code ≤ 102 →
      hexValue (Char.ofNat code) < 16 ∧ hexChar (hexValue (Char.ofNat code)) = Char.ofNat code := by
    intro code hle hge
    interval_cases code <;> decide
  rw [← Char.ofNat_toNat c]
  rw [isLowerHex, Bool.or_eq_true, Bool.and_eq_true, decide_eq_true_eq, decide_eq_true_eq] at h
  cases h with
  | inl hc =>
      simp only [Char.isDigit, Bool.and_eq_true, decide_eq_true_eq] at hc
      exact hdigit c.toNat hc.1 hc.2
  | inr hc => exact hletter c.toNat hc.1 hc.2

theorem isLowerHex_of_mem_fixedHex {count n : Nat} {c : Char} (h : c ∈ fixedHex count n) :
    isLowerHex c = true := by
  induction count generalizing n with
  | zero => cases h
  | succ count ih =>
      rw [fixedHex, List.mem_append, List.mem_singleton] at h
      cases h with
      | inl hinit => exact ih hinit
      | inr hlast =>
          rw [hlast]
          exact isLowerHex_hexChar _ (Nat.mod_lt n (by decide))

/-- Digits are determined by their number and their count. -/
theorem fixedHex_hexNumber {hex : List Char} (h : ∀ c ∈ hex, isLowerHex c = true) :
    fixedHex hex.length (hexNumber hex) = hex ∧ hexNumber hex < 16 ^ hex.length := by
  induction hex using List.reverseRecOn with
  | nil => exact ⟨rfl, Nat.one_pos⟩
  | append_singleton init last ih =>
      obtain ⟨hinit, hbound⟩ := ih fun c hc => h c (List.mem_append_left _ hc)
      obtain ⟨hvalue, hchar⟩ := hexValue_lt (h last (List.mem_append_right _ List.mem_cons_self))
      have hsplit : hexNumber (init ++ [last]) = 16 * hexNumber init + hexValue last := by
        rw [hexNumber, List.foldl_append]
        rfl
      have hquotient : (16 * hexNumber init + hexValue last) / 16 = hexNumber init := by omega
      have hremainder : (16 * hexNumber init + hexValue last) % 16 = hexValue last := by omega
      rw [hsplit, List.length_append, List.length_singleton, fixedHex, hquotient, hremainder,
        hinit, hchar, Nat.pow_succ]
      exact ⟨rfl, by omega⟩

namespace ArtifactDigest

/-- The text of a digest is its prefix and 64 digits. -/
theorem toList_toString (digest : ArtifactDigest) :
    digest.toString.toList = sha256Prefix.toList ++ fixedHex 64 digest.bytes.toNat := by
  simp only [toString, hex, sha256Prefix, String.toList_append, String.toList_ofList]

/-- A digest fits into its digits. -/
theorem bytes_lt (digest : ArtifactDigest) : digest.bytes.toNat < 16 ^ 64 := by
  have hlt := digest.bytes.isLt
  norm_num at hlt ⊢
  exact hlt

/-- Exactly the displayed digests are accepted. -/
theorem parse_eq_ok_iff {digest : ArtifactDigest} :
    parse value = .ok digest ↔ digest.toString = value := by
  rw [parse]
  constructor
  · intro h
    split at h
    · cases h
    · next hex hdrop =>
        obtain ⟨start, hvalue, hstart⟩ := List.dropPrefix?_eq_some_iff.mp hdrop
        split at h
        · next hvalid =>
            rw [Bool.and_eq_true, beq_iff_eq, List.all_eq_true] at hvalid
            cases h
            obtain ⟨hsame, hbound⟩ := fixedHex_hexNumber hvalid.2
            rw [hvalid.1] at hsame hbound
            have hnumber : (BitVec.ofNat 256 (hexNumber hex)).toNat = hexNumber hex := by
              rw [BitVec.toNat_ofNat]
              exact Nat.mod_eq_of_lt (hbound.trans_le (by norm_num))
            rw [← String.toList_inj, toList_toString, hnumber, hsame, hvalue, eq_of_beq hstart]
        · cases h
  · intro h
    have hdrop : value.toList.dropPrefix? sha256Prefix.toList =
        some (fixedHex 64 digest.bytes.toNat) := by
      refine List.dropPrefix?_eq_some_iff.mpr ⟨sha256Prefix.toList, ?_, beq_self_eq_true _⟩
      rw [← h, toList_toString]
    have hhex : ∀ c ∈ fixedHex 64 digest.bytes.toNat, isLowerHex c = true :=
      fun _ => isLowerHex_of_mem_fixedHex
    have hlength := fixedHex_length 64 digest.bytes.toNat
    obtain ⟨hsame, hbound⟩ := fixedHex_hexNumber hhex
    rw [hlength] at hsame hbound
    have hnumber : hexNumber (fixedHex 64 digest.bytes.toNat) = digest.bytes.toNat :=
      fixedHex_injective hbound digest.bytes_lt hsame
    rw [hdrop]
    dsimp only
    have hvalid : ((fixedHex 64 digest.bytes.toNat).length == 64 &&
        (fixedHex 64 digest.bytes.toNat).all isLowerHex) = true := by
      rw [Bool.and_eq_true, beq_iff_eq, List.all_eq_true]
      exact ⟨hlength, hhex⟩
    rw [if_pos hvalid, hnumber, BitVec.ofNat_toNat, BitVec.setWidth_eq]

end ArtifactDigest

/-! ## All texts -/

/-- A text that is the display of whatever it is accepted as. -/
structure ReadsCanonically (value : String) : Prop where
  contentType : ∀ content, ContentType.parse value = .ok content → content.display = value
  schemaKey : ∀ key, SchemaKey.fromStr value = .ok key → key.display = value
  digest : ∀ digest, ArtifactDigest.parse value = .ok digest → digest.toString = value
  target : validateComponentTarget value = .ok () → ∃ id number, ValidTargetId id ∧
    number < versionLimit ∧ value = String.ofList id ++ "@" ++ toString number

/-- Two texts that are accepted as the same content type, schema or digest. -/
inductive SameIdentity (value other : String) : Prop
  | contentType {content : ContentType} (first : ContentType.parse value = .ok content)
      (second : ContentType.parse other = .ok content)
  | schemaKey {key : SchemaKey} (first : SchemaKey.fromStr value = .ok key)
      (second : SchemaKey.fromStr other = .ok key)
  | digest {digest : ArtifactDigest} (first : ArtifactDigest.parse value = .ok digest)
      (second : ArtifactDigest.parse other = .ok digest)

/-- A value is read canonically if its texts are plain. -/
theorem readsCanonically_iff :
    ReadsCanonically value ↔ PlainContentText value ∧ PlainSchemaText value := by
  constructor
  · intro h
    exact ⟨ContentType.display_eq_iff.mp h.contentType, SchemaKey.display_eq_iff.mp h.schemaKey⟩
  · intro h
    constructor
    case contentType => exact ContentType.display_eq_iff.mpr h.1
    case schemaKey => exact SchemaKey.display_eq_iff.mpr h.2
    case digest => exact fun _ => ArtifactDigest.parse_eq_ok_iff.mp
    case target => exact validateComponentTarget_eq_ok_iff.mp

/-- Two texts that are read canonically name different things. -/
theorem ReadsCanonically.eq_of_same {other : String} (h : ReadsCanonically value)
    (hother : ReadsCanonically other) (hsame : SameIdentity value other) : value = other := by
  cases hsame with
  | contentType first second =>
      rw [← h.contentType _ first, hother.contentType _ second]
  | schemaKey first second => rw [← h.schemaKey _ first, hother.schemaKey _ second]
  | digest first second => rw [← h.digest _ first, hother.digest _ second]

/-- Accepted texts are the displays of what they name, unless a version is written with a plus
sign or, in a schema key, with leading zeros. What is displayed is accepted as it was, unless
the identifier of a schema key is not canonical. -/
theorem versioned_texts_canonical_iff (value other : String) (content : ContentType)
    (key : SchemaKey) (digest : ArtifactDigest) (id : List Char) (number : Nat) :
    (ReadsCanonically value ↔ PlainContentText value ∧ PlainSchemaText value) ∧
      (PlainContentText value ∧ PlainSchemaText value →
        PlainContentText other ∧ PlainSchemaText other → SameIdentity value other →
        value = other) ∧
      ContentType.parse content.display = .ok content ∧
      (SchemaKey.fromStr key.display = .ok key ↔ validateSchemaId key.id.asStr = .ok ()) ∧
      ArtifactDigest.parse digest.toString = .ok digest ∧
      (ValidTargetId id → number < versionLimit →
        validateComponentTarget (String.ofList id ++ "@" ++ toString number) = .ok ()) := by
  constructor
  · exact readsCanonically_iff
  constructor
  · intro hvalue hother hsame
    exact (readsCanonically_iff.mpr hvalue).eq_of_same (readsCanonically_iff.mpr hother) hsame
  constructor
  · exact ContentType.parse_display content
  constructor
  · exact SchemaKey.fromStr_display_iff
  constructor
  · exact ArtifactDigest.parse_eq_ok_iff.mpr rfl
  · intro hvalid hfits
    exact validateComponentTarget_eq_ok_iff.mpr ⟨id, number, hvalid, hfits, rfl⟩

/-- A plus sign is lost in a content type and leading zeros are lost in a schema key, and a key
with a foreign identifier is not parsed again. -/
theorem accepts_irregular_versions :
    (∃ content, ContentType.parse "demo.note@+1" = .ok content ∧
        ContentType.parse "demo.note@1" = .ok content ∧ content.display = "demo.note@1") ∧
      (∃ key, SchemaKey.fromStr "demo.note@01" = .ok key ∧
        SchemaKey.fromStr "demo.note@1" = .ok key ∧ key.display = "demo.note@1") ∧
      ¬ ReadsCanonically "demo.note@+1" ∧ ¬ ReadsCanonically "demo.note@01" ∧
      SchemaKey.fromStr (SchemaKey.display ⟨⟨"Demo.Note"⟩, ⟨1, by decide, by decide⟩⟩) ≠
        .ok ⟨⟨"Demo.Note"⟩, ⟨1, by decide, by decide⟩⟩ := by
  have hcontent : ContentType.parse "demo.note@+1" =
      .ok ⟨"demo.note", 1, by decide +kernel⟩ := by
    decide +kernel
  have hkey : SchemaKey.fromStr "demo.note@01" =
      .ok ⟨⟨"demo.note"⟩, ⟨1, by decide, by decide⟩⟩ := by
    decide +kernel
  refine ⟨⟨_, hcontent, by decide +kernel, by decide +kernel⟩,
    ⟨_, hkey, by decide +kernel, by decide +kernel⟩, fun h => ?_, fun h => ?_,
    by decide +kernel⟩
  · have hdisplay := h.contentType _ hcontent
    revert hdisplay
    decide +kernel
  · have hdisplay := h.schemaKey _ hkey
    revert hdisplay
    decide +kernel

end Rintawa.Artifacts
