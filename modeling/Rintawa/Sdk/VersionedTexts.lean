/-
# Versioned texts

Schema keys and execution targets are written as an identifier and a version after an at sign.
Targets take a version in one form only. The parser of schema keys also takes a plus sign and
leading zeros, which are lost in the displayed key.
-/

import Mathlib.Data.List.TakeWhile
import Rintawa.Lib.Numerals
import Rintawa.Lib.Table
import Rintawa.Sdk.Contributions
import Rintawa.Sdk.Manifest

namespace Rintawa.Sdk

open Rintawa.Lib

/-- The number of values of a 32-bit version. -/
def versionLimit : Nat := 2 ^ 32

/-! ## The last separator -/

/-- A text is split at its last separator. -/
theorem rsplitOnce_append {separator : Char} (head : List Char) {tail : List Char}
    (h : separator ∉ tail) :
    rsplitOnce separator (head ++ separator :: tail) = some (head, tail) := by
  have hkeep : ∀ c ∈ tail.reverse, (c != separator) = true := by
    intro c hc
    rw [bne_iff_ne]
    intro hsame
    rw [hsame, List.mem_reverse] at hc
    exact h hc
  have hreverse : (head ++ separator :: tail).reverse =
      tail.reverse ++ separator :: head.reverse := by
    rw [List.reverse_append, List.reverse_cons, List.append_assoc, List.singleton_append]
  have htake : (head ++ separator :: tail).reverse.takeWhile (fun c => c != separator) =
      tail.reverse := by
    rw [hreverse, List.takeWhile_append_of_pos hkeep, List.takeWhile_cons_of_neg (by simp),
      List.append_nil]
  have hdrop : (head ++ separator :: tail).reverse.dropWhile (fun c => c != separator) =
      separator :: head.reverse := by
    rw [hreverse, List.dropWhile_append_of_pos hkeep, List.dropWhile_cons_of_neg (by simp)]
  rw [rsplitOnce, htake, hdrop]
  dsimp only
  rw [List.reverse_reverse, List.reverse_reverse]

/-- A text is split at the last separator, which is the first one from the end. -/
theorem rsplitOnce_eq_some_iff {separator : Char} {text head tail : List Char} :
    rsplitOnce separator text = some (head, tail) ↔
      text = head ++ separator :: tail ∧ separator ∉ tail := by
  constructor
  · intro h
    have htext : separator ∈ text := by
      by_contra hmissing
      have hall : ∀ c ∈ text.reverse, (c != separator) = true := by
        intro c hc
        rw [bne_iff_ne]
        intro hsame
        rw [hsame, List.mem_reverse] at hc
        exact hmissing hc
      rw [rsplitOnce, List.dropWhile_eq_nil_iff.mpr hall] at h
      cases h
    obtain ⟨after, before, hsplit, hafter⟩ :=
      List.eq_append_cons_of_mem (List.mem_reverse.mpr htext)
    have htext' : text = before.reverse ++ separator :: after.reverse := by
      rw [← List.reverse_reverse text, hsplit, List.reverse_append, List.reverse_cons,
        List.append_assoc, List.singleton_append]
    have hafter' : separator ∉ after.reverse := by rwa [List.mem_reverse]
    rw [htext', rsplitOnce_append _ hafter'] at h
    cases h
    exact ⟨htext', hafter'⟩
  · intro h
    rw [h.1, rsplitOnce_append head h.2]

/-! ## Versioned texts -/

/-- An identifier with a version. -/
def versionedText (id version : List Char) : String := String.ofList (id ++ '@' :: version)

theorem toList_append_version (id : String) (version : Nat) :
    (id ++ "@" ++ toString version).toList = id.toList ++ '@' :: Nat.toDigits 10 version := by
  rw [String.toList_append, String.toList_append, toList_toString, List.append_assoc]
  rfl

/-- A displayed text with a version determines its parts. -/
theorem append_version_inj {id id' : String} {version version' : Nat} :
    id ++ "@" ++ toString version = id' ++ "@" ++ toString version' ↔
      id = id' ∧ version = version' := by
  rw [← String.toList_inj, toList_append_version, toList_append_version]
  constructor
  · intro h
    obtain ⟨hid, hversion⟩ := append_cons_inj h (not_mem_toDigits (by decide) version)
      (not_mem_toDigits (by decide) version')
    exact ⟨String.toList_inj.mp hid, toDigits_injective hversion⟩
  · intro h
    rw [h.1, h.2]

/-- A version is written as it is displayed when it has no sign and no leading zeros. -/
def PlainVersion (version : List Char) : Prop :=
  version.head? ≠ some '+' ∧ (1 < version.length → version.head? ≠ some '0')

instance (version : List Char) : Decidable (PlainVersion version) :=
  inferInstanceAs (Decidable (_ ∧ (_ → _)))

/-- Versions that are written are plain. -/
theorem plainVersion_toDigits (version : Nat) : PlainVersion (Nat.toDigits 10 version) :=
  (toDigits_of_parseUnsigned (parseUnsigned_toDigits (Nat.lt_succ_self version))).mp rfl

/-! ## Schema keys -/

/-- A rejected schema key. -/
inductive SchemaKeyParseError
  | missingVersion
  | identifier (error : SchemaIdentifierError)
  | version (version : String)
  deriving DecidableEq, Repr

/-- The displayed error. -/
def SchemaKeyParseError.display : SchemaKeyParseError → String
  | .missingVersion => "schema key must use <schema-id>@<version>"
  | .identifier error => error.display
  | .version text => "invalid schema version " ++ text

/-- Parse a positive schema version. -/
def parseSchemaVersion (version : List Char) : Except SchemaKeyParseError SchemaVersion :=
  match (parseUnsigned versionLimit version).bind SchemaVersion.new with
  | none => .error (.version (String.ofList version))
  | some parsed => .ok parsed

/-- Parse a schema key. -/
def SchemaKey.fromStr (value : String) : Except SchemaKeyParseError SchemaKey :=
  match rsplitOnce '@' value.toList with
  | none => .error .missingVersion
  | some (id, version) =>
      match SchemaId.parse (String.ofList id) with
      | .error error => .error (.identifier error)
      | .ok id =>
          match parseSchemaVersion version with
          | .error error => .error error
          | .ok parsed => .ok ⟨id, parsed⟩

/-- A version is a number that fits and is not zero. -/
theorem parseSchemaVersion_eq_ok_iff {version : List Char} {parsed : SchemaVersion} :
    parseSchemaVersion version = .ok parsed ↔
      parseUnsigned versionLimit version = some parsed.get := by
  rw [parseSchemaVersion]
  constructor
  · intro h
    split at h
    · cases h
    · next found hfound =>
        cases h
        obtain ⟨number, hnumber, hnew⟩ := Option.bind_eq_some_iff.mp hfound
        rw [SchemaVersion.new] at hnew
        split at hnew
        · cases hnew
          exact hnumber
        · cases hnew
  · intro h
    have hnew : SchemaVersion.new parsed.get = some parsed := by
      rw [SchemaVersion.new, dif_pos ⟨parsed.positive, parsed.fits⟩]
    rw [h, Option.bind_some, hnew]

variable {value : String}

/-- What is accepted as a schema key. -/
theorem SchemaKey.fromStr_eq_ok_iff {key : SchemaKey} :
    SchemaKey.fromStr value = .ok key ↔
      ∃ version, value = versionedText key.id.asStr.toList version ∧
        validateSchemaId key.id.asStr = .ok () ∧
        parseUnsigned versionLimit version = some key.version.get := by
  rw [SchemaKey.fromStr]
  constructor
  · intro h
    split at h
    · cases h
    · next id version hsplit =>
        rw [rsplitOnce_eq_some_iff] at hsplit
        obtain ⟨hvalue, -⟩ := hsplit
        cases hid : SchemaId.parse (String.ofList id) with
        | error error =>
            rw [hid] at h
            cases h
        | ok parsedId =>
            obtain ⟨⟨⟩, hvalid, hparsed⟩ := bind_eq_ok_iff.mp hid
            cases hparsed
            cases hversion : parseSchemaVersion version with
            | error error =>
                rw [hid] at h
                dsimp only at h
                rw [hversion] at h
                cases h
            | ok parsed =>
                rw [hid] at h
                dsimp only at h
                rw [hversion] at h
                cases h
                refine ⟨version, ?_, hvalid, parseSchemaVersion_eq_ok_iff.mp hversion⟩
                rw [versionedText, String.toList_ofList, ← hvalue, String.ofList_toList]
  · intro h
    obtain ⟨version, hvalue, hvalid, hversion⟩ := h
    have hid : SchemaId.parse key.id.asStr = .ok key.id := by
      rw [SchemaId.parse, hvalid]
      rfl
    rw [hvalue, versionedText, String.toList_ofList,
      rsplitOnce_append _ (not_mem_of_parseUnsigned (by decide) (by decide) hversion)]
    dsimp only
    rw [String.ofList_toList, hid]
    dsimp only
    rw [parseSchemaVersion_eq_ok_iff.mpr hversion]

/-- Texts whose version is written as it is displayed, if they name a schema at all. -/
def PlainSchemaText (value : String) : Prop :=
  ∀ id version number, value = versionedText id version →
    validateSchemaId (String.ofList id) = .ok () →
    parseUnsigned versionLimit version = some number → 0 < number → PlainVersion version

/-- A displayed key is the text that it was parsed from exactly when the version was plain. -/
theorem SchemaKey.display_eq_iff :
    (∀ key, SchemaKey.fromStr value = .ok key → key.display = value) ↔ PlainSchemaText value := by
  constructor
  · intro h id version number hvalue hvalid hversion hpositive
    have hfits : number < versionLimit := (parseUnsigned_eq_some_iff.mp hversion).2.2
    have hkey : SchemaKey.fromStr value =
        .ok ⟨⟨String.ofList id⟩, ⟨number, hpositive, hfits⟩⟩ := by
      rw [SchemaKey.fromStr_eq_ok_iff]
      refine ⟨version, ?_, hvalid, hversion⟩
      rw [hvalue, String.toList_ofList]
    have hdisplay := congrArg String.toList (h _ hkey)
    rw [SchemaKey.display, toList_append_version, hvalue, versionedText, String.toList_ofList,
      String.toList_ofList] at hdisplay
    have hplain : Nat.toDigits 10 number = version := by
      simpa using hdisplay
    exact (toDigits_of_parseUnsigned hversion).mp hplain
  · intro h key hkey
    rw [SchemaKey.fromStr_eq_ok_iff] at hkey
    obtain ⟨version, hvalue, hvalid, hversion⟩ := hkey
    have hplain := h key.id.asStr.toList version key.version.get hvalue
      (by rwa [String.ofList_toList]) hversion key.version.positive
    rw [← String.toList_inj, SchemaKey.display, toList_append_version, hvalue, versionedText,
      String.toList_ofList, (toDigits_of_parseUnsigned hversion).mpr hplain]

/-- A displayed key is parsed again exactly when its identifier is canonical. -/
theorem SchemaKey.fromStr_display_iff {key : SchemaKey} :
    SchemaKey.fromStr key.display = .ok key ↔ validateSchemaId key.id.asStr = .ok () := by
  rw [SchemaKey.fromStr_eq_ok_iff]
  constructor
  · intro h
    obtain ⟨_, -, hvalid, -⟩ := h
    exact hvalid
  · intro h
    refine ⟨Nat.toDigits 10 key.version.get, ?_, h,
      parseUnsigned_toDigits key.version.fits⟩
    rw [← String.toList_inj, SchemaKey.display, toList_append_version, versionedText,
      String.toList_ofList]

/-! ## Execution targets -/

/-- The identifiers of execution targets. -/
def ValidTargetId (id : List Char) : Prop :=
  (String.ofList id).utf8ByteSize ≤ 128 ∧ 2 ≤ (id.splitOn '.').length ∧
    (id.splitOn '.').forM checkTargetSegment = .ok ()

/-- The major version of a target is written as its number is. -/
theorem checkTargetMajor_eq_ok_iff {major : List Char} :
    checkTargetMajor major = .ok () ↔
      ∃ number < versionLimit, major = Nat.toDigits 10 number := by
  rw [checkTargetMajor]
  constructor
  · intro h
    split at h
    · cases h
    · next hnumeral =>
        split at h
        · cases h
        · next hlead =>
            split at h
            · cases h
            · next hfits =>
                simp only [Bool.or_eq_true, List.isEmpty_iff, Bool.not_eq_true',
                  List.all_eq_false, not_or, not_exists, not_and, Bool.not_eq_true,
                  Bool.not_eq_false] at hnumeral
                simp only [Bool.and_eq_true, decide_eq_true_eq, beq_iff_eq, not_and] at hlead
                exact ⟨numeralValue major, Nat.lt_of_not_le hfits,
                  (toDigits_numeralValue ⟨hnumeral.1, hnumeral.2⟩ hlead).symm⟩
  · intro h
    obtain ⟨number, hfits, rfl⟩ := h
    have hplain := plainVersion_toDigits number
    have hvalue : decimalValue (Nat.toDigits 10 number) = number := numeralValue_toDigits number
    have hnumeral : ((Nat.toDigits 10 number).isEmpty || !(Nat.toDigits 10 number).all Char.isDigit)
        = false := by
      rw [Bool.or_eq_false_iff, Bool.not_eq_false', List.all_eq_true, List.isEmpty_eq_false_iff]
      exact isNumeral_toDigits number
    have hlead : ¬ (decide (1 < (Nat.toDigits 10 number).length) &&
        (Nat.toDigits 10 number).head? == some '0') = true := by
      rw [Bool.and_eq_true, decide_eq_true_eq, beq_iff_eq, not_and]
      exact hplain.2
    rw [hnumeral, if_neg Bool.false_ne_true, if_neg hlead, hvalue]
    exact if_neg (Nat.not_le_of_lt hfits)

/-- Exactly the displayed targets are accepted. -/
theorem validateComponentTarget_eq_ok_iff :
    validateComponentTarget value = .ok () ↔
      ∃ id number, ValidTargetId id ∧ number < versionLimit ∧
        value = String.ofList id ++ "@" ++ toString number := by
  have hcheck : validateComponentTarget value = .ok () ↔ checkComponentTarget value = .ok () := by
    rw [validateComponentTarget]
    cases checkComponentTarget value with
    | error error => exact iff_of_false nofun nofun
    | ok _ => exact iff_of_true rfl rfl
  rw [hcheck, checkComponentTarget]
  constructor
  · intro h
    split at h
    · cases h
    · next id major hsplit =>
        rw [rsplitOnce_eq_some_iff] at hsplit
        obtain ⟨hvalue, -⟩ := hsplit
        split at h
        · cases h
        · next hbytes =>
            split at h
            · cases h
            · next hsegments =>
                obtain ⟨⟨⟩, hids, hmajor⟩ := bind_eq_ok_iff.mp h
                rw [checkTargetMajor_eq_ok_iff] at hmajor
                obtain ⟨number, hfits, rfl⟩ := hmajor
                refine ⟨id, number, ⟨Nat.le_of_not_lt hbytes, Nat.le_of_not_lt hsegments, hids⟩,
                  hfits, ?_⟩
                rw [← String.toList_inj, toList_append_version, hvalue, String.toList_ofList]
  · intro h
    obtain ⟨id, number, hvalid, hfits, rfl⟩ := h
    rw [toList_append_version, String.toList_ofList,
      rsplitOnce_append id (not_mem_toDigits (by decide) number)]
    dsimp only
    rw [if_neg (Nat.not_lt_of_le hvalid.1), if_neg (Nat.not_lt_of_le hvalid.2.1)]
    exact bind_eq_ok_iff.mpr ⟨(), hvalid.2.2, checkTargetMajor_eq_ok_iff.mpr ⟨number, hfits, rfl⟩⟩

end Rintawa.Sdk
