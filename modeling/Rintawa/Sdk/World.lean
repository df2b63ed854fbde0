/-
# World identifiers and schema keys

Identifiers are opaque 128-bit values of nine kinds. Schema identifiers are
lowercase namespaces; a schema key pairs one with a positive version. Parsing
checks the namespace rules, but a schema identifier received through
deserialization is not checked, so an arbitrary text can occur inside one.
-/

import Rintawa.Lib.Uuid

namespace Rintawa.Sdk

open Rintawa.Lib

/-- The nine kinds of opaque world identifier. -/
inductive WorldIdKind
  | world | entity | relation | command | worldEvent | effectJob | principal
  | controlGrant | correlation
  deriving DecidableEq, Repr

/-- An opaque 128-bit identifier of one kind. -/
structure OpaqueWorldId (kind : WorldIdKind) where
  /-- The identifier from its exact 16-byte representation. -/
  fromBytes ::
  intoBytes : Uuid
  deriving DecidableEq, Repr

abbrev WorldId := OpaqueWorldId .world
abbrev EntityId := OpaqueWorldId .entity
abbrev RelationId := OpaqueWorldId .relation
abbrev CommandId := OpaqueWorldId .command
abbrev WorldEventId := OpaqueWorldId .worldEvent
abbrev EffectJobId := OpaqueWorldId .effectJob
abbrev PrincipalId := OpaqueWorldId .principal
abbrev ControlGrantId := OpaqueWorldId .controlGrant
abbrev CorrelationId := OpaqueWorldId .correlation

/-- Identifiers serialize as their hyphenated text. -/
def OpaqueWorldId.toJson {kind : WorldIdKind} (id : OpaqueWorldId kind) : Json :=
  .string (uuidText id.intoBytes)

variable {kind : WorldIdKind}

/-- The text of an identifier determines it. -/
theorem OpaqueWorldId.toJson_injective {a b : OpaqueWorldId kind} (h : a.toJson = b.toJson) :
    a = b := by
  obtain ⟨u⟩ := a
  obtain ⟨v⟩ := b
  rw [OpaqueWorldId.toJson, OpaqueWorldId.toJson, Json.string.injEq] at h
  exact congrArg OpaqueWorldId.fromBytes (uuidText_injective h)

/-- Only the same identifiers have texts that compare as equal. -/
@[simp]
theorem OpaqueWorldId.same_toJson_iff {a b : OpaqueWorldId kind} :
    a.toJson.same b.toJson = true ↔ a = b := by
  constructor
  · intro h
    exact OpaqueWorldId.toJson_injective (congrArg Json.string
      (by simpa [toJson, Json.same] using h))
  · rintro rfl
    simp [toJson, Json.same]

/-- The text of an identifier has no members. -/
@[simp]
theorem OpaqueWorldId.uniqueKeys_toJson (id : OpaqueWorldId kind) :
    id.toJson.uniqueKeys = true := by
  rw [toJson, Json.uniqueKeys]

/-- Milliseconds relative to the Unix epoch. -/
@[ext]
structure UnixTimeMillis where
  get : Int
  deriving DecidableEq, Repr

/-- Semantic category of one versioned world schema. -/
inductive SchemaKind
  | entity | relation | facet | command | event | effect | projection
  deriving DecidableEq, Repr

/-- Identity of one extension. -/
structure ExtensionId where
  asStr : String
  deriving DecidableEq, Repr

/-- A rejected schema identifier with the rule it violates. -/
structure SchemaIdentifierError where
  value : String
  reason : String
  deriving DecidableEq, Repr

/-- The displayed error. -/
def SchemaIdentifierError.display (error : SchemaIdentifierError) : String :=
  "invalid schema identifier " ++ error.value ++ ": " ++ error.reason

/-- Unversioned identifier of one world schema. -/
structure SchemaId where
  asStr : String
  deriving DecidableEq, Repr

def maxSchemaIdBytes : Nat := 128

/-- Bytes allowed after the first one of a segment. -/
def isSegmentChar (c : Char) : Bool :=
  c.isLower || c.isDigit || c == '-' || c == '_'

/-- A segment starts with a lowercase ASCII letter. -/
def isSchemaSegment : List Char → Bool
  | [] => false
  | first :: rest => first.isLower && rest.all isSegmentChar

/-- Check the canonical form of a schema identifier. -/
def validateSchemaId (value : String) : Except SchemaIdentifierError Unit :=
  if value.isEmpty then .error ⟨value, "identifier is empty"⟩
  else if value.utf8ByteSize > maxSchemaIdBytes then
    .error ⟨value, "identifier is too long"⟩
  else
    match value.toList.splitOn '.' with
    | [] => .error ⟨value, "identifier is empty"⟩
    | [_] => .error ⟨value, "identifier must contain at least two namespace segments"⟩
    | first :: second :: segments =>
        if !isSchemaSegment first || !isSchemaSegment second ||
            !segments.all isSchemaSegment then
          .error ⟨value, "segments must start with lowercase ASCII letters and contain " ++
            "only lowercase letters, digits, '-' or '_'"⟩
        else .ok ()

/-- Parse a canonical schema identifier. -/
def SchemaId.parse (value : String) : Except SchemaIdentifierError SchemaId := do
  validateSchemaId value
  return ⟨value⟩

/-- Positive version of one world schema. -/
structure SchemaVersion where
  get : Nat
  positive : 0 < get
  fits : get < 2 ^ 32
  deriving DecidableEq, Repr

/-- A schema version from a number, unless the number is zero or too large. -/
def SchemaVersion.new (value : Nat) : Option SchemaVersion :=
  if h : 0 < value ∧ value < 2 ^ 32 then some ⟨value, h.1, h.2⟩ else none

/-- Stable versioned identity of one world schema. -/
structure SchemaKey where
  id : SchemaId
  version : SchemaVersion
  deriving DecidableEq, Repr

variable {a b : SchemaKey}

/-- A key is determined by its columns. -/
theorem SchemaKey.ext_columns (hid : a.id.asStr = b.id.asStr)
    (hversion : a.version.get = b.version.get) : a = b := by
  obtain ⟨⟨text⟩, ⟨version, _, _⟩⟩ := a
  obtain ⟨⟨text'⟩, ⟨version', _, _⟩⟩ := b
  simp only at hid hversion
  subst hid hversion
  rfl

/-- Schema keys are ordered by identifier, then by version. -/
def SchemaKey.lt (a b : SchemaKey) : Prop :=
  a.id.asStr < b.id.asStr ∨ (a.id.asStr = b.id.asStr ∧ a.version.get < b.version.get)

instance : DecidableRel SchemaKey.lt := fun a b =>
  inferInstanceAs (Decidable (a.id.asStr < b.id.asStr ∨
    (a.id.asStr = b.id.asStr ∧ a.version.get < b.version.get)))

/-- A key serializes as its two fields. -/
def SchemaKey.toJson (key : SchemaKey) : Json :=
  .object [("id", .string key.id.asStr), ("version", .number (.int key.version.get))]

/-- The text of a key determines it. -/
theorem SchemaKey.toJson_injective (h : a.toJson = b.toJson) : a = b := by
  simp only [SchemaKey.toJson, Json.object.injEq, List.cons.injEq, Prod.mk.injEq, true_and,
    Json.string.injEq, Json.number.injEq, JsonNumber.int.injEq, Int.natCast_inj, and_true] at h
  exact SchemaKey.ext_columns h.1 h.2

/-- Only the same keys have texts that compare as equal. -/
@[simp]
theorem SchemaKey.same_toJson_iff : a.toJson.same b.toJson = true ↔ a = b := by
  constructor
  · intro h
    simp [toJson, Json.same, Json.sameMembers, Json.lookup] at h
    exact SchemaKey.ext_columns h.1 (by omega)
  · rintro rfl
    simp [toJson, Json.same, Json.sameMembers, Json.lookup]

/-- The text of a key repeats no member. -/
@[simp]
theorem SchemaKey.uniqueKeys_toJson (key : SchemaKey) : key.toJson.uniqueKeys = true := by
  simp [toJson, Json.uniqueKeys, Json.uniqueKeysMembers]

/-- A sorted set of schema keys without repetition. -/
structure SchemaKeySet where
  keys : List SchemaKey
  sorted : keys.Pairwise SchemaKey.lt

namespace SchemaKeySet

theorem ext_keys {a b : SchemaKeySet} (h : a.keys = b.keys) : a = b := by
  obtain ⟨keys, _⟩ := a
  obtain ⟨keys', _⟩ := b
  simp only at h
  subst h
  rfl

end SchemaKeySet

instance : DecidableEq SchemaKeySet := fun a b =>
  decidable_of_iff (a.keys = b.keys)
    ⟨SchemaKeySet.ext_keys, fun h => congrArg SchemaKeySet.keys h⟩

end Rintawa.Sdk
